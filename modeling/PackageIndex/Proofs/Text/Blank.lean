import Mathlib.Data.List.TakeWhile
import PackageIndex.Text.Blank
/-!
Texts without the blanks at their ends, and the pieces of a text between the places of a mark.
-/
namespace PackageIndex.Text

variable {cs body : List Char}

theorem splitAt_eq_splitOn (sep : Char) (cs : List Char) : splitAt sep cs = cs.splitOn sep := by
  induction cs with
  | nil => simp [splitAt]
  | cons c cs ih =>
      rw [splitAt, List.splitOn_cons_eq_if_modifyHead, ih]
      obtain ⟨piece, pieces, hpieces⟩ := List.exists_cons_of_ne_nil (List.splitOn_ne_nil sep cs)
      simp [hpieces]

theorem mem_intercalate {sep c : Char} {pieces : List (List Char)}
    (h : c ∈ List.intercalate [sep] pieces) : c = sep ∨ ∃ piece ∈ pieces, c ∈ piece := by
  induction pieces with
  | nil => simp [List.intercalate] at h
  | cons piece pieces ih =>
      cases pieces with
      | nil => exact .inr ⟨piece, by simp, by simpa [List.intercalate] using h⟩
      | cons next pieces =>
          rw [List.intercalate_cons_cons, List.append_assoc, List.mem_append,
            List.singleton_append, List.mem_cons] at h
          rcases h with hc | hc | hc
          · exact .inr ⟨piece, by simp, hc⟩
          · exact .inl hc
          · obtain hc | ⟨other, hother, hc⟩ := ih hc
            · exact .inl hc
            · exact .inr ⟨other, List.mem_cons_of_mem _ hother, hc⟩

/-- A text is a body, which neither begins nor ends with a blank, with blanks around it. -/
def TrimsTo (cs body : List Char) : Prop :=
  ∃ lead tail : List Char, cs = lead ++ body ++ tail ∧
    (∀ c ∈ lead, isBlank c) ∧ (∀ c ∈ tail, isBlank c) ∧
    (∀ c ∈ body.head?, ¬ isBlank c) ∧ ∀ c ∈ body.getLast?, ¬ isBlank c

theorem not_isBlank_of_head?_dropWhile {c : Char} (h : c ∈ (cs.dropWhile isBlank).head?) :
    ¬ isBlank c := by
  have hnot := List.head?_dropWhile_not isBlank cs
  rw [Option.mem_def.mp h] at hnot
  simp [hnot]

theorem dropWhile_append_of_head? {lead rest : List Char} (hlead : ∀ c ∈ lead, isBlank c)
    (hrest : ∀ c ∈ rest.head?, ¬ isBlank c) : (lead ++ rest).dropWhile isBlank = rest := by
  rw [List.dropWhile_append_of_pos hlead]
  cases rest with
  | nil => rfl
  | cons c rest => exact List.dropWhile_cons_of_neg (hrest c rfl)

theorem trimEnd_append {tail : List Char} (htail : ∀ c ∈ tail, isBlank c)
    (hlast : ∀ c ∈ body.getLast?, ¬ isBlank c) : trimEnd (body ++ tail) = body := by
  have hbody : (tail.reverse ++ body.reverse).dropWhile isBlank = body.reverse :=
    dropWhile_append_of_head? (fun c hc => htail c (List.mem_reverse.mp hc))
      (List.head?_reverse ▸ hlast)
  rw [trimEnd, List.reverse_append, hbody, List.reverse_reverse]

/-- A text is its trimmed one with blanks around it. -/
theorem trimsTo_trim (cs : List Char) : TrimsTo cs (trim cs) := by
  have hstart : trim cs ++ ((trimStart cs).reverse.takeWhile isBlank).reverse = trimStart cs := by
    rw [trim, trimEnd, ← List.reverse_append, List.takeWhile_append_dropWhile, List.reverse_reverse]
  refine ⟨cs.takeWhile isBlank, ((trimStart cs).reverse.takeWhile isBlank).reverse, ?_,
    fun c hc => List.mem_takeWhile_imp hc,
    fun c hc => List.mem_takeWhile_imp (List.mem_reverse.mp hc), fun c hc => ?_, fun c hc => ?_⟩
  · rw [List.append_assoc, hstart, trimStart, List.takeWhile_append_dropWhile]
  · have hfirst : c ∈ (trimStart cs).head? := by
      rw [← hstart, List.head?_append, Option.mem_def.mp hc]
      rfl
    exact not_isBlank_of_head?_dropWhile hfirst
  · rw [trim, trimEnd, List.getLast?_reverse] at hc
    exact not_isBlank_of_head?_dropWhile hc

theorem TrimsTo.trim_eq (h : TrimsTo cs body) : trim cs = body := by
  obtain ⟨lead, tail, rfl, hlead, htail, hhead, hlast⟩ := h
  cases body with
  | nil =>
    have hblank : ∀ c ∈ lead ++ [] ++ tail, isBlank c := by
      simpa [or_imp, forall_and] using ⟨hlead, htail⟩
    rw [trim, trimStart, List.dropWhile_eq_nil_iff.mpr hblank]
    rfl
  | cons b body =>
    have hstart : trimStart (lead ++ b :: body ++ tail) = b :: body ++ tail := by
      rw [List.append_assoc]
      exact dropWhile_append_of_head? hlead hhead
    rw [trim, hstart, trimEnd_append htail hlast]

theorem trimsTo_iff : TrimsTo cs body ↔ trim cs = body := by
  refine ⟨TrimsTo.trim_eq, ?_⟩
  rintro rfl
  exact trimsTo_trim cs

/-- Without a blank in it, a body is what is left of the blanks around it. -/
theorem trimsTo_of_forall {lead tail : List Char} (hlead : ∀ c ∈ lead, isBlank c)
    (htail : ∀ c ∈ tail, isBlank c) (hbody : ∀ c ∈ body, ¬ isBlank c) :
    TrimsTo (lead ++ body ++ tail) body :=
  ⟨lead, tail, rfl, hlead, htail, fun c hc => hbody c (List.mem_of_mem_head? hc),
    fun c hc => hbody c (List.mem_of_mem_getLast? hc)⟩

/-- Nothing is left of blanks alone. -/
theorem trim_eq_nil_iff : trim cs = [] ↔ ∀ c ∈ cs, isBlank c := by
  constructor
  · intro h
    obtain ⟨lead, tail, rfl, hlead, htail, -⟩ := trimsTo_iff.mpr h
    simpa [or_imp, forall_and] using ⟨hlead, htail⟩
  · intro h
    exact trimsTo_iff.mp ⟨[], cs, rfl, by simp, h, by simp, by simp⟩

end PackageIndex.Text
