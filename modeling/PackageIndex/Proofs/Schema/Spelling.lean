import PackageIndex.Proofs.Schema.Definition
import PackageIndex.Proofs.Schema.Validation
/-!
Texts beside what is kept of them. A default that is kept is compared without one pair of brackets,
as the declared text is, so that it is found again if it was kept as it is written, or without the
only pair of brackets around it.
-/
namespace PackageIndex.Schema

open PackageIndex.Sql

/-- A text that is kept as it is, or without brackets that are the only ones around it. -/
inductive Unaltered : String → String → Prop
  | whole {text : String} : Unaltered text text
  | bracketed {kept : String} :
      (∀ inner, kept ≠ "(" ++ inner ++ ")") → Unaltered ("(" ++ kept ++ ")") kept

section

variable {text name name' : String} {kept kept' : List Char} {ts : List Token} {gap cs : List Char}

theorem Names.unique (h : Names text name) (h' : Names text name') : name = name' := by
  obtain ⟨t, gap, hclosed, -, rfl⟩ := h
  obtain ⟨t', gap', hclosed', -, rfl⟩ := h'
  obtain ⟨hts, -⟩ := hclosed.unique hclosed'
  rw [List.cons.inj hts |>.1]

theorem Keeps.unique (h : Keeps text kept) (h' : Keeps text kept') : kept = kept' := by
  obtain ⟨ts, gap, hclosed, hkept⟩ := h
  obtain ⟨ts', gap', hclosed', hkept'⟩ := h'
  exact hkept.unique hkept' (hclosed.unique hclosed').1

theorem trimmed_sublist (cs : List Char) : List.Sublist (trimmed cs) cs := by
  rw [trimmed, ← List.reverse_sublist, List.reverse_reverse]
  exact (List.dropWhile_sublist _).trans (List.reverse_sublist.mpr (List.dropWhile_sublist _))

/-- Of a text no more than a pair of brackets is lost. -/
theorem length_withoutBrackets (s : String) :
    (withoutBrackets s).toList.length ≤ s.toList.length ∧
      s.toList.length ≤ (withoutBrackets s).toList.length + 2 := by
  have h := bare_withoutBrackets s
  generalize withoutBrackets s = bare at h
  cases h with
  | bracketed =>
    rw [bracketed_toList, List.length_cons, List.length_append, List.length_singleton]
    omega
  | plain _ => omega

theorem head?_ne_open {t : Token} {cs : List Char} (h : Closed cs (t :: ts) gap)
    (ht : t.kind ≠ .symbol "(") : cs.head? ≠ some '(' := by
  intro hhead
  obtain ⟨rest, rfl⟩ := List.head?_eq_some_iff.mp hhead
  have hpieces := h.pieces?_eq
  rw [List.cons_append, pieces?_mark (.inl rfl)] at hpieces
  obtain ⟨us, -, heq⟩ := Option.map_eq_some_iff.mp hpieces
  rw [← (List.cons.inj heq).1] at ht
  exact ht rfl

/-- What is kept of a default stands in its text: as a whole, or in brackets. -/
theorem Keeps.shape (h : Keeps text kept) :
    (∃ u v, text.toList = u ++ kept ++ v ∧ text.toList.head? ≠ some '(') ∨
      ∃ u v x, text.toList = u ++ '(' :: (x ++ ')' :: v) ∧ kept = trimmed x := by
  obtain ⟨ts, gap, hclosed, hkept⟩ := h
  have hwhole := hclosed.whole
  cases hkept with
  | @value t ht =>
    refine .inl ⟨t.gap, gap, ?_, head?_ne_open hclosed (ht "(")⟩
    simp [← hwhole, written]
  | @signed t value ht =>
    refine .inl ⟨t.gap, gap, ?_, head?_ne_open hclosed ?_⟩
    · simp [← hwhole, written]
    · rcases ht with ht | ht <;> simp [ht]
  | @bracketed gap₁ gap₂ inner hinner =>
    refine .inr ⟨gap₁, gap, written inner ++ gap₂, ?_, rfl⟩
    simp [← hwhole, written, closing]

theorem sameDefault_of_unaltered {kept : String} (h : Unaltered text kept) :
    SameDefault kept text := by
  rw [sameDefault_iff]
  cases h with
  | whole => rfl
  | bracketed hkept => rw [withoutBrackets_bracketed, withoutBrackets_plain hkept]

theorem unaltered_of_whole {kept : String} {u v : List Char}
    (htext : text.toList = u ++ kept.toList ++ v) (hhead : text.toList.head? ≠ some '(')
    (h : SameDefault kept text) : Unaltered text kept := by
  have hplain : ∀ inner, text ≠ "(" ++ inner ++ ")" := by
    rintro inner rfl
    exact hhead (by rw [bracketed_toList, List.head?_cons])
  rw [sameDefault_iff, withoutBrackets_plain hplain] at h
  have hle : text.toList.length ≤ kept.toList.length := h ▸ (length_withoutBrackets kept).1
  have hlength := congrArg List.length htext
  rw [List.length_append, List.length_append] at hlength
  obtain rfl : u = [] := List.length_eq_zero_iff.mp (by omega)
  obtain rfl : v = [] := List.length_eq_zero_iff.mp (by omega)
  rw [List.nil_append, List.append_nil, String.toList_inj] at htext
  rw [htext]
  exact .whole

theorem unaltered_of_bracketed {kept : String} {u v x : List Char}
    (htext : text.toList = u ++ '(' :: (x ++ ')' :: v)) (hkept : kept.toList = trimmed x)
    (h : SameDefault kept text) : Unaltered text kept := by
  rw [sameDefault_iff] at h
  have hlost := (length_withoutBrackets text).2
  rw [← h] at hlost
  have hle := (length_withoutBrackets kept).1
  have htrimmed := (trimmed_sublist x).length_le
  have hlength := congrArg List.length htext
  rw [← hkept] at htrimmed
  simp only [List.length_append, List.length_cons] at hlength
  obtain rfl : u = [] := List.length_eq_zero_iff.mp (by omega)
  obtain rfl : v = [] := List.length_eq_zero_iff.mp (by omega)
  have hwhole : trimmed x = x := (trimmed_sublist x).eq_of_length_le (by rw [← hkept]; omega)
  obtain rfl : text = "(" ++ kept ++ ")" := by
    rw [← String.toList_inj, bracketed_toList, hkept, hwhole, htext, List.nil_append]
  refine .bracketed fun inner heq => ?_
  rw [withoutBrackets_bracketed] at h
  have hshorter := congrArg (fun s : String => s.toList.length) heq
  rw [heq, withoutBrackets_bracketed, ← heq] at h
  simp only [h, bracketed_toList, List.length_cons, List.length_append, List.length_nil] at hshorter
  omega

/-- A default is found again if and only if no more than the only brackets around it is lost. -/
theorem sameDefault_iff_unaltered {kept : String} (hkeeps : Keeps text kept.toList) :
    SameDefault kept text ↔ Unaltered text kept := by
  refine ⟨fun h => ?_, sameDefault_of_unaltered⟩
  rcases hkeeps.shape with ⟨u, v, htext, hhead⟩ | ⟨u, v, x, htext, hkept⟩
  · exact unaltered_of_whole htext hhead h
  · exact unaltered_of_bracketed htext hkept h

/-- A plain name that begins as the database's own names do is one of them. -/
theorem isKept_of_names {rest : String} (h : Names ("sqlite_" ++ rest) name) :
    isKept name = true := by
  obtain ⟨t, gap, hclosed, -, rfl⟩ := h
  have hpieces := hclosed.pieces?_eq
  rw [String.toList_append, List.append_assoc] at hpieces
  have hword : "sqlite_".toList ++ (rest.toList ++ [')']) =
      's' :: ("qlite_".toList ++ (rest.toList ++ [')'])) := rfl
  rw [hword, pieces?_word (by decide) (by decide) (by simp)] at hpieces
  obtain ⟨us, -, heq⟩ := Option.map_eq_some_iff.mp hpieces
  rw [← (List.cons.inj heq).1, ← hword, isKept, folded, Token.name]
  generalize rest.toList ++ [')'] = r
  have htake : ("sqlite_".toList ++ r).takeWhile continuesWord =
      "sqlite_".toList ++ r.takeWhile continuesWord := rfl
  rw [htake]
  simp [unquoted]

/-- A word that is no keyword stands for itself. -/
theorem names_word {c : Char} {cs : List Char} (hc : startsWord c = true) (hmark : c ≠ '\uFEFF')
    (hcs : (c :: cs).all continuesWord = true)
    (hfree : folded (String.ofList (c :: cs)) ∉ reservedWords) :
    Names (String.ofList (c :: cs)) (String.ofList (c :: cs)) := by
  refine ⟨⟨.word (folded (String.ofList (c :: cs))), c :: cs, []⟩, [], ?_,
    isObjectName_of_word rfl hfree, ?_⟩
  · rw [String.toList_ofList]
    exact Closed.of_word hc hmark (List.all_eq_true.mp hcs)
  · have hquote : ¬ (c = '\'' ∨ c = '"' ∨ c = '\x60' ∨ c = '[') := by
      rintro (rfl | rfl | rfl | rfl) <;> cases hc
    rw [Token.name, unquoted, if_neg hquote]

end

end PackageIndex.Schema
