import PackageIndex.Catalog
import PackageIndex.Proofs.Table
/-!
Paths below another one. The catalog cuts a stored path as long as the other path and a slash,
and compares what it got. Length and cutting stop at a NUL, the comparison does not: below a
path that contains a NUL the catalog sees nothing, and below any other it sees exactly the
stored paths that go on after a slash.
-/
namespace PackageIndex.Catalog

/-- A path consists of another one, a slash and any rest. -/
def LiesBelow (path sub : String) : Prop := ∃ rest, sub = path ++ "/" ++ rest

/-- A stored path lies below a path. -/
def HasBelow (c : Catalog) (path : String) : Prop :=
  ∃ sub row, c.packages.find? sub = some row ∧ LiesBelow path sub

theorem not_mem_visible (s : List Char) : '\x00' ∉ visible s := by
  intro h
  simpa using List.all_eq_true.mp (List.all_takeWhile (p := (· ≠ '\x00'))) _ h

theorem visible_append {s t : List Char} (h : '\x00' ∉ s) : visible (s ++ t) = s ++ visible t := by
  rw [visible, List.takeWhile_append_of_pos]
  · rfl
  · intro c hc
    have hne : c ≠ '\x00' := fun heq => h (heq ▸ hc)
    simpa using hne

theorem liesBelow_iff_isPrefix {path sub : String} :
    LiesBelow path sub ↔ path.toList ++ ['/'] <+: sub.toList := by
  constructor
  · rintro ⟨rest, rfl⟩
    exact ⟨rest.toList, by simp⟩
  · rintro ⟨rest, hrest⟩
    refine ⟨String.ofList rest, ?_⟩
    apply String.toList_inj.mp
    simp [← hrest]

theorem isBelow_iff {path sub : String} :
    isBelow path sub = true ↔ '\x00' ∉ path.toList ∧ LiesBelow path sub := by
  rw [liesBelow_iff_isPrefix, isBelow, decide_eq_true_eq]
  constructor
  · intro h
    have hnul : '\x00' ∉ path.toList ++ ['/'] := fun hmem =>
      not_mem_visible _ (List.mem_of_mem_take (h ▸ hmem))
    refine ⟨fun hmem => hnul (List.mem_append_left _ hmem), ?_⟩
    rw [← h]
    exact (List.take_prefix _ _).trans (List.takeWhile_prefix _)
  · rintro ⟨hnul, rest, hrest⟩
    have hslash : '\x00' ∉ path.toList ++ ['/'] := by simpa using hnul
    have hpath : visible path.toList = path.toList := by
      simpa [visible] using visible_append (t := []) hnul
    rw [hpath, ← hrest, visible_append hslash]
    exact List.take_left' (by simp)

/-- Something lies below a package in the catalog's eyes. -/
theorem subdirs_ne_nil_iff {c : Catalog} {path : String} :
    c.subdirs path ≠ [] ↔ '\x00' ∉ path.toList ∧ c.HasBelow path := by
  rw [subdirs, ← List.length_pos_iff, List.length_pos_iff_exists_mem]
  simp only [List.mem_filter, Table.mem_keys_iff, isBelow_iff]
  constructor
  · rintro ⟨sub, ⟨row, hrow⟩, hnul, hbelow⟩
    exact ⟨hnul, sub, row, hrow, hbelow⟩
  · rintro ⟨hnul, sub, row, hrow, hbelow⟩
    exact ⟨sub, ⟨row, hrow⟩, hnul, hbelow⟩

end PackageIndex.Catalog
