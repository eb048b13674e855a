import PackageIndex.Proofs.Catalog.Readable
/-!
Hiding packages. A package is hidden by storing what was read of it, and that changes its row in
the flag alone. Where the catalog comes from the empty one by operations, the rows are hidden as
they are, to the letter, and no path of a package waits in the queue: so what several packages
hidden one after the other leave is told by their paths, in whichever order.
-/
namespace PackageIndex.Catalog

variable {c c' : Catalog} {path : String} {row row' : PackageRow}

/-- The row of a package is replaced by one that hides it, and the path waits no more. -/
structure Hides (path : String) (row row' : PackageRow) (c c' : Catalog) : Prop where
  hidden : row.HiddenAs row'
  packages : Table.Sets path (some row') c.packages c'.packages
  queue : Table.Sets path none c.queue c'.queue
  bad : c'.bad = c.bad
  blobs : c'.blobs = c.blobs

theorem hides_putDocument {r : Record} (hrow : c.packages.find? path = some row)
    (hread : row.record? path = some r) :
    Hides path row (PackageRow.ofDocument r.document row.nextCrawl true) c
      (c.putDocument r.document none true) := by
  have hpath : r.document.importPath = path := (record?_fields hread).1
  refine ⟨PackageRow.hiddenAs_of_record hread, ?_, ?_, rfl, rfl⟩
  · rw [Table.sets_some_iff]
    simp only [putDocument, hpath, hrow]
  · rw [Table.sets_none_iff]
    simp only [putDocument, hpath]

/-- A path that is no package does not become one, and the row of a package stays as it is or is
replaced by one that hides it. -/
structure KeepsRow (path : String) (c c' : Catalog) : Prop where
  gone : c.packages.find? path = none → c'.packages.find? path = none
  kept : ∀ row, c.packages.find? path = some row →
    ∃ row', c'.packages.find? path = some row' ∧ (row' = row ∨ row.HiddenAs row')

theorem KeepsRow.of_eq (h : c'.packages.find? path = c.packages.find? path) :
    KeepsRow path c c' :=
  ⟨fun hnone => h.trans hnone, fun row hrow => ⟨row, h.trans hrow, .inl rfl⟩⟩

theorem KeepsRow.trans {c'' : Catalog} (h : KeepsRow path c c') (h' : KeepsRow path c' c'') :
    KeepsRow path c c'' := by
  refine ⟨fun hnone => h'.gone (h.gone hnone), fun row hrow => ?_⟩
  obtain ⟨row', hrow', hkept⟩ := h.kept row hrow
  obtain ⟨row'', hrow'', hkept'⟩ := h'.kept row' hrow'
  refine ⟨row'', hrow'', ?_⟩
  rcases hkept with rfl | hhidden
  · exact hkept'
  · rcases hkept' with rfl | hhidden'
    · exact .inr hhidden
    · exact .inr (hhidden.trans hhidden')

theorem Hides.keepsRow (h : Hides path row row' c c') (hrow : c.packages.find? path = some row)
    (path' : String) : KeepsRow path' c c' := by
  by_cases hpath' : path' = path
  · subst hpath'
    refine ⟨fun hnone => ?_, fun row'' hrow'' => ?_⟩
    · rw [hrow] at hnone
      cases hnone
    · obtain rfl : row = row'' := Option.some.inj (hrow.symm.trans hrow'')
      exact ⟨row', h.packages.key, .inr h.hidden⟩
  · exact .of_eq (h.packages.others path' hpath')

/-- The packages of some paths are hidden, and nothing else changes. -/
structure HidesAll (paths : String → Prop) (c c' : Catalog) : Prop where
  hidden : ∀ path row, c.packages.find? path = some row → paths path →
    c'.packages.find? path = some { row with suppressed := 1 }
  others : ∀ path, (∀ row, c.packages.find? path = some row → ¬ paths path) →
    c'.packages.find? path = c.packages.find? path
  queue : c'.queue = c.queue
  bad : c'.bad = c.bad
  blobs : c'.blobs = c.blobs

def hidePaths (paths : List String) (c : Catalog) : Catalog :=
  { c with packages := c.packages.adjust fun path row =>
      if path ∈ paths then { row with suppressed := 1 } else row }

theorem hidesAll_iff {paths : List String} :
    HidesAll (· ∈ paths) c c' ↔ c' = c.hidePaths paths := by
  constructor
  · rintro ⟨hhidden, hothers, hqueue, hbad, hblobs⟩
    have hpackages : c'.packages = (c.hidePaths paths).packages :=
      Table.changes_iff.mp ⟨hhidden, hothers⟩
    cases c'
    cases hpackages
    cases hqueue
    cases hbad
    cases hblobs
    rfl
  · rintro rfl
    obtain ⟨hhidden, hothers⟩ := Table.changes_adjust (fun path _ => path ∈ paths)
      (fun _ row => { row with suppressed := 1 }) c.packages
    exact ⟨hhidden, hothers, rfl, rfl, rfl⟩

/-- Which packages are hidden tells all of what is left. -/
theorem HidesAll.unique {paths : String → Prop} {c'' : Catalog} (h : HidesAll paths c c')
    (h' : HidesAll paths c c'') : c'' = c' := by
  have hpackages : c''.packages = c'.packages := by
    apply Table.ext_find?
    intro path
    by_cases hpath : ∃ row, c.packages.find? path = some row ∧ paths path
    · obtain ⟨row, hrow, hpath⟩ := hpath
      rw [h.hidden path row hrow hpath, h'.hidden path row hrow hpath]
    · have hother : ∀ row, c.packages.find? path = some row → ¬ paths path :=
        fun row hrow hmem => hpath ⟨row, hrow, hmem⟩
      rw [h.others path hother, h'.others path hother]
  obtain ⟨_, _, hqueue, hbad, hblobs⟩ := h
  obtain ⟨_, _, hqueue', hbad', hblobs'⟩ := h'
  cases c'
  cases c''
  simp_all only

theorem hidePaths_nil (c : Catalog) : c.hidePaths [] = c := by
  simp only [hidePaths, List.not_mem_nil, ite_false, Table.adjust_id]

theorem hidePaths_append (paths paths' : List String) (c : Catalog) :
    c.hidePaths (paths ++ paths') = (c.hidePaths paths).hidePaths paths' := by
  simp only [hidePaths, Table.adjust_adjust]
  congr
  funext path row
  by_cases h : path ∈ paths <;> by_cases h' : path ∈ paths' <;> simp [h, h']

theorem hidePaths_of_perm {paths paths' : List String} (h : paths.Perm paths') (c : Catalog) :
    c.hidePaths paths = c.hidePaths paths' := by
  simp only [hidePaths, h.mem_iff]

theorem find?_hidePaths (paths : List String) (c : Catalog) (path : String) :
    (c.hidePaths paths).packages.find? path = (c.packages.find? path).map fun row =>
      if path ∈ paths then { row with suppressed := 1 } else row :=
  Table.find?_adjust _ _ _

theorem Written.hidePaths (h : c.Written) (paths : List String) : (c.hidePaths paths).Written := by
  intro path row hrow
  rw [find?_hidePaths, Option.map_eq_some_iff] at hrow
  obtain ⟨row, hbefore, rfl⟩ := hrow
  split
  · obtain ⟨d, nextCrawl, suppressed, hpath, rfl⟩ := h path row hbefore
    exact ⟨d, nextCrawl, true, hpath, rfl⟩
  · exact h path row hbefore

theorem Apart.hidePaths (h : Apart c) (paths : List String) : Apart (c.hidePaths paths) := by
  refine h.of_subset (fun _ hqueue => hqueue) (fun path hstored => ?_) rfl
  rwa [Catalog.hidePaths, Table.contains_adjust] at hstored

/-- What was written is hidden to the letter, and did not wait. -/
theorem Hides.eq_hidePaths (h : Hides path row row' c c') (hrow : c.packages.find? path = some row)
    (hrow' : row' = { row with suppressed := 1 }) (hapart : Apart c) :
    c' = c.hidePaths [path] := by
  rw [← hidesAll_iff]
  refine ⟨?_, ?_, ?_, h.bad, h.blobs⟩
  · intro path' row'' hrow'' hmem
    obtain rfl := List.mem_singleton.mp hmem
    rw [hrow] at hrow''
    cases hrow''
    rw [h.packages.key, hrow']
  · intro path' hother
    by_cases hpath' : path' = path
    · subst hpath'
      exact absurd (List.mem_singleton.mpr rfl) (hother row hrow)
    · exact h.packages.others path' hpath'
  · apply Table.ext_find?
    intro path'
    by_cases hpath' : path' = path
    · rw [hpath', h.queue.key, hapart.not_queued hrow]
    · exact h.queue.others path' hpath'

end PackageIndex.Catalog
