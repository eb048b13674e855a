import PackageIndex.Catalog
import PackageIndex.Proofs.Table
/-!
Putting projects first. What several bumps leave is told by the projects that they name: their
order does not matter, nor that a project is named twice. No bump changes how many packages a
project has.
-/
namespace PackageIndex.Catalog

variable {c c' : Catalog}

/-- The packages of some projects get the first of all times, and no other row of the packages,
the queue or the bad paths changes. -/
structure Bumps (roots : String → Prop) (c c' : Catalog) : Prop where
  bumped : ∀ path row, c.packages.find? path = some row → roots row.projectRoot →
    c'.packages.find? path = some { row with nextCrawl := Instant.epoch.secs }
  others : ∀ path, (∀ row, c.packages.find? path = some row → ¬ roots row.projectRoot) →
    c'.packages.find? path = c.packages.find? path
  queue : c'.queue = c.queue
  bad : c'.bad = c.bad

/-- How many packages a project has. -/
def projectSize (c : Catalog) (root : String) : Nat :=
  c.packages.values.countP fun row => row.projectRoot = root

def bumpRoots (roots : List String) (c : Catalog) : Catalog :=
  { c with packages := c.packages.adjust fun _ row =>
      if row.projectRoot ∈ roots then { row with nextCrawl := 0 } else row }

theorem bumps_iff {roots : List String} :
    Bumps (· ∈ roots) c c' ↔ c' = { c.bumpRoots roots with blobs := c'.blobs } := by
  constructor
  · rintro ⟨hbumped, hothers, hqueue, hbad⟩
    have hpackages : c'.packages = (c.bumpRoots roots).packages :=
      Table.changes_iff.mp ⟨hbumped, hothers⟩
    cases c'
    cases hpackages
    cases hqueue
    cases hbad
    rfl
  · intro h
    obtain ⟨hbumped, hothers⟩ := Table.changes_adjust (fun _ row => row.projectRoot ∈ roots)
      (fun _ row => { row with nextCrawl := 0 }) c.packages
    rw [h]
    exact ⟨hbumped, hothers, rfl, rfl⟩

theorem bump_eq (c : Catalog) (root : String) :
    c.bump root = (c.projectSize root, c.bumpRoots [root]) := by
  simp only [bump, projectSize, bumpRoots, List.countP_eq_length_filter, List.mem_singleton]

theorem bumpRoots_nil (c : Catalog) : c.bumpRoots [] = c := by
  simp only [bumpRoots, List.not_mem_nil, ite_false, Table.adjust_id]

theorem bumpRoots_append (roots roots' : List String) (c : Catalog) :
    c.bumpRoots (roots ++ roots') = (c.bumpRoots roots).bumpRoots roots' := by
  simp only [bumpRoots, Table.adjust_adjust]
  congr
  funext path row
  by_cases h : row.projectRoot ∈ roots <;> by_cases h' : row.projectRoot ∈ roots' <;>
    simp [h, h']

theorem bumpRoots_congr {roots roots' : List String} (h : ∀ root, root ∈ roots ↔ root ∈ roots')
    (c : Catalog) : c.bumpRoots roots = c.bumpRoots roots' := by
  simp only [bumpRoots, h]

/-- Projects that are among those put first afterwards need not be put first before. -/
theorem bumpRoots_absorb {roots roots' : List String} (h : ∀ root ∈ roots, root ∈ roots')
    (c : Catalog) : (c.bumpRoots roots).bumpRoots roots' = c.bumpRoots roots' := by
  rw [← bumpRoots_append]
  apply bumpRoots_congr
  intro root
  rw [List.mem_append]
  exact ⟨fun hmem => hmem.elim (h root) id, .inr⟩

theorem projectSize_bumpRoots (roots : List String) (c : Catalog) :
    (c.bumpRoots roots).projectSize = c.projectSize := by
  funext root
  simp only [projectSize, bumpRoots, Table.values, Table.adjust, List.countP_map]
  apply List.countP_congr
  intro r _
  simp only [Function.comp_apply]
  split <;> rfl

end PackageIndex.Catalog
