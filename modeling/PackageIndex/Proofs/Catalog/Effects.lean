import PackageIndex.Catalog
import PackageIndex.Proofs.Table
/-!
What the writing operations do to a catalog, told row by row. Each relation names the rows
that an operation changes and says of all others, and of the other tables, that they stay.
Each is the graph of its operation: from one catalog it leads to exactly one.
-/
namespace PackageIndex.Catalog

variable {c c' : Catalog}

/-- A path leaves the queue. -/
structure Dequeues (path : String) (c c' : Catalog) : Prop where
  queue : Table.Sets path none c.queue c'.queue
  packages : c'.packages = c.packages
  bad : c'.bad = c.bad
  blobs : c'.blobs = c.blobs

theorem dequeues_iff {path : String} :
    Dequeues path c c' ↔ c' = { c with queue := c.queue.erase path } := by
  constructor
  · rintro ⟨hqueue, hpackages, hbad, hblobs⟩
    rw [Table.sets_none_iff] at hqueue
    cases c'
    simp_all
  · rintro rfl
    exact ⟨Table.sets_none_iff.mpr rfl, rfl, rfl, rfl⟩

/-- A document is stored under its path, which waits in the queue no more. -/
structure Stores (d : Document) (at' : Instant) (suppressed : Bool) (c c' : Catalog) : Prop where
  packages : Table.Sets d.importPath (some (PackageRow.ofDocument d at'.secs suppressed))
    c.packages c'.packages
  queue : Table.Sets d.importPath none c.queue c'.queue
  bad : c'.bad = c.bad
  blobs : c'.blobs = c.blobs

theorem stores_iff {d : Document} {at' : Instant} {suppressed : Bool} :
    Stores d at' suppressed c c' ↔ c' = c.putDocument d (some at') suppressed := by
  constructor
  · rintro ⟨hpackages, hqueue, hbad, hblobs⟩
    rw [Table.sets_some_iff] at hpackages
    rw [Table.sets_none_iff] at hqueue
    cases c'
    simp_all [putDocument]
  · rintro rfl
    exact ⟨Table.sets_some_iff.mpr rfl, Table.sets_none_iff.mpr rfl, rfl, rfl⟩

/-- A row that is there afterwards is the document's or was there before. -/
theorem Stores.row_of_find? {d : Document} {at' : Instant} {suppressed : Bool} {path : String}
    {row : PackageRow} (h : Stores d at' suppressed c c')
    (hrow : c'.packages.find? path = some row) :
    path = d.importPath ∧ row = PackageRow.ofDocument d at'.secs suppressed ∨
      path ≠ d.importPath ∧ c.packages.find? path = some row := by
  rcases h.packages.of_find? hrow with ⟨hpath, hnew⟩ | hbefore
  · exact .inl ⟨hpath, (Option.some.inj hnew).symm⟩
  · exact .inr hbefore

/-- A path is known to lead to no package, and waits in the queue no more. -/
structure MarksBad (clock : Instant) (path : String) (c c' : Catalog) : Prop where
  bad : Table.Sets path (some clock.secs) c.bad c'.bad
  queue : Table.Sets path none c.queue c'.queue
  packages : c'.packages = c.packages
  blobs : c'.blobs = c.blobs

theorem marksBad_iff {clock : Instant} {path : String} :
    MarksBad clock path c c' ↔ c' = c.markBad clock path := by
  constructor
  · rintro ⟨hbad, hqueue, hpackages, hblobs⟩
    rw [Table.sets_some_iff] at hbad
    rw [Table.sets_none_iff] at hqueue
    cases c'
    simp_all [markBad]
  · rintro rfl
    exact ⟨Table.sets_some_iff.mpr rfl, Table.sets_none_iff.mpr rfl, rfl, rfl⟩

/-- A package leaves the catalog. -/
structure Deletes (path : String) (c c' : Catalog) : Prop where
  packages : Table.Sets path none c.packages c'.packages
  queue : c'.queue = c.queue
  bad : c'.bad = c.bad
  blobs : c'.blobs = c.blobs

theorem deletes_iff {path : String} : Deletes path c c' ↔ c' = c.delete path := by
  constructor
  · rintro ⟨hpackages, hqueue, hbad, hblobs⟩
    rw [Table.sets_none_iff] at hpackages
    cases c'
    simp_all [delete]
  · rintro rfl
    exact ⟨Table.sets_none_iff.mpr rfl, rfl, rfl, rfl⟩

theorem Deletes.row_of_find? {path path' : String} {row : PackageRow} (h : Deletes path c c')
    (hrow : c'.packages.find? path' = some row) :
    path' ≠ path ∧ c.packages.find? path' = some row := by
  rcases h.packages.of_find? hrow with ⟨_, hnone⟩ | hbefore
  · cases hnone
  · exact hbefore

/-- A row belongs to a project and has an etag of it. -/
def Matches (root etag : String) (row : PackageRow) : Prop :=
  row.projectRoot = root ∧ row.etag = etag

instance (root etag : String) (row : PackageRow) : Decidable (Matches root etag row) :=
  inferInstanceAs (Decidable (_ ∧ _))

/-- The packages of a project that have an etag get another time, and nothing else. -/
structure Reschedules (root etag : String) (at' : Instant) (c c' : Catalog) : Prop where
  moved : ∀ path row, c.packages.find? path = some row → Matches root etag row →
    c'.packages.find? path = some { row with nextCrawl := at'.secs }
  others : ∀ path, (∀ row, c.packages.find? path = some row → ¬ Matches root etag row) →
    c'.packages.find? path = c.packages.find? path
  queue : c'.queue = c.queue
  bad : c'.bad = c.bad
  blobs : c'.blobs = c.blobs

theorem Reschedules.changes {root etag : String} {at' : Instant}
    (h : Reschedules root etag at' c c') :
    Table.Changes (fun _ => Matches root etag) (fun _ row => { row with nextCrawl := at'.secs })
      c.packages c'.packages :=
  ⟨h.moved, h.others⟩

theorem Reschedules.row_of_find? {root etag path : String} {at' : Instant} {row' : PackageRow}
    (h : Reschedules root etag at' c c') (hrow : c'.packages.find? path = some row') :
    ∃ row, c.packages.find? path = some row ∧
      (Matches root etag row ∧ row' = { row with nextCrawl := at'.secs } ∨
        ¬ Matches root etag row ∧ row' = row) :=
  h.changes.of_find? hrow

theorem reschedules_iff {root etag : String} {at' : Instant} :
    Reschedules root etag at' c c' ↔ c' = c.setNextCrawl root etag at' := by
  constructor
  · intro h
    have hpackages := Table.changes_iff.mp h.changes
    obtain ⟨_, _, hqueue, hbad, hblobs⟩ := h
    cases c'
    cases hpackages
    cases hqueue
    cases hbad
    cases hblobs
    rfl
  · rintro rfl
    obtain ⟨hmoved, hothers⟩ := Table.changes_adjust (fun _ => Matches root etag)
      (fun _ row => { row with nextCrawl := at'.secs }) c.packages
    exact ⟨hmoved, hothers, rfl, rfl, rfl⟩

end PackageIndex.Catalog
