import PackageIndex.Proofs.Catalog.Separation
import PackageIndex.Proofs.Json.Written
/-!
What the catalog stores it can hand out again. From the empty catalog on, every row of a package is
the row of a document under its own path, so no reading fails on it and the listing tells of every
package once. Hiding a package by the record that was read leaves all of its row but the flag.
-/
namespace PackageIndex

theorem record?_fields {path : String} {row : PackageRow} {r : Record}
    (h : row.record? path = some r) :
    r.importPath = path ∧ r.document.projectRoot = row.projectRoot ∧
      r.document.etag = row.etag ∧ r.nextCrawl = Instant.ofUnix row.nextCrawl := by
  simp only [PackageRow.record?, Option.map_eq_some_iff] at h
  obtain ⟨imports, _, rfl⟩ := h
  exact ⟨rfl, rfl, rfl, rfl⟩

namespace PackageRow

/-- A row with another time is read with that time, and otherwise as before. -/
theorem record?_moved {path : String} {row : PackageRow} {r : Record}
    (h : row.record? path = some r) (nextCrawl : Int) :
    { row with nextCrawl }.record? path =
      some { r with nextCrawl := Instant.ofUnix nextCrawl } := by
  simp only [record?, Option.map_eq_some_iff] at h
  obtain ⟨imports, himports, rfl⟩ := h
  simp only [record?, himports, Option.map_some]

theorem record?_ofDocument (d : Document) (nextCrawl : Int) (suppressed : Bool) :
    (ofDocument d nextCrawl suppressed).record? d.importPath =
      some { document := d, nextCrawl := Instant.ofUnix nextCrawl, suppressed } := by
  have himports : Json.strings?OfText (ofDocument d nextCrawl suppressed).imports.toList =
      some d.imports := by
    simp [ofDocument, Json.strings?OfText_ofStrings]
  cases suppressed <;> simp [record?, himports] <;> simp [ofDocument]

/-- The row was written for a document of this path. -/
def Written (path : String) (row : PackageRow) : Prop :=
  ∃ d nextCrawl suppressed, d.importPath = path ∧ row = ofDocument d nextCrawl suppressed

theorem Written.exists_record {path : String} {row : PackageRow} (h : row.Written path) :
    ∃ r, row.record? path = some r ∧ r.importPath = path := by
  obtain ⟨d, nextCrawl, suppressed, rfl, rfl⟩ := h
  exact ⟨_, record?_ofDocument d nextCrawl suppressed, rfl⟩

/-- The second row hides the package of the first one: it has another flag, and otherwise tells the
same of the package. -/
structure HiddenAs (row row' : PackageRow) : Prop where
  projectRoot : row'.projectRoot = row.projectRoot
  etag : row'.etag = row.etag
  name : row'.name = row.name
  synopsis : row'.synopsis = row.synopsis
  imports : Json.strings?OfText row'.imports.toList = Json.strings?OfText row.imports.toList
  nextCrawl : row'.nextCrawl = row.nextCrawl
  suppressed : row'.suppressed = 1

variable {path : String} {row row' : PackageRow} {r : Record}

theorem hiddenAs_of_record (h : row.record? path = some r) :
    row.HiddenAs (ofDocument r.document row.nextCrawl true) := by
  rw [record?, Option.map_eq_some_iff] at h
  obtain ⟨imports, himports, rfl⟩ := h
  refine ⟨rfl, rfl, rfl, rfl, ?_, rfl, rfl⟩
  simp [ofDocument, himports, Json.strings?OfText_ofStrings]

theorem suppressed_of_record? (h : row.record? path = some r) :
    r.suppressed = true ↔ row.suppressed ≠ 0 := by
  rw [record?, Option.map_eq_some_iff] at h
  obtain ⟨imports, _, rfl⟩ := h
  exact decide_eq_true_iff

theorem HiddenAs.trans {row'' : PackageRow} (h : row.HiddenAs row') (h' : row'.HiddenAs row'') :
    row.HiddenAs row'' where
  projectRoot := h'.projectRoot.trans h.projectRoot
  etag := h'.etag.trans h.etag
  name := h'.name.trans h.name
  synopsis := h'.synopsis.trans h.synopsis
  imports := h'.imports.trans h.imports
  nextCrawl := h'.nextCrawl.trans h.nextCrawl
  suppressed := h'.suppressed

theorem HiddenAs.record? (h : row.HiddenAs row') (hread : row.record? path = some r) :
    row'.record? path = some { r with suppressed := true } := by
  rw [PackageRow.record?, Option.map_eq_some_iff] at hread
  obtain ⟨imports, himports, rfl⟩ := hread
  simp [PackageRow.record?, h.imports, himports, h.projectRoot, h.etag, h.name, h.synopsis,
    h.nextCrawl, h.suppressed]

theorem ofDocument_of_written (h : row.Written path) (hread : row.record? path = some r) :
    ofDocument r.document row.nextCrawl true = { row with suppressed := 1 } := by
  obtain ⟨d, nextCrawl, suppressed, rfl, rfl⟩ := h
  rw [record?_ofDocument, Option.some.injEq] at hread
  subst hread
  rfl

end PackageRow

namespace Catalog

variable {c c' : Catalog}

/-- Every row of a package was written for its path. -/
def Written (c : Catalog) : Prop :=
  ∀ path row, c.packages.find? path = some row → row.Written path

theorem written_empty : Written {} := by
  intro path row hrow
  cases hrow

theorem Written.putDocument (h : c.Written) (d : Document) (nextCrawl? : Option Instant)
    (suppressed : Bool) : (c.putDocument d nextCrawl? suppressed).Written := by
  intro path row hrow
  simp only [Catalog.putDocument, Table.find?_put] at hrow
  split at hrow
  next hpath => exact ⟨d, _, suppressed, hpath.symm, (Option.some.inj hrow).symm⟩
  next => exact h path row hrow

/-- Another time leaves a row one of its document. -/
theorem Written.adjust (h : c.Written) (p : PackageRow → Prop) [DecidablePred p] (nextCrawl : Int)
    (hc' : c'.packages = c.packages.adjust fun _ row =>
      if p row then { row with nextCrawl } else row) : c'.Written := by
  intro path row hrow
  rw [hc', Table.find?_adjust, Option.map_eq_some_iff] at hrow
  obtain ⟨row, hbefore, rfl⟩ := hrow
  obtain ⟨d, time, suppressed, hpath, rfl⟩ := h path row hbefore
  split
  · exact ⟨d, nextCrawl, suppressed, hpath, rfl⟩
  · exact ⟨d, time, suppressed, hpath, rfl⟩

theorem Written.step (h : c.Written) (hstep : Step c c') : c'.Written := by
  cases hstep with
  | addNewCrawl clock path hasSubdirs =>
      rwa [Catalog.Written, (tables_addNewCrawl c clock path hasSubdirs).1]
  | popNewCrawl => rwa [Catalog.Written, (tables_popNewCrawl c).1]
  | put d nextCrawl? suppressed => exact h.putDocument d nextCrawl? suppressed
  | delete path =>
      intro path' row hrow
      simp only [Catalog.delete, Table.find?_erase] at hrow
      split at hrow
      · cases hrow
      · exact h path' row hrow
  | setNextCrawl root etag at' =>
      exact h.adjust (fun row => row.projectRoot = root ∧ row.etag = etag) _ rfl
  | bump root => exact h.adjust (·.projectRoot = root) _ rfl
  | markBad | writeBlob => exact h

theorem written_of_leads (h : Leads {} c) : c.Written := by
  induction h with
  | refl => exact written_empty
  | tail _ hstep ih => exact ih.step hstep

theorem get_eq_some_iff {path : String} {entry : Entry} :
    c.get path = .ok (some entry) ↔
      ∃ row r, c.packages.find? path = some row ∧ row.record? path = some r ∧
        entry = c.entry r := by
  rw [get]
  cases hrow : c.packages.find? path with
  | none => simp
  | some row => cases hread : row.record? path <;> simp [hread, eq_comm]

theorem get_eq_none_iff {path : String} :
    c.get path = .ok none ↔ c.packages.find? path = none := by
  rw [get]
  cases hrow : c.packages.find? path with
  | none => simp
  | some row => cases hread : row.record? path <;> simp [hread]

theorem all_eq_ok_iff {records : List Record} :
    c.all = .ok records ↔
      c.packages.rows.map (fun r => r.2.record? r.1) = records.map some := by
  rw [← mapM_eq_some_iff, all]
  cases c.packages.rows.mapM fun r => r.2.record? r.1 <;> simp

theorem mem_all_iff {records : List Record} (h : c.all = .ok records) {r : Record} :
    r ∈ records ↔
      ∃ row, c.packages.find? r.importPath = some row ∧ row.record? r.importPath = some r := by
  rw [all_eq_ok_iff] at h
  have hmem : r ∈ records ↔ some r ∈ c.packages.rows.map fun r => r.2.record? r.1 := by
    simp [h]
  rw [hmem, List.mem_map]
  constructor
  · rintro ⟨⟨path, row⟩, hrow, hread⟩
    obtain ⟨rfl, _⟩ := record?_fields hread
    exact ⟨row, Table.mem_rows_iff.mp hrow, hread⟩
  · rintro ⟨row, hrow, hread⟩
    exact ⟨(r.importPath, row), Table.mem_rows_iff.mpr hrow, hread⟩

theorem stored_of_all {records : List Record} (h : c.all = .ok records) :
    ∀ r ∈ records, ∃ row, c.packages.find? r.importPath = some row := by
  intro r hr
  obtain ⟨row, hrow, _⟩ := (mem_all_iff h).mp hr
  exact ⟨row, hrow⟩

theorem map_importPath_all {records : List Record} (h : c.all = .ok records) :
    records.map Record.importPath = c.packages.keys := by
  rw [all_eq_ok_iff] at h
  rw [Table.keys]
  generalize c.packages.rows = rows at h
  induction rows generalizing records with
  | nil =>
      cases records with
      | nil => rfl
      | cons r records => simp at h
  | cons row rows ih =>
      cases records with
      | nil => simp at h
      | cons r records =>
          simp only [List.map_cons, List.cons.injEq] at h ⊢
          exact ⟨(record?_fields h.1).1, ih h.2⟩

theorem Written.exists_all (h : c.Written) : ∃ records, c.all = .ok records := by
  suffices ∃ records : List Record,
      c.packages.rows.map (fun r => r.2.record? r.1) = records.map some by
    simpa only [all_eq_ok_iff] using this
  have hrows : ∀ row ∈ c.packages.rows, ∃ r, row.2.record? row.1 = some r := by
    rintro ⟨path, row⟩ hrow
    obtain ⟨r, hread, _⟩ := (h path row (Table.mem_rows_iff.mp hrow)).exists_record
    exact ⟨r, hread⟩
  generalize c.packages.rows = rows at hrows
  induction rows with
  | nil => exact ⟨[], rfl⟩
  | cons row rows ih =>
      rw [List.forall_mem_cons] at hrows
      obtain ⟨r, hread⟩ := hrows.1
      obtain ⟨records, hrecords⟩ := ih hrows.2
      exact ⟨r :: records, by simp [hread, hrecords]⟩

end Catalog

end PackageIndex
