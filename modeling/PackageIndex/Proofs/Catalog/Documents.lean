import PackageIndex.Catalog.Access
import PackageIndex.Proofs.Catalog.History
import PackageIndex.Proofs.Catalog.Importers
import PackageIndex.Proofs.Instant
/-!
Documents as the catalog stores them and tells of them. What was put is read back, with the time cut
to its second, and nothing else changes but the queue, which holds the path no more. Over a history
of the catalog a package has the document that was put last, unless it was deleted since, and these
documents are what the importers of a path are counted from.
-/
namespace PackageIndex.Catalog

/-- When a package is due after its document was stored: at the time that was given, and without one
at its time before or, if it is new, at the epoch. -/
inductive DueAfter (c : Catalog) (path : String) : Option Instant → Instant → Prop
  | given (at' : Instant) : DueAfter c path (some at') at'.wholeSecond
  | kept {before : Entry} :
      c.get path = .ok (some before) → DueAfter c path none before.record.nextCrawl
  | new : c.get path = .ok none → DueAfter c path none .epoch

/-- The listing tells of every package once, in the order of the bytes of their paths, and of each
what it is read as by its path. -/
structure Lists (c : Catalog) (records : List Record) : Prop where
  all : c.all = .ok records
  ascending : records.Pairwise fun r r' => Text.bytes r.importPath < Text.bytes r'.importPath
  paths : ∀ path, path ∈ records.map Record.importPath ↔ ∃ row, c.packages.find? path = some row
  read : ∀ r ∈ records, c.get r.importPath = .ok (some (c.entry r))

def Holds (c : Catalog) (path : String) (d : Document) : Prop :=
  ∃ entry, c.get path = .ok (some entry) ∧ entry.record.document = d

namespace Moment

inductive Puts (path : String) (d : Document) : Moment → Prop
  | put {c : Catalog} {nextCrawl? : Option Instant} {suppressed : Bool} :
      d.importPath = path → Puts path d ⟨c, .put d nextCrawl? suppressed⟩

/-- Another document takes the place of the path's, or the package is deleted. -/
inductive Replaces (path : String) : Moment → Prop
  | put {c : Catalog} {d : Document} {nextCrawl? : Option Instant} {suppressed : Bool} :
      d.importPath = path → Replaces path ⟨c, .put d nextCrawl? suppressed⟩
  | delete {c : Catalog} : Replaces path ⟨c, .delete path⟩

end Moment

/-- The document is the last one that was stored under the path, and was not deleted since. -/
def Keeps (history : List Moment) (path : String) (d : Document) : Prop :=
  Since (Moment.Puts path d) (Moment.Replaces path) history

variable {c c' : Catalog} {path : String} {d : Document}

section Reading

theorem Written.exists_lists (h : c.Written) : ∃ records, c.Lists records := by
  obtain ⟨records, hall⟩ := h.exists_all
  have hpaths : records.map Record.importPath = c.packages.keys := map_importPath_all hall
  refine ⟨records, hall, ?_, fun path => ?_, fun r hr => ?_⟩
  · have hascending := c.packages.keys_ascending
    rw [← hpaths, List.pairwise_map] at hascending
    exact hascending.imp Text.lt_iff_bytes_lt.mp
  · rw [hpaths, Table.mem_keys_iff]
  · obtain ⟨row, hrow, hread⟩ := (mem_all_iff hall).mp hr
    exact get_eq_some_iff.mpr ⟨row, r, hrow, hread, rfl⟩

theorem Written.get_ne_error (h : c.Written) (path : String) (e : StoreError) :
    c.get path ≠ .error e := by
  intro herror
  rw [get] at herror
  cases hrow : c.packages.find? path with
  | none => simp [hrow] at herror
  | some row =>
      obtain ⟨r, hread, _⟩ := (h path row hrow).exists_record
      simp [hrow, hread] at herror

/-- The row that is stored, and what its seconds are read as. -/
theorem Written.exists_stored (h : c.Written) {nextCrawl? : Option Instant} (suppressed : Bool)
    (hat : ∀ at', nextCrawl? = some at' → at'.Representable) :
    ∃ secs, (c.putDocument d nextCrawl? suppressed).packages.find? d.importPath =
        some (.ofDocument d secs suppressed) ∧
      DueAfter c d.importPath nextCrawl? (Instant.ofUnix secs) := by
  simp only [Catalog.putDocument, Table.find?_put, if_true]
  cases nextCrawl? with
  | some at' =>
      refine ⟨at'.secs, rfl, ?_⟩
      rw [Instant.ofUnix_of_representable (hat at' rfl)]
      exact .given at'
  | none =>
      cases hbefore : c.packages.find? d.importPath with
      | none => exact ⟨0, rfl, .new (get_eq_none_iff.mpr hbefore)⟩
      | some row =>
          obtain ⟨r, hread, _⟩ := (h _ row hbefore).exists_record
          obtain ⟨_, _, _, htime⟩ := record?_fields hread
          have hget : c.get d.importPath = .ok (some (c.entry r)) :=
            get_eq_some_iff.mpr ⟨row, r, hbefore, hread, rfl⟩
          refine ⟨row.nextCrawl, rfl, ?_⟩
          rw [← htime]
          exact .kept hget

end Reading

/-- In every catalog that operations lead to from the empty one, no package is unreadable, and the
listing tells of each once and in order. A document that was stored is read back under its path,
with its flag and its time cut to the second; the other packages, the other paths of the queue, the
bad paths and the blobs stay. -/
theorem document_is_read_back (c : Catalog) (h : Leads {} c) :
    (∃ records, c.Lists records) ∧ (∀ path e, c.get path ≠ .error e) ∧
    ∀ (faults : CatalogFaults) (d : Document) (nextCrawl? : Option Instant) (suppressed : Bool)
      (c' : Catalog), (∀ at', nextCrawl? = some at' → at'.Representable) →
      Access.put faults d nextCrawl? suppressed c = .ok ((), c') →
      (∃ entry, c'.get d.importPath = .ok (some entry) ∧ entry.record.document = d ∧
        entry.record.suppressed = suppressed ∧
        DueAfter c d.importPath nextCrawl? entry.record.nextCrawl) ∧
      (∀ path, path ≠ d.importPath → c'.packages.find? path = c.packages.find? path) ∧
      Table.Sets d.importPath none c.queue c'.queue ∧ c'.bad = c.bad ∧ c'.blobs = c.blobs ∧
      ∃ records, c'.Lists records := by
  have hwritten : c.Written := written_of_leads h
  refine ⟨hwritten.exists_lists, hwritten.get_ne_error, ?_⟩
  intro faults d nextCrawl? suppressed c' hat hput
  obtain rfl : c' = c.putDocument d nextCrawl? suppressed :=
    (congrArg Prod.snd (Except.ok.inj (Access.ok_of_guarded hput))).symm
  obtain ⟨secs, hrow, hdue⟩ := hwritten.exists_stored suppressed hat
  have hget := get_eq_some_iff.mpr
    ⟨_, _, hrow, PackageRow.record?_ofDocument d secs suppressed, rfl⟩
  refine ⟨⟨_, hget, rfl, rfl, hdue⟩, ?_, ?_, rfl, rfl, ?_⟩
  · intro path hpath
    simp only [putDocument, Table.find?_put, if_neg hpath]
  · exact Table.sets_none_iff.mpr rfl
  · exact (hwritten.putDocument d nextCrawl? suppressed).exists_lists

/-- A package with quotes, breaks and a repetition in its imports. -/
def quotedDocument : Document :=
  { importPath := "p", projectRoot := "r", imports := ["a\"b\\c\n", "a\"b\\c\n", "\x01"] }

theorem quoted_document_is_read_back :
    ∃ entry,
      (({} : Catalog).putDocument quotedDocument (some ⟨-1, 500000000⟩) true).get "p" =
        .ok (some entry) ∧
      entry.record = { document := quotedDocument, nextCrawl := ⟨-1, 0⟩, suppressed := true } := by
  obtain ⟨_, _, hput⟩ := document_is_read_back {} .refl
  have hat : ∀ at' : Instant, some ⟨-1, 500000000⟩ = some at' → at'.Representable := by
    rintro _ ⟨⟩
    decide
  obtain ⟨⟨⟨⟨document, nextCrawl, suppressed⟩, subdirs⟩, hget, rfl, rfl, hdue⟩, _⟩ :=
    hput (fun _ => none) quotedDocument _ true _ hat rfl
  cases hdue
  exact ⟨_, hget, rfl⟩

section History

theorem holds_iff :
    c.Holds path d ↔ ∃ row, c.packages.find? path = some row ∧
      (row.record? path).map Record.document = some d := by
  simp only [Holds, get_eq_some_iff, Option.map_eq_some_iff]
  constructor
  · rintro ⟨_, ⟨row, r, hrow, hread, rfl⟩, hdocument⟩
    exact ⟨row, hrow, r, hread, hdocument⟩
  · rintro ⟨row, hrow, r, hread, hdocument⟩
    exact ⟨_, ⟨row, r, hrow, hread, rfl⟩, hdocument⟩

theorem holds_of_packages (h : c'.packages = c.packages) : c'.Holds path d ↔ c.Holds path d := by
  rw [holds_iff, holds_iff, h]

theorem holds_putDocument {d' : Document} {nextCrawl? : Option Instant} {suppressed : Bool} :
    (c.putDocument d' nextCrawl? suppressed).Holds path d ↔
      path = d'.importPath ∧ d = d' ∨ path ≠ d'.importPath ∧ c.Holds path d := by
  simp only [holds_iff, putDocument, Table.find?_put]
  by_cases hpath : path = d'.importPath
  · subst hpath
    simp [PackageRow.record?_ofDocument, eq_comm]
  · simp [hpath]

theorem holds_delete {path' : String} :
    (c.delete path').Holds path d ↔ path ≠ path' ∧ c.Holds path d := by
  simp only [holds_iff, delete, Table.find?_erase_eq_some_iff, and_assoc, exists_and_left]

theorem holds_of_adjust (p : PackageRow → Prop) [DecidablePred p] (nextCrawl : Int)
    (hc' : c'.packages = c.packages.adjust fun _ row =>
      if p row then { row with nextCrawl } else row) : c'.Holds path d ↔ c.Holds path d := by
  have hmoved (row : PackageRow) :
      ((if p row then { row with nextCrawl } else row).record? path).map Record.document =
        (row.record? path).map Record.document := by
    split
    · simp [PackageRow.record?, Function.comp_def]
    · rfl
  rw [holds_iff, holds_iff, hc', Table.find?_adjust]
  cases c.packages.find? path with
  | none => rfl
  | some row => simp only [Option.map_some, Option.some.injEq, exists_eq_left', hmoved]

theorem holds_run (c : Catalog) (op : Operation) :
    (op.run c).Holds path d ↔
      Moment.Puts path d ⟨c, op⟩ ∨ c.Holds path d ∧ ¬ Moment.Replaces path ⟨c, op⟩ := by
  -- only storing and deleting touch a document; a rescheduled row keeps the text of its imports
  cases op with
  | put d' nextCrawl? suppressed =>
      have hputs : Moment.Puts path d ⟨c, .put d' nextCrawl? suppressed⟩ ↔
          path = d'.importPath ∧ d = d' :=
        ⟨fun | .put h => ⟨h.symm, rfl⟩, fun | ⟨h, rfl⟩ => .put h.symm⟩
      have hreplaces : Moment.Replaces path ⟨c, .put d' nextCrawl? suppressed⟩ ↔
          path = d'.importPath :=
        ⟨fun | .put h => h.symm, fun h => .put h.symm⟩
      rw [Operation.run, holds_putDocument, hputs, hreplaces, and_comm (b := ¬ _)]
  | delete path' =>
      have hreplaces : Moment.Replaces path ⟨c, .delete path'⟩ ↔ path = path' :=
        ⟨fun | .delete => rfl, fun h => h ▸ .delete⟩
      rw [Operation.run, holds_delete, hreplaces, and_comm]
      exact (or_iff_right nofun).symm
  | setNextCrawl root etag at' =>
      exact kept_iff (holds_of_adjust (fun row => row.projectRoot = root ∧ row.etag = etag) _ rfl)
        nofun nofun
  | bump root => exact kept_iff (holds_of_adjust (·.projectRoot = root) _ rfl) nofun nofun
  | addNewCrawl clock path' hasSubdirs =>
      exact kept_iff (holds_of_packages (tables_addNewCrawl c clock path' hasSubdirs).1) nofun nofun
  | popNewCrawl => exact kept_iff (holds_of_packages (tables_popNewCrawl c).1) nofun nofun
  | markBad | writeBlob => exact kept_iff (holds_of_packages rfl) nofun nofun

theorem keeps_iff (ops : List Operation) :
    Keeps (moments ops {}) path d ↔ (runAll ops {}).Holds path d := by
  have hstart : ¬ Holds {} path d := by
    rw [holds_iff]
    rintro ⟨row, hrow, _⟩
    cases hrow
  exact (runAll_iff_since (P := fun c => c.Holds path d) holds_run hstart ops).symm

end History

theorem Lists.holds_iff {records : List Record} (h : c.Lists records) :
    c.Holds path d ↔ ∃ r ∈ records, r.importPath = path ∧ r.document = d := by
  constructor
  · rintro ⟨_, hget, hdocument⟩
    obtain ⟨row, r, hrow, hread, rfl⟩ := get_eq_some_iff.mp hget
    obtain ⟨rfl, _⟩ := record?_fields hread
    exact ⟨r, (mem_all_iff h.all).mpr ⟨row, hrow, hread⟩, rfl, hdocument⟩
  · rintro ⟨r, hr, rfl, rfl⟩
    exact ⟨_, h.read r hr, rfl⟩

/-- The query counts the packages whose documents list the path, each of them once. -/
theorem Written.exists_importers (h : c.Written) (imported : String) :
    ∃ importers : List String, importers.Nodup ∧
      (∀ path, path ∈ importers ↔ ∃ d, c.Holds path d ∧ imported ∈ d.imports) ∧
      c.importerCount imported = .ok importers.length := by
  obtain ⟨records, hlists⟩ := h.exists_lists
  have hnodup : (records.map Record.importPath).Nodup := by
    rw [map_importPath_all hlists.all]
    exact c.packages.keys_nodup
  refine ⟨(records.filter fun r => imported ∈ r.document.imports).map Record.importPath,
    hnodup.sublist (List.filter_sublist.map _), fun path => ?_, ?_⟩
  · simp only [List.mem_map, List.mem_filter, decide_eq_true_eq, hlists.holds_iff]
    constructor
    · rintro ⟨r, ⟨hr, himports⟩, hpath⟩
      exact ⟨r.document, ⟨r, hr, hpath, rfl⟩, himports⟩
    · rintro ⟨_, ⟨r, hr, hpath, rfl⟩, himports⟩
      exact ⟨r, ⟨hr, himports⟩, hpath⟩
  · rw [importerCount_of_written h hlists.all, List.length_map, List.countP_eq_length_filter]

/-- After any history of the catalog, the query for the importers of a path counts the packages that
list it in the documents that they were last stored with, each of them once and none that was
deleted since; and these documents are what the packages are read as. -/
theorem importers_are_counted (ops : List Operation) (imported : String) :
    (∃ importers : List String, importers.Nodup ∧
      (∀ path, path ∈ importers ↔
        ∃ d, Keeps (moments ops {}) path d ∧ imported ∈ d.imports) ∧
      (runAll ops {}).importerCount imported = .ok importers.length) ∧
    ∀ path d, Keeps (moments ops {}) path d ↔
      ∃ entry, (runAll ops {}).get path = .ok (some entry) ∧ entry.record.document = d := by
  have hwritten : (runAll ops {}).Written :=
    written_of_leads (leads_iff_exists_runAll.mpr ⟨ops, rfl⟩)
  refine ⟨?_, fun path d => keeps_iff ops⟩
  simpa only [keeps_iff] using hwritten.exists_importers imported

end PackageIndex.Catalog
