import PackageIndex.Proofs.Catalog.Hiding
import PackageIndex.Suppression
/-!
Writing a verdict back. What becomes of a flagged package is told by its row at that moment and by
the refusals of the catalog, and by nothing that was known of the package when it was listed.
-/
namespace PackageIndex.Suppression

/-- What becomes of a package that is to be hidden. -/
inductive WritesBack (faults : CatalogFaults) (path : String) (summary : SuppressionSummary)
    (c : Catalog) : SuppressionSummary × Catalog → Prop
  | notRead {reason : String} :
      faults (.get path) = some reason →
      WritesBack faults path summary c ({ summary with errors := summary.errors + 1 }, c)
  | gone :
      faults (.get path) = none → c.packages.find? path = none →
      WritesBack faults path summary c (summary, c)
  | unreadable {row : PackageRow} :
      faults (.get path) = none → c.packages.find? path = some row → row.record? path = none →
      WritesBack faults path summary c ({ summary with errors := summary.errors + 1 }, c)
  | notStored {row : PackageRow} {r : Record} {reason : String} :
      faults (.get path) = none → c.packages.find? path = some row → row.record? path = some r →
      faults (.put path) = some reason →
      WritesBack faults path summary c ({ summary with errors := summary.errors + 1 }, c)
  | hidden {row row' : PackageRow} {r : Record} {c' : Catalog} :
      faults (.get path) = none → c.packages.find? path = some row → row.record? path = some r →
      faults (.put path) = none → c.Hides path row row' c' →
      WritesBack faults path summary c ({ summary with suppressed := summary.suppressed + 1 }, c')

variable {faults : CatalogFaults} {path : String} {summary : SuppressionSummary} {c : Catalog}
  {row : PackageRow} {r : Record}

theorem get_of_find? (hget : faults (.get path) = none) (hrow : c.packages.find? path = some row)
    (hread : row.record? path = some r) :
    Access.get faults path c = .ok (some (c.entry r), c) := by
  simp only [Access.get, Access.guarded_of_none _ _ hget, Access.reading, Catalog.get, hrow, hread,
    Except.map]

theorem writeBack_of_get (hget : faults (.get path) = none)
    (hrow : c.packages.find? path = some row) (hread : row.record? path = some r) :
    writeBack faults path summary c = match faults (.put path) with
      | some _ => ({ summary with errors := summary.errors + 1 }, c)
      | none => ({ summary with suppressed := summary.suppressed + 1 },
          c.putDocument r.document none true) := by
  have hpath : r.document.importPath = path := (record?_fields hread).1
  simp only [writeBack, get_of_find? hget hrow hread, Catalog.entry, Access.put, hpath]
  cases hput : faults (.put path) with
  | some reason => simp only [Access.guarded_of_some _ _ hput]
  | none => simp only [Access.guarded_of_none _ _ hput, Access.writing]

theorem writesBack_writeBack (faults : CatalogFaults) (path : String)
    (summary : SuppressionSummary) (c : Catalog) :
    WritesBack faults path summary c (writeBack faults path summary c) := by
  cases hget : faults (.get path) with
  | some reason =>
      simp only [writeBack, Access.get, Access.guarded_of_some _ _ hget]
      exact .notRead hget
  | none =>
      cases hrow : c.packages.find? path with
      | none =>
          simp only [writeBack, Access.get, Access.guarded_of_none _ _ hget, Access.reading,
            Catalog.get, hrow, Except.map]
          exact .gone hget hrow
      | some row =>
          cases hread : row.record? path with
          | none =>
              simp only [writeBack, Access.get, Access.guarded_of_none _ _ hget, Access.reading,
                Catalog.get, hrow, hread, Except.map]
              exact .unreadable hget hrow hread
          | some r =>
              rw [writeBack_of_get hget hrow hread]
              cases hput : faults (.put path) with
              | some reason => exact .notStored hget hrow hread hput
              | none => exact .hidden hget hrow hread hput (Catalog.hides_putDocument hrow hread)

/-- Reading a flagged package again and storing it are both let through. -/
def Passes (faults : CatalogFaults) (path : String) : Prop :=
  faults (.get path) = none ∧ faults (.put path) = none

instance (faults : CatalogFaults) (path : String) : Decidable (Passes faults path) :=
  inferInstanceAs (Decidable (_ ∧ _))

/-- A package that is stored as catalogs store it is hidden, unless that is refused. -/
theorem writeBack_of_stored (hwritten : c.Written) (hapart : c.Apart)
    (hrow : c.packages.find? path = some row) :
    writeBack faults path summary c =
      if Passes faults path then
        ({ summary with suppressed := summary.suppressed + 1 }, c.hidePaths [path])
      else ({ summary with errors := summary.errors + 1 }, c) := by
  obtain ⟨r, hread, _⟩ := (hwritten path row hrow).exists_record
  cases hget : faults (.get path) with
  | some reason =>
      simp [writeBack, Access.get, Access.guarded_of_some _ _ hget, Passes, hget]
  | none =>
      rw [writeBack_of_get hget hrow hread]
      cases hput : faults (.put path) with
      | some reason => simp [Passes, hput]
      | none =>
          have hrow' := PackageRow.ofDocument_of_written (hwritten path row hrow) hread
          have heq : c.putDocument r.document none true = c.hidePaths [path] :=
            (Catalog.hides_putDocument hrow hread).eq_hidePaths hrow hrow' hapart
          simp [Passes, hget, hput, heq]

end PackageIndex.Suppression
