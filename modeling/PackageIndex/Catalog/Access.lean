import PackageIndex.Catalog
/-!
Operations on the catalog that may fail. A failing operation changes nothing: the type
of an access gives a catalog back only together with a value. Which operations fail is
told by the faults of a run.
-/
namespace PackageIndex

/-- An operation with the argument that faults may depend on. -/
inductive CatalogOp where
  | addNewCrawl (path : String)
  | popNewCrawl
  | markBad (path : String)
  | isBad (path : String)
  | get (path : String)
  | mostOverdue
  | setNextCrawl (root : String)
  | bump (root : String)
  | all
  | put (path : String)
  | delete (path : String)
  | importerCount (path : String)
  | readBlob (key : String)
  | writeBlob (key : String)
  deriving DecidableEq

/-- The operations that fail, each with its reason. -/
abbrev CatalogFaults := CatalogOp → Option String

/-- An operation that ends with an error, or with a value and the catalog after it. -/
abbrev Access (α : Type) := Catalog → Except StoreError (α × Catalog)

namespace Access

/-- An operation that fails before it starts when the faults say so. -/
def guarded (faults : CatalogFaults) (op : CatalogOp) (act : Access α) : Access α := fun c =>
  match faults op with
  | some reason => .error (.refused reason)
  | none => act c

theorem guarded_of_none {faults : CatalogFaults} {op : CatalogOp} (act : Access α) (c : Catalog)
    (h : faults op = none) : guarded faults op act c = act c := by
  simp only [guarded, h]

theorem guarded_of_some {faults : CatalogFaults} {op : CatalogOp} (act : Access α) (c : Catalog)
    {reason : String} (h : faults op = some reason) :
    guarded faults op act c = .error (.refused reason) := by
  simp only [guarded, h]

theorem ok_of_guarded {faults : CatalogFaults} {op : CatalogOp} {act : Access α} {c : Catalog}
    {result : α × Catalog} (h : guarded faults op act c = .ok result) : act c = .ok result := by
  cases hfault : faults op with
  | some reason =>
      rw [guarded_of_some _ _ hfault] at h
      cases h
  | none => rwa [guarded_of_none _ _ hfault] at h

/-- An operation that only reads. -/
def reading (f : Catalog → Except StoreError α) : Access α := fun c => (f c).map (·, c)

/-- An operation that only changes the catalog. -/
def writing (f : Catalog → Catalog) : Access Unit := fun c => .ok ((), f c)

variable (faults : CatalogFaults)

def addNewCrawl (clock : Instant) (path : String) (hasSubdirs : Bool) : Access Bool :=
  guarded faults (.addNewCrawl path) fun c => .ok (c.addNewCrawl clock path hasSubdirs)

def popNewCrawl : Access (Option CrawlTarget) :=
  guarded faults .popNewCrawl fun c => .ok c.popNewCrawl

def markBad (clock : Instant) (path : String) : Access Unit :=
  guarded faults (.markBad path) (writing (·.markBad clock path))

def isBad (path : String) : Access Bool :=
  guarded faults (.isBad path) (reading fun c => .ok (c.isBad path))

def get (path : String) : Access (Option Entry) :=
  guarded faults (.get path) (reading (·.get path))

def mostOverdue : Access (Option Entry) :=
  guarded faults .mostOverdue (reading Catalog.mostOverdue)

def setNextCrawl (root etag : String) (at' : Instant) : Access Unit :=
  guarded faults (.setNextCrawl root) (writing (·.setNextCrawl root etag at'))

def bump (root : String) : Access Nat :=
  guarded faults (.bump root) fun c => .ok (c.bump root)

def all : Access (List Record) := guarded faults .all (reading Catalog.all)

def put (d : Document) (nextCrawl? : Option Instant) (suppressed : Bool) : Access Unit :=
  guarded faults (.put d.importPath) (writing (·.putDocument d nextCrawl? suppressed))

def delete (path : String) : Access Unit :=
  guarded faults (.delete path) (writing (·.delete path))

def importerCount (path : String) : Access Nat :=
  guarded faults (.importerCount path) (reading (·.importerCount path))

def readBlob (key : String) : Access (Option ByteArray) :=
  guarded faults (.readBlob key) (reading fun c => .ok (c.readBlob key))

def writeBlob (clock : Instant) (key : String) (value : ByteArray) : Access Unit :=
  guarded faults (.writeBlob key) (writing (·.writeBlob clock key value))

end Access

end PackageIndex
