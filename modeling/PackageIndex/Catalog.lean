import PackageIndex.Cause
import PackageIndex.Document
import PackageIndex.Instant
import PackageIndex.Json.Lenient
import PackageIndex.Table
import PackageIndex.Timestamp
/-!
The catalog: packages by import path, the queue of paths never crawled, the paths that
led to no package, and named blobs. Packages keep their imports as JSON text and their
times as whole seconds, so a row that another program left may be unreadable; everything
else about the tables is total.
-/
namespace PackageIndex

/-- A row of the package table. -/
structure PackageRow where
  projectRoot : String
  etag : String
  name : String
  synopsis : String
  /-- JSON text of the imports. -/
  imports : String
  /-- Seconds from the epoch. -/
  nextCrawl : Int
  /-- Zero for a package that is shown. -/
  suppressed : Int
  deriving DecidableEq

/-- A path of the queue. -/
structure QueueRow where
  hasSubdirs : Bool
  queuedAt : Int
  deriving DecidableEq

/-- A named blob. -/
structure BlobRow where
  value : ByteArray
  /-- When the blob was written last, as the storage engine writes the time that it reads itself.
  Nothing reads it. -/
  updatedAt : String

/-- The row of a blob that is written. -/
def BlobRow.written (clock : Instant) (value : ByteArray) : BlobRow :=
  { value, updatedAt := String.ofList (Timestamp.plainText clock) }

structure CrawlTarget where
  importPath : String
  hasSubdirs : Bool
  deriving DecidableEq

/-- A package as the catalog hands it out. -/
structure Record where
  document : Document
  nextCrawl : Instant
  suppressed : Bool
  deriving DecidableEq

namespace Record

def importPath (r : Record) : String := r.document.importPath

/-- The package lives at the code host. -/
def isGitHub (r : Record) : Bool := "github.com/".toList.isPrefixOf r.document.projectRoot.toList

end Record

/-- A package with the stored paths below its own. -/
structure Entry where
  record : Record
  subdirs : List String
  deriving DecidableEq

structure Catalog where
  packages : Table String PackageRow := Table.empty
  queue : Table String QueueRow := Table.empty
  bad : Table String Int := Table.empty
  blobs : Table String BlobRow := Table.empty

/-- Why an operation on a store failed. -/
inductive StoreError where
  | refused (reason : String)
  | unreadablePackage (path : String)
  | unreadableMostOverdue
  | unreadableListing
  | unreadableImports
  deriving DecidableEq

def StoreError.message : StoreError → String
  | .refused reason => reason
  | .unreadablePackage path => becauseOf ("Failed to read package " ++ path) Cause.storage.mark
  | .unreadableMostOverdue => becauseOf "Failed to read most overdue package" Cause.storage.mark
  | .unreadableListing => becauseOf "Failed to list packages" Cause.storage.mark
  | .unreadableImports => Cause.storage.mark

/-- The record of a row, when its imports are an array of strings. -/
def PackageRow.record? (path : String) (row : PackageRow) : Option Record :=
  (Json.strings?OfText row.imports.toList).map fun imports =>
    { document :=
        { importPath := path, projectRoot := row.projectRoot, etag := row.etag,
          name := row.name, synopsis := row.synopsis, imports }
      nextCrawl := Instant.ofUnix row.nextCrawl
      suppressed := row.suppressed ≠ 0 }

/-- The row of a document. -/
def PackageRow.ofDocument (d : Document) (nextCrawl : Int) (suppressed : Bool) : PackageRow :=
  { projectRoot := d.projectRoot, etag := d.etag, name := d.name, synopsis := d.synopsis
    imports := String.ofList (Json.ofStrings d.imports)
    nextCrawl
    suppressed := if suppressed then 1 else 0 }

namespace Catalog

/-- Text up to its first NUL; length and cutting see no further. -/
def visible (s : List Char) : List Char := s.takeWhile (· ≠ '\x00')

/-- The path lies below another one. -/
def isBelow (path sub : String) : Bool :=
  (visible sub.toList).take ((visible path.toList).length + 1) = path.toList ++ ['/']

/-- The stored paths below a path. -/
def subdirs (c : Catalog) (path : String) : List String :=
  c.packages.keys.filter (isBelow path)

def entry (c : Catalog) (r : Record) : Entry := { record := r, subdirs := c.subdirs r.importPath }

def isBad (c : Catalog) (path : String) : Bool := c.bad.contains path

/-- Queues a path, unless it is bad; a path that is stored or queued stays as it is. -/
def addNewCrawl (c : Catalog) (clock : Instant) (path : String) (hasSubdirs : Bool) :
    Bool × Catalog :=
  if c.isBad path then (false, c)
  else if c.packages.contains path || c.queue.contains path then (true, c)
  else (true, { c with queue := c.queue.put path { hasSubdirs, queuedAt := clock.secs } })

/-- The first row that is least in a measure. -/
def leastBy (measure : α → Int) : List α → Option α
  | [] => none
  | a :: rest =>
    match leastBy measure rest with
    | none => some a
    | some b => if measure b < measure a then some b else some a

/-- The queue's earliest row; of several the one with the least path. -/
def nextTarget? (c : Catalog) : Option CrawlTarget :=
  (leastBy (fun r => r.2.queuedAt) c.queue.rows).map fun (path, row) =>
    { importPath := path, hasSubdirs := row.hasSubdirs }

def popNewCrawl (c : Catalog) : Option CrawlTarget × Catalog :=
  match c.nextTarget? with
  | none => (none, c)
  | some target => (some target, { c with queue := c.queue.erase target.importPath })

def markBad (c : Catalog) (clock : Instant) (path : String) : Catalog :=
  { c with bad := c.bad.put path clock.secs, queue := c.queue.erase path }

def get (c : Catalog) (path : String) : Except StoreError (Option Entry) :=
  match c.packages.find? path with
  | none => .ok none
  | some row =>
    match row.record? path with
    | none => .error (.unreadablePackage path)
    | some r => .ok (some (c.entry r))

/-- The row with the earliest next crawl; of several the one with the least path. -/
def mostOverdueRow? (c : Catalog) : Option (String × PackageRow) :=
  leastBy (fun r => r.2.nextCrawl) c.packages.rows

def mostOverdue (c : Catalog) : Except StoreError (Option Entry) :=
  match c.mostOverdueRow? with
  | none => .ok none
  | some (path, row) =>
    match row.record? path with
    | none => .error .unreadableMostOverdue
    | some r => .ok (some (c.entry r))

/-- Reschedules the packages of a project that have an etag. -/
def setNextCrawl (c : Catalog) (root etag : String) (at' : Instant) : Catalog :=
  { c with packages := c.packages.adjust fun _ row =>
      if row.projectRoot = root ∧ row.etag = etag then { row with nextCrawl := at'.secs }
      else row }

/-- Reschedules all packages of a project to the epoch and counts them. -/
def bump (c : Catalog) (root : String) : Nat × Catalog :=
  ((c.packages.values.filter fun row => row.projectRoot = root).length,
    { c with packages := c.packages.adjust fun _ row =>
        if row.projectRoot = root then { row with nextCrawl := 0 } else row })

def all (c : Catalog) : Except StoreError (List Record) :=
  match c.packages.rows.mapM fun (path, row) => row.record? path with
  | none => .error .unreadableListing
  | some records => .ok records

/-- Stores a document. Without a time a stored package keeps its schedule and a new one is
due at the epoch. -/
def putDocument (c : Catalog) (d : Document) (nextCrawl? : Option Instant) (suppressed : Bool) :
    Catalog :=
  let nextCrawl := match nextCrawl?, c.packages.find? d.importPath with
    | some at', _ => at'.secs
    | none, some row => row.nextCrawl
    | none, none => 0
  { c with
    packages := c.packages.put d.importPath (PackageRow.ofDocument d nextCrawl suppressed)
    queue := c.queue.erase d.importPath }

def delete (c : Catalog) (path : String) : Catalog :=
  { c with packages := c.packages.erase path }

/-- How many packages import a path; every row's imports must be readable, if only
leniently. -/
def importerCount (c : Catalog) (path : String) : Except StoreError Nat :=
  match c.packages.values.mapM fun row => Json.Lenient.texts? row.imports.toList with
  | none => .error .unreadableImports
  | some lists => .ok (lists.filter fun texts => path.toList ∈ texts).length

def readBlob (c : Catalog) (key : String) : Option ByteArray :=
  (c.blobs.find? key).map BlobRow.value

/-- Writes a blob and notes the time, whether it is new or not. -/
def writeBlob (c : Catalog) (clock : Instant) (key : String) (value : ByteArray) : Catalog :=
  { c with blobs := c.blobs.put key (.written clock value) }

end Catalog

end PackageIndex
