import PackageIndex.Catalog
import PackageIndex.RunHistory
import PackageIndex.Schema.Database
import PackageIndex.Text.Blank
/-!
The disk as command lines see it: a tree of directories that holds files and databases.
A path is looked up one name after the other, and every name but the last has to be that
of a directory.
-/
namespace PackageIndex

inductive DiskEntry where
  | directory
  | file (bytes : ByteArray)
  | catalog (c : Catalog)
  | history (h : RunHistory)
  /-- A database of which the structure alone is known. -/
  | database (db : Schema.Database)

inductive PathError where
  | missing
  /-- The path leads through something that is no directory. -/
  | blocked
  | tooLong
  deriving DecidableEq

structure Disk where
  /-- What there is, by the names on the way from the root, which is always a directory. -/
  entries : List (List String × DiskEntry) := []
  /-- Where relative paths begin. -/
  working : List String := []

namespace Disk

def isAbsolute (path : String) : Bool := path.toList.head? = some '/'

/-- The names of a path; one is empty before a leading slash and after one at the end. -/
def names (path : String) : List String := (Text.splitAt '/' path.toList).map String.ofList

/-- A path below a base; an absolute path stands for itself. -/
def join (base path : String) : String :=
  if isAbsolute path ∨ base = "" then path
  else if base.toList.getLast? = some '/' then base ++ path
  else base ++ "/" ++ path

/-- The path of a place. -/
def pathOf (place : List String) : String := "/" ++ "/".intercalate place

variable (d : Disk)

def entry? (place : List String) : Option DiskEntry :=
  if place = [] then some .directory else d.entries.lookup place

def hasDirectory (place : List String) : Bool :=
  match d.entry? place with
  | some .directory => true
  | _ => false

/-- Puts an entry in the place of the one that is there, if any. -/
def put (place : List String) (e : DiskEntry) : Disk :=
  { d with entries := (place, e) :: d.entries.filter fun (other, _) => other ≠ place }

/-- The most bytes of a name. -/
def longestName : Nat := 255

/-- The most bytes of a path. -/
def longestPath : Nat := 4095

/-- Goes on from a place by names. -/
def follow : List String → List String → Except PathError (List String)
  | here, [] => .ok here
  | here, name :: rest =>
    if !d.hasDirectory here then .error .blocked
    else if name = "" ∨ name = "." then follow here rest
    else if name = ".." then follow here.dropLast rest
    else if longestName < name.utf8ByteSize then .error .tooLong
    else if (d.entry? (here ++ [name])).isNone then .error .missing
    else follow (here ++ [name]) rest

/-- The place from which a path begins. -/
def start (path : String) : List String := if isAbsolute path then [] else d.working

/-- The place that a path leads to, name by name. -/
def walk (path : String) : Except PathError (List String) :=
  if path = "" then .error .missing else d.follow (d.start path) (names path)

/-- The place that a path leads to, when it is short enough to be looked up at once. -/
def locate (path : String) : Except PathError (List String) :=
  if longestPath < path.utf8ByteSize then .error .tooLong else d.walk path

def isThere (path : String) : Bool := (d.locate path).isOk

def isDirectory (path : String) : Bool :=
  match d.locate path with
  | .ok place => d.hasDirectory place
  | .error _ => false

/-- The text of a file. -/
def readText? (path : String) : Option String :=
  match d.locate path with
  | .error _ => none
  | .ok place =>
    match d.entry? place with
    | some (.file bytes) => String.fromUTF8? bytes
    | _ => none

/-- A path from the working directory, as it is written. -/
def absolute (path : String) : String := join (pathOf d.working) path

/-- The path of what a path leads to, however long; one that leads nowhere yet stays as it
is written. -/
def resolve (path : String) : Except PathError String :=
  match d.walk path with
  | .ok place => .ok (pathOf place)
  | .error .missing => .ok (d.absolute path)
  | .error e => .error e

end Disk

end PackageIndex
