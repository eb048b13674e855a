import PackageIndex.Disk
import PackageIndex.Schema.Stores
/-!
Opening the databases of both stores at a path. Whether a database is new is decided by
the path as it is looked up on the disk. The file itself is opened at the place that the
path spells, where a name and the two dots after it cancel even if nothing has that name.
-/
namespace PackageIndex.Disk

open Schema

/-- The bytes of a place's path. -/
def lengthOf (place : List String) : Nat :=
  place.foldl (fun length name => length + name.utf8ByteSize + 1) 0

/-- The most bytes of the path of a place on the way to a database file. -/
def longestSpelled : Nat := 511

/-- The most bytes of the path of a database file, which leave room for its journal's. -/
def longestDatabase : Nat := 504

/-- The most bytes of the name of a database file that leave room for its journal's. -/
def longestWritable : Nat := 247

/-- Goes on from a place by names, as they are spelled. A name below something that is no
directory cannot be passed, and neither can a place whose path is too long, even where two
dots would shorten it again. -/
def spell (d : Disk) : List String → List String → Option (List String)
  | here, [] =>
    let length := lengthOf here
    if 2 ≤ length ∧ length ≤ longestDatabase then some here else none
  | here, name :: rest =>
    if name = "" ∨ name = "." then spell d here rest
    else if name = ".." then spell d here.dropLast rest
    else if longestSpelled < lengthOf here + 1 + name.utf8ByteSize then none
    else if longestName < name.utf8ByteSize && d.hasDirectory here then none
    else if (d.entry? here).isSome && !d.hasDirectory here then none
    else spell d (here ++ [name]) rest

/-- A file whose name leaves no room for that of its journal. -/
def isCramped (place : List String) : Bool :=
  place.getLast?.any fun name => longestWritable < name.utf8ByteSize

/-- What stands at the place of a database file. -/
def database (d : Disk) (place : List String) : Place :=
  if !d.hasDirectory place.dropLast then .unusable
  else
    match d.entry? place with
    | none => if isCramped place then .unwritable else .absent
    | some .directory => .unusable
    | some (.file bytes) => if bytes.size = 0 then .database {} else .foreign
    | some (.catalog _) => (openPlace catalogSchemas catalogLabel .absent).place
    | some (.history _) => (openPlace historySchemas historyLabel .absent).place
    | some (.database db) => .database db

/-- The place of the database file that a path spells. A zero character ends no path. -/
def spelled? (d : Disk) (path : String) : Option (List String) :=
  if path.contains '\x00' then none else d.spell (d.start path) (names path)

/-- Opens a database at a path: the place of its file, if there can be one, and what came of it. -/
def opened (d : Disk) (schemas : List VersionedSchema) (label path : String) :
    Option (List String) × Opened :=
  let open? := if d.isThere path then openPlace else createPlace
  match d.spelled? path with
  | none => (none, open? schemas label .unusable)
  | some place => (some place, open? schemas label (d.database place))

/-- Opens a database at a path, which tells the place of its file. -/
def openDatabase (d : Disk) (schemas : List VersionedSchema) (label path : String) :
    Except OpenError (List String) :=
  let (place?, o) := d.opened schemas label path
  o.result.map fun () => place?.getD []

/-- Opens a database at a path and leaves there what comes of it. -/
def openVersioned (d : Disk) (schemas : List VersionedSchema) (label path : String) :
    Except OpenError Unit × Disk :=
  match d.opened schemas label path with
  | (some place, ⟨result, .database db⟩) => (result, d.put place (.database db))
  | (_, o) => (o.result, d)

/-- The database that a path leads to. -/
def database? (d : Disk) (path : String) : Option Database :=
  match d.locate path with
  | .error _ => none
  | .ok place =>
    match d.entry? place with
    | some (.database db) => some db
    | _ => none

/-- Opens the catalog at a path. -/
def openCatalog (d : Disk) (path : String) : Except OpenError (List String × Catalog) :=
  (d.openDatabase catalogSchemas catalogLabel path).map fun place =>
    match d.entry? place with
    | some (.catalog c) => (place, c)
    | _ => (place, {})

/-- Opens the run history at a path. -/
def openHistory (d : Disk) (path : String) : Except OpenError (List String × RunHistory) :=
  (d.openDatabase historySchemas historyLabel path).map fun place =>
    match d.entry? place with
    | some (.history h) => (place, h)
    | _ => (place, {})

end PackageIndex.Disk
