import PackageIndex.Schema.Validation
/-!
Opening a database by its declared schemas. A file that does not exist becomes a database
of the latest version. One that exists has to be at a known version and to match it, and
all migrations above its own then bring it to the latest version in one transaction.
-/
namespace PackageIndex.Schema

open PackageIndex.Text

/-- What stands at the place of a database file. -/
inductive Place where
  | absent
  /-- Nothing can be opened there. -/
  | unusable
  /-- Nothing is there. What is opened becomes an empty file and stays one, because nothing
  can be written beside it. -/
  | unwritable
  /-- A file that is no database. -/
  | foreign
  | database (db : Database)
  deriving DecidableEq

/-- Distance between version numbers in files and the versions of schemas, so that a
database of another program is never taken for one of ours. -/
def baseVersion : UInt64 := 99999

/-- What the file of a version has for its number. The sum wraps, as it does in a build without
checks; in one with checks the program stops at a sum that does not fit. -/
def VersionedSchema.number (s : VersionedSchema) : Int := (baseVersion + s.version).toNat

inductive OpenError where
  | noVersions (label : String)
  | unopenable (label : String)
  /-- The database refused an operation. -/
  | refused
  | invalidVersion (label : String) (version : Int)
  | unknownVersion (label : String) (version : Int)
  | mismatch (label : String) (version : Int) (why : Mismatch)
  | migration (version : UInt64) (why : MigrationError)
  deriving DecidableEq

def OpenError.message : OpenError → String
  | .noVersions label => "No schema versions defined for the " ++ label ++ " database"
  | .unopenable label => "Failed to open " ++ label ++ " database at " ++ Cause.opening.mark
  | .refused => Cause.storage.mark
  | .invalidVersion label version =>
    label ++ " database version " ++ decimalInt version ++ " is invalid (expected >= 1)"
  | .unknownVersion label version =>
    "Unknown " ++ label ++ " database version " ++ decimalInt version
  | .mismatch label version why =>
    becauseOf (label ++ " database schema validation failed for version " ++ decimalInt version)
      why.message
  | .migration version why =>
    becauseOf ("Failed to run migration to version " ++ decimal version.toNat) <| match why with
      | .refused => Cause.storage.mark
      | .failed reason => reason

/-- Makes the tables of a schema and then notes its version; what was made stays when a
later table is refused. -/
def VersionedSchema.create (s : VersionedSchema) (db : Database) : Done Refusal :=
  match createTables s.tables db with
  | (.ok (), db) => (.ok (), db.setVersion s.number)
  | (.error e, db) => (.error e, db)

/-- Runs migrations one after the other, up to the first that fails. -/
def migrate : List VersionedSchema → Connection → Except OpenError Unit × Connection
  | [], c => (.ok (), c)
  | s :: rest, c =>
    match s.migration with
    | none => migrate rest c
    | some run =>
      match run c with
      | (.ok (), c) => migrate rest c
      | (.error why, c) => (.error (.migration s.version why), c)

/-- Brings a database of a version to the latest one. A transaction that is not committed is
rolled back; one that a migration has ended cannot be committed any more. -/
def upgrade (schemas : List VersionedSchema) (latest : VersionedSchema) (version : Int)
    (c : Connection) : Except OpenError Unit × Connection :=
  if version < latest.version.toNat then
    match migrate (schemas.filter fun s => version < s.version.toNat) c.start with
    | (.error e, c) => (.error e, c.rollBack)
    | (.ok (), c) =>
      let c := c.write (c.seen.setVersion latest.number)
      match c.commit? with
      | some c => (.ok (), c)
      | none => (.error .refused, c)
  else (.ok (), c)

/-- Opens a database that exists. -/
def openExisting (schemas : List VersionedSchema) (latest : VersionedSchema) (label : String)
    (c : Connection) : Except OpenError Unit × Connection :=
  let version := c.seen.userVersion - baseVersion.toNat
  if version < 1 then (.error (.invalidVersion label version), c)
  else
    match schemas.find? fun s => (s.version.toNat : Int) = version with
    | none => (.error (.unknownVersion label version), c)
    | some schema =>
      match schema.validate c.seen with
      | .error why => (.error (.mismatch label version why), c)
      | .ok () => upgrade schemas latest version c

/-- Whether the place was opened, and what stands there afterwards. -/
structure Opened where
  result : Except OpenError Unit
  place : Place

/-- Makes a database of the latest version at a place that is taken to be empty. -/
def createPlace (schemas : List VersionedSchema) (label : String) (place : Place) : Opened :=
  match schemas.getLast? with
  | none => ⟨.error (.noVersions label), place⟩
  | some latest =>
    let create (db : Database) : Opened :=
      match latest.create db with
      | (.ok (), db) => ⟨.ok (), .database db⟩
      | (.error _, db) => ⟨.error .refused, .database db⟩
    match place with
    | .unusable => ⟨.error (.unopenable label), .unusable⟩
    | .unwritable => ⟨.error .refused, .database {}⟩
    | .foreign => ⟨.error .refused, .foreign⟩
    | .absent => create {}
    | .database db => create db

def openPlace (schemas : List VersionedSchema) (label : String) (place : Place) : Opened :=
  match schemas.getLast? with
  | none => ⟨.error (.noVersions label), place⟩
  | some latest =>
    match place with
    | .database db =>
      let (result, c) := openExisting schemas latest label { file := db }
      ⟨result, .database c.file⟩
    | .foreign => ⟨.error .refused, .foreign⟩
    | place => createPlace schemas label place

end PackageIndex.Schema
