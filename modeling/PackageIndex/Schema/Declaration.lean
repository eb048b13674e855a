import PackageIndex.Schema.Connection
/-!
Declared schemas: a list of versions, each with the tables that a database of the version
has and with the migration that leads to it from the version before.
-/
namespace PackageIndex.Schema

inductive ColumnType where
  | text
  | integer
  | blob
  deriving DecidableEq

namespace ColumnType

/-- The type in a definition. -/
def keyword : ColumnType → String
  | text => "TEXT"
  | integer => "INTEGER"
  | blob => "BLOB"

/-- The type in a message. -/
def label : ColumnType → String
  | text => "Text"
  | integer => "Integer"
  | blob => "Blob"

def ofKeyword? (s : String) : Option ColumnType :=
  [text, integer, blob].find? fun t => t.keyword = s

theorem ofKeyword?_keyword (t : ColumnType) : ofKeyword? t.keyword = some t := by
  cases t <;> rfl

end ColumnType

structure Column where
  name : String
  type : ColumnType
  isPrimaryKey : Bool := false
  nonNull : Bool := false
  default? : Option String := none
  deriving DecidableEq

structure TableSchema where
  name : String
  columns : List Column
  /-- Names of indices, each with the columns it covers. -/
  indices : List (String × String) := []
  deriving DecidableEq

/-- Why a migration failed. -/
inductive MigrationError where
  | refused
  | failed (reason : String)
  deriving DecidableEq

/-- What an operation that may stop on its way has done so far, and whether it stopped. -/
abbrev Done (ε : Type) := Except ε Unit × Database

/-- A migration works on a connection on which a transaction is open, and could end that. What it
did before it failed stays there; to give that up is the matter of the transaction. -/
abbrev Migration := Connection → Except MigrationError Unit × Connection

structure VersionedSchema where
  version : UInt64
  tables : List TableSchema
  migration : Option Migration := none

/-- A column as it is written in the definition of its table. -/
def Column.definition (c : Column) : List Char :=
  c.name.toList ++ ' ' :: c.type.keyword.toList
    ++ (if c.isPrimaryKey then " PRIMARY KEY".toList else [])
    ++ (if c.nonNull then " NOT NULL".toList else [])
    ++ match c.default? with
      | none => []
      | some text => " DEFAULT ".toList ++ text.toList

/-- The statement that makes a table. -/
def TableSchema.definition (t : TableSchema) : List Char :=
  let columns := (", ".toList).intercalate (t.columns.map (·.definition))
  "CREATE TABLE ".toList ++ t.name.toList ++ " (".toList ++ columns ++ ");".toList

/-- The statement that makes an index over columns of a table. -/
def indexDefinition (table name columns : String) : List Char :=
  "CREATE INDEX ".toList ++ name.toList ++ " ON ".toList ++ table.toList ++ '(' :: columns.toList
    ++ ");".toList

/-- Makes indices one after the other. -/
def createIndices (table : String) : List (String × String) → Database → Done Refusal
  | [], db => (.ok (), db)
  | (name, columns) :: rest, db =>
    match db.execute (indexDefinition table name columns) with
    | .ok db => createIndices table rest db
    | .error e => (.error e, db)

/-- Makes a table and then its indices. -/
def TableSchema.create (t : TableSchema) (db : Database) : Done Refusal :=
  match db.execute t.definition with
  | .error e => (.error e, db)
  | .ok db => createIndices t.name t.indices db

/-- Makes tables one after the other. -/
def createTables : List TableSchema → Database → Done Refusal
  | [], db => (.ok (), db)
  | t :: rest, db =>
    match t.create db with
    | (.ok (), db) => createTables rest db
    | (.error e, db) => (.error e, db)

/-- The migration that brings about what an operation makes of the database. -/
def Migration.writing (change : Database → Done MigrationError) : Migration := fun c =>
  let (result, db) := change c.seen
  (result, c.write db)

/-- The migration that makes some tables and then may fail for a reason of its own. -/
def Migration.creating (tables : List TableSchema) (failure : Option String := none) :
    Migration :=
  .writing fun db =>
    match createTables tables db, failure with
    | (.error _, db), _ => (.error .refused, db)
    | (.ok (), db), some reason => (.error (.failed reason), db)
    | (.ok (), db), none => (.ok (), db)

end PackageIndex.Schema
