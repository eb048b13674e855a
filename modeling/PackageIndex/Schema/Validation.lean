import PackageIndex.Cause
import PackageIndex.Schema.Declaration
import PackageIndex.Text.Quoted
/-!
Comparing a database with a declared schema: tables in their order, columns in theirs, and
of each column name, type, nullability, default and key; then the indices by name.
-/
namespace PackageIndex.Schema

open PackageIndex.Text

inductive Mismatch where
  | columnCount (table : String) (actual expected : List String)
  | columnName (table expected actual : String)
  | columnType (table column : String) (expected : ColumnType) (actual : String)
  | nullability (table column : String) (expected actual : Bool)
  | default (table column : String) (expected actual : Option String)
  | primaryKey (table column : String) (expected actual : Bool)
  | missingIndex (table index : String)
  /-- The table cannot even be asked about. -/
  | unreadable
  deriving DecidableEq

def boolText (b : Bool) : String := if b then "true" else "false"

def optionText : Option String → String
  | none => "None"
  | some s => "Some(" ++ quoted s ++ ")"

def listText (names : List String) : String := "[" ++ String.intercalate ", " names ++ "]"

def differs (table column what expected actual : String) : String :=
  "Table " ++ table ++ " column " ++ column ++ " " ++ what ++ " mismatch: expected "
    ++ expected ++ ", got " ++ actual

def Mismatch.message : Mismatch → String
  | .columnCount table actual expected =>
    "Table " ++ table ++ " has " ++ decimal actual.length ++ " columns, expected "
      ++ decimal expected.length ++ ". Found: " ++ listText actual ++ ", expected: "
      ++ listText expected
  | .columnName table expected actual =>
    "Table " ++ table ++ " column name mismatch: expected " ++ expected ++ ", got " ++ actual
  | .columnType table column expected actual =>
    differs table column "type" expected.label actual
  | .nullability table column expected actual =>
    differs table column "non-null" (boolText expected) (boolText actual)
  | .default table column expected actual =>
    differs table column "default value" (optionText expected) (optionText actual)
  | .primaryKey table column expected actual =>
    differs table column "primary key" (boolText expected) (boolText actual)
  | .missingIndex table index => "Table " ++ table ++ " is missing index '" ++ index ++ "'"
  | .unreadable => Cause.storage.mark

/-- A text without one pair of brackets around it. -/
def withoutBrackets (s : String) : String :=
  match s.toList with
  | '(' :: rest => if rest.getLast? = some ')' then String.ofList rest.dropLast else s
  | _ => s

def checkColumn (table : String) (actual : StoredColumn) (expected : Column) :
    Except Mismatch Unit :=
  if actual.name ≠ expected.name then
    .error (.columnName table expected.name actual.name)
  else if ColumnType.ofKeyword? actual.type ≠ some expected.type then
    .error (.columnType table expected.name expected.type actual.type)
  else if actual.nonNull ≠ expected.nonNull then
    .error (.nullability table expected.name expected.nonNull actual.nonNull)
  else if actual.default?.map withoutBrackets ≠ expected.default?.map withoutBrackets then
    .error (.default table expected.name expected.default? actual.default?)
  else if decide (actual.keyPosition = 1) ≠ expected.isPrimaryKey then
    .error (.primaryKey table expected.name expected.isPrimaryKey
      (decide (actual.keyPosition = 1)))
  else .ok ()

def checkColumns (table : String) : List StoredColumn → List Column → Except Mismatch Unit
  | actual :: actuals, expected :: expecteds => do
    checkColumn table actual expected
    checkColumns table actuals expecteds
  | _, _ => .ok ()

/-- An index and its table have exactly these names. -/
def Database.hasIndex (db : Database) (table name : String) : Bool :=
  db.indices.any fun i => i.name = name && i.table = table

def checkIndices (db : Database) (table : String) :
    List (String × String) → Except Mismatch Unit
  | [] => .ok ()
  | (name, _) :: rest =>
    if db.hasIndex table name then checkIndices db table rest
    else .error (.missingIndex table name)

def TableSchema.validate (t : TableSchema) (db : Database) : Except Mismatch Unit :=
  match db.columnsOf? t.name with
  | none => .error .unreadable
  | some actual =>
    if actual.length ≠ t.columns.length then
      .error (.columnCount t.name (actual.map (·.name)) (t.columns.map (·.name)))
    else do
      checkColumns t.name actual t.columns
      checkIndices db t.name t.indices

def validateTables (db : Database) : List TableSchema → Except Mismatch Unit
  | [] => .ok ()
  | t :: rest => do
    t.validate db
    validateTables db rest

def VersionedSchema.validate (s : VersionedSchema) (db : Database) : Except Mismatch Unit :=
  validateTables db s.tables

end PackageIndex.Schema
