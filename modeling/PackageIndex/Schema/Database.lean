import PackageIndex.Schema.Draft
import PackageIndex.Schema.System
import PackageIndex.Sql.StatementReader
/-!
Databases, as far as their structure is asked about: a version number, tables with their
columns and rows, and indices. Names are compared without regard to the size of letters.
-/
namespace PackageIndex.Schema

open PackageIndex.Sql

structure Database where
  userVersion : Int := 0
  tables : List StoredTable := []
  indices : List StoredIndex := []
  deriving DecidableEq

/-- The database itself refused an operation. -/
inductive Refusal where
  | refused
  deriving DecidableEq

/-- Names that the database keeps for itself. -/
def isKept (name : String) : Bool := "sqlite_".toList.isPrefixOf (folded name).toList

/-- Where something that is named is made. -/
inductive Site where
  | file
  /-- The connection, with which it ends. -/
  | connection
  deriving DecidableEq

/-- The site that a name says; there are no other databases. -/
def siteOf? (name : QualifiedName) : Option Site :=
  match name.database? with
  | none => some .file
  | some database =>
    if sameName database "main" then some .file
    else if sameName database "temp" then some .connection
    else none

namespace Database

def table? (db : Database) (name : String) : Option StoredTable :=
  db.tables.find? fun t => sameName t.name name

def index? (db : Database) (name : String) : Option StoredIndex :=
  db.indices.find? fun i => sameName i.name name

/-- The table that counts numbers of rows, which comes with the first table that needs it. -/
def counterTable : StoredTable :=
  { name := "sqlite_sequence", columns := untyped ["name", "seq"] }

def withCounter (db : Database) : Database :=
  if (db.table? counterTable.name).isSome then db
  else { db with tables := db.tables ++ [counterTable] }

/-- Adds a table with what comes with it. -/
def add (db : Database) (d : Drafted) : Database :=
  let db := if d.isCounted then db.withCounter else db
  { db with tables := db.tables ++ [d.table], indices := db.indices ++ d.indices }

/-- Makes a table. One that is there already is left as it is where the statement says so;
one of the connection leaves no trace in the file. -/
def createTable (db : Database) (s : TableStatement) : Except Refusal Database :=
  match siteOf? s.name with
  | none => .error .refused
  | some site =>
    if isKept s.name.name then .error .refused
    else if site = .file ∧ (db.table? s.name.name).isSome then
      if s.isGuarded then .ok db else .error .refused
    else if site = .file ∧ (db.index? s.name.name).isSome then .error .refused
    else
      match s.drafted? with
      | none => .error .refused
      | some d => if site = .file then .ok (db.add d) else .ok db

/-- The terms of an index make sense for a table. -/
def areIndexable (s : Scope) (terms : List Term) : Bool :=
  terms.length ≤ mostColumns && terms.all fun t =>
    let e := asColumn t.expr
    s.allows .index e && match e with
      | .node (.collate order) _ => isOrder order
      | _ => true

/-- Makes an index of a table in the file. -/
def createIndex (db : Database) (s : IndexStatement) : Except Refusal Database :=
  match siteOf? s.name, db.table? s.table with
  | some .file, some t =>
    let scope : Scope := { table := t.name, columns := t.columnNames, numbersRows := t.numbersRows }
    if t.isView ∨ s.terms.any (·.placesNulls) ∨ isKept t.name ∨ isKept s.name.name then
      .error .refused
    else if (db.table? s.name.name).isSome then .error .refused
    else if (db.index? s.name.name).isSome then
      if s.isGuarded then .ok db else .error .refused
    else if areIndexable scope s.terms && s.condition?.all (scope.allows .condition) then
      .ok { db with indices := db.indices ++ [{ name := s.name.name, table := t.name }] }
    else .error .refused
  | _, _ => .error .refused

/-- Runs the first statement of a text. -/
def execute (db : Database) (text : List Char) : Except Refusal Database :=
  match statement? text with
  | none => .error .refused
  | some (.table s) => db.createTable s
  | some (.index s) => db.createIndex s

/-- The columns that are reported for a name; a table that is not there has none. -/
def columnsOf (db : Database) (name : String) : List StoredColumn :=
  match db.table? name with
  | some t => t.columns
  | none => (systemColumns? (folded name)).getD []

/-- The question for the columns of a table. -/
def columnsQuestion (table : String) : List Char :=
  "PRAGMA table_info(".toList ++ table.toList ++ ");".toList

/-- Asks for the columns of a table as it is named in a question, if that can be asked. -/
def columnsOf? (db : Database) (table : String) : Option (List StoredColumn) := do
  let name ← questionOf? (columnsQuestion table)
  if unaskable.contains (folded name) ∧ (db.table? name).isNone then none
  else some (db.columnsOf name)

/-- The greatest version number that is kept; a greater one is read as zero. -/
def maxVersion : Int := 0x7fffffff

def setVersion (db : Database) (version : Int) : Database :=
  { db with userVersion := if version ≤ maxVersion then version else 0 }

end Database

end PackageIndex.Schema
