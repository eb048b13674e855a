/-!
Tables and indices as a database keeps them.
-/
namespace PackageIndex.Schema

/-- A value of a row. -/
inductive Cell where
  | null
  | integer (n : Int)
  | text (s : String)
  | blob (bytes : List UInt8)
  deriving DecidableEq

/-- A column as the database reports it. -/
structure StoredColumn where
  name : String
  type : String
  nonNull : Bool
  default? : Option String
  /-- Position in the primary key, counted from one; zero outside it. -/
  keyPosition : Nat
  deriving DecidableEq

structure StoredTable where
  name : String
  columns : List StoredColumn
  /-- Columns that are computed, and that are not reported. -/
  computed : List String := []
  /-- Rows have numbers. -/
  numbersRows : Bool := true
  /-- It answers like a table for what is kept in others. -/
  isView : Bool := false
  rows : List (List Cell) := []
  deriving DecidableEq

structure StoredIndex where
  name : String
  table : String
  /-- Made with its table, for a rule of it. -/
  isAutomatic : Bool := false
  deriving DecidableEq

namespace StoredTable

/-- All names that expressions of the table may use for its columns. -/
def columnNames (t : StoredTable) : List String := t.columns.map (·.name) ++ t.computed

end StoredTable

end PackageIndex.Schema
