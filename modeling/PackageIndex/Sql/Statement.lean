import PackageIndex.Sql.Expression
/-!
Statements that define tables and indices, in the order in which they are written. Whether
a definition makes sense is not decided here.
-/
namespace PackageIndex.Sql

/-- A name, perhaps with a database's before it. -/
structure QualifiedName where
  database? : Option String
  name : String

/-- One part of a key or an index. -/
structure Term where
  expr : Expr
  isDescending : Bool
  placesNulls : Bool

/-- What is done with a row that breaks a rule, where it is said. -/
abbrev Conflict := Option String

inductive ColumnRule where
  /-- The text of a default, and the expression where it stands in brackets. -/
  | default (written : List Char) (value? : Option Expr)
  | nonNull
  | primaryKey (isDescending isCounted : Bool) (conflict : Conflict)
  | unique (conflict : Conflict)
  | check (condition : Expr)
  /-- A reference to another table, with the number of columns it names there. -/
  | references (targets? : Option Nat)
  | collate (order : String)
  /-- A column that is computed, and the word that says when. -/
  | generated (value : Expr) (kind? : Option (List Char))
  /-- A rule that changes nothing that is asked about. -/
  | remark

structure ColumnText where
  name : String
  /-- As it is written; empty where there is none. -/
  type : List Char
  rules : List ColumnRule

inductive TableRule where
  | primaryKey (terms : List Term) (isCounted : Bool) (conflict : Conflict)
  | unique (terms : List Term) (conflict : Conflict)
  | check (condition : Expr)
  | foreignKey (columns : List String) (targets? : Option Nat)
  | remark

structure TableStatement where
  /-- The table may be there already. -/
  isGuarded : Bool
  name : QualifiedName
  columns : List ColumnText
  rules : List TableRule
  isRowless : Bool
  isStrict : Bool

structure IndexStatement where
  /-- The index may be there already. -/
  isGuarded : Bool
  name : QualifiedName
  table : String
  terms : List Term
  condition? : Option Expr

inductive Statement where
  | table (s : TableStatement)
  | index (s : IndexStatement)

end PackageIndex.Sql
