import PackageIndex.Sql.Expression
import PackageIndex.Sql.Function
/-!
What an expression may use where it stands. A default sees no column at all. Everything else
sees the columns of one table; conditions on a row see more of it than what is stored or
sorted, and what is computed as soon as it is defined has to make sense as a computation.
-/
namespace PackageIndex.Sql

/-- Orders of text that there are. -/
def orders : List String := ["binary", "nocase", "rtrim"]

def isOrder (name : String) : Bool := orders.contains (folded name)

/-- Names for the number of a row. -/
def isRowNumber (name : String) : Bool := ["rowid", "oid", "_rowid_"].contains (folded name)

namespace Expr

/-- A part of a default: any function may be called, but only values may be named. -/
def isConstantPart : Expr → Bool
  | .name s quote? => quote?.isNone && isTruth s
  | .path _ => false
  | .node .raise _ => false
  | _ => true

def isConstant (e : Expr) : Bool := e.all isConstantPart

mutual

/-- The order that an expression names for its texts: the outermost, and of several the
leftmost one. -/
def order? : Expr → Option String
  | .node (.collate order) _ => some order
  | .node _ parts => firstOrder? parts
  | .literal _ _ => none
  | .text _ => none
  | .name _ _ => none
  | .path _ => none

def firstOrder? : List Expr → Option String
  | [] => none
  | e :: es => (order? e).or (firstOrder? es)

end

/-- The order in which two values are compared is there; rows are compared part by part. -/
def areComparable (a b : Expr) : Bool :=
  let areOrdered (a b : Expr) : Bool := (firstOrder? [a, b]).all isOrder
  match a, b with
  | .node .row lefts, .node .row rights => (lefts.zip rights).all fun (a, b) => areOrdered a b
  | a, b => areOrdered a b

/-- Functions that compare their values. -/
def comparingFunctions : List String := ["max", "min", "nullif"]

/-- The order in which a function compares its values is there: the first that is named, unless
a column comes before it. -/
def haveOrder : List Expr → Bool
  | [] => true
  | .name _ _ :: _ => true
  | e :: es =>
    match e.order? with
    | some order => isOrder order
    | none => haveOrder es

/-- No part is a row. -/
def areSingle (parts : List Expr) : Bool := parts.all (!·.isRow)

/-- A value, or a row whose parts are no rows. -/
def isFlat : Expr → Bool
  | .node .row values => areSingle values
  | _ => true

/-- The cases of one value compare it with as many values, and each result is a single one. -/
def areCasesOf (base : Expr) : List Expr → Bool
  | case :: result :: rest =>
    case.width = base.width && areComparable base case && !result.isRow && areCasesOf base rest
  | rest => areSingle rest

/-- An expression with parts makes sense when it is computed: rows are only compared, and
the orders of comparisons are there. -/
def isComputable : Expr → Bool
  | .node .comparison [a, b] => a.isFlat && b.isFlat && areComparable a b
  | .node .between [a, low, high] =>
    a.isFlat && low.isFlat && high.isFlat && areComparable a low && areComparable a high
  | .node .membership parts => areSingle parts && (firstOrder? (parts.take 1)).all isOrder
  | .node (.distinction true) (base :: rest) => areCasesOf base rest
  | .node .row _ => true
  | .node .raise _ => false
  | .node (.call function _) parts =>
    areSingle parts && (comparingFunctions.contains (folded function) → haveOrder parts)
  | .node _ parts => areSingle parts
  | _ => true

end Expr

/-- Where an expression of a table stands. -/
inductive Use where
  /-- A condition on every row of a table. -/
  | check
  /-- The condition on the rows of an index. -/
  | condition
  | index
  /-- A column that is computed when it is read. -/
  | virtualColumn
  /-- A column that is computed when it is written. -/
  | storedColumn
  deriving DecidableEq

namespace Use

def seesTable (u : Use) : Bool := u = check || u = condition

def isFixed (u : Use) : Bool := u ≠ check

def isComputed (u : Use) : Bool := u ≠ check && u ≠ storedColumn

end Use

/-- The table whose columns an expression may name. -/
structure Scope where
  table : String
  columns : List String
  numbersRows : Bool

namespace Scope

def hasColumn (s : Scope) (name : String) : Bool := s.columns.any (sameName name)

/-- A name stands for a column or for the number of a row. -/
def resolves (s : Scope) (u : Use) (name : String) : Bool :=
  s.hasColumn name || (u.seesTable && s.numbersRows && isRowNumber name)

/-- An expression may stand there, its parts aside. -/
def allowsPart (s : Scope) (u : Use) : Expr → Bool
  | .name n quote? =>
    s.resolves u n || quote? = some '"' || (quote?.isNone && isTruth n)
  | .path names =>
    match names.reverse with
    | column :: table :: _ => u.seesTable && sameName table s.table && s.resolves u column
    | _ => false
  | .node .comparison [a, b] => a.width = b.width
  | .node .between [a, low, high] => a.width = low.width && a.width = high.width
  | .node (.call function isOrdered) parts =>
    !isOrdered
      && (if u.isFixed then isFixedFunction else isFunction) (folded function) parts.length
      && (folded function ≠ "likelihood" || (parts.drop 1).all Expr.isShare)
  | _ => true

/-- An expression may stand there. -/
def allows (s : Scope) (u : Use) (e : Expr) : Bool :=
  e.all (s.allowsPart u) && (!u.isComputed || (!e.isRow && e.all Expr.isComputable))

end Scope

end PackageIndex.Sql
