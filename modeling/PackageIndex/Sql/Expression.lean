import PackageIndex.Sql.Token
/-!
Expressions of defaults, conditions and indices. Only what decides whether a definition is
accepted is kept of them: the names they use, the functions they call, and where rows of
several values stand.
-/
namespace PackageIndex.Sql

/-- What an expression with parts is. -/
inductive Form where
  /-- An operator or a conversion. -/
  | operator
  /-- Several cases, of one value where there is a base. -/
  | distinction (hasBase : Bool)
  | comparison
  /-- A value between two bounds. -/
  | between
  /-- A value among others. -/
  | membership
  /-- Several values in brackets. -/
  | row
  | collate (order : String)
  /-- A function; what orders its values follows them as further parts. -/
  | call (function : String) (isOrdered : Bool)
  /-- The end of a trigger's program. -/
  | raise
  deriving DecidableEq

inductive Expr where
  | literal (kind : Kind) (written : List Char)
  | text (s : String)
  | name (s : String) (quote? : Option Char)
  /-- A column with its table's name before it, and perhaps a database's. -/
  | path (names : List String)
  | node (form : Form) (parts : List Expr)

/-- Words that are values. -/
def isTruth (name : String) : Bool := folded name = "true" || folded name = "false"

namespace Expr

def zero : Expr := .literal .integer ['0']

def one : Expr := .literal .integer ['1']

def null : Expr := .literal (.word "null") "null".toList

def isNull : Expr → Bool
  | .literal (.word _) _ => true
  | _ => false

/-- An integer that is written and is zero. -/
def isZero : Expr → Bool
  | .literal .integer digits => digits.all fun c => c = '0' || c = 'x' || c = 'X'
  | _ => false

/-- A fraction that is written and does not exceed one. -/
def isShare : Expr → Bool
  | .literal .real digits =>
    let whole := (digits.takeWhile (· ≠ '.')).dropWhile (· = '0')
    let fraction := (digits.dropWhile (· ≠ '.')).drop 1
    fraction.all Text.isDigit && (whole = [] || whole = ['1'] && fraction.all (· = '0'))
  | _ => false

def isRow : Expr → Bool
  | .node .row _ => true
  | _ => false

/-- The number of values of an expression. -/
def width : Expr → Nat
  | .node .row parts => parts.length
  | _ => 1

mutual

/-- A property holds of an expression and of all its parts. -/
def all (p : Expr → Bool) : Expr → Bool
  | .node form parts => p (.node form parts) && allOf p parts
  | .literal kind written => p (.literal kind written)
  | .text s => p (.text s)
  | .name s quote? => p (.name s quote?)
  | .path names => p (.path names)

/-- A property holds of some expressions and of all their parts. -/
def allOf (p : Expr → Bool) : List Expr → Bool
  | [] => true
  | e :: es => all p e && allOf p es

end

mutual

/-- The number of levels of an expression. -/
def height : Expr → Nat
  | .node _ parts => greatestHeight parts + 1
  | .literal _ _ => 1
  | .text _ => 1
  | .name _ _ => 1
  | .path _ => 1

def greatestHeight : List Expr → Nat
  | [] => 0
  | e :: es => max (height e) (greatestHeight es)

end

def isCall : Expr → Bool
  | .node (.call _ _) _ => true
  | _ => false

/-- Both of two conditions. A written zero decides it at once, if no function is called. -/
def conjunction (a b : Expr) : Expr :=
  if (a.isZero || b.isZero) && allOf (!·.isCall) [a, b] then zero
  else .node .operator [a, b]

/-- A value among none is false, whatever it is. -/
def among (isNegated : Bool) (value : Expr) : List Expr → Expr
  | [] => if isNegated then one else zero
  | values => .node .membership (value :: values)

/-- A word that is a value, and perhaps an order of texts that it does not need. -/
def isTruthWord : Expr → Bool
  | .name s none => isTruth s
  | .node (.collate _) [e] => isTruthWord e
  | _ => false

/-- To be null or true is not a comparison: it is asked of the first part alone. -/
def identity (a b : Expr) : Expr :=
  if b.isNull || b.isTruthWord then .node .operator [a] else .node .comparison [a, b]

end Expr

end PackageIndex.Sql
