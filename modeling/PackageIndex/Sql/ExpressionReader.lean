import PackageIndex.Sql.Expression
import PackageIndex.Sql.Reader
/-!
Reading expressions. Every operator has a level, and the higher one binds more closely; of
two on one level the left one does. What stands in brackets, in calls and in case
distinctions is read from the lowest level on. Queries are not read.
-/
namespace PackageIndex.Sql

open Reader

/-- The levels of the operators that follow a first part. -/
def levels : List (Kind × Nat) :=
  [ (.word "or", 1), (.word "and", 2), (.word "not", 3), (.word "is", 4), (.word "match", 4)
  , (.word "like", 4), (.word "glob", 4), (.word "regexp", 4), (.word "between", 4)
  , (.word "in", 4), (.word "isnull", 4), (.word "notnull", 4), (.symbol "=", 4)
  , (.symbol "==", 4), (.symbol "<>", 4), (.symbol "!=", 4), (.symbol "<", 5)
  , (.symbol "<=", 5), (.symbol ">", 5), (.symbol ">=", 5), (.symbol "&", 7)
  , (.symbol "|", 7), (.symbol "<<", 7), (.symbol ">>", 7), (.symbol "+", 8)
  , (.symbol "-", 8), (.symbol "*", 9), (.symbol "/", 9), (.symbol "%", 9)
  , (.symbol "||", 10), (.symbol "->", 10), (.symbol "->>", 10), (.word "collate", 11) ]

/-- The level of what follows a sign. -/
def signLevel : Nat := 12

/-- The level of what follows a negation. -/
def negationLevel : Nat := 3

/-- The level above all comparisons for identity. -/
def innerLevel : Nat := 5

def comparisons : List String := ["=", "==", "<>", "!=", "<", "<=", ">", ">="]

/-- Operators that are functions. -/
def patternWords : List String := ["like", "glob", "regexp", "match"]

def momentWords : List String := ["current_date", "current_time", "current_timestamp"]

/-- Words that begin a query where a bracket is open. -/
def queryWords : List String := ["select", "values", "with"]

/-- The most parts of a call. -/
def mostArguments : Nat := 127

/-- The most levels of an expression. -/
def greatestHeight : Nat := 1000

/-- In a number, only digits stand beside an underscore. -/
def isWellSeparated (cs : List Char) : Bool :=
  let isDigit := if startsHex cs then Text.isHexDigit else Text.isDigit
  let rec go : Char → List Char → Bool
    | _, [] => true
    | a, b :: rest =>
      (b ≠ '_' || isDigit a && rest.head?.any isDigit) && go b rest
  go ' ' cs

/-- One operator between two parts. -/
def binary (kind : Kind) (a b : Expr) : Expr :=
  match kind with
  | .symbol s =>
    if comparisons.contains s then .node .comparison [a, b]
    else if s = "->" ∨ s = "->>" then .node (.call s false) [a, b]
    else .node .operator [a, b]
  | .word "and" => Expr.conjunction a b
  | _ => .node .operator [a, b]

/-- A type: some words, and one or two numbers in brackets. -/
def typeName (fuel : Nat) : Reader Unit := do
  let isNamed ← takes Token.isTypeWord
  if isNamed then
    let _ ← many (do return if ← takes Token.isTypeWord then some () else none) fuel
    if ← takesSymbol "(" then
      let sign : Reader Unit := do
        let _ ← takes fun t => t.isSymbol "+" || t.isSymbol "-"
        let _ ← next Token.isNumber
      sign
      if ← takesSymbol "," then sign
      symbol ")"

/-- The direction of an order, and whether it says where nulls stand. -/
def direction : Reader (Bool × Bool) := do
  let direction? ← takesWordOf ["asc", "desc"]
  let isExplicit ← takesWord "nulls"
  if isExplicit then
    let _ ← next fun t => t.isWord "first" || t.isWord "last"
  return (direction? = some "desc", isExplicit)

mutual

/-- Reads an expression of a level or a higher one. -/
def expression : Nat → Nat → Reader Expr
  | 0, _ => failure
  | fuel + 1, level => do operators fuel level true (← operand fuel)

/-- Reads the operators behind a first part, as far as they are of a level or a higher one.
The first bound of a value between two does not take the word that joins them. -/
def operators : Nat → Nat → Bool → Expr → Reader Expr
  | 0, _, _, _ => failure
  | fuel + 1, level, conjoins, left => do
    let some t ← peek? | return left
    let some own := levels.lookup t.kind | return left
    if own < level ∨ (!conjoins ∧ t.isWord "and") then return left
    let t ← next fun _ => true
    operators fuel level conjoins (← applied fuel own t.kind left)

/-- Reads what belongs to an operator behind its first part. -/
def applied : Nat → Nat → Kind → Expr → Reader Expr
  | 0, _, _, _ => failure
  | fuel + 1, own, kind, left =>
    match kind with
    | .word "is" => do
      let _ ← takesWord "not"
      if ← takesWord "distinct" then word "from"
      return Expr.identity left (← expression fuel innerLevel)
    | .word "isnull" | .word "notnull" => return .node .operator [left]
    | .word "collate" => do
      let order ← next Token.isTypeWord
      return .node (.collate order.name) [left]
    | .word "not" => do
      if ← takesWord "null" then return .node .operator [left]
      let t ← next fun t => t.isWord "between" || t.isWord "in"
        || patternWords.any fun w => t.isWord w
      return .node .operator [← tested fuel t.kind true left]
    | .word "between" | .word "in" | .word "like" | .word "glob" | .word "regexp"
    | .word "match" => tested fuel kind false left
    | kind => return binary kind left (← expression fuel (own + 1))

/-- Reads what a part is tested against: bounds, other values or a pattern. -/
def tested : Nat → Kind → Bool → Expr → Reader Expr
  | 0, _, _, _ => failure
  | fuel + 1, kind, isNegated, left =>
    match kind with
    | .word "between" => do
      let low ← operators fuel 1 false (← operand fuel)
      word "and"
      return .node .between [left, low, ← expression fuel innerLevel]
    | .word "in" => do
      symbol "("
      let values ← if ← takesSymbol ")" then pure [] else bracketed fuel
      if left.isRow ∧ values ≠ [] then failure
      return Expr.among isNegated left values
    | .word pattern => do
      let right ← expression fuel innerLevel
      let escape ← if ← takesWord "escape" then pure [← expression fuel innerLevel] else pure []
      return .node (.call pattern false) (right :: left :: escape)
    | _ => failure

/-- Reads expressions between commas up to the bracket that closes them. -/
def bracketed : Nat → Reader (List Expr)
  | 0 => failure
  | fuel + 1 => do
    let some t ← peek? | failure
    if queryWords.any fun w => t.isWord w then failure
    let parts ← commaSeparated (expression fuel 1) fuel
    symbol ")"
    return parts

/-- Reads a part without operators behind it. -/
def operand : Nat → Reader Expr
  | 0 => failure
  | fuel + 1 => do
    let t ← next fun _ => true
    match t.kind with
    | .symbol "(" => do
      match ← bracketed fuel with
      | [e] => return e
      | parts => return .node .row parts
    | .symbol s =>
      if s = "-" ∨ s = "+" ∨ s = "~" then return .node .operator [← expression fuel signLevel]
      else failure
    | .integer | .real | .blob => return .literal t.kind t.text
    | .separated => if isWellSeparated t.text then return .literal t.kind t.text else failure
    | .word "not" => return .node .operator [← expression fuel negationLevel]
    | .word "null" => return Expr.null
    | .word "case" => distinction fuel
    | .word "cast" => do
      symbol "("
      let e ← expression fuel 1
      word "as"
      typeName fuel
      symbol ")"
      return .node .operator [e]
    | .word "raise" => do
      symbol "("
      let how? ← takesWordOf ["rollback", "abort", "fail"]
      if how?.isNone then
        word "ignore"
        symbol ")"
        return .node .raise []
      symbol ","
      let e ← expression fuel 1
      symbol ")"
      return .node .raise [e]
    | .word w => if momentWords.contains w then return .node (.call w false) [] else named fuel t
    | _ => named fuel t

/-- Reads what follows a name or a text: more names, or the parts of a call. -/
def named : Nat → Token → Reader Expr
  | 0, _ => failure
  | fuel + 1, t => do
    if !t.isObjectName then failure
    if ← takesSymbol "." then
      let second ← next Token.isObjectName
      if ← takesSymbol "." then
        let third ← next Token.isObjectName
        return .path [t.name, second.name, third.name]
      return .path [t.name, second.name]
    if t.kind = .text then return .text t.name
    if ← takesSymbol "(" then called fuel t.name
    else
      return .name t.name (if t.kind = .quotedName then t.text.head? else none)

/-- Reads the parts of a call up to the bracket that closes it. -/
def called : Nat → String → Reader Expr
  | 0, _ => failure
  | fuel + 1, function => do
    if ← takesSymbol "*" then
      symbol ")"
      return .node (.call function false) []
    let _ ← takesWordOf ["distinct", "all"]
    let isEmpty := (← peek?).any fun t => t.isSymbol ")" || t.isWord "order"
    let parts ← if isEmpty then pure [] else commaSeparated (expression fuel 1) fuel
    let order ← if ← takesWord "order" then do
        word "by"
        commaSeparated (do let e ← expression fuel 1; let _ ← direction; return e) fuel
      else pure []
    symbol ")"
    if mostArguments < parts.length then failure
    if parts = [] then return .node (.call function false) []
    return .node (.call function (order ≠ [])) (parts ++ order)

/-- Reads a case distinction after its first word. -/
def distinction : Nat → Reader Expr
  | 0 => failure
  | fuel + 1 => do
    let isBare := (← peek?).any (·.isWord "when")
    let base ← if isBare then pure [] else pure [← expression fuel 1]
    let case : Reader (Option (List Expr)) := do
      if ← takesWord "when" then
        let condition ← expression fuel 1
        word "then"
        return some [condition, ← expression fuel 1]
      else return none
    let cases ← many case fuel
    if cases = [] then failure
    let other ← if ← takesWord "else" then pure [← expression fuel 1] else pure []
    word "end"
    return .node (.distinction !isBare) (base ++ cases.flatten ++ other)

end

/-- Reads an expression that is not too high. -/
def wholeExpression (fuel : Nat) : Reader Expr := do
  let e ← expression fuel 1
  if greatestHeight < e.height then failure else return e

end PackageIndex.Sql
