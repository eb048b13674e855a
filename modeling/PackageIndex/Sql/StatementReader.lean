import PackageIndex.Sql.ExpressionReader
import PackageIndex.Sql.Statement
/-!
Reading the statements that define tables and indices, and the one that asks for the columns
of a table. A table that is defined by a query (`CREATE TABLE … AS SELECT …`) is left out: such a
statement is not read, and so refused, where a database would make the table. The definition of a
declared table becomes one only by a name that has the query in it.
-/
namespace PackageIndex.Sql

open Reader

def objectName : Reader String := do return (← next Token.isObjectName).name

def qualifiedName : Reader QualifiedName := do
  let first ← objectName
  if ← takesSymbol "." then return { database? := some first, name := ← objectName }
  else return { database? := none, name := first }

/-- The words before the name of something that may be there already. -/
def guard : Reader Bool := do
  if ← takesWord "if" then
    word "not"
    word "exists"
    return true
  else return false

/-- An expression in brackets. -/
def inBrackets (fuel : Nat) : Reader Expr := do
  symbol "("
  let e ← wholeExpression fuel
  symbol ")"
  return e

def term (fuel : Nat) : Reader Term := do
  let expr ← wholeExpression fuel
  let (isDescending, placesNulls) ← direction
  return { expr, isDescending, placesNulls }

/-- Terms in brackets. -/
def terms (fuel : Nat) : Reader (List Term) := do
  symbol "("
  let terms ← commaSeparated (term fuel) fuel
  symbol ")"
  return terms

/-- Names of columns in brackets, without orders. -/
def columnNames (fuel : Nat) : Reader (List String) := do
  symbol "("
  let names ← commaSeparated objectName fuel
  symbol ")"
  return names

def conflictWords : List String := ["rollback", "abort", "fail", "ignore", "replace"]

def conflict : Reader Conflict := do
  if ← takesWord "on" then
    word "conflict"
    let some w ← takesWordOf conflictWords | failure
    return some w
  else return none

/-- What happens to a reference when its target changes. -/
def action : Reader Unit := do
  match ← takesWordOf ["set", "cascade", "restrict", "no"] with
  | some "set" =>
    let _ ← next fun t => t.isWord "null" || t.isWord "default"
  | some "no" => word "action"
  | some _ => return
  | none => failure

/-- One remark on how a reference is kept. -/
def referenceRemark? : Reader (Option Unit) := do
  if ← takesWord "match" then
    let _ ← objectName
    return some ()
  else if ← takesWord "on" then
    let _ ← next fun t => t.isWord "insert" || t.isWord "delete" || t.isWord "update"
    action
    return some ()
  else return none

/-- When a reference that may wait is looked at. -/
def delay : Reader Unit := do
  if ← takesWord "initially" then
    let _ ← next fun t => t.isWord "deferred" || t.isWord "immediate"

/-- The table and the columns that a reference leads to. -/
def target (fuel : Nat) : Reader (Option Nat) := do
  let _ ← objectName
  let isListed := (← peek?).any (·.isSymbol "(")
  let targets? ← if isListed then pure (some (← columnNames fuel).length) else pure none
  let _ ← many referenceRemark? fuel
  return targets?

/-- A value without operators, or a word that stands for one. -/
def isDefaultValue (t : Token) : Bool :=
  match t.kind with
  | .integer | .real | .blob | .text => true
  | .separated => isWellSeparated t.text
  | .word w => w = "null" || momentWords.contains w
  | _ => false

/-- A default: an expression in brackets, of which the text between them counts, a value
with or without a sign, or a name. -/
def defaultRule (fuel : Nat) : Reader ColumnRule := do
  if ← takesSymbol "(" then
    let (e, inner) ← withTokens (wholeExpression fuel)
    let close ← next (·.isSymbol ")")
    let written := inner.flatMap (fun t => t.gap ++ t.text) ++ close.gap
    return .default (trimmed written) (some e)
  else
    let t ← next fun _ => true
    if t.isSymbol "+" ∨ t.isSymbol "-" then
      let value ← next isDefaultValue
      return .default (t.text ++ value.gap ++ value.text) none
    else if isDefaultValue t ∨ t.isDefaultName then return .default t.text none
    else failure

/-- How a column is computed, and the word that says when. -/
def generated (fuel : Nat) : Reader ColumnRule := do
  let e ← inBrackets fuel
  let isMarked := (← peek?).any Token.isIdentifier
  let kind? ← if isMarked then pure (some (← next Token.isIdentifier).text) else pure none
  return .generated e kind?

/-- The words with which rules of a column begin. -/
def ruleWords : List String :=
  [ "constraint", "default", "null", "not", "primary", "unique", "check", "references"
  , "deferrable", "collate", "generated", "as" ]

def columnRule? (fuel : Nat) : Reader (Option ColumnRule) := do
  match ← takesWordOf ruleWords with
  | some "constraint" =>
    let _ ← objectName
    return some .remark
  | some "default" => some <$> defaultRule fuel
  | some "null" =>
    let _ ← conflict
    return some .remark
  | some "not" =>
    if ← takesWord "null" then
      let _ ← conflict
      return some .nonNull
    word "deferrable"
    delay
    return some .remark
  | some "primary" =>
    word "key"
    let direction? ← takesWordOf ["asc", "desc"]
    let onConflict ← conflict
    let isCounted ← takesWord "autoincrement"
    return some (.primaryKey (direction? = some "desc") isCounted onConflict)
  | some "unique" => return some (.unique (← conflict))
  | some "check" => return some (.check (← inBrackets fuel))
  | some "references" => return some (.references (← target fuel))
  | some "deferrable" =>
    delay
    return some .remark
  | some "collate" => return some (.collate (← next Token.isTypeWord).name)
  | some "generated" =>
    word "always"
    word "as"
    some <$> generated fuel
  | some _ => some <$> generated fuel
  | none => return none

def column (fuel : Nat) : Reader ColumnText := do
  let name ← objectName
  let ((), type) ← withTokens (typeName fuel)
  let rules ← many (columnRule? fuel) fuel
  return { name, type := spanned type, rules }

/-- The words with which rules of a table begin. -/
def tableRuleWords : List String := ["constraint", "primary", "unique", "check", "foreign"]

def tableRule (fuel : Nat) : Reader TableRule := do
  match ← takesWordOf tableRuleWords with
  | some "constraint" =>
    let _ ← objectName
    return .remark
  | some "primary" =>
    word "key"
    symbol "("
    let terms ← commaSeparated (term fuel) fuel
    let isCounted ← takesWord "autoincrement"
    symbol ")"
    return .primaryKey terms isCounted (← conflict)
  | some "unique" =>
    let terms ← terms fuel
    return .unique terms (← conflict)
  | some "check" =>
    let e ← inBrackets fuel
    let _ ← conflict
    return .check e
  | some _ =>
    word "key"
    let columns ← columnNames fuel
    word "references"
    let targets? ← target fuel
    if ← takesWord "not" then
      word "deferrable"
      delay
    else if ← takesWord "deferrable" then delay
    return .foreignKey columns targets?
  | none => failure

def startsTableRule : Reader Bool := do
  return (← peek?).any fun t => tableRuleWords.any fun w => t.isWord w

/-- The rules of a table; the commas between them may be left out. -/
def tableRules (inner : Nat) : Nat → Reader (List TableRule)
  | 0 => failure
  | fuel + 1 => do
    let rule ← tableRule inner
    let isJoined ← takesSymbol ","
    if isJoined ∨ (← startsTableRule) then return rule :: (← tableRules inner fuel)
    else return [rule]

/-- The columns of a table and then its rules. -/
def elements (inner : Nat) : Nat → Reader (List ColumnText × List TableRule)
  | 0 => failure
  | fuel + 1 => do
    let c ← column inner
    if ← takesSymbol "," then
      if ← startsTableRule then return ([c], ← tableRules inner fuel)
      let (columns, rules) ← elements inner fuel
      return (c :: columns, rules)
    else return ([c], [])

/-- One option of a table, which is the word for strict types or the one for no row numbers. -/
def tableOption : Reader Bool := do
  if ← takesWord "without" then
    word "rowid"
    return false
  else
    word "strict"
    return true

def tableOptions (fuel : Nat) : Reader (List Bool) := do
  match ← peek? with
  | none => return []
  | some _ => commaSeparated tableOption fuel

def tableStatement (fuel : Nat) : Reader TableStatement := do
  let isGuarded ← guard
  let name ← qualifiedName
  symbol "("
  let (columns, rules) ← elements fuel fuel
  symbol ")"
  let options ← tableOptions fuel
  return { isGuarded, name, columns, rules, isRowless := options.contains false
           isStrict := options.contains true }

def indexStatement (fuel : Nat) : Reader IndexStatement := do
  let isGuarded ← guard
  let name ← qualifiedName
  word "on"
  let table ← objectName
  let terms ← terms fuel
  let condition? ← if ← takesWord "where" then pure (some (← wholeExpression fuel)) else pure none
  return { isGuarded, name, table, terms, condition? }

def statement (fuel : Nat) : Reader Statement := do
  word "create"
  if ← takesWord "table" then return .table (← tableStatement fuel)
  else
    word "index"
    return .index (← indexStatement fuel)

/-- No piece is passed by more readers than this before one is taken. -/
def fuelPerToken : Nat := 8

/-- The first statement of a text. -/
@[irreducible]
def statement? (text : List Char) : Option Statement := do
  let ts ← tokens? text
  run? (statement (fuelPerToken * (ts.length + 1))) ts

/-- The table that a question is about: a name, a number or one of three words. -/
def question : Reader String := do
  word "pragma"
  word "table_info"
  symbol "("
  let sign? ← takesSymbol "-"
  let name ←
    if sign? then pure ("-" ++ String.ofList (← next Token.isNumber).text)
    else if ← takesSymbol "+" then pure (String.ofList (← next Token.isNumber).text)
    else pure (← next fun t => t.isNumber || t.isObjectName
      || t.isWord "on" || t.isWord "delete" || t.isWord "default").name
  symbol ")"
  return name

/-- The table whose columns a text asks for. -/
def questionOf? (text : List Char) : Option String := do
  run? question (← tokens? text)

end PackageIndex.Sql
