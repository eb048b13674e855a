import PackageIndex.Sql.Token
/-!
Reading the pieces of a statement from left to right. Which words may be names depends on
where they stand: a reserved word never is one, and a few others are in some places alone.
-/
namespace PackageIndex.Sql

/-- Words that are names nowhere. -/
def reservedWords : List String :=
  [ "add", "all", "alter", "and", "as", "autoincrement", "between", "case", "check"
  , "collate", "commit", "constraint", "create", "default", "deferrable", "delete"
  , "distinct", "drop", "else", "escape", "except", "exists", "foreign", "from", "group"
  , "having", "in", "index", "insert", "intersect", "into", "is", "isnull", "join", "limit"
  , "not", "nothing", "notnull", "null", "on", "or", "order", "primary", "references"
  , "returning", "select", "set", "table", "then", "to", "transaction", "union", "unique"
  , "update", "using", "values", "when", "where" ]

/-- Words that join tables elsewhere. -/
def joiningWords : List String := ["cross", "full", "inner", "left", "natural", "outer", "right"]

namespace Token

/-- The name that a piece stands for when it is one. -/
def name (t : Token) : String := String.ofList (unquoted t.text)

def isJoining (t : Token) : Bool :=
  match t.kind with
  | .word w => joiningWords.contains w
  | _ => false

def isIndexed (t : Token) : Bool := t.kind = .word "indexed"

/-- A name wherever names stand. -/
def isIdentifier (t : Token) : Bool :=
  match t.kind with
  | .quotedName => true
  | .word w => !(reservedWords.contains w || joiningWords.contains w || w = "indexed")
  | _ => false

/-- One word of a type, or an order of text. -/
def isTypeWord (t : Token) : Bool := t.isIdentifier || t.kind = .text

/-- A default that is a single name. -/
def isDefaultName (t : Token) : Bool := t.isIdentifier || t.isIndexed

/-- A column or a function inside an expression. -/
def isTermName (t : Token) : Bool := t.isIdentifier || t.isIndexed || t.isJoining

/-- A table, a column, an index or a constraint. -/
def isObjectName (t : Token) : Bool := t.isTermName || t.kind = .text

def isSymbol (s : String) (t : Token) : Bool := t.kind = .symbol s

def isWord (w : String) (t : Token) : Bool := t.kind = .word w

def isNumber (t : Token) : Bool := t.kind = .integer || t.kind = .real

end Token

/-- Takes pieces off the front of a list, or finds that they are not what it reads. -/
abbrev Reader := StateT (List Token) Option

namespace Reader

/-- The next piece, which stays. -/
def peek? : Reader (Option Token) := fun ts => some (ts.head?, ts)

/-- Takes the next piece if it is of a sort. -/
def next (p : Token → Bool) : Reader Token := fun ts =>
  match ts with
  | t :: rest => if p t then some (t, rest) else none
  | [] => none

/-- Whether the next piece is of a sort, and then takes it. -/
def takes (p : Token → Bool) : Reader Bool := fun ts =>
  match ts with
  | t :: rest => if p t then some (true, rest) else some (false, t :: rest)
  | [] => some (false, [])

def symbol (s : String) : Reader Unit := do
  let _ ← next (·.isSymbol s)

def word (w : String) : Reader Unit := do
  let _ ← next (·.isWord w)

def takesSymbol (s : String) : Reader Bool := takes (·.isSymbol s)

def takesWord (w : String) : Reader Bool := takes (·.isWord w)

/-- Whether the next piece is one of some words, and which. -/
def takesWordOf (ws : List String) : Reader (Option String) := fun ts =>
  match ts with
  | { kind := .word w, .. } :: rest => some (if ws.contains w then (some w, rest) else (none, ts))
  | _ => some (none, ts)

/-- What a reader reads, and the pieces that it took. -/
def withTokens {α : Type} (read : Reader α) : Reader (α × List Token) := fun ts => do
  let (a, rest) ← read ts
  some ((a, ts.take (ts.length - rest.length)), rest)

/-- Reads one or more of a kind with commas between them. -/
def commaSeparated {α : Type} (read : Reader α) : Nat → Reader (List α)
  | 0 => failure
  | fuel + 1 => do
    let a ← read
    if ← takesSymbol "," then return a :: (← commaSeparated read fuel) else return [a]

/-- Reads as many of a kind as there are. -/
def many {α : Type} (read? : Reader (Option α)) : Nat → Reader (List α)
  | 0 => failure
  | fuel + 1 => do
    match ← read? with
    | some a => return a :: (← many read? fuel)
    | none => return []

/-- Reads all of some pieces. -/
def run? {α : Type} (read : Reader α) (ts : List Token) : Option α :=
  match read ts with
  | some (a, []) => some a
  | _ => none

end Reader

end PackageIndex.Sql
