import PackageIndex.Json.Literal
/-!
JSON values as their text shows them. Numbers keep their text, members keep their order
and their repetitions, and a string literal that denotes no text is a value of its own,
so a reader may skip what it does not use without understanding it.
-/
namespace PackageIndex.Json

open PackageIndex.Text

inductive Value where
  | null
  | bool (b : Bool)
  | number (text : List Char)
  /-- A string literal; `none` when a surrogate in it has no partner. -/
  | string (text : Option (List Char))
  | array (items : List Value)
  | object (members : List (Option (List Char) × Value))

def isSpace (c : Char) : Bool := c = ' ' || c = '\n' || c = '\t' || c = '\r'

def skipSpace (cs : List Char) : List Char := cs.dropWhile isSpace

/-- Reads one or more digits. -/
def digitRun? (cs : List Char) : Option (List Char × List Char) :=
  let run := cs.takeWhile isDigit
  if run = [] then none else some (run, cs.dropWhile isDigit)

/-- Reads a fraction part, if there is one. -/
def fraction? : List Char → Option (List Char × List Char)
  | '.' :: rest => (digitRun? rest).map fun (run, rest) => ('.' :: run, rest)
  | cs => some ([], cs)

/-- Reads an exponent part, if there is one. -/
def exponent? : List Char → Option (List Char × List Char)
  | c :: rest =>
    if c = 'e' ∨ c = 'E' then
      match rest with
      | '+' :: rest => (digitRun? rest).map fun (run, rest) => (c :: '+' :: run, rest)
      | '-' :: rest => (digitRun? rest).map fun (run, rest) => (c :: '-' :: run, rest)
      | rest => (digitRun? rest).map fun (run, rest) => (c :: run, rest)
    else some ([], c :: rest)
  | [] => some ([], [])

/-- Reads the digits of a whole part: a zero alone, or digits that do not begin with one. -/
def whole? : List Char → Option (List Char × List Char)
  | '0' :: rest =>
    match rest with
    | c :: _ => if isDigit c then none else some (['0'], rest)
    | [] => some (['0'], [])
  | cs => digitRun? cs

/-- Reads a number without its sign. -/
def magnitude? (cs : List Char) : Option (List Char × List Char) := do
  let (whole, rest) ← whole? cs
  let (fraction, rest) ← fraction? rest
  let (exponent, rest) ← exponent? rest
  some (whole ++ fraction ++ exponent, rest)

def number? : List Char → Option (List Char × List Char)
  | '-' :: rest => (magnitude? rest).map fun (text, rest) => ('-' :: text, rest)
  | cs => magnitude? cs

/-- Reads a string after its opening quote. -/
def string? (cs : List Char) : Option (Option (List Char) × List Char) :=
  (pieces? cs).map fun (ps, rest) => (assemble? ps, rest)

mutual

/-- Reads one value, with blanks before it; each step of the reading uses up one unit of
fuel. -/
def value? : Nat → List Char → Option (Value × List Char)
  | 0, _ => none
  | fuel + 1, cs =>
    match skipSpace cs with
    | '"' :: rest => (string? rest).map fun (s, rest) => (.string s, rest)
    | '[' :: rest =>
      match skipSpace rest with
      | ']' :: rest => some (.array [], rest)
      | rest => (items? fuel rest).map fun (items, rest) => (.array items, rest)
    | '{' :: rest =>
      match skipSpace rest with
      | '}' :: rest => some (.object [], rest)
      | rest => (members? fuel rest).map fun (members, rest) => (.object members, rest)
    | 't' :: 'r' :: 'u' :: 'e' :: rest => some (.bool true, rest)
    | 'f' :: 'a' :: 'l' :: 's' :: 'e' :: rest => some (.bool false, rest)
    | 'n' :: 'u' :: 'l' :: 'l' :: rest => some (.null, rest)
    | rest => (number? rest).map fun (text, rest) => (.number text, rest)

/-- Reads the items of an array up to its closing bracket. -/
def items? : Nat → List Char → Option (List Value × List Char)
  | 0, _ => none
  | fuel + 1, cs => do
    let (item, rest) ← value? fuel cs
    match skipSpace rest with
    | ']' :: rest => some ([item], rest)
    | ',' :: rest => (items? fuel rest).map fun (items, rest) => (item :: items, rest)
    | _ => none

/-- Reads the members of an object up to its closing brace. -/
def members? : Nat → List Char → Option (List (Option (List Char) × Value) × List Char)
  | 0, _ => none
  | fuel + 1, cs =>
    match skipSpace cs with
    | '"' :: rest => do
      let (key, rest) ← string? rest
      match skipSpace rest with
      | ':' :: rest =>
        let (value, rest) ← value? fuel rest
        match skipSpace rest with
        | '}' :: rest => some ([(key, value)], rest)
        | ',' :: rest =>
          (members? fuel rest).map fun (members, rest) => ((key, value) :: members, rest)
        | _ => none
      | _ => none
    | _ => none

end

/-- The value of a whole text, blanks around it allowed. -/
def Value.ofText? (cs : List Char) : Option Value :=
  match value? (2 * cs.length + 2) cs with
  | some (value, rest) => if skipSpace rest = [] then some value else none
  | none => none

/-- The text that a value denotes, when it is a string. -/
def Value.text? : Value → Option String
  | .string s => s.map String.ofList
  | _ => none

/-- The texts of an array of strings. -/
def Value.texts? : Value → Option (List String)
  | .array items => items.mapM Value.text?
  | _ => none

/-- The members of an object whose keys are all texts. -/
def Value.members? : Value → Option (List (String × Value))
  | .object members => members.mapM fun (k, v) => k.map fun k => (String.ofList k, v)
  | _ => none

/-- The literal of a text. -/
def ofString (s : String) : List Char := literal s.toList

/-- The array of some texts. -/
def ofStrings (texts : List String) : List Char :=
  '[' :: (List.intercalate [','] (texts.map ofString) ++ [']'])

/-- The text that a literal denotes, blanks around it allowed. -/
def string?OfText (cs : List Char) : Option String := (Value.ofText? cs).bind Value.text?

/-- The texts of an array of literals, blanks around it allowed. -/
def strings?OfText (cs : List Char) : Option (List String) := (Value.ofText? cs).bind Value.texts?

end PackageIndex.Json
