import PackageIndex.Toml.Scalar
import PackageIndex.Toml.Text
/-!
Reading a TOML document: its keys, its values and its lines. Keys have fewer than eighty
parts, and arrays and braces nest fewer than eighty deep.
-/
namespace PackageIndex.Toml

open PackageIndex.Text

/-- From how many parts of a key, or levels of nesting, a document is refused. -/
def depthLimit : Nat := 80

def isBareKey (c : Char) : Bool :=
  isDigit c || ('a' ≤ c && c ≤ 'z') || ('A' ≤ c && c ≤ 'Z') || c = '-' || c = '_'

def keyPart? : List Char → Reading
  | '"' :: rest => basic? rest
  | '\'' :: rest => literal? rest
  | cs =>
    let run := cs.takeWhile isBareKey
    if run = [] then none else some (run, cs.dropWhile isBareKey)

/-- Reads the parts of a key, with the spaces around them. -/
def keyParts? : Nat → List Char → Option (List String × List Char)
  | 0, _ => none
  | fuel + 1, cs => do
    let (part, rest) ← keyPart? (skipSpace cs)
    match skipSpace rest with
    | '.' :: rest =>
      (keyParts? fuel rest).map fun (parts, rest) => (String.ofList part :: parts, rest)
    | rest => some ([String.ofList part], rest)

/-- Reads a key: the path of its leading parts, and its last part. -/
def key? (cs : List Char) : Option ((List String × String) × List Char) := do
  let (parts, rest) ← keyParts? cs.length cs
  let last ← parts.getLast?
  if parts.length < depthLimit then some ((parts.dropLast, last), rest) else none

/-- Reads a key and the equals sign after it. -/
def keyOf? (cs : List Char) : Option ((List String × String) × List Char) := do
  let (key, rest) ← key? cs
  match rest with
  | '=' :: rest => some (key, rest)
  | _ => none

/-- Skips blanks, line breaks and comments; the flag says whether a comment has begun. -/
def skipFiller : Bool → List Char → List Char
  | _, '\n' :: rest => skipFiller false rest
  | _, '\r' :: '\n' :: rest => skipFiller false rest
  | false, ' ' :: rest => skipFiller false rest
  | false, '\t' :: rest => skipFiller false rest
  | false, '#' :: rest => skipFiller true rest
  | true, c :: rest => if isPlain c then skipFiller true rest else c :: rest
  | _, cs => cs

/-- The table of the entries between two braces. -/
def braced? (entries : List ((List String × String) × Value)) : Option Value :=
  (entries.foldlM (fun table ((path, key), v) => Entries.put? path key v table) []).map
    Value.braced

mutual

/-- Reads one value inside so many brackets; each step of the reading uses up one unit of
fuel. -/
def value? : Nat → Nat → List Char → Found
  | 0, _, _ => none
  | fuel + 1, depth, cs =>
    match cs with
    | '[' :: rest =>
      if depth + 1 < depthLimit then
        (items? fuel (depth + 1) rest).map fun (items, rest) => (.array items, rest)
      else none
    | '{' :: rest =>
      if depth + 1 < depthLimit then
        match skipSpace rest with
        | '}' :: rest => some (.braced [], rest)
        | rest => do
          let (entries, rest) ← entries? fuel (depth + 1) rest
          some (← braced? entries, rest)
      else none
    | '"' :: _ => (string? cs).map fun (s, rest) => (.text (String.ofList s), rest)
    | '\'' :: _ => (string? cs).map fun (s, rest) => (.text (String.ofList s), rest)
    | 't' :: 'r' :: 'u' :: 'e' :: rest => some (.boolean true, rest)
    | 'f' :: 'a' :: 'l' :: 's' :: 'e' :: rest => some (.boolean false, rest)
    | cs => quantity? cs

/-- Reads the items of an array up to its closing bracket. -/
def items? : Nat → Nat → List Char → Option (List Value × List Char)
  | 0, _, _ => none
  | fuel + 1, depth, cs =>
    match skipFiller false cs with
    | ']' :: rest => some ([], rest)
    | cs => do
      let (item, rest) ← value? fuel depth cs
      match skipFiller false rest with
      | ']' :: rest => some ([item], rest)
      | ',' :: rest =>
        (items? fuel depth rest).map fun (items, rest) => (item :: items, rest)
      | _ => none

/-- Reads one or more entries up to a closing brace. -/
def entries? : Nat → Nat → List Char →
    Option (List ((List String × String) × Value) × List Char)
  | 0, _, _ => none
  | fuel + 1, depth, cs => do
    let (key, rest) ← keyOf? cs
    let (v, rest) ← value? fuel depth (skipSpace rest)
    match skipSpace rest with
    | '}' :: rest => some ([(key, v)], rest)
    | ',' :: rest =>
      (entries? fuel depth rest).map fun (entries, rest) => ((key, v) :: entries, rest)
    | _ => none

end

/-- What follows the end of a line, before which blanks and a comment may stand. -/
def lineEnd? (cs : List Char) : Option (List Char) :=
  let rest := match skipSpace cs with
    | '#' :: comment => comment.dropWhile isPlain
    | rest => rest
  if rest = [] then some [] else newline? rest

/-- Reads what a line says, without the line's end. -/
def statement? : List Char → Option (Statement × List Char)
  | '[' :: '[' :: rest => do
    let ((path, key), rest) ← key? rest
    match rest with
    | ']' :: ']' :: rest => some (.nextHeader path key, rest)
    | _ => none
  | '[' :: rest => do
    let ((path, key), rest) ← key? rest
    match rest with
    | ']' :: rest => some (.header path key, rest)
    | _ => none
  | cs => do
    let ((path, key), rest) ← keyOf? cs
    let (v, rest) ← value? (2 * rest.length + 2) 0 (skipSpace rest)
    some (.entry path key v, rest)

/-- Reads all lines; each uses up one unit of fuel. -/
def statements? : Nat → List Char → Option (List Statement)
  | 0, _ => none
  | fuel + 1, cs =>
    match lineEnd? cs with
    | some [] => some []
    | some rest => statements? fuel rest
    | none => do
      let (s, rest) ← statement? (skipSpace cs)
      (statements? fuel (← lineEnd? rest)).map (s :: ·)

/-- The entries of a document, which a byte order mark may precede. -/
def ofText? (cs : List Char) : Option Entries := do
  let cs := match cs with
    | '\ufeff' :: rest => rest
    | cs => cs
  assemble? (← statements? (cs.length + 1) cs)

end PackageIndex.Toml
