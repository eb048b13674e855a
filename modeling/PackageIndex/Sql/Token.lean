import PackageIndex.Text.Digits
/-!
The pieces of a statement's text: words, names in quotes, literals and symbols, with blanks
and comments between them. A text is read up to its first semicolon or zero character; what
follows is another statement's.
-/
namespace PackageIndex.Sql

open PackageIndex.Text

/-- A text in small letters. -/
def folded (s : String) : String := String.ofList (s.toList.map Char.toLower)

/-- Names that differ in the size of their letters alone are one. -/
def sameName (a b : String) : Bool := folded a = folded b

inductive Kind where
  /-- A word without quotes, here in small letters. -/
  | word (letters : String)
  /-- A name in double quotes, grave accents or square brackets. -/
  | quotedName
  | text
  | blob
  | integer
  | real
  /-- A number with underscores among its digits. -/
  | separated
  | symbol (s : String)
  deriving DecidableEq

structure Token where
  kind : Kind
  /-- As it is written. -/
  text : List Char
  /-- The blanks and comments before it. -/
  gap : List Char
  deriving DecidableEq

def isBlank (c : Char) : Bool := c = ' ' || c = '\t' || c = '\n' || c = '\r' || c = '\x0c'

/-- A vertical tab is a space too, but only after another blank. -/
def isSpace (c : Char) : Bool := isBlank c || c = '\x0b'

/-- A text without the spaces at its ends. -/
def trimmed (cs : List Char) : List Char :=
  ((cs.dropWhile isSpace).reverse.dropWhile isSpace).reverse

def startsWord (c : Char) : Bool := c.isAlpha || c = '_' || 0x80 ≤ c.toNat

def continuesWord (c : Char) : Bool := startsWord c || isDigit c || c = '$'

/-- What follows a comment that a star and a slash close; one left open takes all. -/
def afterComment : List Char → List Char
  | '*' :: '/' :: rest => rest
  | _ :: rest => afterComment rest
  | [] => []

/-- What follows the blanks and comments at the start of a text. -/
def afterGap : Nat → List Char → List Char
  | 0, cs => cs
  | fuel + 1, cs =>
    match cs with
    | '-' :: '-' :: rest => afterGap fuel (rest.dropWhile (· ≠ '\n'))
    | '/' :: '*' :: c :: rest => afterGap fuel (afterComment (c :: rest))
    | c :: rest =>
      if isBlank c then afterGap fuel (rest.dropWhile isSpace)
      else if c = '\uFEFF' then afterGap fuel rest
      else c :: rest
    | [] => []

/-- What follows the quote that closes a text; two of them stand for one. -/
def afterQuote? (quote : Char) : List Char → Option (List Char)
  | [] => none
  | [c] => if c = quote then some [] else none
  | c :: d :: rest =>
    if c = quote then
      if d = quote then afterQuote? quote rest else some (d :: rest)
    else afterQuote? quote (d :: rest)

/-- What follows the bracket that closes a name. -/
def afterBracket? : List Char → Option (List Char)
  | ']' :: rest => some rest
  | _ :: rest => afterBracket? rest
  | [] => none

/-- Bytes, after their opening quote: pairs of hexadecimal digits. -/
def afterBytes? (cs : List Char) : Option (List Char) :=
  match cs.dropWhile isHexDigit with
  | '\'' :: rest => if (cs.takeWhile isHexDigit).length % 2 = 0 then some rest else none
  | _ => none

/-- What follows digits with underscores among them. -/
def afterDigits (isDigit : Char → Bool) (cs : List Char) : List Char :=
  cs.dropWhile fun c => isDigit c || c = '_'

def afterFraction : List Char → List Char
  | '.' :: rest => afterDigits isDigit rest
  | cs => cs

/-- The mark of an exponent counts only before a digit, which may have a sign. -/
def afterExponent (cs : List Char) : List Char :=
  let afterSign : List Char → List Char
    | c :: d :: rest => if (c = '+' ∨ c = '-') ∧ isDigit d then d :: rest else c :: d :: rest
    | cs => cs
  match cs with
  | c :: rest =>
    if (c = 'e' ∨ c = 'E') ∧ (afterSign rest).head?.any isDigit then
      afterDigits isDigit (afterSign rest)
    else c :: rest
  | [] => []

/-- Whether a text begins with a hexadecimal number. -/
def startsHex : List Char → Bool
  | '0' :: c :: d :: _ => (c = 'x' || c = 'X') && isHexDigit d
  | _ => false

def afterNumber (cs : List Char) : List Char :=
  if startsHex cs then afterDigits isHexDigit (cs.drop 2)
  else afterExponent (afterFraction (afterDigits isDigit cs))

def kindOfNumber (cs : List Char) : Kind :=
  if cs.contains '_' then .separated
  else if startsHex cs || cs.all isDigit then .integer
  else .real

/-- Symbols, each before those that it begins with. -/
def symbols : List String :=
  [ "->>", "->", "||", "<<", ">>", "<=", ">=", "<>", "!=", "==", "(", ")", ",", ".", ";", "+"
  , "-", "*", "/", "%", "=", "<", ">", "&", "|", "~" ]

def symbol? (cs : List Char) : Option (Kind × List Char) :=
  (symbols.find? fun s => s.toList.isPrefixOf cs).map fun s =>
    (.symbol s, cs.drop s.length)

/-- The kind of the piece that a text begins with, and what follows it. A number cannot run
into a word, and a value that is to be filled in later is no piece of a definition. -/
def piece? (cs : List Char) : Option (Kind × List Char) :=
  match cs with
  | [] => none
  | c :: rest =>
    if (c = 'x' ∨ c = 'X') ∧ rest.head? = some '\'' then
      (afterBytes? rest.tail).map (.blob, ·)
    else if startsWord c then
      some (.word (folded (String.ofList (cs.takeWhile continuesWord))), cs.dropWhile continuesWord)
    else if isDigit c ∨ (c = '.' ∧ rest.head?.any isDigit) then
      let after := afterNumber cs
      if after.head?.any continuesWord then none
      else some (kindOfNumber (cs.take (cs.length - after.length)), after)
    else if c = '\'' then (afterQuote? c rest).map (.text, ·)
    else if c = '"' ∨ c = '\x60' then (afterQuote? c rest).map (.quotedName, ·)
    else if c = '[' then (afterBracket? rest).map (.quotedName, ·)
    else symbol? cs

/-- Reads pieces up to a semicolon or the end. -/
def tokensFrom? : Nat → List Char → Option (List Token)
  | 0, _ => none
  | fuel + 1, cs =>
    let start := afterGap fuel.succ cs
    if start = [] then some []
    else do
      let (kind, rest) ← piece? start
      if kind = .symbol ";" then some []
      else
        let tokens ← tokensFrom? fuel rest
        let text := start.take (start.length - rest.length)
        some ({ kind, text, gap := cs.take (cs.length - start.length) } :: tokens)

/-- The pieces of the first statement of a text. -/
def tokens? (text : List Char) : Option (List Token) :=
  let cs := text.takeWhile (· ≠ '\x00')
  tokensFrom? (cs.length + 1) cs

/-- The text that some pieces were read from, without the gap before the first. -/
def spanned : List Token → List Char
  | [] => []
  | t :: rest => t.text ++ rest.flatMap fun t => t.gap ++ t.text

/-- Takes the quotes off a text that begins with one; what follows the closing one is lost. -/
def unquoted : List Char → List Char
  | [] => []
  | c :: rest =>
    let quote := if c = '[' then ']' else c
    let rec within : List Char → List Char
      | [] => []
      | [d] => if d = quote then [] else [d]
      | d :: e :: rest =>
        if d = quote then
          if e = quote then quote :: within rest else []
        else d :: within (e :: rest)
    if c = '\'' ∨ c = '"' ∨ c = '\x60' ∨ c = '[' then within rest else c :: rest

end PackageIndex.Sql
