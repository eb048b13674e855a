import PackageIndex.Text.Digits
/-!
String literals of JSON. Writing escapes quotes, backslashes and control characters and
leaves every other character as it is. Reading also knows the other escapes; a
character beyond the first plane may be written as a pair of surrogate escapes, and a
surrogate escape without its partner denotes no character.
-/
namespace PackageIndex.Json

open PackageIndex.Text

/-- What one place of a literal stands for: a character, a unit of sixteen bits, or
nothing at all. -/
inductive Piece where
  | char (c : Char)
  | unit (n : Nat)
  | nothing
  deriving DecidableEq

def escape (c : Char) : List Char :=
  if c = '"' then ['\\', '"']
  else if c = '\\' then ['\\', '\\']
  else if c = '\x08' then ['\\', 'b']
  else if c = '\x0c' then ['\\', 'f']
  else if c = '\n' then ['\\', 'n']
  else if c = '\r' then ['\\', 'r']
  else if c = '\t' then ['\\', 't']
  else if c < ' ' then ['\\', 'u'] ++ paddedHex 4 c.toNat
  else [c]

/-- The literal of a text, with its quotes. -/
def literal (s : List Char) : List Char := '"' :: (s.flatMap escape ++ ['"'])

/-- The character of a backslash and a letter. -/
def unescape? : Char → Option Char
  | '"' => some '"'
  | '\\' => some '\\'
  | '/' => some '/'
  | 'b' => some '\x08'
  | 'f' => some '\x0c'
  | 'n' => some '\n'
  | 'r' => some '\r'
  | 't' => some '\t'
  | _ => none

/-- Reads a literal's pieces after its opening quote, up to its closing quote. -/
def pieces? : List Char → Option (List Piece × List Char)
  | [] => none
  | '"' :: rest => some ([], rest)
  | '\\' :: 'u' :: a :: b :: c :: d :: rest => do
    let n ← ofDigits? 16 hexValue? [a, b, c, d]
    let (ps, rest) ← pieces? rest
    some (.unit n :: ps, rest)
  | '\\' :: e :: rest => do
    let c ← unescape? e
    let (ps, rest) ← pieces? rest
    some (.char c :: ps, rest)
  | c :: rest => do
    if c < ' ' then none else
      let (ps, rest) ← pieces? rest
      some (.char c :: ps, rest)

def isLeading (n : Nat) : Bool := 0xD800 ≤ n && n < 0xDC00

def isTrailing (n : Nat) : Bool := 0xDC00 ≤ n && n < 0xE000

/-- The character of a leading and a trailing surrogate. -/
def paired (high low : Nat) : Char :=
  Char.ofNat (0x10000 + (high - 0xD800) * 0x400 + (low - 0xDC00))

/-- The text of a literal's pieces, when every surrogate has its partner. -/
def assemble? : List Piece → Option (List Char)
  | [] => some []
  | .char c :: rest => (assemble? rest).map (c :: ·)
  | .nothing :: rest => assemble? rest
  | .unit high :: .unit low :: rest =>
    if isLeading high && isTrailing low then (assemble? rest).map (paired high low :: ·)
    else if isLeading high || isTrailing high then none
    else (assemble? (.unit low :: rest)).map (Char.ofNat high :: ·)
  | .unit n :: rest =>
    if isLeading n || isTrailing n then none
    else (assemble? rest).map (Char.ofNat n :: ·)

end PackageIndex.Json
