import PackageIndex.Text.Digits
/-!
The four kinds of strings of a TOML document: with escapes or without, on one line or over
several. A line break in a string of several lines is a line feed, however it is written;
a backslash at the end of a line drops that break and all blanks after it.
-/
namespace PackageIndex.Toml

open PackageIndex.Text

def isSpace (c : Char) : Bool := c = ' ' || c = '\t'

def skipSpace (cs : List Char) : List Char := cs.dropWhile isSpace

/-- The characters of strings and comments: the tab and all that are no ASCII control. -/
def isPlain (c : Char) : Bool := c = '\t' || (' ' ≤ c && c ≠ '\x7f')

/-- What follows a line break. -/
def newline? : List Char → Option (List Char)
  | '\n' :: rest => some rest
  | '\r' :: '\n' :: rest => some rest
  | _ => none

/-- The rest without one line break at its start. -/
def dropNewline (cs : List Char) : List Char := (newline? cs).getD cs

/-- The character of a backslash and a letter. -/
def unescape? : Char → Option Char
  | 'b' => some '\x08'
  | 't' => some '\t'
  | 'n' => some '\n'
  | 'f' => some '\x0c'
  | 'r' => some '\r'
  | '"' => some '"'
  | '\\' => some '\\'
  | _ => none

/-- The character of a number in hexadecimal digits; surrogates have none. -/
def scalar? (digits : List Char) : Option Char := do
  let n ← ofDigits? 16 hexValue? digits
  if h : n.isValidChar then some (Char.ofNatAux n h) else none

/-- A text and what follows it. -/
abbrev Reading := Option (List Char × List Char)

def Reading.prepend (c : Char) (r : Reading) : Reading := r.map fun (cs, rest) => (c :: cs, rest)

/-- Reads a string of one line with escapes, after its opening quote. -/
def basic? : List Char → Reading
  | [] => none
  | '"' :: rest => some ([], rest)
  | '\\' :: 'u' :: a :: b :: c :: d :: rest => do
    let ch ← scalar? [a, b, c, d]
    (basic? rest).prepend ch
  | '\\' :: 'U' :: a :: b :: c :: d :: e :: f :: g :: h :: rest => do
    let ch ← scalar? [a, b, c, d, e, f, g, h]
    (basic? rest).prepend ch
  | '\\' :: e :: rest => do
    let ch ← unescape? e
    (basic? rest).prepend ch
  | c :: rest => if isPlain c then (basic? rest).prepend c else none

/-- Reads a string of one line without escapes, after its opening apostrophe. -/
def literal? (cs : List Char) : Reading :=
  let isPart c := isPlain c && c ≠ '\''
  match cs.dropWhile isPart with
  | '\'' :: rest => some (cs.takeWhile isPart, rest)
  | _ => none

/-- What the quotes after three closing ones add: up to two of them belong to the text. -/
def closing (quote : Char) : List Char → List Char × List Char
  | a :: b :: rest =>
    if a = quote then
      if b = quote then ([quote, quote], rest) else ([quote], b :: rest)
    else ([], a :: b :: rest)
  | [a] => if a = quote then ([quote], []) else ([], [a])
  | [] => ([], [])

/-- Where a reader of several lines stands. -/
inductive Place where
  | text
  /-- After a backslash, with only blanks up to the line's end. -/
  | lineEnd
  /-- Behind a dropped line break. -/
  | indent

/-- Reads a string of several lines with escapes, after its opening quotes. -/
def blockBasic? : Place → List Char → Reading
  | .lineEnd, ' ' :: rest => blockBasic? .lineEnd rest
  | .lineEnd, '\t' :: rest => blockBasic? .lineEnd rest
  | .lineEnd, '\n' :: rest => blockBasic? .indent rest
  | .lineEnd, '\r' :: '\n' :: rest => blockBasic? .indent rest
  | .lineEnd, _ => none
  | .indent, ' ' :: rest => blockBasic? .indent rest
  | .indent, '\t' :: rest => blockBasic? .indent rest
  | .indent, '\n' :: rest => blockBasic? .indent rest
  | .indent, '\r' :: '\n' :: rest => blockBasic? .indent rest
  | _, [] => none
  | _, '"' :: '"' :: '"' :: rest => some (closing '"' rest)
  | _, '\\' :: ' ' :: rest => blockBasic? .lineEnd rest
  | _, '\\' :: '\t' :: rest => blockBasic? .lineEnd rest
  | _, '\\' :: '\n' :: rest => blockBasic? .indent rest
  | _, '\\' :: '\r' :: '\n' :: rest => blockBasic? .indent rest
  | _, '\\' :: 'u' :: a :: b :: c :: d :: rest => do
    let ch ← scalar? [a, b, c, d]
    (blockBasic? .text rest).prepend ch
  | _, '\\' :: 'U' :: a :: b :: c :: d :: e :: f :: g :: h :: rest => do
    let ch ← scalar? [a, b, c, d, e, f, g, h]
    (blockBasic? .text rest).prepend ch
  | _, '\\' :: e :: rest => do
    let ch ← unescape? e
    (blockBasic? .text rest).prepend ch
  | _, '\n' :: rest => (blockBasic? .text rest).prepend '\n'
  | _, '\r' :: '\n' :: rest => (blockBasic? .text rest).prepend '\n'
  | _, c :: rest => if isPlain c then (blockBasic? .text rest).prepend c else none

/-- Reads a string of several lines without escapes, after its opening apostrophes. -/
def blockLiteral? : List Char → Reading
  | [] => none
  | '\'' :: '\'' :: '\'' :: rest => some (closing '\'' rest)
  | '\n' :: rest => (blockLiteral? rest).prepend '\n'
  | '\r' :: '\n' :: rest => (blockLiteral? rest).prepend '\n'
  | c :: rest => if isPlain c then (blockLiteral? rest).prepend c else none

/-- Reads a string of any kind. -/
def string? : List Char → Reading
  | '"' :: '"' :: '"' :: rest => blockBasic? .text (dropNewline rest)
  | '"' :: rest => basic? rest
  | '\'' :: '\'' :: '\'' :: rest => blockLiteral? (dropNewline rest)
  | '\'' :: rest => literal? rest
  | _ => none

end PackageIndex.Toml
