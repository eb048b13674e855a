import PackageIndex.DomainName
import PackageIndex.Text.Percent
/-!
The hosts of addresses: names, and numbers of thirty-two or of a hundred and twenty-eight
bits in their several notations. A name whose last label is a number is meant as a number
as a whole.
-/
namespace PackageIndex.Http

open PackageIndex.Text

inductive Host where
  /-- A name in plain characters. -/
  | name (text : List Char)
  /-- A number of thirty-two bits. -/
  | short (n : Nat)
  /-- Eight numbers of sixteen bits. -/
  | long (parts : List Nat)
  deriving DecidableEq

namespace Host

/-- The number of one part of a short number. Hexadecimal digits follow `0x`, and octal ones
a zero. -/
def part? (cs : List Char) : Option Nat :=
  match cs with
  | [] => none
  | '0' :: 'x' :: rest | '0' :: 'X' :: rest => ofDigits? 16 hexValue? rest
  | '0' :: rest => ofDigits? 8 (fun c => (digitValue? c).filter (· < 8)) rest
  | cs => ofDigits? 10 digitValue? cs

/-- The parts of a name; an empty one at its end does not count. -/
def partsOf (name : List Char) : List (List Char) :=
  let parts := splitAt '.' name
  if parts.getLast? = some [] then parts.dropLast else parts

/-- The name is meant as a number. -/
def endsInNumber (name : List Char) : Bool :=
  match (partsOf name).getLast? with
  | none => false
  | some last => (last ≠ [] && last.all isDigit) || (part? last).isSome

/-- The number that at most four parts tell: each but the last tells one byte. -/
def short? (name : List Char) : Option Nat := do
  let parts ← (partsOf name).mapM part?
  let last ← parts.getLast?
  let bytes := parts.dropLast
  if bytes.length ≤ 3 ∧ bytes.all (· < 256) ∧ last < Nat.pow 256 (4 - bytes.length) then
    some ((bytes.foldl (fun n b => n * 256 + b) 0) * Nat.pow 256 (4 - bytes.length) + last)
  else none

/-- A decimal byte without leading zeros. -/
def byte? (cs : List Char) : Option Nat :=
  if cs.length ≤ 3 ∧ (cs.length ≤ 1 ∨ cs.head? ≠ some '0') then
    (natural? cs).filter (· < 256)
  else none

/-- The two parts that four decimal bytes are. -/
def dotted? (cs : List Char) : Option (List Nat) := do
  match ← (splitAt '.' cs).mapM byte? with
  | [a, b, c, d] => some [a * 256 + b, c * 256 + d]
  | _ => none

def group? (cs : List Char) : Option Nat :=
  if 1 ≤ cs.length ∧ cs.length ≤ 4 then ofDigits? 16 hexValue? cs else none

/-- The parts that groups between colons tell; the last may tell two in decimal bytes. -/
def groups? : List (List Char) → Option (List Nat)
  | [] => some []
  | [last] =>
    match group? last with
    | some n => some [n]
    | none => dotted? last
  | group :: rest => do some ((← group? group) :: (← groups? rest))

/-- What stands before and after the first pair of colons. -/
def aroundGap? : List Char → Option (List Char × List Char)
  | ':' :: ':' :: rest => some ([], rest)
  | c :: rest => (aroundGap? rest).map fun (before, after) => (c :: before, after)
  | [] => none

def someGroups? (cs : List Char) : Option (List Nat) :=
  if cs = [] then some [] else groups? (splitAt ':' cs)

/-- The parts of a long number; a gap between two colons is filled up with zeros. -/
def long? (cs : List Char) : Option (List Nat) := do
  match aroundGap? cs with
  | none =>
    let parts ← groups? (splitAt ':' cs)
    if parts.length = 8 then some parts else none
  | some (before, after) =>
    if before.contains '.' then none else
      let before ← someGroups? before
      let after ← someGroups? after
      let missing := 8 - (before.length + after.length)
      if missing = 0 then none else some (before ++ List.replicate missing 0 ++ after)

/-- Reads a host; long numbers stand in brackets. -/
def parse? (cs : List Char) : Option Host :=
  match cs with
  | '[' :: rest => if rest.getLast? = some ']' then (long? rest.dropLast).map .long else none
  | cs => do
    let text ← String.fromUTF8? ⟨(unescaped cs).toArray⟩
    let name ← DomainName.plain? text.toList
    if name = [] then none
    else if endsInNumber name then (short? name).map .short
    else some (.name name)

/-- The place and the length of the longest run of zeros, the first of those. -/
def longestZeros (place : Nat) : List Nat → Nat × Nat
  | [] => (place, 0)
  | n :: rest =>
    let here := ((n :: rest).takeWhile (· = 0)).length
    let (other, length) := longestZeros (place + 1) rest
    if length ≤ here then (place, here) else (other, length)

def groupsText (parts : List Nat) : List Char :=
  List.intercalate [':'] (parts.map (digits 16))

/-- How a host is written. -/
def text : Host → List Char
  | name text => text
  | short n =>
    List.intercalate ['.'] ([n / 16777216, n / 65536 % 256, n / 256 % 256, n % 256].map (digits 10))
  | long parts =>
    let (place, length) := longestZeros 0 parts
    let inner := if length < 2 then groupsText parts
      else groupsText (parts.take place) ++ [':', ':'] ++ groupsText (parts.drop (place + length))
    '[' :: (inner ++ [']'])

end Host

end PackageIndex.Http
