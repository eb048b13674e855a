import PackageIndex.Calendar
import PackageIndex.Text.Digits
import PackageIndex.Toml.Value
/-!
Numbers and moments of a TOML document. Single underscores may stand between digits. An
integer fits into 64 bits with a sign, a fraction is not larger than every finite double,
and a moment is a date, a time, or both with an optional offset.
-/
namespace PackageIndex.Toml

open PackageIndex.Text

/-- A value and what follows it. -/
abbrev Found := Option (Value × List Char)

/-- The digits up to the first place that is none, without the underscores between them. -/
def moreDigits (isDigit : Char → Bool) : List Char → List Char × List Char
  | '_' :: c :: rest =>
    if isDigit c then
      let (run, rest) := moreDigits isDigit rest
      (c :: run, rest)
    else ([], '_' :: c :: rest)
  | c :: rest =>
    if isDigit c then
      let (run, rest) := moreDigits isDigit rest
      (c :: run, rest)
    else ([], c :: rest)
  | [] => ([], [])

/-- One or more digits. -/
def digitRun? (isDigit : Char → Bool) : List Char → Option (List Char × List Char)
  | c :: rest =>
    if isDigit c then
      let (run, rest) := moreDigits isDigit rest
      some (c :: run, rest)
    else none
  | [] => none

/-- Whether a minus sign stands first, and what follows the sign. -/
def sign : List Char → Bool × List Char
  | '-' :: rest => (true, rest)
  | '+' :: rest => (false, rest)
  | cs => (false, cs)

/-- The digits of a decimal whole number; one that begins with a zero has no others. -/
def whole? : List Char → Option (List Char × List Char)
  | '0' :: rest => some (['0'], rest)
  | cs => digitRun? isDigit cs

/-- The integer of a sign and a magnitude, if 64 bits hold it. -/
def bounded? (negative : Bool) (magnitude : Nat) : Option Int :=
  let n : Int := if negative then -magnitude else magnitude
  if -0x8000000000000000 ≤ n ∧ n < 0x8000000000000000 then some n else none

/-- Reads an integer in a base below ten or above it, after its mark. -/
def based? (base : Nat) (value? : Char → Option Nat) (cs : List Char) : Found := do
  let isDigit c := match value? c with
    | some d => d < base
    | none => false
  let (run, rest) ← digitRun? isDigit cs
  let n ← bounded? false (← ofDigits? base value? run)
  some (.integer n, rest)

def integer? : List Char → Found
  | '0' :: 'x' :: rest => based? 16 hexValue? rest
  | '0' :: 'o' :: rest => based? 8 digitValue? rest
  | '0' :: 'b' :: rest => based? 2 digitValue? rest
  | cs => do
    let (negative, rest) := sign cs
    let (run, rest) ← whole? rest
    let n ← bounded? negative (← ofDigits? 10 digitValue? run)
    some (.integer n, rest)

/-- The least number that rounds to no finite double. -/
def overflow : Nat := (Nat.pow 2 54 - 1) * Nat.pow 2 970

/-- Whether the digits of a number, of which so many stand behind the point, reach the overflow
with a power of ten. Its size is compared first, so that no large power is taken. -/
def reachesOverflow (run : List Char) (behind : Nat) (power : Int) : Bool :=
  match ofDigits? 10 digitValue? run with
  | none => false
  | some n =>
    let places : Int := (run.dropWhile (· = '0')).length + power - behind
    if n = 0 ∨ places < 309 then false
    else if 309 < places then true
    else
      let scale : Int := power - behind
      overflow * Nat.pow 10 (-scale).toNat ≤ n * Nat.pow 10 scale.toNat

/-- Reads the digits after a point. -/
def fractionPart? : List Char → Option (List Char × List Char)
  | '.' :: rest => digitRun? isDigit rest
  | _ => none

/-- Reads a power of ten. -/
def exponentPart? : List Char → Option (Int × List Char)
  | c :: rest =>
    if c = 'e' ∨ c = 'E' then do
      let (negative, rest) := sign rest
      let (run, rest) ← digitRun? isDigit rest
      let n ← ofDigits? 10 digitValue? run
      some (if negative then -n else n, rest)
    else none
  | [] => none

/-- Reads a number with a point, a power of ten, or both. -/
def decimal? (cs : List Char) : Found := do
  let (negative, rest) := sign cs
  let (whole, rest) ← whole? rest
  let (fraction, power, rest) ← match fractionPart? rest with
    | some (fraction, rest) =>
      match exponentPart? rest with
      | some (power, rest) => some (fraction, power, rest)
      | none => some (fraction, 0, rest)
    | none => (exponentPart? rest).map fun (power, rest) => ([], power, rest)
  if !negative && reachesOverflow (whole ++ fraction) fraction.length power then none
  else some (.fraction, rest)

/-- Reads what is no finite number. -/
def special? (cs : List Char) : Found :=
  match (sign cs).2 with
  | 'i' :: 'n' :: 'f' :: rest => some (.fraction, rest)
  | 'n' :: 'a' :: 'n' :: rest => some (.fraction, rest)
  | _ => none

def fraction? (cs : List Char) : Found := decimal? cs <|> special? cs

/-- What follows a valid date. -/
def date? (cs : List Char) : Option (List Char) := do
  let (year, rest) ← takeDigits? 4 0 cs
  match rest with
  | '-' :: rest =>
    let (month, rest) ← takeDigits? 2 0 rest
    match rest with
    | '-' :: rest =>
      let (day, rest) ← takeDigits? 2 0 rest
      if Date.IsValid ⟨year, month, day⟩ then some rest else none
    | _ => none
  | _ => none

/-- What follows an hour and a minute. -/
def hourMinute? (cs : List Char) : Option (List Char) := do
  let (hour, rest) ← takeDigits? 2 0 cs
  match rest with
  | ':' :: rest =>
    let (minute, rest) ← takeDigits? 2 0 rest
    if hour < 24 ∧ minute < 60 then some rest else none
  | _ => none

/-- What follows a valid time; its last second may be a leap second. -/
def time? (cs : List Char) : Option (List Char) := do
  match ← hourMinute? cs with
  | ':' :: rest =>
    let (second, rest) ← takeDigits? 2 0 rest
    if 60 < second then none
    else
      match rest with
      | '.' :: c :: behind => if isDigit c then some (behind.dropWhile isDigit) else some rest
      | rest => some rest
  | _ => none

/-- What follows an offset, if there is one. -/
def dropOffset (cs : List Char) : List Char :=
  match cs with
  | 'Z' :: rest => rest
  | 'z' :: rest => rest
  | '+' :: rest => (hourMinute? rest).getD cs
  | '-' :: rest => (hourMinute? rest).getD cs
  | _ => cs

/-- What follows the time of a date, if there is one. -/
def dropTime (cs : List Char) : List Char :=
  match cs with
  | c :: rest =>
    if c = 'T' ∨ c = 't' ∨ c = ' ' then ((time? rest).map dropOffset).getD cs else cs
  | [] => []

def moment? (cs : List Char) : Found :=
  match date? cs with
  | some rest => some (.moment, dropTime rest)
  | none => (time? cs).map fun rest => (.moment, rest)

/-- Reads a number or a moment. -/
def quantity? (cs : List Char) : Found := moment? cs <|> fraction? cs <|> integer? cs

end PackageIndex.Toml
