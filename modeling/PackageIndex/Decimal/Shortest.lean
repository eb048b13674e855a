import PackageIndex.Text.Digits
/-!
The shortest decimal of a binary number: the fewest digits that read back as the number,
and of those the nearest to it. A number is `m · 2 ^ q`; the decimals that read back lie
between the midpoints to its two neighbours, the midpoints included when `m` is even.
Everything is compared in whole numbers, in quarters of the last binary place.
-/
namespace PackageIndex.Decimal

open PackageIndex.Text

/-- A decimal `coefficient · 10 ^ exponent`. -/
structure Scaled where
  coefficient : Nat
  exponent : Int
  deriving DecidableEq

structure Binary where
  mantissa : Nat
  exponent : Int
  /-- The lower neighbour is half as far away as the upper one. -/
  atPowerOfTwo : Bool
  deriving DecidableEq

namespace Binary

/-- Quarters of the last place, made whole on the grid of `10 ^ e`. -/
def quarters (b : Binary) (e : Int) (n : Nat) : Nat :=
  n * Nat.pow 2 (b.exponent - 2).toNat * Nat.pow 10 (-e).toNat

/-- A point of the grid of `10 ^ e`, in the same measure. -/
def point (b : Binary) (e : Int) (n : Nat) : Nat :=
  n * Nat.pow 10 e.toNat * Nat.pow 2 (2 - b.exponent).toNat

def value (b : Binary) (e : Int) : Nat := b.quarters e (4 * b.mantissa)

def lower (b : Binary) (e : Int) : Nat :=
  b.quarters e (4 * b.mantissa - if b.atPowerOfTwo then 1 else 2)

def upper (b : Binary) (e : Int) : Nat := b.quarters e (4 * b.mantissa + 2)

/-- The point of the grid of `10 ^ e` reads back as the number. -/
def readsBack (b : Binary) (e : Int) (n : Nat) : Bool :=
  let p := b.point e n
  if b.mantissa % 2 = 0 then b.lower e ≤ p && p ≤ b.upper e
  else b.lower e < p && p < b.upper e

/-- The nearer of the two points around the number that reads back, if one does. -/
def onGrid? (b : Binary) (e : Int) : Option Nat :=
  let below := b.value e / b.point e 1
  let above := below + 1
  match b.readsBack e below, b.readsBack e above with
  | true, true =>
    some (if b.point e above - b.value e < b.value e - b.point e below then above else below)
  | true, false => some below
  | false, true => some above
  | false, false => none

/-- The least exponent, from `e` upwards, whose power of ten exceeds the number. -/
def magnitudeFrom (b : Binary) : Nat → Int → Int
  | 0, e => e
  | fuel + 1, e => if b.value e < b.point e 1 then e else magnitudeFrom b fuel (e + 1)

/-- No number of sixty-four bits reaches this power of ten or its inverse. -/
def exponentBound : Nat := 400

def magnitude (b : Binary) : Int := b.magnitudeFrom (2 * exponentBound) (-exponentBound)

/-- Tries ever finer grids. -/
def shortestFrom (b : Binary) : Nat → Int → Scaled
  | 0, e => ⟨b.value e / b.point e 1, e⟩
  | fuel + 1, e =>
    match b.onGrid? e with
    | some n => ⟨n, e⟩
    | none => shortestFrom b fuel (e - 1)

/-- No number of sixty-four bits needs more digits. -/
def maxDigits : Nat := 17

def shortest (b : Binary) : Scaled := b.shortestFrom maxDigits (b.magnitude - 1)

end Binary

/-- The leading bit of a mantissa, which is not written; the exponent stands above it. -/
def implicitBit : Nat := 0x10000000000000

/-- The binary form of a finite number that is not negative. -/
def Binary.ofFloat (x : Float) : Binary :=
  let bits := x.toBits.toNat
  let fraction := bits % implicitBit
  let exponent := (bits / implicitBit) % 0x800
  if exponent = 0 then ⟨fraction, -1074, false⟩
  else ⟨implicitBit + fraction, Int.ofNat exponent - 1075, fraction = 0 && 1 < exponent⟩

/-- Positional notation without an exponent. -/
def Scaled.positional (s : Scaled) : List Char :=
  let run := digits 10 s.coefficient
  if 0 ≤ s.exponent then run ++ List.replicate s.exponent.toNat '0'
  else
    let places := (-s.exponent).toNat
    let run := List.replicate (places + 1 - run.length) '0' ++ run
    run.take (run.length - places) ++ '.' :: run.drop (run.length - places)

/-- The text of a finite number that is not negative: its shortest decimal in positional
notation. -/
def text (x : Float) : String :=
  if x == 0 then "0" else String.ofList (Binary.ofFloat x).shortest.positional

end PackageIndex.Decimal
