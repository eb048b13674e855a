import PackageIndex.Text.Digits
/-!
Text in letters, digits and hyphens. Its plain characters stand first; each other character
is told, in the order of the code points, by how far its insertion is from the one before,
in digits whose weights follow the distances seen so far.
-/
namespace PackageIndex.DomainName.Punycode

/-- Letters are the digits up to 25, and ten more digits follow. -/
def base : Nat := 36

def firstBias : Nat := 72

def firstCode : Nat := 0x80

/-- What a machine word of thirty-two bits does not reach. -/
def wordEnd : Nat := 0x100000000

def digit? (c : Char) : Option Nat :=
  let n := c.toNat
  if 0x61 ≤ n ∧ n ≤ 0x7A then some (n - 0x61)
  else if 0x41 ≤ n ∧ n ≤ 0x5A then some (n - 0x41)
  else if 0x30 ≤ n ∧ n ≤ 0x39 then some (n - 0x30 + 26)
  else none

def digitChar (d : Nat) : Char := Char.ofNat (if d < 26 then 0x61 + d else 0x30 + (d - 26))

/-- The digit at a place is the last one of its number when it is below this. -/
def threshold (place bias : Nat) : Nat :=
  if place ≤ bias then 1 else if bias + 26 ≤ place then 26 else place - bias

theorem threshold_pos (place bias : Nat) : 1 ≤ threshold place bias := by
  unfold threshold
  split
  · omega
  · split <;> omega

/-- How often a distance is divided until it is small, in places, and what remains. -/
def scaled (distance : Nat) : Nat × Nat :=
  if 455 < distance then
    let (places, rest) := scaled (distance / 35)
    (places + base, rest)
  else (0, distance)
  termination_by distance
  decreasing_by exact Nat.div_lt_self (by omega) (by omega)

/-- The bias after a distance, in a text of so many characters. -/
def adapted (distance length : Nat) (isFirst : Bool) : Nat :=
  let distance := if isFirst then distance / 700 else distance / 2
  let (places, rest) := scaled (distance + distance / length)
  places + base * rest / (rest + 38)

/-- Reads one distance from its digits, the lowest first. -/
def distance? (bias place weight sum : Nat) : List Char → Option (Nat × List Char)
  | [] => none
  | c :: rest =>
    match digit? c with
    | none => none
    | some d =>
      let sum := sum + d * weight
      let t := threshold place bias
      let next := weight * (base - t)
      if d < t then some (sum, rest)
      else if wordEnd ≤ next then none
      else distance? bias (place + base) next sum rest

theorem length_distance? {bias place weight sum : Nat} {cs : List Char}
    {r : Nat × List Char} (h : distance? bias place weight sum cs = some r) :
    r.2.length < cs.length := by
  fun_induction distance? bias place weight sum cs with
  | case1 => cases h
  | case2 => cases h
  | case3 =>
    cases h
    simp
  | case4 => cases h
  | case5 _ _ _ _ _ _ _ _ _ _ _ _ ih => exact Nat.lt_succ_of_lt (ih h)

/-- Inserts the characters of the distances into a text. -/
def insertions? (code bias index : Nat) (text cs : List Char) : Option (List Char) :=
  match cs with
  | [] => some text
  | c :: rest =>
    match _h : distance? bias base 1 0 (c :: rest) with
    | none => none
    | some (distance, rest) =>
      let length := text.length + 1
      let code := code + (index + distance) / length
      let index' := (index + distance) % length
      if code.isValidChar then
        insertions? code (adapted distance length (index = 0)) (index' + 1)
          (text.insertIdx index' (Char.ofNat code)) rest
      else none
  termination_by cs.length
  decreasing_by exact length_distance? _h

/-- What follows the last hyphen, and what precedes it; a hyphen at the start is none. -/
def parted (cs : List Char) : List Char × List Char :=
  let distances := (cs.reverse.takeWhile (· ≠ '-')).reverse
  let plain := cs.take (cs.length - distances.length - 1)
  if plain = [] then ([], cs) else (plain, distances)

def decode? (cs : List Char) : Option (List Char) :=
  let (plain, distances) := parted cs
  insertions? firstCode firstBias 0 plain distances

/-- The digits of a distance. -/
def digitsOf (bias place distance : Nat) : List Char :=
  let t := threshold place bias
  if distance < t then [digitChar distance]
  else digitChar (t + (distance - t) % (base - t))
    :: digitsOf bias (place + base) ((distance - t) / (base - t))
  termination_by distance
  decreasing_by
    have := threshold_pos place bias
    exact Nat.lt_of_le_of_lt (Nat.div_le_self _ _) (by omega)

structure Writer where
  distance : Nat := 0
  bias : Nat := firstBias
  /-- How many characters of the text are told. -/
  told : Nat
  written : List Char := []

/-- Goes over one character while those with a code are told. -/
def Writer.pass (plain code : Nat) (w : Writer) (c : Char) : Writer :=
  if c.toNat < code then { w with distance := w.distance + 1 }
  else if c.toNat = code then
    { distance := 0, bias := adapted w.distance (w.told + 1) (w.told = plain)
      told := w.told + 1, written := w.written ++ digitsOf w.bias base w.distance }
  else w

/-- Tells the characters with each of the codes, which ascend from `next`. -/
def Writer.run (text : List Char) (plain next : Nat) (w : Writer) : List Nat → List Char
  | [] => w.written
  | code :: rest =>
    let w := { w with distance := w.distance + (code - next) * (w.told + 1) }
    let w := text.foldl (Writer.pass plain code) w
    Writer.run text plain (code + 1) { w with distance := w.distance + 1 } rest

def encode (text : List Char) : List Char :=
  let plain := text.filter (·.toNat < firstCode)
  let codes := (((text.map Char.toNat).filter (firstCode ≤ ·)).mergeSort (· ≤ ·)).eraseDups
  plain ++ (if plain = [] then [] else ['-'])
    ++ Writer.run text plain.length firstCode { told := plain.length } codes

end PackageIndex.DomainName.Punycode
