/-!
Decimal and hexadecimal digits of texts, written and read one character at a time.
-/
namespace PackageIndex.Text

/-- The character of a digit below sixteen, in lower case. -/
def digitChar (d : Nat) : Char :=
  if d < 10 then Char.ofNat (48 + d) else Char.ofNat (87 + d)

def digitValue? (c : Char) : Option Nat :=
  if '0' ≤ c ∧ c ≤ '9' then some (c.toNat - 48) else none

def hexValue? (c : Char) : Option Nat :=
  if '0' ≤ c ∧ c ≤ '9' then some (c.toNat - 48)
  else if 'a' ≤ c ∧ c ≤ 'f' then some (c.toNat - 87)
  else if 'A' ≤ c ∧ c ≤ 'F' then some (c.toNat - 55)
  else none

def isDigit (c : Char) : Bool := (digitValue? c).isSome

def isHexDigit (c : Char) : Bool := (hexValue? c).isSome

/-- The last `width` decimal digits of a number, the most significant first. -/
def padded : Nat → Nat → List Char
  | 0, _ => []
  | width + 1, n => padded width (n / 10) ++ [digitChar (n % 10)]

/-- The last `width` hexadecimal digits of a number, the most significant first. -/
def paddedHex : Nat → Nat → List Char
  | 0, _ => []
  | width + 1, n => paddedHex width (n / 16) ++ [digitChar (n % 16)]

/-- A number without leading zeros, in a base up to sixteen. -/
def digits (base n : Nat) : List Char := Nat.toDigits base n

def decimal (n : Nat) : String := String.ofList (digits 10 n)

def decimalInt : Int → String
  | .ofNat n => decimal n
  | .negSucc n => "-" ++ decimal (n + 1)

/-- The number that a list of digits denotes, read from the left. -/
def ofDigits? (base : Nat) (value? : Char → Option Nat) (cs : List Char) : Option Nat :=
  cs.foldlM (fun n c => (value? c).map (n * base + ·)) 0

/-- Reads exactly `width` decimal digits. -/
def takeDigits? : Nat → Nat → List Char → Option (Nat × List Char)
  | 0, n, cs => some (n, cs)
  | width + 1, n, c :: cs => do
    let d ← digitValue? c
    takeDigits? width (n * 10 + d) cs
  | _ + 1, _, [] => none

/-- Reads between one and `width` decimal digits, as many as there are. -/
def takeUpToDigits? (width : Nat) (cs : List Char) : Option (Nat × List Char) :=
  let run := (cs.take width).takeWhile isDigit
  if run = [] then none else
    (ofDigits? 10 digitValue? run).map fun n => (n, cs.drop run.length)

/-- The number that a text of decimal digits denotes. -/
def natural? (cs : List Char) : Option Nat :=
  if cs = [] then none else ofDigits? 10 digitValue? cs

end PackageIndex.Text
