/-!
Sets of characters, as ranges of code points in ascending order.
-/
namespace PackageIndex.Text

/-- The first and the last code point of each range. -/
abbrev Ranges := List (Nat × Nat)

def Ranges.has (r : Ranges) (c : Char) : Bool :=
  r.any fun (first, last) => first ≤ c.toNat && c.toNat ≤ last

end PackageIndex.Text
