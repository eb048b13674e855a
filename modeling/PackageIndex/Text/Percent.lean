import PackageIndex.Text.Digits
/-!
Texts that tell bytes by escapes: a percent sign and two hexadecimal digits are one byte.
-/
namespace PackageIndex.Text

/-- The bytes of a text, in which two hexadecimal digits after a percent sign are one. -/
def unescaped : List Char → List UInt8
  | '%' :: a :: b :: rest =>
    match hexValue? a, hexValue? b with
    | some high, some low => (high * 16 + low).toUInt8 :: unescaped rest
    | _, _ => '%'.toNat.toUInt8 :: unescaped (a :: b :: rest)
  | c :: rest => String.utf8EncodeChar c ++ unescaped rest
  | [] => []

end PackageIndex.Text
