import PackageIndex.Json.Value
/-!
JSON in bytes. Only what is used has to be text: a string that is skipped may hold any bytes
beside quotes, backslashes and control characters.
-/
namespace PackageIndex.Json

/-- Stands for a byte that belongs to no character. A literal with it denotes no text, and
outside a literal, or after a backslash, it is no JSON. -/
def stray : List Char := ['\uFFFD', '\\', 'u', 'd', 'c', '0', '0']

/-- The characters from a place on, byte by byte where there are none; each step uses up one
unit of fuel. -/
def charactersFrom (bytes : ByteArray) : Nat → Nat → List Char
  | 0, _ => []
  | fuel + 1, i =>
    if i < bytes.size then
      match bytes.utf8DecodeChar? i with
      | some c => c :: charactersFrom bytes fuel (i + c.utf8Size)
      | none => stray ++ charactersFrom bytes fuel (i + 1)
    else []

def characters (bytes : ByteArray) : List Char := charactersFrom bytes bytes.size 0

def Value.ofBytes? (bytes : ByteArray) : Option Value := Value.ofText? (characters bytes)

end PackageIndex.Json
