import PackageIndex.Cause
import PackageIndex.Text.Blank
import PackageIndex.Text.Percent
/-!
Credentials of an application at the code host, written as a query string of the two
pairs `client_id=…` and `client_secret=…`. A plus sign stands for a space and a percent
sign begins the two hexadecimal digits of a byte. A blank text means no credentials.
-/
namespace PackageIndex

open PackageIndex.Text

structure Credentials where
  clientId : String
  clientSecret : String
  deriving DecidableEq

namespace Credentials

inductive ParseError where
  | malformedPair (pair : String)
  | invalidEscape (key : String)
  | invalidUtf8 (key : String)
  | unknownKey (key : String)
  | incomplete
  deriving DecidableEq

def ParseError.message : ParseError → String
  | .malformedPair pair => "Malformed credential pair '" ++ pair ++ "'"
  | .invalidEscape key => "Invalid escape in credential '" ++ key ++ "'"
  | .invalidUtf8 key =>
    becauseOf ("Credential '" ++ key ++ "' is not valid UTF-8") Cause.utf8.mark
  | .unknownKey key => "Unknown credential key '" ++ key ++ "'"
  | .incomplete => "Credentials need both client_id and client_secret"

/-- The two values while the pairs are read. -/
structure Partial where
  clientId : Option String := none
  clientSecret : Option String := none

/-- Every percent sign begins the two hexadecimal digits of a byte. -/
def hasValidEscapes : List Char → Bool
  | [] => true
  | '%' :: a :: b :: rest => isHexDigit a && isHexDigit b && hasValidEscapes rest
  | '%' :: _ => false
  | _ :: rest => hasValidEscapes rest

/-- What a character of a value stands for outside of an escape. -/
def spaced (c : Char) : Char := if c = '+' then ' ' else c

/-- The text that a value denotes. -/
def value (key : String) (cs : List Char) : Except ParseError String :=
  if hasValidEscapes cs then
    match String.fromUTF8? ⟨(unescaped (cs.map spaced)).toArray⟩ with
    | none => .error (.invalidUtf8 key)
    | some s => .ok s
  else .error (.invalidEscape key)

/-- Key and value of a pair, which its first equals sign separates. -/
def keyValue? : List Char → Option (List Char × List Char)
  | [] => none
  | '=' :: rest => some ([], rest)
  | c :: rest => (keyValue? rest).map fun (key, value) => (c :: key, value)

def readPair (p : Partial) (pair : List Char) : Except ParseError Partial :=
  match keyValue? pair with
  | none => .error (.malformedPair (String.ofList pair))
  | some (key, cs) => do
    let key := String.ofList key
    let text ← value key cs
    if key = "client_id" then .ok { p with clientId := some text }
    else if key = "client_secret" then .ok { p with clientSecret := some text }
    else .error (.unknownKey key)

/-- The credentials of both values; the identifier may not be empty. -/
def Partial.credentials? (p : Partial) : Option Credentials :=
  match p.clientId, p.clientSecret with
  | some clientId, some clientSecret =>
    if clientId = "" then none else some { clientId, clientSecret }
  | _, _ => none

/-- Reads credentials; empty pieces between the pairs are skipped and of a repeated key
the last value counts. -/
def parse (text : String) : Except ParseError (Option Credentials) :=
  let cs := trim text.toList
  if cs = [] then .ok none else do
    let p ← ((splitAt '&' cs).filter (· ≠ [])).foldlM readPair {}
    match p.credentials? with
    | some c => .ok (some c)
    | none => .error .incomplete

end Credentials

end PackageIndex
