import PackageIndex.Http.Host
import PackageIndex.Text.Blank
/-!
Addresses of HTTP servers. An address has a scheme, a host, perhaps a port, and a target;
the target is written as it is sent, with dot segments resolved and other characters escaped.
-/
namespace PackageIndex.Http

open PackageIndex.Text

inductive Scheme where
  | http
  | https
  deriving DecidableEq

namespace Scheme

def all : List Scheme := [.http, .https]

def text : Scheme → List Char
  | http => "http".toList
  | https => "https".toList

def usualPort : Scheme → Nat
  | http => 80
  | https => 443

end Scheme

structure Url where
  scheme : Scheme
  host : Host
  port : Option Nat
  target : List Char
  /-- With the mark before it, or empty. -/
  fragment : List Char
  deriving DecidableEq

namespace Url

def isControl (c : Char) : Bool := c.toNat < 0x20

/-- Characters that end the authority. -/
def endsAuthority (c : Char) : Bool := c = '/' || c = '\\' || c = '?' || c = '#'

/-- The bytes of a character as escapes. -/
def percent (c : Char) : List Char :=
  (String.utf8EncodeChar c).flatMap fun b =>
    '%' :: (paddedHex 2 b.toNat).map Char.toUpper

/-- Escaped everywhere in a target. -/
def escapedInQuery (c : Char) : Bool :=
  isControl c || 0x7E < c.toNat || c = ' ' || c = '"' || c = '#' || c = '<' || c = '>'
    || c = '\''

/-- Escaped in the path of a target. -/
def escapedInPath (c : Char) : Bool :=
  isControl c || 0x7E < c.toNat || c = ' ' || c = '"' || c = '#' || c = '<' || c = '>'
    || c = '?' || c = '\x60' || c = '\x7b' || c = '\x7d' || c = '^'

def escapedInFragment (c : Char) : Bool :=
  isControl c || 0x7E < c.toNat || c = ' ' || c = '"' || c = '<' || c = '>' || c = '\x60'

def encode (escaped : Char → Bool) (cs : List Char) : List Char :=
  cs.flatMap fun c => if escaped c then percent c else [c]

/-- A path segment in which escaped dots are plain and letters are small. -/
def plainDots : List Char → List Char
  | '%' :: '2' :: c :: rest =>
    if c = 'e' ∨ c = 'E' then '.' :: plainDots rest else '%' :: '2' :: c :: plainDots rest
  | c :: rest => c :: plainDots rest
  | [] => []

/-- Resolves dot segments; `done` holds the segments before, the last one first. -/
def resolve (done : List (List Char)) : List (List Char) → List (List Char)
  | [] => done.reverse
  | segment :: rest =>
    let dots := plainDots segment
    if dots = ['.', '.'] then
      if rest = [] then ([] :: done.tail).reverse else resolve done.tail rest
    else if dots = ['.'] then
      if rest = [] then ([] :: done).reverse else resolve done rest
    else resolve (segment :: done) rest

/-- The path as it is sent. -/
def path (cs : List Char) : List Char :=
  let cs := cs.map fun c => if c = '\\' then '/' else c
  let segments := splitAt '/' (match cs with | '/' :: rest => rest | rest => rest)
  '/' :: List.intercalate ['/'] ((resolve [] segments).map (encode escapedInPath))

/-- The target of what follows the authority. -/
def targetOf (cs : List Char) : List Char :=
  let cs := cs.takeWhile (· ≠ '#')
  let query := cs.dropWhile (· ≠ '?')
  path (cs.takeWhile (· ≠ '?')) ++
    match query with
    | [] => []
    | _ :: rest => '?' :: encode escapedInQuery rest

/-- The part of an address after its target, if there is one, as it is written. -/
def fragmentOf (cs : List Char) : List Char :=
  match cs.dropWhile (· ≠ '#') with
  | [] => []
  | _ :: rest => '#' :: encode escapedInFragment rest

/-- What follows a scheme, when it is one of the two of HTTP. -/
def afterScheme? (cs : List Char) : Option (Scheme × List Char) :=
  let scheme := (cs.takeWhile (· ≠ ':')).map Char.toLower
  match Scheme.all.find? (·.text = scheme), cs.dropWhile (· ≠ ':') with
  | some s, _ :: rest => some (s, rest)
  | _, _ => none

/-- The host as it is written before the first colon that stands outside brackets, and what
follows it. -/
def hostAndPort (inBrackets : Bool) : List Char → List Char × List Char
  | [] => ([], [])
  | c :: rest =>
    if c = ':' ∧ !inBrackets then ([], c :: rest)
    else
      let inBrackets := if c = '[' then true else if c = ']' then false else inBrackets
      let (host, port) := hostAndPort inBrackets rest
      (c :: host, port)

/-- The port that is told after a colon; the usual one of the scheme is not told. -/
def port? (scheme : Scheme) : List Char → Option (Option Nat)
  | [] | [':'] => some none
  | _ :: digits =>
    match natural? digits with
    | none => none
    | some n =>
      if 65535 < n then none else if n = scheme.usualPort then some none else some (some n)

/-- The parts of an address. Blanks around it and line breaks in it are left out, and so is
what names a user before the host. -/
@[irreducible]
def parse? (cs : List Char) : Option Url := do
  let isEdge (c : Char) := isControl c || c = ' '
  let cs := ((cs.dropWhile isEdge).reverse.dropWhile isEdge).reverse
  let cs := cs.filter fun c => c ≠ '\t' ∧ c ≠ '\n' ∧ c ≠ '\r'
  let (scheme, rest) ← afterScheme? cs
  let rest := rest.dropWhile fun c => c = '/' ∨ c = '\\'
  let authority := rest.takeWhile fun c => !endsAuthority c
  let rest := rest.dropWhile fun c => !endsAuthority c
  let server := (splitAt '@' authority).getLastD []
  let (host, port) := hostAndPort false server
  if host = [] then none else
    some { scheme, host := ← Host.parse? host, port := ← port? scheme port
           target := targetOf rest, fragment := fragmentOf rest }

/-- The host and the port of an address, as they are written. -/
def authority (url : Url) : List Char :=
  url.host.text ++ (url.port.elim [] fun n => ':' :: digits 10 n)

/-- An address as it is written. -/
def text (url : Url) : List Char :=
  url.scheme.text ++ "://".toList ++ url.authority ++ url.target ++ url.fragment

/-- Characters that a host may have but no request can name. -/
def isUnsendable (c : Char) : Bool := c = '"' || c = '\x60' || c = '\x7b' || c = '\x7d'

/-- The most characters of an address that is sent. -/
def longestSent : Nat := 65534

/-- A request can be sent to the address. -/
def isSendable (url : Url) : Bool :=
  !url.authority.any isUnsendable && url.text.length ≤ longestSent

end Url

end PackageIndex.Http
