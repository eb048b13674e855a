import PackageIndex.Credentials
import PackageIndex.Http.Exchange
import PackageIndex.Json.Bytes
/-!
Reading resources of the code host's interface. A resource that is not found is an
answer; every other status but success is an error.
-/
namespace PackageIndex.GitHub

open PackageIndex.Http

inductive ClientError where
  | unreachable (url : String) (cause : Cause)
  | refused (url : String) (status : Nat)
  | unreadable (url : String)
  deriving DecidableEq

def ClientError.message : ClientError → String
  | .unreachable url cause => becauseOf ("GitHub request to " ++ url ++ " failed") cause.mark
  | .refused url status =>
    "GitHub request to " ++ url ++ " failed with status " ++ statusText status
  | .unreadable url => becauseOf ("Failed to parse GitHub response from " ++ url) Cause.body.mark

/-- A server to ask, by its transport and its address. -/
structure Client where
  transport : Transport
  base : String

namespace Client

/-- The address of a resource below the base. -/
def url (client : Client) (resource : String) : String :=
  trimBase client.base ++ "/" ++ String.ofList (resource.toList.dropWhile (· = '/'))

def base64Alphabet : List Char :=
  "ABCDEFGHIJKLMNOPQRSTUVWXYZabcdefghijklmnopqrstuvwxyz0123456789+/".toList

def base64Char (n : Nat) : Char := base64Alphabet.getD (n % 64) '='

/-- Three bytes are four characters; what is missing at the end is filled up. -/
def base64 : List UInt8 → List Char
  | a :: b :: c :: rest =>
    let n := a.toNat * 65536 + b.toNat * 256 + c.toNat
    [base64Char (n / 262144), base64Char (n / 4096), base64Char (n / 64), base64Char n]
      ++ base64 rest
  | [a, b] =>
    let n := a.toNat * 65536 + b.toNat * 256
    [base64Char (n / 262144), base64Char (n / 4096), base64Char (n / 64), '=']
  | [a] =>
    let n := a.toNat * 65536
    [base64Char (n / 262144), base64Char (n / 4096), '=', '=']
  | [] => []

/-- The header that carries credentials. -/
def authorization (c : Credentials) : String × String :=
  ("authorization",
    "Basic " ++ String.ofList (base64 (c.clientId ++ ":" ++ c.clientSecret).toUTF8.toList))

def headers (credentials : Option Credentials) : List (String × String) :=
  ("accept", "application/vnd.github+json") :: credentials.toList.map authorization

/-- What the reply that an exchange ends with says about a resource. -/
def interpret (url : String) (read? : Json.Value → Option α) (reply : Reply) :
    Except ClientError (Option α) :=
  if reply.status = 404 then .ok none
  else if isSuccess reply.status then
    match (Json.Value.ofBytes? reply.body).bind read? with
    | some a => .ok (some a)
    | none => .error (.unreadable url)
  else .error (.refused url reply.status)

/-- Asks for a resource and reads its body. -/
def get (client : Client) (resource : String) (credentials : Option Credentials)
    (read? : Json.Value → Option α) : Except ClientError (Option α) :=
  let url := client.url resource
  match send client.transport "GET" url (headers credentials) "" with
  | .error cause => .error (.unreachable url cause)
  | .ok reply => interpret url read? reply

end Client

end PackageIndex.GitHub
