import PackageIndex.Fetch
import PackageIndex.Http.Exchange
import PackageIndex.Json.Bytes
/-!
The document service. It is sent a fetch request as JSON and answers with a document,
with a status that stands for the stored document, or with one that says there is none.
-/
namespace PackageIndex.DocumentService

open PackageIndex.Http

inductive FetchError where
  | unreachable (path : String) (cause : Cause)
  | unreadable (path : String)
  | refused (path : String) (status : Nat)
  deriving DecidableEq

def FetchError.message : FetchError → String
  | .unreachable path cause =>
    becauseOf ("Failed to reach document service for " ++ path) cause.mark
  | .unreadable path => becauseOf ("Failed to parse document for " ++ path) Cause.body.mark
  | .refused path status =>
    "Document service failed for " ++ path ++ " with status " ++ statusText status

/-- What the reply that an exchange ends with says about the requested package. -/
def interpret (request : FetchRequest) (reply : Reply) : Except FetchError (Option Document) :=
  if reply.status = 404 then .ok none
  else if reply.status = 304 then .ok request.prior
  else if isSuccess reply.status then
    match Document.ofJson? (Json.characters reply.body) with
    | some d => .ok (some d)
    | none => .error (.unreadable request.importPath)
  else .error (.refused request.importPath reply.status)

def fetch (transport : Transport) (base : String) (request : FetchRequest) :
    Except FetchError (Option Document) :=
  match send transport "POST" (trimBase base ++ "/fetch")
      [("accept", "*/*"), ("content-type", "application/json")]
      (String.ofList request.toJson) with
  | .error cause => .error (.unreachable request.importPath cause)
  | .ok reply => interpret request reply

/-- The fetcher that asks the service. -/
def fetcher (transport : Transport) (base : String) : Fetcher := fun request =>
  match fetch transport base request with
  | .ok document? => .ok document?
  | .error e => .error (.error e.message)

end PackageIndex.DocumentService
