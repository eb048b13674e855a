import PackageIndex.Cause
import PackageIndex.Http.Url
/-!
One exchange: a request and what it comes to. How requests travel is the matter of the client for
HTTP, which also follows the redirects that servers reply with and then gives the last reply. An
address that is no usable URL is never given to it.
-/
namespace PackageIndex.Http

structure Request where
  method : String
  target : String
  host : String
  headers : List (String × String)
  body : String := ""
  deriving DecidableEq

structure Reply where
  status : Nat
  body : ByteArray

/-- The whole exchange that the client for HTTP makes of a request. Where a reply redirects it, the
client goes on to the address that is named, up to ten times, and the reply that counts is the one
that no redirect follows. `none` when there is none: a connection was refused or closed, or the
redirects did not come to an end. -/
abbrev Transport := Request → Option Reply

/-- The transport on which every connection is closed. -/
def closed : Transport := fun _ => none

/-- Names the program to servers. -/
def userAgent : String := "docindex-scheduler/0.3.0"

def reasons : List (Nat × String) :=
  [ (100, "Continue"), (101, "Switching Protocols"), (102, "Processing"), (103, "Early Hints")
  , (200, "OK"), (201, "Created"), (202, "Accepted"), (203, "Non Authoritative Information")
  , (204, "No Content"), (205, "Reset Content"), (206, "Partial Content")
  , (207, "Multi-Status"), (208, "Already Reported"), (226, "IM Used")
  , (300, "Multiple Choices"), (301, "Moved Permanently"), (302, "Found"), (303, "See Other")
  , (304, "Not Modified"), (305, "Use Proxy"), (307, "Temporary Redirect")
  , (308, "Permanent Redirect"), (400, "Bad Request"), (401, "Unauthorized")
  , (402, "Payment Required"), (403, "Forbidden"), (404, "Not Found")
  , (405, "Method Not Allowed"), (406, "Not Acceptable")
  , (407, "Proxy Authentication Required"), (408, "Request Timeout"), (409, "Conflict")
  , (410, "Gone"), (411, "Length Required"), (412, "Precondition Failed")
  , (413, "Payload Too Large"), (414, "URI Too Long"), (415, "Unsupported Media Type")
  , (416, "Range Not Satisfiable"), (417, "Expectation Failed"), (418, "I'm a teapot")
  , (421, "Misdirected Request"), (422, "Unprocessable Entity"), (423, "Locked")
  , (424, "Failed Dependency"), (425, "Too Early"), (426, "Upgrade Required")
  , (428, "Precondition Required"), (429, "Too Many Requests")
  , (431, "Request Header Fields Too Large"), (451, "Unavailable For Legal Reasons")
  , (500, "Internal Server Error"), (501, "Not Implemented"), (502, "Bad Gateway")
  , (503, "Service Unavailable"), (504, "Gateway Timeout")
  , (505, "HTTP Version Not Supported"), (506, "Variant Also Negotiates")
  , (507, "Insufficient Storage"), (508, "Loop Detected"), (510, "Not Extended")
  , (511, "Network Authentication Required") ]

/-- A status with its reason. -/
def statusText (status : Nat) : String :=
  Text.decimal status ++ " " ++ (reasons.lookup status).getD "<unknown status code>"

def isSuccess (status : Nat) : Bool := 200 ≤ status && status < 300

/-- The request for an address, if the address is usable. -/
def request? (method address : String) (headers : List (String × String)) (body : String) :
    Option Request :=
  ((Url.parse? address.toList).filter Url.isSendable).map fun url =>
    { method, target := String.ofList url.target, host := String.ofList url.authority
      headers := headers ++ [("user-agent", userAgent)], body }

/-- Has the exchange made for an address. -/
def send (transport : Transport) (method address : String) (headers : List (String × String))
    (body : String) : Except Cause Reply :=
  match request? method address headers body with
  | none => .error .address
  | some request =>
    match transport request with
    | none => .error .connection
    | some reply => .ok reply

/-- An address without the slashes at its end. -/
def trimBase (base : String) : String :=
  String.ofList (base.toList.reverse.dropWhile (· = '/')).reverse

end PackageIndex.Http
