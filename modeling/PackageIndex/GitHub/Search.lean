import PackageIndex.GitHub.Client
import PackageIndex.Timestamp
import PackageIndex.UpdatePoll
/-!
Recently pushed repositories, from the code host's search. The cursor is the push time of
the newest repository seen, in whole seconds.
-/
namespace PackageIndex.GitHub.Search

open PackageIndex.Json

structure Item where
  fullName : String
  pushedAt : Option Instant
  deriving DecidableEq

/-- How far back the first poll looks. -/
def initialLookback : Span := Span.ofSeconds 86400

def cursorText (t : Instant) : String := String.ofList (Timestamp.zuluSecondText t)

/-- Where the search for a cursor starts; none when the clock is too early. -/
def since? (cursor : String) (clock : Instant) : Option String :=
  if cursor = "" then (clock.before? initialLookback).map cursorText else some cursor

def resource (since : String) : String :=
  "search/repositories?order=asc&sort=updated&per_page=100&q=fork:true+language:Go+pushed:>"
    ++ since

/-- The later of the newest push so far and the push of an item. -/
def newer (newest : Option Instant) (item : Item) : Option Instant :=
  match newest, item.pushedAt with
  | newest, none => newest
  | none, some t => some t
  | some n, some t => if n < t then some t else some n

/-- The batch of a search's results. The cursor only moves forward, and stays as it is
while no push time is known. -/
def batch (cursor : String) (items : List Item) : UpdateBatch :=
  let newest := items.foldl newer (Timestamp.instant? cursor.toList)
  { cursor := (newest.map cursorText).getD cursor
    changed := items.map Item.fullName }

/-- The instant of an optional member: absent, null, or a timestamp. -/
def optionalInstant? (members : List (String × Value)) (key : String) :
    Option (Option Instant) := do
  match ← Document.single? members key with
  | none => some none
  | some .null => some none
  | some v => ((v.text?).bind fun s => Timestamp.looseInstant? s.toList).map some

def item? : Value → Option Item
  | .object members => do
    let members ← (Value.object members).members?
    let fullName ← (← Document.single? members "full_name").bind Value.text?
    let pushedAt ← optionalInstant? members "pushed_at"
    some { fullName, pushedAt }
  | .array [name, pushed] => do
    let fullName ← name.text?
    let pushedAt ← optionalInstant? [("pushed_at", pushed)] "pushed_at"
    some { fullName, pushedAt }
  | _ => none

/-- The items of a search's answer; without the member there are none. -/
def items? : Value → Option (List Item)
  | .object members => do
    let members ← (Value.object members).members?
    match ← Document.single? members "items" with
    | none => some []
    | some (.array items) => items.mapM item?
    | some _ => none
  | .array [] => some []
  | .array [.array items] => items.mapM item?
  | _ => none

/-- The text that a clock before every push crashes with. -/
def clockTooEarly : String := "\x60DateTime - TimeDelta\x60 overflowed"

def poll (client : Client) (credentials : Option Credentials) (clock : Instant)
    (cursor : String) : Except Failure UpdateBatch :=
  match since? cursor clock with
  | none => .error (.crash (.text clockTooEarly))
  | some since =>
    match client.get (resource since) credentials items? with
    | .error e => .error (.error e.message)
    | .ok none => .error (.error "GitHub search endpoint not found")
    | .ok (some items) => .ok (batch cursor items)

def projectRoot (id : String) : String := "github.com/" ++ id

/-- The update feed of the search. -/
def feed (client : Client) (credentials : Option Credentials) (clock : Instant) : UpdateFeed :=
  { poll := poll client credentials clock, projectRoot }

end PackageIndex.GitHub.Search
