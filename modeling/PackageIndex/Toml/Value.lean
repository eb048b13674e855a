/-!
Values of a TOML document and the tables that its lines build. A table remembers how it
came to be, since that decides what a later line may still add to it: a header may define
a table once, dotted keys may extend only what dotted keys began, and a value is complete
where it is written.
-/
namespace PackageIndex.Toml

inductive Origin where
  /-- A header of its own. -/
  | header
  /-- The header of a table below it. -/
  | implied
  /-- A dotted key. -/
  | dotted
  deriving DecidableEq

/-- A value. Of fractions and moments, which no setting is, only the kind is kept. -/
inductive Value where
  | text (s : String)
  | integer (n : Int)
  | fraction
  | boolean (b : Bool)
  | moment
  | array (items : List Value)
  /-- A table between braces. -/
  | braced (entries : List (String × Value))
  | table (origin : Origin) (entries : List (String × Value))
  /-- The tables of a header between double brackets. -/
  | tables (each : List (List (String × Value)))

/-- The entries of a table, in the order of their first mention. -/
abbrev Entries := List (String × Value)

namespace Entries

/-- Gives a key another value in its place. -/
def replace (key : String) (v : Value) (entries : Entries) : Entries :=
  entries.map fun (k, old) => (k, if k = key then v else old)

/-- Adds a key, unless it is there. -/
def add? (key : String) (v : Value) (entries : Entries) : Option Entries :=
  match entries.lookup key with
  | none => some (entries ++ [(key, v)])
  | some _ => none

/-- The tables on the way of a header or of a dotted key. -/
inductive Route where
  | header
  | dotted
  deriving DecidableEq

def Route.origin : Route → Origin
  | .header => .implied
  | .dotted => .dotted

/-- Changes the table at the end of a path. Tables missing on the way are made; of the tables
of a double header the last one is meant; and no dotted key leads through a table that has
a header of its own. -/
def changeAt? (route : Route) (change : Origin → Entries → Option Entries) :
    List String → Origin → Entries → Option Entries
  | [], origin, entries => change origin entries
  | key :: path, _, entries =>
    match entries.lookup key with
    | none =>
      (changeAt? route change path route.origin []).map fun below =>
        entries ++ [(key, .table route.origin below)]
    | some (.table origin below) =>
      if route = .dotted ∧ origin = .header then none
      else (changeAt? route change path origin below).map fun below =>
        entries.replace key (.table origin below)
    | some (.tables each) =>
      match each.getLast? with
      | none => none
      | some below =>
        (changeAt? route change path .header below).map fun below =>
          entries.replace key (.tables (each.dropLast ++ [below]))
    | some _ => none

/-- Enters a value under the dotted key of a path and a last part. The table at the end of a
path has to be one that dotted keys began. -/
def put? (path : List String) (key : String) (v : Value) (entries : Entries) : Option Entries :=
  changeAt? .dotted
    (fun origin below => if origin = .dotted ↔ path ≠ [] then below.add? key v else none)
    path .header entries

/-- Begins the table of a header, which may so far only be implied. -/
def begin? (key : String) (entries : Entries) : Option Entries :=
  match entries.lookup key with
  | none => some (entries ++ [(key, .table .header [])])
  | some (.table .implied below) => some (entries.replace key (.table .header below))
  | some _ => none

/-- Begins one more table of a double header. -/
def beginNext? (key : String) (entries : Entries) : Option Entries :=
  match entries.lookup key with
  | none => some (entries ++ [(key, .tables [[]])])
  | some (.tables each) => some (entries.replace key (.tables (each ++ [[]])))
  | some _ => none

end Entries

/-- What a line of a document says. -/
inductive Statement where
  | header (path : List String) (key : String)
  | nextHeader (path : List String) (key : String)
  | entry (path : List String) (key : String) (v : Value)

/-- A document while its lines are read: its tables, and the path of the last header. -/
structure Draft where
  entries : Entries := []
  current : List String := []

def Draft.follow? (d : Draft) : Statement → Option Draft
  | .header path key =>
    (Entries.changeAt? .header (fun _ below => below.begin? key) path .header d.entries).map
      fun entries => ⟨entries, path ++ [key]⟩
  | .nextHeader path key =>
    (Entries.changeAt? .header (fun _ below => below.beginNext? key) path .header d.entries).map
      fun entries => ⟨entries, path ++ [key]⟩
  | .entry path key v =>
    (Entries.changeAt? .header (fun _ below => below.put? path key v) d.current .header
      d.entries).map fun entries => { d with entries }

/-- The tables that the lines of a document build. -/
def assemble? (lines : List Statement) : Option Entries :=
  (lines.foldlM Draft.follow? {}).map (·.entries)

end PackageIndex.Toml
