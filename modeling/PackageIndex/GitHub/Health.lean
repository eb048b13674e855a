import PackageIndex.GitHub.Search
import PackageIndex.Suppression
/-!
The health of repositories at the code host. A package is hidden when nobody imports it
and its repository is gone, archived, or without a push for too long.
-/
namespace PackageIndex.GitHub.Health

open PackageIndex.Json

structure Repository where
  archived : Bool := false
  pushedAt : Option Instant := none
  deriving DecidableEq

/-- Owner and repository of a project root, with the slash between them. -/
def slug? (root : String) : Option String := do
  let host := "github.com/".toList
  let cs := root.toList
  if host.isPrefixOf cs then
    match Text.splitAt '/' (cs.drop host.length) with
    | owner :: repository :: _ =>
      if owner = [] ∨ repository = [] then none
      else some (String.ofList (owner ++ '/' :: repository))
    | _ => none
  else none

/-- A repository that is gone is unhealthy. -/
def isUnhealthy (repository? : Option Repository) (clock : Instant) (inactiveDays : Nat) : Bool :=
  match repository? with
  | none => true
  | some repository =>
    repository.archived || match repository.pushedAt with
      | none => false
      | some pushed => clock.since pushed > (Span.ofDays inactiveDays).nanos

def bool? : Value → Option Bool
  | .bool b => some b
  | _ => none

def repository? : Value → Option Repository
  | .object members => do
    let members ← (Value.object members).members?
    let archived ← match ← Document.single? members "archived" with
      | none => some false
      | some v => bool? v
    let pushedAt ← Search.optionalInstant? members "pushed_at"
    some { archived, pushedAt }
  | .array [archived, pushed] => do
    let archived ← bool? archived
    let pushedAt ← Search.optionalInstant? [("pushed_at", pushed)] "pushed_at"
    some { archived, pushedAt }
  | _ => none

/-- The resource that tells the health of a package, if it is asked for at all: the package
belongs to a repository and nothing imports it. -/
def resource? (faults : CatalogFaults) (record : Record) (c : Catalog) :
    Except StoreError (Option String) :=
  match slug? record.document.projectRoot with
  | none => .ok none
  | some slug =>
    match Access.importerCount faults record.importPath c with
    | .error e => .error e
    | .ok (count, _) => .ok (if 0 < count then none else some ("repos/" ++ slug))

/-- The scorer that asks the code host. -/
def scorer (client : Client) (clock : Instant) (inactiveDays : UInt32)
    (faults : CatalogFaults) : Scorer := fun record credentials =>
  .visit id fun c =>
    match resource? faults record c with
    | .error e => .answered (.error (.store e))
    | .ok none => .answered (.ok false)
    | .ok (some resource) =>
      match client.get resource credentials repository? with
      | .error e => .answered (.error (.failed e.message))
      | .ok repository? => .answered (.ok (isUnhealthy repository? clock inactiveDays.toNat))

end PackageIndex.GitHub.Health
