import PackageIndex.Json.Value
/-!
Package documents and their JSON form. Reading takes an object whose members may stand
in any order and be joined by others, or an array of the fields in order; the import
path and the project root are required, and nothing may be given twice.
-/
namespace PackageIndex

open PackageIndex.Json

structure Document where
  importPath : String
  /-- Root of the repository that the package lives in. -/
  projectRoot : String
  /-- Opaque marker of the version of the package's source. -/
  etag : String := ""
  name : String := ""
  synopsis : String := ""
  /-- Import paths that the package imports. -/
  imports : List String := []
  deriving DecidableEq

namespace Document

def member (key : String) (value : List Char) : List Char := ofString key ++ ':' :: value

/-- The compact JSON form. -/
def toJson (d : Document) : List Char :=
  '{' :: (List.intercalate [',']
    [ member "import_path" (ofString d.importPath)
    , member "project_root" (ofString d.projectRoot)
    , member "etag" (ofString d.etag)
    , member "name" (ofString d.name)
    , member "synopsis" (ofString d.synopsis)
    , member "imports" (ofStrings d.imports) ] ++ ['}'])

/-- The only member with a key; `some none` when there is none. -/
def single? (members : List (String × Value)) (key : String) : Option (Option Value) :=
  match members.filter fun m => m.1 = key with
  | [] => some none
  | [m] => some (some m.2)
  | _ => none

def ofMembers? (members : List (String × Value)) : Option Document := do
  let importPath ← (← single? members "import_path").bind Value.text?
  let projectRoot ← (← single? members "project_root").bind Value.text?
  let optionalText key := do
    match ← single? members key with
    | none => some ""
    | some v => v.text?
  let etag ← optionalText "etag"
  let name ← optionalText "name"
  let synopsis ← optionalText "synopsis"
  let imports ← match ← single? members "imports" with
    | none => some []
    | some v => v.texts?
  some { importPath, projectRoot, etag, name, synopsis, imports }

/-- Fields in order; those that are left out at the end are empty. -/
def ofItems? (items : List Value) : Option Document := do
  if items.length < 2 ∨ 6 < items.length then none else
    let texts ← (items.take 5).mapM Value.text?
    let imports ← match items[5]? with
      | none => some []
      | some v => v.texts?
    let field (i : Nat) := texts.getD i ""
    some
      { importPath := field 0, projectRoot := field 1, etag := field 2, name := field 3,
        synopsis := field 4, imports }

def ofValue? : Value → Option Document
  | .object members => (Value.object members).members?.bind ofMembers?
  | .array items => ofItems? items
  | _ => none

/-- The document of a JSON text. -/
def ofJson? (cs : List Char) : Option Document := (Value.ofText? cs).bind ofValue?

end Document

end PackageIndex
