import PackageIndex.Fetch
import PackageIndex.Proofs.Document
/-!
The JSON form of a fetch request. Who receives it finds in it the stored document that it was made
with.
-/
namespace PackageIndex.FetchRequest

open PackageIndex.Json

/-- The document that the text of a request gives as the stored one. -/
def priorIn? (cs : List Char) : Option Document := do
  let members ← (← Value.ofText? cs).members?
  (← Document.single? members "prior").bind Document.ofValue?

/-- The parts of the compact form. -/
def parts (r : FetchRequest) : List (String × List Char × Value) :=
  [ ("import_path", ofString r.importPath, textValue r.importPath)
  , ("reason", ofString r.reason.text, textValue r.reason.text)
  , ("prior", (r.prior.map Document.toJson).getD null,
      (r.prior.map fun d => objectValue d.members).getD .null)
  , ("has_subdirs", if r.hasSubdirs then "true".toList else "false".toList, .bool r.hasSubdirs)
  , ("prior_crawl", (r.priorCrawl.map fun t => literal (Timestamp.zuluText t)).getD null,
      (r.priorCrawl.map fun t => .string (some (Timestamp.zuluText t))).getD .null) ]

theorem denotes_getD {α : Type} {write : α → List Char} {value : α → Value}
    (h : ∀ a, Denotes (write a) (value a)) (a? : Option α) :
    Denotes ((a?.map write).getD null) ((a?.map value).getD .null) := by
  cases a? with
  | none => exact .null
  | some a => exact h a

theorem denotes_of_mem_parts (r : FetchRequest) : ∀ part ∈ r.parts, Denotes part.2.1 part.2.2 := by
  have hsubdirs :
      Denotes (if r.hasSubdirs then "true".toList else "false".toList) (.bool r.hasSubdirs) := by
    cases r.hasSubdirs with
    | true => exact .yes
    | false => exact .no
  simp only [parts, List.forall_mem_cons]
  exact ⟨denotes_ofString _, denotes_ofString _, denotes_getD Document.denotes_toJson _, hsubdirs,
    denotes_getD (fun t => denotes_literal (Timestamp.zuluText t)) _, nofun⟩

theorem denotes_toJson (r : FetchRequest) :
    Denotes r.toJson (objectValue (r.parts.map fun part => (part.1, part.2.2))) := by
  have hparts := denotes_parts (List.cons_ne_nil _ _) r.denotes_of_mem_parts
  rw [toJson]
  exact hparts

theorem ofValue?_prior (prior : Option Document) :
    Document.ofValue? ((prior.map fun d => objectValue d.members).getD .null) = prior := by
  cases prior with
  | none => rfl
  | some d =>
    rw [Option.map_some, Option.getD_some, Document.ofValue?_objectValue,
      Document.ofMembers?_eq_some_iff.mpr d.tells_members]

/-- The stored document is read from the text of a request as it is. -/
theorem priorIn?_toJson (r : FetchRequest) : priorIn? r.toJson = r.prior := by
  have hsingle : Document.single? (r.parts.map fun part => (part.1, part.2.2)) "prior" =
      some (some ((r.prior.map fun d => objectValue d.members).getD .null)) := rfl
  rw [priorIn?, r.denotes_toJson.ofText?, Option.bind_eq_bind, Option.bind_some,
    members?_eq_some_iff.mpr rfl, Option.bind_eq_bind, Option.bind_some, hsingle]
  exact ofValue?_prior r.prior

end PackageIndex.FetchRequest
