import Mathlib.Data.List.Nodup
import PackageIndex.Document
import PackageIndex.Proofs.Json.Written
/-!
The JSON form of a document. An object is read as a document when its members tell of it: the
document's own members stand among them in any order, none of them twice, and those that need not
be given may be missing where they are empty; members with other names say nothing. The compact
form is one such object.
-/
namespace PackageIndex

open PackageIndex.Json

namespace Document

/-- The parts of the compact form. -/
def parts (d : Document) : List (String × List Char × Value) :=
  [ ("import_path", ofString d.importPath, textValue d.importPath)
  , ("project_root", ofString d.projectRoot, textValue d.projectRoot)
  , ("etag", ofString d.etag, textValue d.etag), ("name", ofString d.name, textValue d.name)
  , ("synopsis", ofString d.synopsis, textValue d.synopsis)
  , ("imports", ofStrings d.imports, textsValue d.imports) ]

def members (d : Document) : List (String × Value) := d.parts.map fun part => (part.1, part.2.2)

def names : List String := ["import_path", "project_root", "etag", "name", "synopsis", "imports"]

/-- What stands for a member that is missing. -/
def missing : List (String × Value) :=
  [ ("etag", textValue ""), ("name", textValue ""), ("synopsis", textValue "")
  , ("imports", textsValue []) ]

/-- Members tell of a document, whatever their order and whatever has other names, when each of its
own is one of them, or is missing and empty, and none of its names stands there twice. -/
structure Tells (d : Document) (members : List (String × Value)) : Prop where
  own : ∀ m ∈ members, m.1 ∈ names → m ∈ d.members
  once : ∀ name ∈ names, (members.map Prod.fst).count name ≤ 1
  complete : ∀ m ∈ d.members, m ∈ members ∨ m ∈ missing

/-- A text tells of a document as an object. -/
def ToldBy (d : Document) (cs : List Char) : Prop :=
  ∃ members, d.Tells members ∧ Denotes cs (objectValue members)

section Member

variable {members : List (String × Value)} {key : String} {m : String × Value}

theorem map_fst_members (d : Document) : d.members.map Prod.fst = names := rfl

theorem fst_mem_names {d : Document} (h : m ∈ d.members) : m.1 ∈ names :=
  d.map_fst_members ▸ List.mem_map_of_mem h

/-- A name stands for one member of a document. -/
theorem eq_of_mem_members {d : Document} {m' : String × Value} (h : m ∈ d.members)
    (h' : m' ∈ d.members) (hname : m.1 = m'.1) : m = m' := by
  have hnodup : (d.members.map Prod.fst).Nodup := by
    rw [map_fst_members]
    decide
  exact List.inj_on_of_nodup_map hnodup h h' hname

/-- The members that a name has. -/
abbrev named (members : List (String × Value)) (key : String) : List (String × Value) :=
  members.filter fun m => m.1 = key

theorem length_named (members : List (String × Value)) (key : String) :
    (named members key).length = (members.map Prod.fst).count key := by
  rw [← List.countP_eq_length_filter, List.count, List.countP_map]
  rfl

theorem single?_eq_some_iff {v? : Option Value} :
    single? members key = some v? ↔ named members key = (v?.map fun v => (key, v)).toList := by
  rw [single?]
  cases hnamed : members.filter fun m => m.1 = key with
  | nil => cases v? <;> simp [named, hnamed]
  | cons m rest =>
    have hm : m ∈ members.filter fun m => m.1 = key := hnamed ▸ List.mem_cons_self
    obtain rfl : m.1 = key := by simpa using (List.mem_filter.mp hm).2
    cases rest <;> cases v? <;> simp [named, hnamed, Prod.ext_iff]

/-- A member is told once, or it is missing and there is something that stands for it. -/
def Told (members : List (String × Value)) (m : String × Value) : Prop :=
  named members m.1 = [m] ∨ named members m.1 = [] ∧ m ∈ missing

theorem tells_iff {d : Document} : d.Tells members ↔ ∀ m ∈ d.members, Told members m := by
  constructor
  · intro h m hm
    have hname := fst_mem_names hm
    have hlength := (length_named members m.1).le.trans (h.once _ hname)
    cases hnamed : named members m.1 with
    | nil =>
      refine .inr ⟨hnamed, (h.complete m hm).resolve_left fun hmem => ?_⟩
      have hfound : m ∈ named members m.1 := by simp [hmem]
      rw [hnamed] at hfound
      cases hfound
    | cons m' rest =>
      have hm' : m' ∈ named members m.1 := hnamed ▸ List.mem_cons_self
      obtain ⟨hmem, hsame⟩ : m' ∈ members ∧ m'.1 = m.1 := by simpa using hm'
      obtain rfl : m = m' := eq_of_mem_members hm (h.own m' hmem (hsame ▸ hname)) hsame.symm
      obtain rfl : rest = [] := by simpa [hnamed] using hlength
      exact .inl hnamed
  · intro h
    have hnamed (name : String) (hname : name ∈ names) :
        ∃ m ∈ d.members, m.1 = name ∧ Told members m := by
      rw [← d.map_fst_members, List.mem_map] at hname
      obtain ⟨m, hm, rfl⟩ := hname
      exact ⟨m, hm, rfl, h m hm⟩
    refine ⟨fun m hmem hname => ?_, fun name hname => ?_, fun m hm => ?_⟩
    · obtain ⟨m', hm', hsame, htold⟩ := hnamed m.1 hname
      have hfound : m ∈ named members m'.1 := by simp [hmem, hsame]
      obtain htold | ⟨htold, -⟩ := htold
      · rw [htold, List.mem_singleton] at hfound
        exact hfound ▸ hm'
      · rw [htold] at hfound
        cases hfound
    · obtain ⟨m, -, rfl, htold⟩ := hnamed name hname
      rw [← length_named]
      obtain htold | ⟨htold, -⟩ := htold <;> simp [htold]
    · obtain htold | ⟨-, hmissing⟩ := h m hm
      · have hfound : m ∈ named members m.1 := htold ▸ List.mem_cons_self
        exact .inl (List.mem_filter.mp hfound).1
      · exact .inr hmissing

end Member

section Reading

variable {members : List (String × Value)} {key : String} {α : Type}

def required? (members : List (String × Value)) (key : String) : Option String :=
  (single? members key).bind fun v? => v?.bind Value.text?

def optional? (members : List (String × Value)) (key : String) (read : Value → Option α)
    (standIn : α) : Option α := do
  match ← single? members key with
  | none => some standIn
  | some v => read v

theorem required?_eq_some_iff {t : String} :
    required? members key = some t ↔ named members key = [(key, textValue t)] := by
  simp only [required?, Option.bind_eq_some_iff, single?_eq_some_iff, text?_eq_some_iff]
  constructor
  · rintro ⟨_, hnamed, _, rfl, rfl⟩
    exact hnamed
  · intro hnamed
    exact ⟨some (textValue t), hnamed, _, rfl, rfl⟩

theorem optional?_eq_some_iff {read : Value → Option α} {value : α → Value}
    (hread : ∀ {v a}, read v = some a ↔ v = value a) {standIn a : α} :
    optional? members key read standIn = some a ↔
      named members key = [(key, value a)] ∨ named members key = [] ∧ a = standIn := by
  simp only [optional?, Option.bind_eq_bind, Option.bind_eq_some_iff, single?_eq_some_iff]
  constructor
  · rintro ⟨v?, hnamed, hv⟩
    cases v? with
    | none => exact .inr ⟨hnamed, (Option.some.inj hv).symm⟩
    | some v => exact .inl (hread.mp hv ▸ hnamed)
  · rintro (hnamed | ⟨hnamed, rfl⟩)
    · exact ⟨some (value a), hnamed, hread.mpr rfl⟩
    · exact ⟨none, hnamed, rfl⟩

theorem ofMembers?_eq (members : List (String × Value)) :
    ofMembers? members = (do
      let importPath ← required? members "import_path"
      let projectRoot ← required? members "project_root"
      let etag ← optional? members "etag" Value.text? ""
      let name ← optional? members "name" Value.text? ""
      let synopsis ← optional? members "synopsis" Value.text? ""
      let imports ← optional? members "imports" Value.texts? []
      some ⟨importPath, projectRoot, etag, name, synopsis, imports⟩) := by
  simp only [ofMembers?, required?, optional?, Option.bind_eq_bind, Option.bind_assoc]
  repeat' refine Option.bind_congr fun v? _ => ?_
  cases v? <;> rfl

/-- The reader of members takes those that tell of a document, and reads it from them. -/
theorem ofMembers?_eq_some_iff {d : Document} : ofMembers? members = some d ↔ d.Tells members := by
  have htext {key : String} {t : String} : optional? members key Value.text? "" = some t ↔
      named members key = [(key, textValue t)] ∨ named members key = [] ∧ t = "" :=
    optional?_eq_some_iff text?_eq_some_iff
  have htexts {key : String} {texts : List String} :
      optional? members key Value.texts? [] = some texts ↔
        named members key = [(key, textsValue texts)] ∨
          named members key = [] ∧ texts = [] :=
    optional?_eq_some_iff texts?_eq_some_iff
  have hempty {t : String} : textValue t = textValue "" ↔ t = "" := by
    simp [textValue]
  have hnone {texts : List String} : textsValue texts = textsValue [] ↔ texts = [] := by
    simp [textsValue]
  obtain ⟨importPath, projectRoot, etag, name, synopsis, imports⟩ := d
  rw [tells_iff, ofMembers?_eq]
  simp only [Option.bind_eq_bind, Option.bind_eq_some_iff, required?_eq_some_iff, htext, htexts,
    Document.members, List.forall_mem_map, parts, List.forall_mem_cons, Told]
  simp [missing, hempty, hnone]

end Reading

section Text

variable {d : Document} {cs : List Char}

/-- A text tells of a document when it is read as an object, and this as the document. -/
theorem toldBy_iff :
    d.ToldBy cs ↔ ((Value.ofText? cs).bind Value.members?).bind ofMembers? = some d := by
  simp only [ToldBy, Option.bind_eq_some_iff, ofText?_eq_some_iff_denotes, members?_eq_some_iff,
    ofMembers?_eq_some_iff]
  constructor
  · rintro ⟨members, htells, hdenotes⟩
    exact ⟨members, ⟨_, hdenotes, rfl⟩, htells⟩
  · rintro ⟨members, ⟨_, hdenotes, rfl⟩, htells⟩
    exact ⟨members, htells, hdenotes⟩

theorem ofValue?_objectValue (members : List (String × Value)) :
    ofValue? (objectValue members) = ofMembers? members := by
  rw [objectValue, ofValue?, ← objectValue, members?_eq_some_iff.mpr rfl, Option.bind_some]

theorem ToldBy.ofJson? (h : d.ToldBy cs) : ofJson? cs = some d := by
  obtain ⟨members, htells, hdenotes⟩ := h
  rw [Document.ofJson?, hdenotes.ofText?, Option.bind_some, ofValue?_objectValue,
    ofMembers?_eq_some_iff.mpr htells]

/-- A text is read as a document when it tells of it as an object, or as an array of its fields. -/
theorem ofJson?_eq_some_iff : ofJson? cs = some d ↔
    d.ToldBy cs ∨ ∃ items, Denotes cs (.array items) ∧ ofItems? items = some d := by
  constructor
  · intro h
    obtain ⟨v, hv, hread⟩ := Option.bind_eq_some_iff.mp h
    have hdenotes := ofText?_eq_some_iff_denotes.mp hv
    cases v with
    | object written =>
      obtain ⟨members, hmembers, hd⟩ := Option.bind_eq_some_iff.mp hread
      rw [members?_eq_some_iff.mp hmembers] at hdenotes
      exact .inl ⟨members, ofMembers?_eq_some_iff.mp hd, hdenotes⟩
    | array items => exact .inr ⟨items, hdenotes, hread⟩
    | _ => cases hread
  · rintro (h | ⟨items, hdenotes, hread⟩)
    · exact h.ofJson?
    · rw [Document.ofJson?, hdenotes.ofText?, Option.bind_some, ofValue?, hread]

theorem tells_members (d : Document) : d.Tells d.members := by
  refine ⟨fun m hm _ => hm, fun name hname => ?_, fun m hm => .inl hm⟩
  rw [map_fst_members]
  revert name
  decide

theorem denotes_of_mem_parts (d : Document) : ∀ part ∈ d.parts, Denotes part.2.1 part.2.2 := by
  simp only [parts, List.forall_mem_cons]
  exact ⟨denotes_ofString _, denotes_ofString _, denotes_ofString _, denotes_ofString _,
    denotes_ofString _, denotes_ofStrings _, nofun⟩

/-- The compact form is the object of the members in their order. -/
theorem denotes_toJson (d : Document) : Denotes d.toJson (objectValue d.members) := by
  have hparts := denotes_parts (List.cons_ne_nil _ _) d.denotes_of_mem_parts
  rw [toJson, members]
  exact hparts

theorem toldBy_toJson (d : Document) : d.ToldBy d.toJson :=
  ⟨d.members, d.tells_members, d.denotes_toJson⟩

end Text

end Document

end PackageIndex
