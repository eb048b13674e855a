import PackageIndex.Proofs.Json.Grammar
/-!
What is written as JSON is read back. A literal denotes the text that it was written for, arrays
and objects of texts that denote values denote the values of their parts, and whatever denotes a
value is read as it.
-/
namespace PackageIndex

/-- A list is read when each of its items is. -/
theorem mapM_eq_some_iff {α β : Type} {f : α → Option β} {l : List α} {l' : List β} :
    l.mapM f = some l' ↔ l.map f = l'.map some := by
  induction l generalizing l' with
  | nil => cases l' <;> simp
  | cons a l ih =>
      cases ha : f a with
      | none => cases l' <;> simp [ha]
      | some b =>
          cases l' with
          | nil => cases hl : l.mapM f <;> simp [ha, hl]
          | cons b' l' => cases hl : l.mapM f <;> simp_all

namespace Json

theorem piecesSpelling_flatMap_escape (s : List Char) :
    PiecesSpelling (s.flatMap escape) (s.map piece) := by
  induction s with
  | nil => exact .nil
  | cons c s ih =>
    rw [List.flatMap_cons, List.map_cons]
    exact .cons (escapedAs_escape c).pieceSpelling ih

def textValue (t : String) : Value := .string (some t.toList)

def textsValue (texts : List String) : Value := .array (texts.map textValue)

/-- The object of some members whose names are texts. -/
def objectValue (members : List (String × Value)) : Value :=
  .object (members.map fun m => (some m.1.toList, m.2))

theorem texts?_eq_some_iff {v : Value} {texts : List String} :
    v.texts? = some texts ↔ v = textsValue texts := by
  cases v with
  | array items =>
    rw [Value.texts?, mapM_eq_some_iff, textsValue, Value.array.injEq]
    induction items generalizing texts with
    | nil => cases texts <;> simp
    | cons v items ih => cases texts <;> simp [ih, text?_eq_some_iff, textValue]
  | _ => simp [Value.texts?, textsValue]

theorem members?_eq_some_iff {v : Value} {members : List (String × Value)} :
    v.members? = some members ↔ v = objectValue members := by
  cases v with
  | object written =>
    rw [Value.members?, mapM_eq_some_iff, objectValue, Value.object.injEq]
    induction written generalizing members with
    | nil => cases members <;> simp
    | cons m written ih =>
      obtain ⟨key, v⟩ := m
      cases members with
      | nil => simp
      | cons m members => cases key <;> simp [ih, Prod.ext_iff, String.ext_iff]
  | _ => simp [Value.members?, objectValue]

theorem denotes_literal (s : List Char) : Denotes (literal s) (.string (some s)) := by
  have h := Denotes.string (piecesSpelling_flatMap_escape s)
  rwa [assemble?_map_piece] at h

theorem denotes_ofString (t : String) : Denotes (ofString t) (textValue t) :=
  denotes_literal t.toList

variable {α : Type}

theorem denotes_array {write : α → List Char} {value : α → Value} {l : List α}
    (h : ∀ a ∈ l, Denotes (write a) (value a)) :
    Denotes ('[' :: (List.intercalate [','] (l.map write) ++ [']'])) (.array (l.map value)) := by
  cases l with
  | nil => exact Denotes.noItems (show IsGap [] from nofun)
  | cons a l =>
    have hne : ((a :: l).map fun b => (write b, value b)) ≠ [] := List.cons_ne_nil _ _
    have hitems := Denotes.items hne (by simpa using h)
    rwa [List.map_map, List.map_map] at hitems

theorem denotes_object (key : α → String) {write : α → List Char} {value : α → Value} {l : List α}
    (hne : l ≠ []) (h : ∀ a ∈ l, Denotes (write a) (value a)) :
    Denotes
      ('{' :: (List.intercalate [','] (l.map fun a => ofString (key a) ++ ':' :: write a) ++ ['}']))
      (.object (l.map fun a => (some (key a).toList, value a))) := by
  have hwritten : (l.map fun a =>
      (⟨ofString (key a), some (key a).toList, write a, value a⟩ : MemberText)) ≠ [] := by
    simpa using hne
  have hmembers := Denotes.members hwritten (by simp [ofString, denotes_literal]) (by simpa using h)
  rwa [List.map_map, List.map_map] at hmembers

/-- An object of parts, each with its name, the text of what it is given, and the value of that. -/
theorem denotes_parts {parts : List (String × List Char × Value)} (hne : parts ≠ [])
    (h : ∀ part ∈ parts, Denotes part.2.1 part.2.2) :
    Denotes
      ('{' :: (List.intercalate [',']
        (parts.map fun part => ofString part.1 ++ ':' :: part.2.1) ++ ['}']))
      (objectValue (parts.map fun part => (part.1, part.2.2))) := by
  rw [objectValue, List.map_map]
  exact denotes_object Prod.fst hne h

theorem denotes_ofStrings (texts : List String) :
    Denotes (ofStrings texts) (textsValue texts) :=
  denotes_array fun t _ => denotes_ofString t

/-- The array of some texts is read as these texts in their order. -/
theorem strings?OfText_ofStrings (texts : List String) :
    strings?OfText (ofStrings texts) = some texts := by
  rw [strings?OfText, (denotes_ofStrings texts).ofText?, Option.bind_some,
    texts?_eq_some_iff.mpr rfl]

end Json

end PackageIndex
