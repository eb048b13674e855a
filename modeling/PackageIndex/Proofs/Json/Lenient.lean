import Mathlib.Data.List.TakeWhile
import PackageIndex.Json.Lenient
import PackageIndex.Proofs.Json.Literal
/-!
What is written as JSON is read by the lenient reader too: an array of literals counts as the texts
that they were written for.
-/
namespace PackageIndex.Json

namespace Lenient

/-- Four digits of a number are read as such. -/
theorem isHexDigit_paddedHex :
    ∀ n < 32, (Text.paddedHex 4 n).length = 4 ∧ (Text.paddedHex 4 n).all Text.isHexDigit := by
  decide

theorem raw?_plain {c : Char} (hquote : c ≠ '"') (hslash : c ≠ '\\') (rest : List Char) :
    raw? '"' (c :: rest) = (raw? '"' rest).map fun r => (c :: r.1, r.2) := by
  rw [raw?]
  · simp [hquote, hslash]
  · simp [hslash]

theorem raw?_digits {cs : List Char} (hcs : cs.all Text.isHexDigit) (rest : List Char) :
    raw? '"' (cs ++ rest) = (raw? '"' rest).map fun r => (cs ++ r.1, r.2) := by
  induction cs with
  | nil => simp
  | cons c cs ih =>
      simp only [List.all_cons, Bool.and_eq_true] at hcs
      have hquote : c ≠ '"' := by
        rintro rfl
        exact absurd hcs.1 (by decide)
      have hslash : c ≠ '\\' := by
        rintro rfl
        exact absurd hcs.1 (by decide)
      rw [List.cons_append, raw?_plain hquote hslash, ih hcs.2, Option.map_map]
      rfl

theorem raw?_escape (c : Char) (rest : List Char) :
    raw? '"' (escape c ++ rest) = (raw? '"' rest).map fun r => (escape c ++ r.1, r.2) := by
  have h := escapedAs_escape c
  generalize escape c = written at h
  cases h with
  | plain _ hquote hslash => exact raw?_plain hquote hslash rest
  | @letter letter hmem hread =>
      have hescaped : isEscaped letter rest = true := by
        simp only [List.mem_cons, List.not_mem_nil, or_false] at hmem
        rcases hmem with rfl | rfl | rfl | rfl | rfl | rfl | rfl <;> rfl
      simp [raw?, hescaped]
  | number hcontrol _ =>
      obtain ⟨hlength, hdigits⟩ := isHexDigit_paddedHex c.toNat (toNat_lt_of_lt_space hcontrol)
      have hescaped : isEscaped 'u' (Text.paddedHex 4 c.toNat ++ rest) = true := by
        simp [isEscaped, List.take_left' hlength, hlength, hdigits]
      simp only [List.cons_append, raw?, hescaped, ite_true, raw?_digits hdigits, Option.map_map]
      rfl

theorem raw?_flatMap_escape (s rest : List Char) :
    raw? '"' (s.flatMap escape ++ '"' :: rest) = some (s.flatMap escape, rest) := by
  induction s with
  | nil => simp [raw?]
  | cons c s ih =>
      rw [List.flatMap_cons, List.append_assoc, raw?_escape, ih]
      rfl

theorem rawPieces_escape (c : Char) (rest : List Char) :
    rawPieces (escape c ++ rest) = piece c :: rawPieces rest := by
  have h := escapedAs_escape c
  generalize escape c = written at h
  cases h with
  | plain hcontrol hquote hslash =>
      have hpiece : piece c = .char c := by simp [piece, hcontrol]
      rw [List.cons_append, List.nil_append, rawPieces, hpiece]
      all_goals simp [hslash]
  | @letter letter hmem hread =>
      simp only [List.mem_cons, List.not_mem_nil, or_false] at hmem
      rcases hmem with rfl | rfl | rfl | rfl | rfl | rfl | rfl <;> cases hread <;>
        simp [rawPieces, isLineEnd, unescape?, piece]
  | number hcontrol hnone =>
      have hpiece : piece c = .unit c.toNat := by simp only [piece, hcontrol, hnone]; simp
      have hdigits := ofDigits?_paddedHex c.toNat (toNat_lt_of_lt_space hcontrol)
      simp only [Text.paddedHex, List.nil_append, List.cons_append] at hdigits
      simp [Text.paddedHex, rawPieces, hdigits, hpiece]

theorem rawPieces_flatMap_escape (s : List Char) : rawPieces (s.flatMap escape) = s.map piece := by
  induction s with
  | nil => simp [rawPieces]
  | cons c s ih => rw [List.flatMap_cons, rawPieces_escape, ih, List.map_cons]

theorem skipGap_eq {c : Char} {rest : List Char} (hgap : isGap c = false) (hslash : c ≠ '/') :
    skipGap (c :: rest) = c :: rest := by
  rw [skipGap.eq_def]
  split <;> simp_all

/-- The node of a literal. -/
def nodeOf (t : String) : Node := .string (t.toList.flatMap escape)

theorem text?_nodeOf (t : String) : (nodeOf t).text? = some t.toList := by
  rw [nodeOf, Node.text?, rawPieces_flatMap_escape, assemble?_map_piece]

theorem node?_ofString (fuel room : Nat) (t : String) (rest : List Char) :
    node? (fuel + 1) room (ofString t ++ rest) = some (nodeOf t, rest) := by
  have hread := raw?_flatMap_escape t.toList rest
  have hopen : ofString t ++ rest = '"' :: (t.toList.flatMap escape ++ '"' :: rest) := by
    simp [ofString, literal]
  rw [hopen, node?, skipGap_eq (by decide) (by decide)]
  simp only [hread, Option.map_some, nodeOf]

theorem skipGap_ofString (t : String) (rest : List Char) :
    skipGap (ofString t ++ rest) = ofString t ++ rest :=
  skipGap_eq (by decide) (by decide)

theorem items?_last (fuel room : Nat) (t : String) (rest : List Char) :
    items? (fuel + 2) room (ofString t ++ ']' :: rest) = some ([nodeOf t], rest) := by
  have hread := node?_ofString fuel room t (']' :: rest)
  have hskip : skipGap (']' :: rest) = ']' :: rest := skipGap_eq (by decide) (by decide)
  rw [items?, skipGap_ofString]
  simp only [ofString, literal, List.cons_append, List.append_assoc, List.nil_append] at hread ⊢
  simp [hread, hskip]

theorem items?_cons (fuel room : Nat) (t : String) (rest : List Char) :
    items? (fuel + 2) room (ofString t ++ ',' :: rest) =
      (items? (fuel + 1) room rest).map fun r => (nodeOf t :: r.1, r.2) := by
  have hread := node?_ofString fuel room t (',' :: rest)
  have hskip : skipGap (',' :: rest) = ',' :: rest := skipGap_eq (by decide) (by decide)
  rw [items?, skipGap_ofString]
  simp only [ofString, literal, List.cons_append, List.append_assoc, List.nil_append] at hread ⊢
  simp [hread, hskip]

/-- The items of an array as they are written, without its brackets. -/
def listed (texts : List String) : List Char := List.intercalate [','] (texts.map ofString)

theorem listed_cons_cons (t u : String) (texts : List String) :
    listed (t :: u :: texts) = ofString t ++ ',' :: listed (u :: texts) := by
  simp [listed, List.intercalate]

theorem length_le_length_listed (texts : List String) :
    texts.length ≤ (listed texts).length := by
  induction texts with
  | nil => simp
  | cons t texts ih =>
      cases texts with
      | nil => simp [listed, List.intercalate, ofString, literal]
      | cons u texts =>
          simp only [listed_cons_cons, List.length_append, List.length_cons] at ih ⊢
          omega

/-- One unit of fuel for each item and one for the last value are enough. -/
theorem items?_listed (fuel room : Nat) (t : String) (texts : List String) (rest : List Char) :
    items? (fuel + texts.length + 2) room (listed (t :: texts) ++ ']' :: rest) =
      some ((t :: texts).map nodeOf, rest) := by
  induction texts generalizing t with
  | nil =>
      have hlisted : listed [t] = ofString t := by simp [listed, List.intercalate]
      rw [hlisted, items?_last]
      rfl
  | cons u texts ih =>
      have hfuel : fuel + (u :: texts).length + 2 = fuel + texts.length + 1 + 2 := by
        simp only [List.length_cons]
        omega
      rw [listed_cons_cons, List.append_assoc, List.cons_append, hfuel, items?_cons, ih u]
      rfl

theorem node?_ofStrings (fuel room : Nat) (texts : List String) (rest : List Char) :
    node? (fuel + texts.length + 2) (room + 1) (ofStrings texts ++ rest) =
      some (.array (texts.map nodeOf), rest) := by
  cases texts with
  | nil =>
      have hopen : ofStrings [] ++ rest = '[' :: ']' :: rest := rfl
      rw [hopen, node?, skipGap_eq (by decide) (by decide)]
      simp only [items?]
      rw [skipGap_eq (by decide) (by decide)]
      rfl
  | cons t texts =>
      have hopen : ofStrings (t :: texts) ++ rest =
          '[' :: (listed (t :: texts) ++ ']' :: rest) := by
        simp [ofStrings, listed]
      have hfuel : fuel + (t :: texts).length + 2 = fuel + texts.length + 2 + 1 := by
        simp only [List.length_cons]
        omega
      rw [hopen, hfuel, node?, skipGap_eq (by decide) (by decide)]
      simp only [items?_listed, Option.map_some]

theorem not_mem_escape {c x : Char} (hx : x ∈ escape c) : x ≠ '\x00' := by
  have hnumber : ∀ n < 32, '\x00' ∉ Text.paddedHex 4 n := by decide
  rintro rfl
  have h := escapedAs_escape c
  generalize escape c = written at h hx
  cases h with
  | plain hcontrol _ _ =>
      obtain rfl := List.mem_singleton.mp hx
      exact hcontrol (by decide)
  | letter hmem _ =>
      simp only [List.mem_cons, List.not_mem_nil, or_false] at hmem hx
      grind
  | number hcontrol _ =>
      simp only [List.mem_cons] at hx
      rcases hx with hx | hx | hx
      · exact absurd hx (by decide)
      · exact absurd hx (by decide)
      · exact hnumber c.toNat (toNat_lt_of_lt_space hcontrol) hx

theorem not_mem_listed (texts : List String) : '\x00' ∉ listed texts := by
  have hliteral (t : String) : '\x00' ∉ ofString t := by
    intro hmem
    simp only [ofString, literal, List.mem_cons, List.mem_append, List.mem_flatMap,
      List.not_mem_nil, or_false] at hmem
    obtain hquote | ⟨c, _, hc⟩ | hquote := hmem
    · exact absurd hquote (by decide)
    · exact not_mem_escape hc rfl
    · exact absurd hquote (by decide)
  induction texts with
  | nil => simp [listed, List.intercalate]
  | cons t texts ih =>
      cases texts with
      | nil => simpa [listed, List.intercalate] using hliteral t
      | cons u texts =>
          rw [listed_cons_cons, List.mem_append, List.mem_cons]
          rintro (hmem | hcomma | hmem)
          · exact hliteral t hmem
          · exact absurd hcomma (by decide)
          · exact ih hmem

theorem takeWhile_ofStrings (texts : List String) :
    (ofStrings texts).takeWhile (· ≠ '\x00') = ofStrings texts := by
  have hopen : ofStrings texts = '[' :: (listed texts ++ [']']) := rfl
  refine List.takeWhile_eq_self_iff.mpr fun c hc => ?_
  simp only [hopen, List.mem_cons, List.mem_append, List.not_mem_nil, or_false] at hc
  rcases hc with rfl | hc | rfl
  · rfl
  · simp only [decide_eq_true_eq]
    rintro rfl
    exact not_mem_listed texts hc
  · rfl

theorem ofText?_ofStrings (texts : List String) :
    ofText? (ofStrings texts) = some (.array (texts.map nodeOf)) := by
  have hlength : texts.length ≤ 2 * (ofStrings texts).length := by
    have hlisted := length_le_length_listed texts
    have hofStrings : (ofStrings texts).length = (listed texts).length + 2 := by
      simp [ofStrings, listed]
    omega
  obtain ⟨fuel, hfuel⟩ := Nat.exists_eq_add_of_le' hlength
  have hnode := node?_ofStrings fuel 999 texts []
  rw [List.append_nil] at hnode
  have hend : skipGap [] = [] := by rw [skipGap.eq_def]
  simp only [ofText?, takeWhile_ofStrings, hfuel, maxDepth, hnode, hend, ite_true]

/-- Written texts count as the texts that they are. -/
theorem texts?_ofStrings (texts : List String) :
    texts? (ofStrings texts) = some (texts.map String.toList) := by
  have hvalues : (texts.map nodeOf).all Node.hasValue = true := by
    simp [nodeOf, Node.hasValue]
  have htexts : (texts.map nodeOf).filterMap Node.text? = texts.map String.toList := by
    have heach : Node.text? ∘ nodeOf = fun t => some t.toList := funext text?_nodeOf
    rw [List.filterMap_map, heach, List.filterMap_eq_map']
  simp only [texts?, ofText?_ofStrings, Option.bind_some, Node.members, hvalues, ite_true, htexts]

end Lenient

end PackageIndex.Json
