import Mathlib.Data.List.TakeWhile
import PackageIndex.Proofs.Json.Literal
/-!
What the reader of literals accepts. A character has several spellings: it may stand as it is,
after a backslash by its letter or by the number of its unit, and beyond the first plane as a pair
of surrogates. A literal is read as a text just when it spells that text, character by character.
-/
namespace PackageIndex.Json

open PackageIndex.Text

/-- The spellings of some pieces, one after another. -/
inductive PiecesSpelling : List Char → List Piece → Prop
  | nil : PiecesSpelling [] []
  | cons {cs rest : List Char} {p : Piece} {ps : List Piece} :
      PieceSpelling cs p → PiecesSpelling rest ps → PiecesSpelling (cs ++ rest) (p :: ps)

/-- The spellings of a character between the quotes of a literal. -/
inductive Spelling : List Char → Char → Prop
  | char {cs : List Char} {c : Char} : PieceSpelling cs (.char c) → Spelling cs c
  | unit {cs : List Char} {c : Char} : PieceSpelling cs (.unit c.toNat) → Spelling cs c
  | pair {cs cs' : List Char} {high low : Nat} {c : Char} :
      PieceSpelling cs (.unit high) → PieceSpelling cs' (.unit low) →
      0xD800 ≤ high → high < 0xDC00 → 0xDC00 ≤ low → low < 0xE000 →
      c.toNat = 0x10000 + (high - 0xD800) * 0x400 + (low - 0xDC00) → Spelling (cs ++ cs') c

/-- What stands between the quotes of a literal spells a text. -/
inductive Spells : List Char → List Char → Prop
  | nil : Spells [] []
  | cons {cs rest s : List Char} {c : Char} :
      Spelling cs c → Spells rest s → Spells (cs ++ rest) (c :: s)

/-- A text is one literal of another, blanks around it allowed. -/
def IsLiteral (cs : List Char) (t : String) : Prop :=
  ∃ before body after : List Char, cs = before ++ '"' :: (body ++ '"' :: after) ∧
    (∀ c ∈ before, isSpace c) ∧ (∀ c ∈ after, isSpace c) ∧ Spells body t.toList

section Pieces

variable {cs rest : List Char} {ps : List Piece}

theorem PiecesSpelling.pieces?_append (h : PiecesSpelling cs ps) (rest : List Char) :
    pieces? (cs ++ '"' :: rest) = some (ps, rest) := by
  induction h with
  | nil => simp [pieces?]
  | cons hp _ ih => rw [List.append_assoc, hp.pieces?_append, ih, Option.map_some]

/-- After any piece the reader goes on with what follows it. -/
theorem exists_piecesSpelling_cons {taken : List Char} {p : Piece} {result : List Piece × List Char}
    (hp : PieceSpelling taken p) (hresult : some (p :: result.1, result.2) = some (ps, rest))
    (ih : ∃ body, cs = body ++ '"' :: result.2 ∧ PiecesSpelling body result.1) :
    ∃ body, taken ++ cs = body ++ '"' :: rest ∧ PiecesSpelling body ps := by
  obtain ⟨rfl, rfl⟩ := Prod.mk.inj (Option.some.inj hresult)
  obtain ⟨body, rfl, hbody⟩ := ih
  exact ⟨taken ++ body, (List.append_assoc _ _ _).symm, .cons hp hbody⟩

theorem exists_piecesSpelling (h : pieces? cs = some (ps, rest)) :
    ∃ body, cs = body ++ '"' :: rest ∧ PiecesSpelling body ps := by
  induction cs using pieces?.induct generalizing ps rest with
  | case1 => cases h
  | case2 after =>
    rw [pieces?] at h
    obtain ⟨rfl, rfl⟩ := Prod.mk.inj (Option.some.inj h)
    exact ⟨[], rfl, .nil⟩
  | case3 a b c d after ih =>
    rw [pieces?] at h
    obtain ⟨n, hn, h⟩ := Option.bind_eq_some_iff.mp h
    obtain ⟨result, hrest, hresult⟩ := Option.bind_eq_some_iff.mp h
    exact exists_piecesSpelling_cons (.number ⟨rfl, hn⟩) hresult (ih hrest)
  | case4 letter after hu ih =>
    rw [pieces?] at h
    · obtain ⟨c, hc, h⟩ := Option.bind_eq_some_iff.mp h
      obtain ⟨result, hrest, hresult⟩ := Option.bind_eq_some_iff.mp h
      exact exists_piecesSpelling_cons (.letter (unescape?_eq_some_iff.mp hc)) hresult (ih hrest)
    · exact hu
  | case5 c after hquote hunit hletter hcontrol =>
    rw [pieces?, if_pos hcontrol] at h
    · cases h
    all_goals assumption
  | case6 c after hquote hunit hletter hcontrol ih =>
    rw [pieces?, if_neg hcontrol] at h
    · obtain ⟨result, hrest, hresult⟩ := Option.bind_eq_some_iff.mp h
      have hslash : c ≠ '\\' := by
        -- A backslash at the end leaves nothing to read a closing quote from.
        rintro rfl
        cases after with
        | nil => cases hrest
        | cons letter after => exact hletter letter after rfl rfl
      exact exists_piecesSpelling_cons (.plain hcontrol hquote hslash) hresult (ih hrest)
    all_goals assumption

end Pieces

section Texts

variable {cs s : List Char} {ps : List Piece}

/-- The number of a unit stays below its width. -/
theorem PieceSpelling.unit_lt {n : Nat} (h : PieceSpelling cs (.unit n)) : n < 0x10000 := by
  cases h with
  | number hunit => exact hunit.lt

theorem not_isSurrogate_toNat (c : Char) : (isLeading c.toNat || isTrailing c.toNat) = false := by
  have hvalid : c.toNat < 0xD800 ∨ 0xDFFF < c.toNat := c.valid.imp_right And.left
  simp only [isLeading, isTrailing, Bool.or_eq_false_iff, Bool.and_eq_false_imp,
    decide_eq_true_eq, decide_eq_false_iff_not]
  omega

theorem toNat_ofNat_of_unit {n : Nat} (hn : n < 0x10000)
    (h : ¬(isLeading n || isTrailing n) = true) : (Char.ofNat n).toNat = n := by
  have hvalid : n.isValidChar := by
    simp only [isLeading, isTrailing, Bool.or_eq_true, Bool.and_eq_true, decide_eq_true_eq] at h
    simp only [Nat.isValidChar]
    omega
  rw [Char.ofNat, dif_pos hvalid]
  rfl

/-- A unit that is no surrogate spells the character of its number. -/
theorem PieceSpelling.spelling {n : Nat} (h : PieceSpelling cs (.unit n))
    (hn : ¬(isLeading n || isTrailing n) = true) : Spelling cs (Char.ofNat n) := by
  rw [← toNat_ofNat_of_unit h.unit_lt hn] at h
  exact .unit h

theorem toNat_paired {high low : Nat} (hhigh : 0xD800 ≤ high) (hhigh' : high < 0xDC00)
    (hlow : 0xDC00 ≤ low) (hlow' : low < 0xE000) :
    (paired high low).toNat = 0x10000 + (high - 0xD800) * 0x400 + (low - 0xDC00) := by
  have hvalid : (0x10000 + (high - 0xD800) * 0x400 + (low - 0xDC00)).isValidChar := by
    simp only [Nat.isValidChar]
    omega
  rw [paired, Char.ofNat, dif_pos hvalid]
  rfl

theorem PiecesSpelling.spells (h : PiecesSpelling cs ps) (hs : assemble? ps = some s) :
    Spells cs s := by
  -- A unit is taken alone or with the unit after it, so the cases are those of the assembly.
  induction ps using assemble?.induct generalizing cs s with
  | case1 =>
    cases h
    cases hs
    exact .nil
  | case2 c ps ih =>
    cases h with
    | cons hc hrest =>
      obtain ⟨t, ht, rfl⟩ := Option.map_eq_some_iff.mp hs
      exact .cons (.char hc) (ih hrest ht)
  | case3 ps =>
    cases h with
    | cons hnothing => cases hnothing
  | case4 high low ps hpair ih =>
    rw [assemble?, if_pos hpair] at hs
    obtain ⟨t, ht, rfl⟩ := Option.map_eq_some_iff.mp hs
    simp only [isLeading, isTrailing, Bool.and_eq_true, decide_eq_true_eq] at hpair
    obtain ⟨⟨hhigh, hhigh'⟩, hlow, hlow'⟩ := hpair
    cases h with
    | cons hfirst hrest =>
      cases hrest with
      | cons hsecond hrest =>
        rw [← List.append_assoc]
        exact .cons (.pair hfirst hsecond hhigh hhigh' hlow hlow'
          (toNat_paired hhigh hhigh' hlow hlow')) (ih hrest ht)
  | case5 high low ps hpair hsurrogate =>
    rw [assemble?, if_neg hpair, if_pos hsurrogate] at hs
    cases hs
  | case6 high low ps hpair hsurrogate ih =>
    rw [assemble?, if_neg hpair, if_neg hsurrogate] at hs
    obtain ⟨t, ht, rfl⟩ := Option.map_eq_some_iff.mp hs
    cases h with
    | cons hunit hrest => exact .cons (hunit.spelling hsurrogate) (ih hrest ht)
  | case7 n ps hnext hsurrogate =>
    rw [assemble?, if_pos hsurrogate] at hs
    · cases hs
    · exact hnext
  | case8 n ps hnext hsurrogate ih =>
    rw [assemble?, if_neg hsurrogate] at hs
    · obtain ⟨t, ht, rfl⟩ := Option.map_eq_some_iff.mp hs
      cases h with
      | cons hunit hrest => exact .cons (hunit.spelling hsurrogate) (ih hrest ht)
    · exact hnext

theorem Spells.exists_piecesSpelling (h : Spells cs s) :
    ∃ ps, PiecesSpelling cs ps ∧ assemble? ps = some s := by
  induction h with
  | nil => exact ⟨[], .nil, rfl⟩
  | @cons cs rest s c hc _ ih =>
    obtain ⟨ps, hps, hs⟩ := ih
    cases hc with
    | char hc => exact ⟨_, .cons hc hps, by rw [assemble?, hs, Option.map_some]⟩
    | unit hunit =>
      obtain ⟨hleading, htrailing⟩ := Bool.or_eq_false_iff.mp (not_isSurrogate_toNat c)
      refine ⟨_, .cons hunit hps, ?_⟩
      rw [assemble?_unit hleading htrailing, hs, Option.map_some, Char.ofNat_toNat]
    | pair hfirst hsecond hhigh hhigh' hlow hlow' hc =>
      have hpaired := toNat_paired hhigh hhigh' hlow hlow'
      rw [← hc] at hpaired
      rw [List.append_assoc]
      refine ⟨_, .cons hfirst (.cons hsecond hps), ?_⟩
      simp [assemble?, isLeading, isTrailing, hhigh, hhigh', hlow, hlow', hs,
        Char.toNat_inj.mp hpaired]

/-- What the reader of literals accepts, and as which text. -/
theorem string?_eq_some_iff {rest : List Char} :
    string? cs = some (some s, rest) ↔ ∃ body, cs = body ++ '"' :: rest ∧ Spells body s := by
  constructor
  · intro h
    obtain ⟨⟨ps, rest'⟩, hread, heq⟩ := Option.map_eq_some_iff.mp h
    obtain ⟨hs, rfl⟩ := Prod.mk.inj heq
    obtain ⟨body, rfl, hbody⟩ := exists_piecesSpelling hread
    exact ⟨body, rfl, hbody.spells hs⟩
  · rintro ⟨body, rfl, hbody⟩
    obtain ⟨ps, hps, hs⟩ := hbody.exists_piecesSpelling
    simp only [string?, hps.pieces?_append, Option.map_some, hs]

theorem skipSpace_eq_cons_iff {c : Char} {rest : List Char} (hc : isSpace c = false) :
    skipSpace cs = c :: rest ↔ ∃ before, cs = before ++ c :: rest ∧ ∀ b ∈ before, isSpace b := by
  constructor
  · intro h
    refine ⟨cs.takeWhile isSpace, ?_, fun b hb => List.mem_takeWhile_imp hb⟩
    rw [← h, skipSpace, List.takeWhile_append_dropWhile]
  · rintro ⟨before, rfl, hbefore⟩
    rw [skipSpace, List.dropWhile_append_of_pos hbefore, List.dropWhile_cons_of_neg (by simp [hc])]

/-- A value that denotes a text is a literal. -/
theorem value?_string_iff {fuel : Nat} {s? : Option (List Char)} {rest : List Char} :
    value? (fuel + 1) cs = some (.string s?, rest) ↔
      ∃ inner, skipSpace cs = '"' :: inner ∧ string? inner = some (s?, rest) := by
  constructor
  · intro h
    rw [value?] at h
    split at h
    next inner hinner =>
      obtain ⟨⟨t?, after⟩, hread, heq⟩ := Option.map_eq_some_iff.mp h
      cases heq
      exact ⟨inner, hinner, hread⟩
    -- Every other value has another constructor.
    all_goals
      repeat' split at h
      all_goals simp at h
  · rintro ⟨inner, hinner, hread⟩
    simp [value?, hinner, hread]

theorem ofText?_eq_some_iff {v : Value} : Value.ofText? cs = some v ↔
    ∃ after, value? (2 * cs.length + 2) cs = some (v, after) ∧ ∀ c ∈ after, isSpace c := by
  simp only [← List.dropWhile_eq_nil_iff]
  rw [Value.ofText?]
  cases value? (2 * cs.length + 2) cs with
  | none => simp
  | some found => simp [skipSpace, Prod.ext_iff, and_assoc, and_comm]

theorem text?_eq_some_iff {v : Value} {t : String} :
    v.text? = some t ↔ v = .string (some t.toList) := by
  constructor
  · intro h
    match v, h with
    | .string s?, h =>
      obtain ⟨s, rfl, rfl⟩ := Option.map_eq_some_iff.mp h
      rw [String.toList_ofList]
  · rintro rfl
    rw [Value.text?, Option.map_some, String.ofList_toList]

/-- A text is read as another when it is one literal of it, and only then. -/
theorem string?OfText_eq_some_iff {t : String} : string?OfText cs = some t ↔ IsLiteral cs t := by
  have hquote : isSpace '"' = false := by decide
  simp only [string?OfText, Option.bind_eq_some_iff, ofText?_eq_some_iff, text?_eq_some_iff]
  constructor
  · rintro ⟨-, ⟨after, hread, hafter⟩, rfl⟩
    obtain ⟨inner, hinner, hstring⟩ := value?_string_iff.mp hread
    obtain ⟨before, rfl, hbefore⟩ := (skipSpace_eq_cons_iff hquote).mp hinner
    obtain ⟨body, rfl, hbody⟩ := string?_eq_some_iff.mp hstring
    exact ⟨before, body, after, rfl, hbefore, hafter, hbody⟩
  · rintro ⟨before, body, after, rfl, hbefore, hafter, hbody⟩
    have hstring : string? (body ++ '"' :: after) = some (some t.toList, after) :=
      string?_eq_some_iff.mpr ⟨body, rfl, hbody⟩
    have hinner : skipSpace (before ++ '"' :: (body ++ '"' :: after)) =
        '"' :: (body ++ '"' :: after) :=
      (skipSpace_eq_cons_iff hquote).mpr ⟨before, rfl, hbefore⟩
    exact ⟨_, ⟨after, value?_string_iff.mpr ⟨_, hinner, hstring⟩, hafter⟩, rfl⟩

end Texts

end PackageIndex.Json
