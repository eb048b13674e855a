import PackageIndex.Credentials
import PackageIndex.Proofs.Text.Digits
import PackageIndex.Proofs.Text.Utf8
/-!
The values of credentials. What checks the escapes of a value and what undoes them are two readers
of it; they agree because both follow the bytes that the value denotes. However a text is encoded,
its encoding denotes the bytes of that text.
-/
namespace PackageIndex.Credentials

open PackageIndex.Text

/-- Two hexadecimal digits are the number of a byte. -/
structure IsByte (a b : Char) (x : UInt8) : Prop where
  high : hexValue? a = some (x.toNat / 16)
  low : hexValue? b = some (x.toNat % 16)

/-- The bytes that a value denotes: of an escape its byte, of a plus sign a space, and of any
other character its own UTF-8 bytes. -/
inductive Decodes : List Char → List UInt8 → Prop
  | nil : Decodes [] []
  | escape {a b : Char} {x : UInt8} {cs : List Char} {bs : List UInt8} :
      IsByte a b x → Decodes cs bs → Decodes ('%' :: a :: b :: cs) (x :: bs)
  | plus {cs : List Char} {bs : List UInt8} :
      Decodes cs bs → Decodes ('+' :: cs) (String.utf8EncodeChar ' ' ++ bs)
  | char {c : Char} {cs : List Char} {bs : List UInt8} :
      c ≠ '%' → c ≠ '+' → Decodes cs bs → Decodes (c :: cs) (String.utf8EncodeChar c ++ bs)

/-- Bytes as escapes, one after another. -/
inductive Escapes : List Char → List UInt8 → Prop
  | nil : Escapes [] []
  | cons {a b : Char} {x : UInt8} {cs : List Char} {bs : List UInt8} :
      IsByte a b x → Escapes cs bs → Escapes ('%' :: a :: b :: cs) (x :: bs)

/-- The encodings of a character: its bytes as escapes, a plus sign for a space, or the character
itself when it is no mark and no blank. -/
inductive CharEncoding : List Char → Char → Prop
  | escaped {cs : List Char} {c : Char} :
      Escapes cs (String.utf8EncodeChar c) → CharEncoding cs c
  | plus : CharEncoding ['+'] ' '
  | plain {c : Char} : c ∉ ['%', '&', '+'] → ¬ isBlank c → CharEncoding [c] c

/-- The encodings of a text, each character in one of its own. -/
inductive Encoding : List Char → List Char → Prop
  | nil : Encoding [] []
  | cons {cs rest s : List Char} {c : Char} :
      CharEncoding cs c → Encoding rest s → Encoding (cs ++ rest) (c :: s)

section Value

variable {cs : List Char} {bs : List UInt8} {a b : Char} {x : UInt8}

theorem spaced_of_hexValue? {c : Char} {d : Nat} (h : hexValue? c = some d) : spaced c = c := by
  have hplus : c ≠ '+' := by
    rintro rfl
    cases h
  exact if_neg hplus

/-- The byte of two digits. -/
theorem isByte_toUInt8 {high low : Nat} (ha : hexValue? a = some high)
    (hb : hexValue? b = some low) : IsByte a b (high * 16 + low).toUInt8 := by
  have hhigh := hexValue?_lt ha
  have hlow := hexValue?_lt hb
  have hbyte : (high * 16 + low).toUInt8.toNat = high * 16 + low :=
    UInt8.toNat_ofNat_of_lt' (by simp only [UInt8.size]; omega)
  constructor
  · rw [ha, hbyte]
    congr 1
    omega
  · rw [hb, hbyte]
    congr 1
    omega

theorem IsByte.unescaped (h : IsByte a b x) (cs : List Char) :
    unescaped ('%' :: a :: b :: cs) = x :: unescaped cs := by
  rw [Text.unescaped, h.high, h.low]
  simp only [Nat.div_add_mod', Nat.toUInt8_eq, UInt8.ofNat_toNat]

theorem unescaped_cons {c : Char} (h : c ≠ '%') (cs : List Char) :
    unescaped (c :: cs) = String.utf8EncodeChar c ++ unescaped cs := by
  rw [unescaped]
  simp [h]

theorem hasValidEscapes_cons {c : Char} (h : c ≠ '%') (cs : List Char) :
    hasValidEscapes (c :: cs) = hasValidEscapes cs := by
  rw [hasValidEscapes] <;> simp [h]

theorem Decodes.hasValidEscapes (h : Decodes cs bs) : hasValidEscapes cs = true := by
  induction h with
  | nil => rfl
  | escape hbyte _ ih =>
    simp [Credentials.hasValidEscapes, isHexDigit, hbyte.high, hbyte.low, ih]
  | plus _ ih => rwa [hasValidEscapes_cons (by decide)]
  | char hpercent _ _ ih => rwa [hasValidEscapes_cons hpercent]

theorem Decodes.unescaped (h : Decodes cs bs) : unescaped (cs.map spaced) = bs := by
  induction h with
  | nil => rw [List.map_nil, Text.unescaped]
  | escape hbyte _ ih =>
    have hpercent : spaced '%' = '%' := rfl
    rw [List.map_cons, List.map_cons, List.map_cons, hpercent, spaced_of_hexValue? hbyte.high,
      spaced_of_hexValue? hbyte.low, hbyte.unescaped, ih]
  | plus _ ih => rw [List.map_cons, spaced, if_pos rfl, unescaped_cons (by decide), ih]
  | char hpercent hplus _ ih =>
    rw [List.map_cons, spaced, if_neg hplus, unescaped_cons hpercent, ih]

theorem exists_decodes (h : Credentials.hasValidEscapes cs = true) : ∃ bs, Decodes cs bs := by
  induction cs using hasValidEscapes.induct with
  | case1 => exact ⟨[], .nil⟩
  | case2 a b rest ih =>
    simp only [Credentials.hasValidEscapes, isHexDigit, Bool.and_eq_true, Option.isSome_iff_exists]
      at h
    obtain ⟨⟨⟨high, ha⟩, low, hb⟩, hrest⟩ := h
    obtain ⟨bs, hbs⟩ := ih hrest
    exact ⟨_, .escape (isByte_toUInt8 ha hb) hbs⟩
  | case3 rest hshort =>
    rw [Credentials.hasValidEscapes] at h
    · cases h
    · exact hshort
  | case4 c rest _ hpercent ih =>
    rw [hasValidEscapes_cons hpercent] at h
    obtain ⟨bs, hbs⟩ := ih h
    by_cases hplus : c = '+'
    · subst hplus
      exact ⟨_, .plus hbs⟩
    · exact ⟨_, .char hpercent hplus hbs⟩

/-- A value is read as the text whose bytes it denotes. -/
theorem value_eq_ok_iff {key s : String} : value key cs = .ok s ↔ Decodes cs (bytes s) := by
  constructor
  · intro h
    rw [value] at h
    split at h
    next hvalid =>
      obtain ⟨bs, hbs⟩ := exists_decodes hvalid
      rw [hbs.unescaped] at h
      split at h
      · cases h
      next hs =>
        obtain rfl := Except.ok.inj h
        rwa [← fromUTF8?_toArray_eq_some_iff.mp hs]
    · cases h
  · intro h
    simp only [value, h.hasValidEscapes, h.unescaped, fromUTF8?_toArray_eq_some_iff.mpr rfl,
      if_true]

end Value

section Encodings

variable {cs rest s : List Char} {bs bs' : List UInt8} {c : Char}

theorem Escapes.decodes_append (h : Escapes cs bs) (hrest : Decodes rest bs') :
    Decodes (cs ++ rest) (bs ++ bs') := by
  induction h with
  | nil => exact hrest
  | cons hbyte _ ih => exact .escape hbyte ih

theorem CharEncoding.decodes_append (h : CharEncoding cs c) (hrest : Decodes rest bs) :
    Decodes (cs ++ rest) (String.utf8EncodeChar c ++ bs) := by
  cases h with
  | escaped hescapes => exact hescapes.decodes_append hrest
  | plus => exact .plus hrest
  | plain hmark _ =>
    simp only [List.mem_cons, List.not_mem_nil, or_false, not_or] at hmark
    exact .char hmark.1 hmark.2.2 hrest

/-- An encoding of a text denotes its bytes. -/
theorem Encoding.decodes (h : Encoding cs s) : Decodes cs (s.flatMap String.utf8EncodeChar) := by
  induction h with
  | nil => exact .nil
  | cons hc _ ih => exact hc.decodes_append ih

/-- Characters that stand neither around the pieces of a query nor between them. -/
def IsInner (c : Char) : Prop := c ≠ '&' ∧ ¬ isBlank c

instance (c : Char) : Decidable (IsInner c) := inferInstanceAs (Decidable (_ ∧ _))

theorem isInner_of_hexValue? {d : Nat} (h : hexValue? c = some d) : IsInner c := by
  obtain ⟨-, hlow, hhigh⟩ := hexValue?_bounds h
  refine ⟨?_, ?_⟩
  · rintro rfl
    cases h
  · simp only [isBlank, Bool.or_eq_true, Bool.and_eq_true, decide_eq_true_eq]
    omega

theorem Escapes.isInner (h : Escapes cs bs) : ∀ c ∈ cs, IsInner c := by
  induction h with
  | nil => simp
  | cons hbyte _ ih =>
    simp only [List.forall_mem_cons]
    exact ⟨by decide, isInner_of_hexValue? hbyte.high, isInner_of_hexValue? hbyte.low, ih⟩

theorem CharEncoding.isInner (h : CharEncoding cs c) : ∀ c ∈ cs, IsInner c := by
  cases h with
  | escaped hescapes => exact hescapes.isInner
  | plus =>
    rw [List.forall_mem_singleton]
    decide
  | plain hmark hblank =>
    simp only [List.mem_cons, List.not_mem_nil, or_false, not_or] at hmark
    exact List.forall_mem_singleton.mpr ⟨hmark.2.1, hblank⟩

theorem Encoding.isInner (h : Encoding cs s) : ∀ c ∈ cs, IsInner c := by
  induction h with
  | nil => simp
  | cons hc _ ih => exact List.forall_mem_append.mpr ⟨hc.isInner, ih⟩

end Encodings

end PackageIndex.Credentials
