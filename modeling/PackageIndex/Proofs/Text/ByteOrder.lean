import PackageIndex.Proofs.Text.Utf8
/-!
Texts compare as their UTF-8 bytes do. Of two characters the greater one has the greater byte
at the first place where their encodings differ, and neither encoding begins with the other.
-/
namespace PackageIndex.Text

/-- Some byte decides that a list comes before another, and not that it ends. -/
inductive Precedes : List UInt8 → List UInt8 → Prop
  | head {x y : UInt8} {a b : List UInt8} : x < y → Precedes (x :: a) (y :: b)
  | tail {x : UInt8} {a b : List UInt8} : Precedes a b → Precedes (x :: a) (x :: b)

theorem Precedes.append_lt {a b : List UInt8} (h : Precedes a b) (u v : List UInt8) :
    a ++ u < b ++ v := by
  induction h with
  | head hlt => exact List.Lex.rel hlt
  | tail _ ih => exact List.Lex.cons ih

theorem ofNat_lt_ofNat {m n : Nat} (h : m < n) (hn : n < 256) :
    UInt8.ofNat m < UInt8.ofNat n := by
  rw [UInt8.lt_iff_toNat_lt, UInt8.toNat_ofNat_of_lt' (Nat.lt_trans h hn),
    UInt8.toNat_ofNat_of_lt' hn]
  exact h

theorem precedes_lead {m n : Nat} {a b : List UInt8} (h : m < n) (hn : n < 256) :
    Precedes (UInt8.ofNat m :: a) (UInt8.ofNat n :: b) :=
  .head (ofNat_lt_ofNat h hn)

/-- Where the first bytes do not decide, the others have to. -/
theorem precedes_next {m n : Nat} {a b : List UInt8} (h : m ≤ n) (hn : n < 256)
    (hrest : m = n → Precedes a b) : Precedes (UInt8.ofNat m :: a) (UInt8.ofNat n :: b) := by
  rcases Nat.lt_or_eq_of_le h with hlt | heq
  · exact precedes_lead hlt hn
  · subst heq
    exact .tail (hrest rfl)

theorem utf8EncodeChar_precedes {c d : Char} (h : c < d) :
    Precedes (String.utf8EncodeChar c) (String.utf8EncodeChar d) := by
  have hlt : c.val.toNat < d.val.toNat := UInt32.lt_iff_toNat_lt.mp h
  have hbound : d.val.toNat < 0x110000 := by
    have hvalid : d.val.toNat < 0xd800 ∨ 0xdfff < d.val.toNat ∧ d.val.toNat < 0x110000 := d.valid
    omega
  simp only [String.utf8EncodeChar]
  generalize c.val.toNat = m at hlt
  generalize d.val.toNat = n at hlt hbound
  -- A longer encoding has the greater lead byte; of two that are as long the first byte that
  -- differs decides.
  by_cases h1 : n ≤ 0x7f
  · simp only [h1, show m ≤ 0x7f by omega, ite_true]
    exact precedes_lead hlt (by omega)
  by_cases h2 : n ≤ 0x7ff
  · simp only [h1, h2, ite_true, ite_false]
    split
    · exact precedes_lead (by omega) (by omega)
    · simp only [show m ≤ 0x7ff by omega, ite_true]
      refine precedes_next (by omega) (by omega) fun _ => ?_
      exact precedes_lead (by omega) (by omega)
  by_cases h3 : n ≤ 0xffff
  · simp only [h1, h2, h3, ite_true, ite_false]
    split
    · exact precedes_lead (by omega) (by omega)
    · split
      · exact precedes_lead (by omega) (by omega)
      · simp only [show m ≤ 0xffff by omega, ite_true]
        refine precedes_next (by omega) (by omega) fun _ => ?_
        refine precedes_next (by omega) (by omega) fun _ => ?_
        exact precedes_lead (by omega) (by omega)
  · simp only [h1, h2, h3, ite_false]
    split
    · exact precedes_lead (by omega) (by omega)
    · split
      · exact precedes_lead (by omega) (by omega)
      · split
        · exact precedes_lead (by omega) (by omega)
        · refine precedes_next (by omega) (by omega) fun _ => ?_
          refine precedes_next (by omega) (by omega) fun _ => ?_
          refine precedes_next (by omega) (by omega) fun _ => ?_
          exact precedes_lead (by omega) (by omega)

theorem utf8Encode_lt {cs ds : List Char} (h : cs < ds) :
    cs.flatMap String.utf8EncodeChar < ds.flatMap String.utf8EncodeChar := by
  induction h with
  | @nil d ds =>
      rw [List.flatMap_nil, List.flatMap_cons]
      cases hd : String.utf8EncodeChar d with
      | nil => exact absurd hd String.utf8EncodeChar_ne_nil
      | cons x rest => exact List.Lex.nil
  | rel hlt => exact (utf8EncodeChar_precedes hlt).append_lt _ _
  | @cons c cs ds _ ih =>
      rw [List.flatMap_cons, List.flatMap_cons]
      induction String.utf8EncodeChar c with
      | nil => exact ih
      | cons x rest ihbytes => exact List.Lex.cons ihbytes

/-- The order of texts is the order of their bytes. -/
theorem lt_iff_bytes_lt {s t : String} : s < t ↔ bytes s < bytes t := by
  have hmono {s t : String} (h : s < t) : bytes s < bytes t := by
    rw [bytes_eq_flatMap, bytes_eq_flatMap]
    exact utf8Encode_lt h
  refine ⟨hmono, fun h => Classical.byContradiction fun hlt => ?_⟩
  rcases Classical.em (t < s) with hgt | hgt
  · exact List.lt_asymm h (hmono hgt)
  · have heq : s = t := String.le_antisymm (String.not_lt.mp hgt) (String.not_lt.mp hlt)
    subst heq
    exact List.lt_irrefl _ h

end PackageIndex.Text
