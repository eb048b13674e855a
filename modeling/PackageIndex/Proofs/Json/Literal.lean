import PackageIndex.Json.Value
import PackageIndex.Proofs.Text.Digits
/-!
A literal denotes the text that it was written for, whatever characters that has. The reader goes
piece by piece, so the writer's spelling of a character is one of those that a piece can have.
-/
namespace PackageIndex.Json

open PackageIndex.Text

/-- The letters that stand for a character after a backslash. -/
def letters : List (Char × Char) :=
  [('"', '"'), ('\\', '\\'), ('/', '/'), ('b', '\x08'), ('f', '\x0c'), ('n', '\n'), ('r', '\r'),
    ('t', '\t')]

theorem unescape?_eq_some_iff {letter c : Char} :
    unescape? letter = some c ↔ (letter, c) ∈ letters := by
  constructor
  · intro h
    rw [unescape?.eq_def] at h
    split at h <;> cases h <;> decide
  · intro h
    simp only [letters, List.mem_cons, Prod.mk.injEq, List.not_mem_nil, or_false] at h
    rcases h with ⟨rfl, rfl⟩ | ⟨rfl, rfl⟩ | ⟨rfl, rfl⟩ | ⟨rfl, rfl⟩ | ⟨rfl, rfl⟩ | ⟨rfl, rfl⟩ |
      ⟨rfl, rfl⟩ | ⟨rfl, rfl⟩ <;> rfl

/-- Four hexadecimal digits denote a unit of sixteen bits. -/
structure DenotesUnit (digits : List Char) (n : Nat) : Prop where
  length : digits.length = 4
  value : ofDigits? 16 hexValue? digits = some n

theorem DenotesUnit.lt {digits : List Char} {n : Nat} (h : DenotesUnit digits n) : n < 0x10000 := by
  have hlt := ofDigits?_lt hexValue?_lt h.value
  rwa [h.length] at hlt

/-- The spellings of a piece between the quotes of a literal. -/
inductive PieceSpelling : List Char → Piece → Prop
  | plain {c : Char} : ¬ c < ' ' → c ≠ '"' → c ≠ '\\' → PieceSpelling [c] (.char c)
  | letter {letter c : Char} : (letter, c) ∈ letters → PieceSpelling ['\\', letter] (.char c)
  | number {digits : List Char} {n : Nat} :
      DenotesUnit digits n → PieceSpelling ('\\' :: 'u' :: digits) (.unit n)

theorem PieceSpelling.pieces?_append {cs : List Char} {p : Piece} (h : PieceSpelling cs p)
    (rest : List Char) :
    pieces? (cs ++ rest) = (pieces? rest).map fun r => (p :: r.1, r.2) := by
  have hbind : ((pieces? rest).bind fun r => some (p :: r.1, r.2)) =
      (pieces? rest).map fun r => (p :: r.1, r.2) := by
    cases pieces? rest <;> rfl
  cases h with
  | plain hcontrol hquote hslash =>
    rw [List.cons_append, List.nil_append, pieces?]
    · rw [if_neg hcontrol]
      exact hbind
    all_goals simp [hquote, hslash]
  | @letter letter c hmem =>
    have hu : letter ≠ 'u' := by
      rintro rfl
      revert hmem
      simp [letters]
    rw [List.cons_append, List.cons_append, List.nil_append, pieces?]
    · rw [unescape?_eq_some_iff.mpr hmem]
      exact hbind
    · simp [hu]
  | @number digits n hunit =>
    match digits, hunit with
    | [a, b, c, d], hunit =>
      simp only [List.cons_append, List.nil_append, pieces?, hunit.value]
      exact hbind

/-- How a character is written: as it is, by a letter, or by its number. -/
inductive EscapedAs (c : Char) : List Char → Prop
  | plain : ¬ c < ' ' → c ≠ '"' → c ≠ '\\' → EscapedAs c [c]
  | letter {letter : Char} :
      letter ∈ ['"', '\\', 'b', 'f', 'n', 'r', 't'] → unescape? letter = some c →
      EscapedAs c ['\\', letter]
  | number : c < ' ' → c ∉ ['\x08', '\x0c', '\n', '\r', '\t'] →
      EscapedAs c ('\\' :: 'u' :: paddedHex 4 c.toNat)

theorem escapedAs_escape (c : Char) : EscapedAs c (escape c) := by
  by_cases hquote : c = '"'
  · subst hquote
    exact .letter (by decide) rfl
  by_cases hslash : c = '\\'
  · subst hslash
    exact .letter (by decide) rfl
  by_cases hletter : c ∈ ['\x08', '\x0c', '\n', '\r', '\t']
  · simp only [List.mem_cons, List.not_mem_nil, or_false] at hletter
    rcases hletter with rfl | rfl | rfl | rfl | rfl <;> exact .letter (by decide) rfl
  have hnone := hletter
  simp only [List.mem_cons, List.not_mem_nil, or_false, not_or] at hletter
  obtain ⟨hb, hf, hn, hr, ht⟩ := hletter
  by_cases hcontrol : c < ' '
  · simp only [escape, hquote, hslash, hb, hf, hn, hr, ht, hcontrol, ite_true, ite_false,
      List.cons_append, List.nil_append]
    exact .number hcontrol hnone
  · simp only [escape, hquote, hslash, hb, hf, hn, hr, ht, hcontrol, ite_false]
    exact .plain hcontrol hquote hslash

/-- What the reader finds where a character was written. -/
def piece (c : Char) : Piece :=
  if c < ' ' ∧ c ∉ ['\x08', '\x0c', '\n', '\r', '\t'] then .unit c.toNat else .char c

theorem ofDigits?_paddedHex : ∀ n < 32, ofDigits? 16 hexValue? (paddedHex 4 n) = some n := by
  decide

theorem toNat_lt_of_lt_space {c : Char} (h : c < ' ') : c.toNat < 32 := h

theorem EscapedAs.pieceSpelling {c : Char} {cs : List Char} (h : EscapedAs c cs) :
    PieceSpelling cs (piece c) := by
  cases h with
  | plain hcontrol hquote hslash =>
    have hpiece : piece c = .char c := by simp [piece, hcontrol]
    rw [hpiece]
    exact .plain hcontrol hquote hslash
  | @letter letter hmem hread =>
    have hpiece : piece c = .char c := by
      simp only [List.mem_cons, List.not_mem_nil, or_false] at hmem
      rcases hmem with rfl | rfl | rfl | rfl | rfl | rfl | rfl <;> cases hread <;> rfl
    rw [hpiece]
    exact .letter (unescape?_eq_some_iff.mp hread)
  | number hcontrol hnone =>
    have hpiece : piece c = .unit c.toNat := if_pos ⟨hcontrol, hnone⟩
    rw [hpiece]
    exact .number ⟨rfl, ofDigits?_paddedHex c.toNat (toNat_lt_of_lt_space hcontrol)⟩

/-- A unit that is no surrogate stands for a character of its own. -/
theorem assemble?_unit {n : Nat} (hleading : isLeading n = false) (htrailing : isTrailing n = false)
    (ps : List Piece) : assemble? (.unit n :: ps) = (assemble? ps).map (Char.ofNat n :: ·) := by
  cases ps with
  | nil => simp [assemble?, hleading, htrailing]
  | cons p ps => cases p <;> simp [assemble?, hleading, htrailing]

theorem assemble?_map_piece (s : List Char) : assemble? (s.map piece) = some s := by
  induction s with
  | nil => rfl
  | cons c s ih =>
      rw [List.map_cons, piece]
      split
      next hcontrol =>
        have hlt := toNat_lt_of_lt_space hcontrol.1
        have hleading : isLeading c.toNat = false := by simp [isLeading]; omega
        have htrailing : isTrailing c.toNat = false := by simp [isTrailing]; omega
        rw [assemble?_unit hleading htrailing, ih, Option.map_some, Char.ofNat_toNat]
      next => rw [assemble?, ih, Option.map_some]

end PackageIndex.Json
