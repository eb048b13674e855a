import PackageIndex.Json.Bytes
import PackageIndex.Proofs.Json.Spelling
/-!
Reading JSON from bytes. Where the bytes are a text, its characters are read. A literal with a byte
that belongs to no character is a literal, and denotes no text.
-/
namespace PackageIndex.Json

section

variable {before : ByteArray} {cs : List Char} {ps qs : List Piece}

theorem charactersFrom_encode {fuel : Nat} (hfuel : cs.utf8Encode.size ≤ fuel) :
    charactersFrom (before ++ cs.utf8Encode) fuel before.size = cs := by
  induction cs generalizing before fuel with
  | nil => cases fuel <;> simp [charactersFrom]
  | cons c cs ih =>
      have hsize : (c :: cs).utf8Encode.size = c.utf8Size + cs.utf8Encode.size := by
        rw [List.utf8Encode_cons, ByteArray.size_append, List.utf8Encode_singleton]
        simp
      have hpositive := c.utf8Size_pos
      obtain ⟨fuel, rfl⟩ := Nat.exists_eq_add_one_of_ne_zero (n := fuel) (by omega)
      have hdecode : (before ++ (c :: cs).utf8Encode).utf8DecodeChar? before.size = some c := by
        rw [ByteArray.utf8DecodeChar?_eq_utf8DecodeChar?_extract, ByteArray.size_append,
          ByteArray.extract_append_eq_right rfl rfl, List.utf8DecodeChar?_utf8Encode_cons]
      have hstep : before ++ (c :: cs).utf8Encode =
          (before ++ (String.utf8EncodeChar c).toByteArray) ++ cs.utf8Encode := by
        rw [List.utf8Encode_cons, List.utf8Encode_singleton, ByteArray.append_assoc]
      have hplace : before.size + c.utf8Size =
          (before ++ (String.utf8EncodeChar c).toByteArray).size := by simp
      have hinside : before.size < (before ++ (c :: cs).utf8Encode).size := by
        rw [ByteArray.size_append]
        omega
      rw [charactersFrom, if_pos hinside, hdecode]
      simp only [hplace]
      rw [hstep, ih (by omega)]

/-- The characters of a text are read from its bytes. -/
theorem characters_toUTF8 (s : String) : characters s.toUTF8 = s.toList := by
  have h := @charactersFrom_encode .empty s.toList _ (Nat.le_refl _)
  rwa [String.utf8Encode_toList, ByteArray.empty_append] at h

theorem Value.ofBytes?_toUTF8 (s : String) : Value.ofBytes? s.toUTF8 = Value.ofText? s.toList := by
  rw [Value.ofBytes?, characters_toUTF8]

theorem PiecesSpelling.pieces?_append_any (h : PiecesSpelling cs ps) (rest : List Char) :
    pieces? (cs ++ rest) = (pieces? rest).map fun r => (ps ++ r.1, r.2) := by
  induction h with
  | nil => simp
  | cons hp _ ih =>
      rw [List.append_assoc, hp.pieces?_append, ih, Option.map_map]
      rfl

theorem piecesSpelling_stray : PiecesSpelling stray [.char '\uFFFD', .unit 0xDC00] := by
  have hmark : PieceSpelling ['\uFFFD'] (.char '\uFFFD') :=
    .plain (by decide) (by decide) (by decide)
  have hescape : PieceSpelling ['\\', 'u', 'd', 'c', '0', '0'] (.unit 0xDC00) :=
    .number ⟨rfl, by decide⟩
  exact .cons hmark (.cons hescape .nil)

/-- A trailing surrogate after a character has no partner. -/
theorem assemble?_of_stray (ps qs : List Piece) :
    assemble? (ps ++ .char '\uFFFD' :: .unit 0xDC00 :: qs) = none := by
  have hstray : assemble? (.char '\uFFFD' :: .unit 0xDC00 :: qs) = none := by
    cases qs with
    | nil => rfl
    | cons q qs => cases q <;> simp [assemble?, isLeading, isTrailing]
  induction ps using assemble?.induct with
  | case1 => exact hstray
  | case2 c rest ih | case3 rest ih => simp [assemble?, ih]
  | case4 high low rest h ih => simp [assemble?, h, ih]
  | case5 high low rest h h' => simp [assemble?, h, h']
  | case6 high low rest h h' ih =>
      rw [List.cons_append] at ih
      simp [assemble?, h, h', ih]
  | case7 n rest hlast h | case8 n rest hlast h ih =>
      have hnext : ∀ low rest', rest ++ .char '\uFFFD' :: .unit 0xDC00 :: qs ≠ .unit low :: rest' := by
        rintro low rest' heq
        cases rest with
        | nil => cases heq
        | cons p rest =>
            cases heq
            exact hlast low rest rfl
      rw [List.cons_append, assemble?]
      · simp [*]
      · exact hnext

/-- A literal with a stray byte is read to its end, like any other one that denotes no text. -/
theorem string?_of_stray {before after rest : List Char} (hbefore : PiecesSpelling before ps)
    (hafter : pieces? after = some (qs, rest)) :
    string? (before ++ (stray ++ after)) = some (none, rest) := by
  rw [string?, hbefore.pieces?_append_any, piecesSpelling_stray.pieces?_append_any, hafter]
  simp only [Option.map_some, List.cons_append, List.nil_append, assemble?_of_stray]

end

end PackageIndex.Json
