import Mathlib.Data.List.TakeWhile
import PackageIndex.Proofs.Sql.Pieces
/-!
Texts that are put together from texts that are closed. The pieces of the whole are those of the
parts, one part after the other; only the gap before the first piece of a part grows by what
stands before it.
-/
namespace PackageIndex.Sql

section Pieces

variable {c : Char} {cs rest r u : List Char} {kind : Kind} {t : Token} {ts : List Token}
  {fuel fuel' : Nat}

theorem afterComment_suffix (cs : List Char) : afterComment cs <:+ cs := by
  induction cs using afterComment.induct with
  | case1 rest => exact ⟨['*', '/'], rfl⟩
  | case2 c rest hother ih =>
    rw [afterComment.eq_2 _ _ hother]
    exact ih.trans (List.suffix_cons c rest)
  | case3 => exact List.suffix_refl _

theorem gapEnd_suffix (cs : List Char) : gapEnd cs <:+ cs := by
  have hshorter {a : Char} {cs w : List Char} (h : w <:+ cs)
      (ih : ∀ m < (a :: cs).length, ∀ u : List Char, u.length = m → gapEnd u <:+ u) :
      gapEnd w <:+ a :: cs :=
    ((ih _ (Nat.lt_succ_of_le h.length_le) w rfl).trans h).trans (List.suffix_cons a cs)
  induction hn : cs.length using Nat.strongRecOn generalizing cs with
  | ind n ih =>
    subst hn
    by_cases hopens : OpensComment cs
    · obtain ⟨rest, rfl⟩ | ⟨c, rest, rfl⟩ := hopens
      · rw [gapEnd_dashes]
        exact hshorter ((List.dropWhile_suffix _).trans (List.suffix_cons _ _)) ih
      · rw [gapEnd_comment]
        exact hshorter ((afterComment_suffix _).trans (List.suffix_cons _ _)) ih
    · cases cs with
      | nil => exact List.suffix_refl _
      | cons c cs =>
        rw [gapEnd_cons hopens]
        split
        · exact hshorter (List.dropWhile_suffix _) ih
        split
        · exact hshorter (List.suffix_refl _) ih
        · exact List.suffix_refl _

/-- The piece that stands between two rests of a text, with the gap before it. -/
def pieceToken (kind : Kind) (cs start rest : List Char) : Token :=
  { kind, text := start.take (start.length - rest.length)
    gap := cs.take (cs.length - start.length) }

/-- The pieces of a text without a zero character. -/
def pieces? (cs : List Char) : Option (List Token) := tokensFrom? (cs.length + 1) cs

theorem pieces?_nil : pieces? [] = some [] := rfl

theorem tokensFrom?_succ (h : cs.length ≤ fuel) :
    tokensFrom? (fuel + 1) cs =
      if gapEnd cs = [] then some []
      else (piece? (gapEnd cs)).bind fun p =>
        if p.1 = .symbol ";" then some []
        else (tokensFrom? fuel p.2).map (pieceToken p.1 cs (gapEnd cs) p.2 :: ·) := by
  rw [tokensFrom?, afterGap_eq (Nat.le_succ_of_le h)]
  split
  · rfl
  · cases piece? (gapEnd cs) with
    | none => rfl
    | some p =>
      simp only [Option.bind_eq_bind, Option.bind_some, Option.map_eq_bind]
      rfl

theorem length_rest_lt (h : piece? (gapEnd cs) = some (kind, rest)) : rest.length < cs.length :=
  Nat.lt_of_lt_of_le (length_piece?_lt h) (gapEnd_suffix cs).length_le

/-- More steps than there are characters make no difference. -/
theorem tokensFrom?_congr (h : cs.length < fuel) (h' : cs.length < fuel') :
    tokensFrom? fuel cs = tokensFrom? fuel' cs := by
  induction fuel generalizing cs fuel' with
  | zero => cases h
  | succ fuel ih =>
    cases fuel' with
    | zero => cases h'
    | succ fuel' =>
      rw [tokensFrom?_succ (Nat.le_of_lt_succ h), tokensFrom?_succ (Nat.le_of_lt_succ h')]
      cases hpiece : piece? (gapEnd cs) with
      | none => rfl
      | some p =>
        have hlt := length_rest_lt hpiece
        have hrest : tokensFrom? fuel p.2 = tokensFrom? fuel' p.2 := ih (by omega) (by omega)
        rw [Option.bind_some, Option.bind_some, hrest]

theorem pieces?_eq (cs : List Char) :
    pieces? cs =
      if gapEnd cs = [] then some []
      else (piece? (gapEnd cs)).bind fun p =>
        if p.1 = .symbol ";" then some []
        else (pieces? p.2).map (pieceToken p.1 cs (gapEnd cs) p.2 :: ·) := by
  rw [pieces?, tokensFrom?_succ (Nat.le_refl _)]
  cases hpiece : piece? (gapEnd cs) with
  | none => rfl
  | some p =>
    rw [Option.bind_some, Option.bind_some, pieces?,
      tokensFrom?_congr (length_rest_lt hpiece) (Nat.lt_succ_self _)]

/-- The first piece of a text, and the text behind it. -/
theorem pieces?_eq_cons_iff : pieces? cs = some (t :: ts) ↔
    ∃ kind rest, piece? (gapEnd cs) = some (kind, rest) ∧ kind ≠ .symbol ";" ∧
      t = pieceToken kind cs (gapEnd cs) rest ∧ pieces? rest = some ts := by
  rw [pieces?_eq]
  by_cases hempty : gapEnd cs = []
  · simp [hempty, piece?]
  rw [if_neg hempty]
  cases piece? (gapEnd cs) with
  | none => simp
  | some p =>
    obtain ⟨kind, rest⟩ := p
    by_cases hends : kind = .symbol ";"
    · simp [hends]
    · simp only [Option.bind_some, if_neg hends, Option.map_eq_some_iff, List.cons.injEq,
        Option.some.injEq, Prod.mk.injEq]
      constructor
      · rintro ⟨_, hrest, rfl, rfl⟩
        exact ⟨kind, rest, ⟨rfl, rfl⟩, hends, rfl, hrest⟩
      · rintro ⟨_, _, ⟨rfl, rfl⟩, -, rfl, hrest⟩
        exact ⟨_, hrest, rfl, rfl⟩

theorem pieceToken_append (kind : Kind) (u v w r : List Char) :
    pieceToken kind (u ++ r) (v ++ r) (w ++ r) = pieceToken kind u v w := by
  have hdiff {a b : List Char} : (a ++ r).length - (b ++ r).length = a.length - b.length := by
    simp only [List.length_append]
    omega
  simp only [pieceToken, hdiff, List.take_append_of_le_length (Nat.sub_le _ _)]

/-- The text of some pieces with their gaps. -/
def written (ts : List Token) : List Char := ts.flatMap fun t => t.gap ++ t.text

theorem written_cons (t : Token) (ts : List Token) :
    written (t :: ts) = t.gap ++ t.text ++ written ts := rfl

theorem written_append (ts us : List Token) : written (ts ++ us) = written ts ++ written us :=
  List.flatMap_append

/-- The bracket that closes a text, with the gap before it. -/
def closing (gap : List Char) : Token := ⟨.symbol ")", [')'], gap⟩

theorem length_pieceToken (kind : Kind) (hpiece : piece? (gapEnd cs) = some (kind, rest)) :
    (pieceToken kind cs (gapEnd cs) rest).gap.length +
      (pieceToken kind cs (gapEnd cs) rest).text.length + rest.length = cs.length := by
  have hgap := (gapEnd_suffix cs).length_le
  have hlt := length_piece?_lt hpiece
  simp only [pieceToken, List.length_take]
  omega

theorem length_written_le (h : pieces? cs = some ts) : (written ts).length ≤ cs.length := by
  induction ts generalizing cs with
  | nil => exact Nat.zero_le _
  | cons t ts ih =>
    obtain ⟨kind, rest, hpiece, -, rfl, hrest⟩ := pieces?_eq_cons_iff.mp h
    have hlength := length_pieceToken kind hpiece
    have hle := ih hrest
    simp only [written_cons, List.length_append]
    omega

/-- Where a piece follows the gap, the gap ends before the bracket that closes the text. -/
theorem exists_gapEnd {p : Kind × List Char} (h : piece? (gapEnd (u ++ [')'])) = some p) :
    ∃ v, gapEnd (u ++ [')']) = v ++ [')'] ∧ v.length ≤ u.length := by
  rcases List.suffix_concat_iff.mp (gapEnd_suffix (u ++ [')'])) with hempty | ⟨v, hv, hsuffix⟩
  · rw [hempty] at h
    cases h
  · exact ⟨v, hv, hsuffix.length_le⟩

/-- A text without pieces is all gap. -/
theorem gap_of_pieces? {gap : List Char} (h : pieces? (u ++ [')']) = some [closing gap])
    (hlength : gap.length = u.length) : gap = u ∧ gapEnd (u ++ [')']) = [')'] := by
  obtain ⟨kind, rest, hpiece, -, htoken, -⟩ := pieces?_eq_cons_iff.mp h
  obtain ⟨v, hv, hle⟩ := exists_gapEnd hpiece
  have hgap : gap = u.take (u.length - v.length) := by
    have hgap := congrArg Token.gap htoken
    rw [closing, pieceToken, hv, List.length_append, List.length_append,
      Nat.add_sub_add_right, List.take_append_of_le_length (Nat.sub_le _ _)] at hgap
    exact hgap
  have hempty : v = [] := by
    rw [hgap, List.length_take] at hlength
    exact List.length_eq_zero_iff.mp (by omega)
  rw [hempty] at hv hgap
  rw [List.length_nil, Nat.sub_zero, List.take_length] at hgap
  exact ⟨hgap, hv⟩

/-- A text whose pieces are followed by the bracket that closes it has the same pieces before every
delimiter. -/
theorem pieces?_append {gap : List Char} (h : pieces? (u ++ [')']) = some (ts ++ [closing gap]))
    (hlength : (written ts).length + gap.length = u.length) (hr : Delimited r) :
    gapEnd (gap ++ [')']) = [')'] ∧ pieces? (u ++ r) = (pieces? (gap ++ r)).map (ts ++ ·) := by
  induction ts generalizing u with
  | nil =>
    obtain ⟨rfl, hend⟩ := gap_of_pieces? h (by simpa [written] using hlength)
    exact ⟨hend, by simp⟩
  | cons t ts ih =>
    obtain ⟨kind, rest, hpiece, hkind, htoken, hrest⟩ := pieces?_eq_cons_iff.mp h
    have hlengths := length_pieceToken kind hpiece
    obtain ⟨v, hv, hle⟩ := exists_gapEnd hpiece
    have hne : v ≠ [] := by
      rintro rfl
      have hlt := length_piece?_lt hpiece
      rw [hv] at hlt
      obtain rfl := List.length_eq_zero_iff.mp (Nat.lt_one_iff.mp hlt)
      simp [pieces?_nil] at hrest
    rw [hv] at hpiece htoken hlengths
    obtain ⟨w, hw⟩ := piece?_append hne hpiece
    obtain rfl : rest = w ++ [')'] := by
      have hsame := (hw _ delimited_close).symm.trans hpiece
      exact (Prod.mk.inj (Option.some.inj hsame)).2.symm
    have hshorter : (written ts).length + gap.length = w.length := by
      rw [htoken, written_cons, List.length_append, List.length_append] at hlength
      simp only [List.length_append] at hlengths
      omega
    obtain ⟨hgap, hpieces⟩ := ih hrest hshorter
    refine ⟨hgap, ?_⟩
    have hstart : gapEnd (u ++ r) = v ++ r := by rw [gapEnd_append hr hv, if_neg hne]
    have hsome : v ++ r ≠ [] := fun h => hne (List.append_eq_nil_iff.mp h).1
    rw [pieceToken_append] at htoken
    rw [pieces?_eq, hstart, if_neg hsome, hw r hr, Option.bind_some, if_neg hkind,
      pieceToken_append, ← htoken, hpieces, Option.map_map]
    rfl

end Pieces

section Leads

variable {c : Char} {cs r s u : List Char} {gap gap' : List Char} {ts us lead : List Token}
  {parts : List (List Token)}

/-- Some pieces with more before the first of them. -/
def behind (gap : List Char) : List Token → List Token
  | [] => []
  | t :: ts => { t with gap := gap ++ t.gap } :: ts

theorem behind_nil (ts : List Token) : behind [] ts = ts := by cases ts <;> rfl

theorem behind_behind (gap gap' : List Char) (ts : List Token) :
    behind gap (behind gap' ts) = behind (gap ++ gap') ts := by
  cases ts with
  | nil => rfl
  | cons t ts => simp only [behind, List.append_assoc]

theorem behind_append (gap : List Char) (hts : ts ≠ []) (us : List Token) :
    behind gap (ts ++ us) = behind gap ts ++ us := by
  cases ts with
  | nil => exact absurd rfl hts
  | cons t ts => rfl

/-- What a gap stands before has the same pieces. -/
theorem pieces?_of_gapEnd (h : gapEnd (gap ++ cs) = gapEnd cs) :
    pieces? (gap ++ cs) = (pieces? cs).map (behind gap) := by
  have hle := (gapEnd_suffix cs).length_le
  have htoken (kind : Kind) (rest : List Char) : pieceToken kind (gap ++ cs) (gapEnd cs) rest =
      { pieceToken kind cs (gapEnd cs) rest with
        gap := gap ++ (pieceToken kind cs (gapEnd cs) rest).gap } := by
    rw [pieceToken, List.length_append, Nat.add_sub_assoc hle, List.take_length_add_append]
    rfl
  rw [pieces?_eq, h, pieces?_eq cs]
  split
  · rfl
  · cases piece? (gapEnd cs) with
    | none => rfl
    | some p =>
      rw [Option.bind_some, Option.bind_some, htoken]
      split
      · rfl
      · rw [Option.map_map]
        rfl

theorem gapEnd_blank (h : cs.head? ≠ some '\x0b') : gapEnd ([' '] ++ cs) = gapEnd cs := by
  have hopens : ¬ OpensComment (' ' :: cs) :=
    not_opensComment_of_delimited (delimited_cons rfl cs)
  rw [List.singleton_append, gapEnd_cons hopens, if_pos (show isBlank ' ' = true from rfl),
    gapEnd_dropWhile h]

theorem pieces?_of_piece {kind : Kind} {rest : List Char} (hgap : gapEnd cs = cs)
    (hpiece : piece? cs = some (kind, rest)) (hkind : kind ≠ .symbol ";") :
    pieces? cs = (pieces? rest).map (pieceToken kind cs cs rest :: ·) := by
  have hsome : cs ≠ [] := by rintro rfl; cases hpiece
  rw [pieces?_eq, hgap, if_neg hsome, hpiece, Option.bind_some, if_neg hkind]

theorem pieces?_mark (hc : c = '(' ∨ c = ',' ∨ c = ')') (cs : List Char) :
    pieces? (c :: cs) = (pieces? cs).map (⟨.symbol (String.ofList [c]), [c], []⟩ :: ·) := by
  have hgap : gapEnd (c :: cs) = c :: cs := by
    have hopens : ¬ OpensComment (c :: cs) :=
      not_opensComment_of_delimited (delimited_cons (by rcases hc with rfl | rfl | rfl <;> rfl) cs)
    rw [gapEnd_cons hopens]
    rcases hc with rfl | rfl | rfl <;> rfl
  have hpiece : piece? (c :: cs) = some (.symbol (String.ofList [c]), cs) := by
    rcases hc with rfl | rfl | rfl <;> rfl
  have hkind : Kind.symbol (String.ofList [c]) ≠ .symbol ";" := by
    rcases hc with rfl | rfl | rfl <;> decide
  have htoken : pieceToken (.symbol (String.ofList [c])) (c :: cs) (c :: cs) cs =
      ⟨.symbol (String.ofList [c]), [c], []⟩ := by
    simp [pieceToken]
  rw [pieces?_of_piece hgap hpiece hkind, htoken]

theorem not_opensComment_word (hc : startsWord c = true) (cs : List Char) :
    ¬ OpensComment (c :: cs) := by
  rintro (⟨rest, heq⟩ | ⟨d, rest, heq⟩) <;> cases heq <;> cases hc

theorem isBlank_of_startsWord (hc : startsWord c = true) : isBlank c = false := by
  cases hblank : isBlank c with
  | false => rfl
  | true =>
    simp only [isBlank, Bool.or_eq_true, decide_eq_true_eq] at hblank
    rcases hblank with (((rfl | rfl) | rfl) | rfl) | rfl <;> cases hc

/-- A word is read whole from the start of a text. -/
theorem pieces?_word (hc : startsWord c = true) (hmark : c ≠ '\uFEFF')
    (hquote : cs.head? ≠ some '\'') :
    pieces? (c :: cs) = (pieces? ((c :: cs).dropWhile continuesWord)).map
      (⟨.word (folded (String.ofList ((c :: cs).takeWhile continuesWord))),
        (c :: cs).takeWhile continuesWord, []⟩ :: ·) := by
  have hgap : gapEnd (c :: cs) = c :: cs := by
    rw [gapEnd_cons (not_opensComment_word hc cs), isBlank_of_startsWord hc,
      if_neg Bool.false_ne_true, if_neg hmark]
  have hpiece : piece? (c :: cs) = some
      (.word (folded (String.ofList ((c :: cs).takeWhile continuesWord))),
        (c :: cs).dropWhile continuesWord) := by
    rw [piece?, if_neg fun h => hquote h.2, if_pos hc]
  have hsplit := List.takeWhile_append_dropWhile (p := continuesWord) (l := c :: cs)
  have htoken (kind : Kind) : pieceToken kind (c :: cs) (c :: cs)
      ((c :: cs).dropWhile continuesWord) = ⟨kind, (c :: cs).takeWhile continuesWord, []⟩ := by
    have hlength := congrArg List.length hsplit
    rw [List.length_append] at hlength
    have htake : (c :: cs).take ((c :: cs).takeWhile continuesWord).length =
        (c :: cs).takeWhile continuesWord :=
      (congrArg (List.take _) hsplit).symm.trans List.take_left
    rw [pieceToken, ← hlength, Nat.add_sub_cancel, htake, Nat.sub_self, List.take_zero]
  rw [pieces?_of_piece hgap hpiece (by simp), htoken]

theorem pieces?_semicolon (cs : List Char) : pieces? (';' :: cs) = some [] := by
  have hopens : ¬ OpensComment (';' :: cs) := by
    rintro (⟨rest, heq⟩ | ⟨c, rest, heq⟩) <;> cases heq
  have hgap : gapEnd (';' :: cs) = ';' :: cs := gapEnd_cons hopens
  have hpiece : piece? (';' :: cs) = some (.symbol ";", cs) := rfl
  rw [pieces?_eq, hgap, if_neg (List.cons_ne_nil _ _), hpiece, Option.bind_some, if_pos rfl]

theorem pieces?_tab (cs : List Char) : pieces? ('\x0b' :: cs) = none := by
  have hopens : ¬ OpensComment ('\x0b' :: cs) := by
    rintro (⟨rest, heq⟩ | ⟨c, rest, heq⟩) <;> cases heq
  have hgap : gapEnd ('\x0b' :: cs) = '\x0b' :: cs := gapEnd_cons hopens
  have hpiece : piece? ('\x0b' :: cs) = none := rfl
  rw [pieces?_eq, hgap, if_neg (List.cons_ne_nil _ _), hpiece, Option.bind_none]

end Leads

/-- A text with its pieces and the gap at its end. A bracket behind it is a piece of its own, so
that the text leaves no quote and no comment open, and all of it is read. -/
structure Closed (text : List Char) (ts : List Token) (gap : List Char) : Prop where
  pieces : tokens? (text ++ [')']) = some (ts ++ [closing gap])
  whole : written ts ++ gap = text

namespace Closed

variable {u r gap gap' : List Char} {ts ts' : List Token} {t : Token}

theorem noZero (h : Closed u ts gap) : ∀ c ∈ u ++ [')'], c ≠ '\x00' := by
  have hread := length_written_le (show pieces? _ = _ from h.pieces)
  have htotal : (written (ts ++ [closing gap])).length = (u ++ [')']).length := by
    rw [written_append, ← h.whole]
    simp [written, closing]
  have htake : (u ++ [')']).takeWhile (· ≠ '\x00') = u ++ [')'] :=
    (List.takeWhile_prefix _).eq_of_length_le (htotal ▸ hread)
  intro c hc
  rw [← htake] at hc
  simpa using List.mem_takeWhile_imp hc

theorem pieces?_eq (h : Closed u ts gap) : pieces? (u ++ [')']) = some (ts ++ [closing gap]) := by
  have htake : (u ++ [')']).takeWhile (· ≠ '\x00') = u ++ [')'] := by
    rw [List.takeWhile_eq_self_iff]
    exact fun c hc => by simpa using h.noZero c hc
  have hpieces := h.pieces
  rwa [tokens?, htake] at hpieces

/-- The pieces of a closed text are the same wherever it stands before a delimiter. -/
theorem pieces?_append (h : Closed u ts gap) (hr : Delimited r) :
    pieces? (u ++ r) = (pieces? r).map fun us => ts ++ behind gap us := by
  have hlength : (written ts).length + gap.length = u.length := by
    rw [← List.length_append, h.whole]
  obtain ⟨hgap, hpieces⟩ := Sql.pieces?_append h.pieces?_eq hlength hr
  have hrest : gapEnd (gap ++ r) = gapEnd r := by
    rw [gapEnd_append (v := []) hr (by simpa using hgap), if_pos rfl]
  rw [hpieces, pieces?_of_gapEnd hrest, Option.map_map]
  rfl

theorem unique (h : Closed u ts gap) (h' : Closed u ts' gap') : ts = ts' ∧ gap = gap' := by
  have hsame := Option.some.inj (h.pieces.symm.trans h'.pieces)
  obtain ⟨hts, hclosing⟩ := List.append_inj' hsame rfl
  exact ⟨hts, congrArg Token.gap (List.cons.inj hclosing).1⟩

theorem head?_ne_tab (h : Closed u (t :: ts) gap) (r : List Char) :
    (u ++ r).head? ≠ some '\x0b' := by
  cases u with
  | nil =>
    have hpieces := h.pieces?_eq
    rw [List.nil_append, pieces?_mark (.inr (.inr rfl))] at hpieces
    simp [pieces?_nil] at hpieces
  | cons c u =>
    rintro ⟨⟩
    have hpieces := h.pieces?_eq
    rw [List.cons_append, pieces?_tab] at hpieces
    cases hpieces

/-- A text that is one word. -/
theorem of_word {c : Char} {cs : List Char} (hc : startsWord c = true) (hmark : c ≠ '\uFEFF')
    (hcs : ∀ d ∈ c :: cs, continuesWord d = true) :
    Closed (c :: cs) [⟨.word (folded (String.ofList (c :: cs))), c :: cs, []⟩] [] := by
  have hzero : (c :: cs ++ [')']).takeWhile (· ≠ '\x00') = c :: cs ++ [')'] := by
    refine List.takeWhile_eq_self_iff.mpr fun d hd => decide_eq_true ?_
    rintro rfl
    rcases List.mem_append.mp hd with hd | hd
    · exact absurd (hcs _ hd) (by decide)
    · exact absurd hd (by decide)
  have hquote : (cs ++ [')']).head? ≠ some '\'' := by
    intro hhead
    rcases List.mem_append.mp (List.mem_of_head? hhead) with hd | hd
    · exact absurd (hcs _ (List.mem_cons_of_mem c hd)) (by decide)
    · exact absurd hd (by decide)
  refine ⟨?_, by simp [written]⟩
  have hpieces := pieces?_word hc hmark hquote
  rw [← List.cons_append, takeWhile_append stops_continuesWord delimited_close,
    dropWhile_append stops_continuesWord delimited_close, List.takeWhile_eq_self_iff.mpr hcs,
    List.dropWhile_eq_nil_iff.mpr hcs, List.nil_append, pieces?_mark (.inr (.inr rfl))] at hpieces
  rw [tokens?, hzero]
  exact hpieces

end Closed

/-- Pieces that are some parts, one after the other, and then the rest, each behind some gap. -/
inductive Parts : List (List Token) → List Token → List Token → Prop
  | rest (gap : List Char) (us : List Token) : Parts [] us (behind gap us)
  | part {ts us all : List Token} {parts : List (List Token)} (gap : List Char) :
      ts ≠ [] → Parts parts us all → Parts (ts :: parts) us (behind gap ts ++ all)

theorem parts_nil_iff {us all : List Token} : Parts [] us all ↔ ∃ gap, all = behind gap us := by
  constructor
  · rintro ⟨gap⟩
    exact ⟨gap, rfl⟩
  · rintro ⟨gap, rfl⟩
    exact .rest gap us

theorem parts_cons_iff {ts us all : List Token} {parts : List (List Token)} :
    Parts (ts :: parts) us all ↔
      ts ≠ [] ∧ ∃ gap rest, all = behind gap ts ++ rest ∧ Parts parts us rest := by
  constructor
  · intro h
    cases h with
    | part gap hts hrest => exact ⟨hts, gap, _, rfl, hrest⟩
  · rintro ⟨hts, gap, rest, rfl, hrest⟩
    exact .part gap hts hrest

/-- A part of one piece is that piece, behind some gap. -/
theorem Parts.exists_head {t : Token} {us all : List Token} {parts : List (List Token)}
    (h : Parts ([t] :: parts) us all) : ∃ t' rest,
      all = t' :: rest ∧ t'.kind = t.kind ∧ t'.text = t.text ∧ Parts parts us rest := by
  obtain ⟨-, gap, rest, rfl, hrest⟩ := parts_cons_iff.mp h
  exact ⟨_, rest, rfl, rfl, rfl, hrest⟩

/-- A text begins with some parts, whatever the rest of it consists of, and no zero character ends
it there. -/
def Leads (cs : List Char) (parts : List (List Token)) (r : List Char) : Prop :=
  ∃ u f, cs = u ++ r ∧ (∀ c ∈ u, c ≠ '\x00') ∧ pieces? cs = (pieces? r).map f ∧
    ∀ us, Parts parts us (f us)

section

variable {cs r s u gap : List Char} {ts us all : List Token} {parts : List (List Token)} {c : Char}

theorem behind_ne_nil (gap : List Char) (hts : ts ≠ []) : behind gap ts ≠ [] := by
  cases ts with
  | nil => exact absurd rfl hts
  | cons t ts => exact List.cons_ne_nil _ _

theorem Parts.behind (h : Parts parts us all) (gap : List Char) :
    Parts parts us (behind gap all) := by
  cases h with
  | rest gap' =>
    rw [behind_behind]
    exact .rest _ us
  | part gap' hts hrest =>
    rw [behind_append _ (behind_ne_nil gap' hts), behind_behind]
    exact .part _ hts hrest

theorem Leads.refl (cs : List Char) : Leads cs [] cs := by
  refine ⟨[], behind [], rfl, nofun, ?_, .rest []⟩
  have hid : behind [] = id := funext behind_nil
  rw [hid, Option.map_id_fun, id]

/-- A closed text before a delimiter is a part. -/
theorem Leads.closed (hu : Closed u ts gap) (hts : ts ≠ []) (hr : Delimited r)
    (h : Leads r parts s) : Leads (u ++ r) (ts :: parts) s := by
  obtain ⟨v, f, rfl, hzero, hpieces, hparts⟩ := h
  refine ⟨u ++ v, fun us => ts ++ behind gap (f us), (List.append_assoc u v s).symm, ?_, ?_,
    fun us => ?_⟩
  · intro c hc
    rcases List.mem_append.mp hc with hmem | hmem
    · exact hu.noZero c (List.mem_append_left _ hmem)
    · exact hzero c hmem
  · rw [hu.pieces?_append hr, hpieces, Option.map_map]
    rfl
  · have hpart := Parts.part [] hts ((hparts us).behind gap)
    rwa [behind_nil] at hpart

theorem Leads.blank (hcs : cs.head? ≠ some '\x0b') (h : Leads cs parts s) :
    Leads (' ' :: cs) parts s := by
  obtain ⟨u, f, heq, hzero, hpieces, hparts⟩ := h
  refine ⟨' ' :: u, fun us => behind [' '] (f us), congrArg (' ' :: ·) heq, ?_, ?_,
    fun us => (hparts us).behind _⟩
  · exact List.forall_mem_cons.mpr ⟨by decide, hzero⟩
  · rw [← List.singleton_append, pieces?_of_gapEnd (gapEnd_blank hcs), hpieces, Option.map_map]
    rfl

/-- A bracket or a comma, as a piece. -/
def mark (c : Char) : Token := ⟨.symbol (String.ofList [c]), [c], []⟩

theorem Leads.mark (hc : c = '(' ∨ c = ',' ∨ c = ')') (h : Leads cs parts s) :
    Leads (c :: cs) ([mark c] :: parts) s := by
  obtain ⟨u, f, heq, hzero, hpieces, hparts⟩ := h
  refine ⟨c :: u, fun us => Sql.mark c :: f us, congrArg (c :: ·) heq, ?_, ?_, fun us => ?_⟩
  · exact List.forall_mem_cons.mpr ⟨by rcases hc with rfl | rfl | rfl <;> decide, hzero⟩
  · rw [pieces?_mark hc, hpieces, Option.map_map]
    rfl
  · exact .part [] (List.cons_ne_nil _ _) (hparts us)

/-- A closed text behind a blank is a part, too. -/
theorem Leads.spaced {t : Token} (hu : Closed u (t :: ts) gap) (hr : Delimited r)
    (h : Leads r parts s) : Leads (' ' :: (u ++ r)) ((t :: ts) :: parts) s :=
  (h.closed hu (List.cons_ne_nil t ts) hr).blank (hu.head?_ne_tab r)

/-- The pieces of a text that begins with some parts are those, and then the pieces of the rest up
to its first zero character. -/
theorem Leads.tokens?_eq
    (h : Leads (u ++ r.takeWhile (· ≠ '\x00')) parts (r.takeWhile (· ≠ '\x00'))) :
    ∃ f, tokens? (u ++ r) = (pieces? (r.takeWhile (· ≠ '\x00'))).map f ∧
      ∀ us, Parts parts us (f us) := by
  obtain ⟨v, f, heq, hzero, hpieces, hparts⟩ := h
  obtain rfl := List.append_cancel_right heq
  have htake : (u ++ r).takeWhile (· ≠ '\x00') = u ++ r.takeWhile (· ≠ '\x00') :=
    List.takeWhile_append_of_pos fun c hc => decide_eq_true (hzero c hc)
  refine ⟨f, ?_, hparts⟩
  rw [tokens?, htake]
  exact hpieces

theorem Leads.exists_parts
    (h : Leads (u ++ r.takeWhile (· ≠ '\x00')) parts (r.takeWhile (· ≠ '\x00')))
    (htokens : tokens? (u ++ r) = some all) :
    ∃ us, pieces? (r.takeWhile (· ≠ '\x00')) = some us ∧ Parts parts us all := by
  obtain ⟨f, heq, hparts⟩ := h.tokens?_eq
  obtain ⟨us, hus, rfl⟩ := Option.map_eq_some_iff.mp (heq.symm.trans htokens)
  exact ⟨us, hus, hparts us⟩

end

end PackageIndex.Sql
