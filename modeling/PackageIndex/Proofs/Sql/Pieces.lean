import Mathlib.Data.List.Find
import PackageIndex.Sql.Token
/-!
The pieces of a text that is part of a longer one. A blank, a comma or a bracket ends every piece
before it, so a text that is closed by one bracket behind it has the same pieces before every
other of these marks.
-/
namespace PackageIndex.Sql

open PackageIndex.Text

/-- A character that no piece before it takes in. -/
def isDelimiter (c : Char) : Bool := c = ' ' || c = ',' || c = '(' || c = ')'

/-- A text that begins with a delimiter. -/
def Delimited (r : List Char) : Prop := ∃ c m, isDelimiter c = true ∧ r = c :: m

section Delimited

variable {r u : List Char} {p : Char → Bool}

theorem delimited_cons {c : Char} (h : isDelimiter c = true) (m : List Char) :
    Delimited (c :: m) := ⟨c, m, h, rfl⟩

theorem delimited_close : Delimited [')'] := delimited_cons rfl []

/-- No delimiter meets a test. -/
def Stops (p : Char → Bool) : Prop := ∀ c, isDelimiter c = true → p c = false

theorem stops_of (hblank : p ' ' = false) (hcomma : p ',' = false) (hopen : p '(' = false)
    (hclose : p ')' = false) : Stops p := by
  intro c hc
  simp only [isDelimiter, Bool.or_eq_true, decide_eq_true_eq] at hc
  rcases hc with ((rfl | rfl) | rfl) | rfl <;> assumption

theorem dropWhile_append (hp : Stops p) (hr : Delimited r) (u : List Char) :
    (u ++ r).dropWhile p = u.dropWhile p ++ r := by
  obtain ⟨c, m, hc, rfl⟩ := hr
  induction u with
  | nil => rw [List.nil_append, List.dropWhile_cons_of_neg (by simp [hp c hc]), List.dropWhile_nil,
      List.nil_append]
  | cons d u ih =>
    rw [List.cons_append, List.dropWhile_cons, List.dropWhile_cons, ih]
    split <;> rfl

theorem takeWhile_append (hp : Stops p) (hr : Delimited r) (u : List Char) :
    (u ++ r).takeWhile p = u.takeWhile p := by
  obtain ⟨c, m, hc, rfl⟩ := hr
  induction u with
  | nil => rw [List.nil_append, List.takeWhile_cons_of_neg (by simp [hp c hc]), List.takeWhile_nil]
  | cons d u ih => rw [List.cons_append, List.takeWhile_cons, List.takeWhile_cons, ih]

theorem any_head?_append (hp : Stops p) (hr : Delimited r) (u : List Char) :
    (u ++ r).head?.any p = u.head?.any p := by
  obtain ⟨c, m, hc, rfl⟩ := hr
  cases u with
  | nil => simp [hp c hc]
  | cons d u => rfl

end Delimited

section Gap

variable {c : Char} {cs r u v : List Char} {fuel fuel' : Nat}

/-- What follows the gap at the start of a text. -/
def gapEnd (cs : List Char) : List Char := afterGap cs.length cs

/-- Two marks begin a comment; of those of a long one something has to follow. -/
def OpensComment (cs : List Char) : Prop :=
  (∃ rest, cs = '-' :: '-' :: rest) ∨ ∃ c rest, cs = '/' :: '*' :: c :: rest

theorem length_dropWhile_le (p : Char → Bool) (cs : List Char) :
    (cs.dropWhile p).length ≤ cs.length :=
  (List.dropWhile_sublist p).length_le

theorem length_afterComment_le (cs : List Char) : (afterComment cs).length ≤ cs.length := by
  induction cs using afterComment.induct with
  | case1 rest => rw [afterComment, List.length_cons, List.length_cons]; omega
  | case2 c rest hother ih => rw [afterComment.eq_2 _ _ hother, List.length_cons]; omega
  | case3 => exact Nat.le_refl _

theorem afterGap_cons (h : ¬ OpensComment (c :: cs)) :
    afterGap (fuel + 1) (c :: cs) =
      if isBlank c then afterGap fuel (cs.dropWhile isSpace)
      else if c = '\uFEFF' then afterGap fuel cs
      else c :: cs := by
  rw [afterGap.eq_def]
  split
  next heq => cases heq
  next heq =>
    cases heq
    split
    next rest heq => exact absurd (.inl ⟨rest, heq⟩) h
    next c rest heq => exact absurd (.inr ⟨c, rest, heq⟩) h
    next heq => cases heq; rfl
    next heq => cases heq

/-- More steps than there are characters make no difference. -/
theorem afterGap_congr (h : cs.length ≤ fuel) (h' : cs.length ≤ fuel') :
    afterGap fuel cs = afterGap fuel' cs := by
  induction fuel generalizing cs fuel' with
  | zero =>
    obtain rfl := List.length_eq_zero_iff.mp (Nat.le_zero.mp h)
    cases fuel' <;> rfl
  | succ fuel ih =>
    cases fuel' with
    | zero =>
      obtain rfl := List.length_eq_zero_iff.mp (Nat.le_zero.mp h')
      rfl
    | succ fuel' =>
      by_cases hopens : OpensComment cs
      · obtain ⟨rest, rfl⟩ | ⟨c, rest, rfl⟩ := hopens
        · have hle := length_dropWhile_le (· ≠ '\n') rest
          simp only [List.length_cons] at h h'
          exact ih (by omega) (by omega)
        · have hle := length_afterComment_le (c :: rest)
          simp only [List.length_cons] at h h' hle
          exact ih (by omega) (by omega)
      · cases cs with
        | nil => rfl
        | cons c cs =>
          have hle := length_dropWhile_le isSpace cs
          simp only [List.length_cons, Nat.add_le_add_iff_right] at h h'
          have hblank : afterGap fuel (cs.dropWhile isSpace) =
              afterGap fuel' (cs.dropWhile isSpace) := ih (by omega) (by omega)
          rw [afterGap_cons hopens, afterGap_cons hopens, hblank, ih h h']

theorem afterGap_eq (h : cs.length ≤ fuel) : afterGap fuel cs = gapEnd cs :=
  afterGap_congr h (Nat.le_refl _)

theorem gapEnd_dashes (cs : List Char) :
    gapEnd ('-' :: '-' :: cs) = gapEnd (cs.dropWhile (· ≠ '\n')) :=
  afterGap_eq (Nat.le_succ_of_le (length_dropWhile_le _ _))

theorem gapEnd_comment (c : Char) (cs : List Char) :
    gapEnd ('/' :: '*' :: c :: cs) = gapEnd (afterComment (c :: cs)) :=
  afterGap_eq (Nat.le_succ_of_le (length_afterComment_le _))

theorem gapEnd_cons (h : ¬ OpensComment (c :: cs)) :
    gapEnd (c :: cs) =
      if isBlank c then gapEnd (cs.dropWhile isSpace)
      else if c = '\uFEFF' then gapEnd cs
      else c :: cs := by
  rw [gapEnd, List.length_cons, afterGap_cons h, afterGap_eq (length_dropWhile_le _ _),
    afterGap_eq (Nat.le_refl _)]

theorem not_opensComment_of_delimited (hr : Delimited r) : ¬ OpensComment r := by
  obtain ⟨d, m, hd, rfl⟩ := hr
  rintro (⟨rest, heq⟩ | ⟨c, rest, heq⟩) <;> cases heq <;> cases hd

/-- Whether a comment opens is settled before the delimiter. -/
theorem not_opensComment_append (hr : Delimited r) (hu : u ≠ [])
    (h : ¬ OpensComment (u ++ [')'])) : ¬ OpensComment (u ++ r) := by
  obtain ⟨d, m, hd, rfl⟩ := hr
  match u with
  | [] => exact absurd rfl hu
  | [a] => rintro (⟨rest, heq⟩ | ⟨c, rest, heq⟩) <;> cases heq <;> cases hd
  | a :: b :: u =>
    rintro (⟨rest, heq⟩ | ⟨c, rest, heq⟩) <;>
      simp only [List.cons_append, List.cons.injEq] at heq <;> obtain ⟨rfl, rfl, -⟩ := heq
    · exact h (.inl ⟨_, rfl⟩)
    · cases u with
      | nil => exact h (.inr ⟨_, _, rfl⟩)
      | cons c u => exact h (.inr ⟨_, _, rfl⟩)

/-- A delimiter does not take part in the opening of a comment. -/
theorem OpensComment.of_append (h : OpensComment (u ++ [')'])) :
    (∃ w, u = '-' :: '-' :: w) ∨ ∃ w, u = '/' :: '*' :: w := by
  match u with
  | [] => exact absurd h (not_opensComment_of_delimited delimited_close)
  | [a] => rcases h with ⟨_, h⟩ | ⟨_, _, h⟩ <;> cases h
  | a :: b :: u =>
    rcases h with ⟨rest, h⟩ | ⟨c, rest, h⟩ <;>
      simp only [List.cons_append, List.cons.injEq] at h <;> obtain ⟨rfl, rfl, -⟩ := h
    · exact .inl ⟨u, rfl⟩
    · exact .inr ⟨u, rfl⟩

theorem Delimited.head?_ne {q : Char} (hq : isDelimiter q = false) (hr : Delimited r) :
    r.head? ≠ some q := by
  obtain ⟨d, m, hd, rfl⟩ := hr
  rintro ⟨⟩
  rw [hd] at hq
  cases hq

/-- A vertical tab is no blank where it stands first. -/
theorem gapEnd_dropWhile (h : r.head? ≠ some '\x0b') :
    gapEnd (r.dropWhile isSpace) = gapEnd r := by
  cases r with
  | nil => rfl
  | cons d m =>
    by_cases hspace : isSpace d = true
    · have hblank : isBlank d = true := by
        rw [isSpace, Bool.or_eq_true, decide_eq_true_eq] at hspace
        exact hspace.resolve_right fun hd => h (congrArg some hd)
      have hopens : ¬ OpensComment (d :: m) := by
        rintro (⟨rest, heq⟩ | ⟨c, rest, heq⟩) <;> cases heq <;> cases hblank
      rw [gapEnd_cons hopens, if_pos hblank, List.dropWhile_cons_of_pos hspace]
    · rw [List.dropWhile_cons_of_neg hspace]

/-- A comment is closed before the delimiter or not at all. -/
theorem afterComment_append (u : List Char) :
    afterComment (u ++ [')']) = [] ∨
      ∃ v, v.length ≤ u.length ∧ afterComment (u ++ [')']) = v ++ [')'] ∧
        ∀ r, Delimited r → afterComment (u ++ r) = v ++ r := by
  induction u using afterComment.induct with
  | case1 rest =>
    refine .inr ⟨rest, ?_, rfl, fun _ _ => rfl⟩
    rw [List.length_cons, List.length_cons]
    omega
  | case2 c rest hother ih =>
    have hskip : ∀ r, Delimited r → afterComment (c :: rest ++ r) = afterComment (rest ++ r) := by
      rintro _ ⟨d, m, hd, rfl⟩
      refine afterComment.eq_2 _ _ fun rest' hc hrest => ?_
      cases rest with
      | nil => cases hrest; cases hd
      | cons b rest => cases hrest; exact hother rest hc rfl
    rw [hskip _ delimited_close]
    rcases ih with hopen | ⟨v, hlength, hclose, hv⟩
    · exact .inl hopen
    · refine .inr ⟨v, Nat.le_succ_of_le hlength, hclose, fun r hr => ?_⟩
      rw [hskip r hr, hv r hr]
  | case3 => exact .inl rfl

/-- A line that ends a comment is there before the delimiter or not at all. -/
theorem dropLine_append (u : List Char) :
    (u ++ [')']).dropWhile (· ≠ '\n') = [] ∨
      ∀ r, (u ++ r).dropWhile (· ≠ '\n') = u.dropWhile (· ≠ '\n') ++ r := by
  by_cases hline : (u.dropWhile (· ≠ '\n')).isEmpty = true
  · refine .inl ?_
    rw [List.dropWhile_append, if_pos hline]
    rfl
  · refine .inr fun r => ?_
    rw [List.dropWhile_append, if_neg hline]

/-- A comment that is closed before the delimiter is passed. -/
theorem gapEnd_comment_append (h : OpensComment (u ++ [')'])) :
    gapEnd (u ++ [')']) = [] ∨
      ∃ w, w.length < u.length ∧ ∀ r, Delimited r → gapEnd (u ++ r) = gapEnd (w ++ r) := by
  obtain ⟨u, rfl⟩ | ⟨u, rfl⟩ := h.of_append
  · rcases dropLine_append u with hopen | hclosed
    · refine .inl ?_
      rw [List.cons_append, List.cons_append, gapEnd_dashes, hopen]
      rfl
    · have hle := length_dropWhile_le (· ≠ '\n') u
      refine .inr ⟨u.dropWhile (· ≠ '\n'), by simp only [List.length_cons]; omega, fun r _ => ?_⟩
      rw [List.cons_append, List.cons_append, gapEnd_dashes, hclosed]
  · have hcomment : ∀ r, Delimited r →
        gapEnd ('/' :: '*' :: u ++ r) = gapEnd (afterComment (u ++ r)) := by
      rintro _ ⟨d, m, -, rfl⟩
      cases u <;> exact gapEnd_comment _ _
    rcases afterComment_append u with hopen | ⟨w, hlength, -, hw⟩
    · refine .inl ?_
      rw [hcomment _ delimited_close, hopen]
      rfl
    · refine .inr ⟨w, by simp only [List.length_cons]; omega, fun r hr => ?_⟩
      rw [hcomment r hr, hw r hr]

/-- Of the blanks before a delimiter, those in front of it do not matter. -/
theorem gapEnd_spaces (hr : Delimited r) (u : List Char) :
    gapEnd ((u ++ r).dropWhile isSpace) = gapEnd (u.dropWhile isSpace ++ r) := by
  rw [List.dropWhile_append]
  split
  next hempty => rw [List.isEmpty_iff.mp hempty, List.nil_append,
      gapEnd_dropWhile (hr.head?_ne rfl)]
  next => rfl

/-- A gap is the same before every delimiter, but that blanks behind it are a part of it, too. -/
theorem gapEnd_append (hr : Delimited r) (h : gapEnd (u ++ [')']) = v ++ [')']) :
    gapEnd (u ++ r) = if v = [] then gapEnd r else v ++ r := by
  induction hn : u.length using Nat.strongRecOn generalizing u with
  | ind n ih =>
    subst hn
    by_cases hopens : OpensComment (u ++ [')'])
    · rcases gapEnd_comment_append hopens with hopen | ⟨w, hlength, hw⟩
      · rw [hopen] at h
        simp at h
      · rw [hw _ delimited_close] at h
        rw [hw r hr]
        exact ih _ hlength h rfl
    · cases u with
      | nil =>
        obtain rfl : v = [] := by
          have hlength := congrArg List.length h
          simpa [gapEnd, afterGap, isBlank] using hlength
        rw [if_pos rfl, List.nil_append]
      | cons c u =>
        have hopens' := not_opensComment_append hr (List.cons_ne_nil c u) hopens
        rw [List.cons_append] at h hopens hopens' ⊢
        rw [gapEnd_cons hopens, gapEnd_spaces delimited_close] at h
        rw [gapEnd_cons hopens', gapEnd_spaces hr]
        have hle := length_dropWhile_le isSpace u
        split
        next hblank =>
          rw [if_pos hblank] at h
          exact ih _ (by simp only [List.length_cons]; omega) h rfl
        next hblank =>
          rw [if_neg hblank] at h
          split
          next hmark =>
            rw [if_pos hmark] at h
            exact ih _ (by simp only [List.length_cons]; omega) h rfl
          next hmark =>
            rw [if_neg hmark, ← List.cons_append] at h
            obtain rfl := List.append_cancel_right h
            rw [if_neg (List.cons_ne_nil c u), List.cons_append]

end Gap

section Piece

variable {c : Char} {u v x r : List Char} {kind : Kind}

/-- What a reader leaves of a text is the same before every delimiter. -/
def Leaves (read? : List Char → Option (List Char)) (u v : List Char) : Prop :=
  ∀ r, Delimited r → read? (u ++ r) = some (v ++ r)

theorem ne_of_isDelimiter {d : Char} (hd : isDelimiter d = true) (hc : isDelimiter c = false) :
    d ≠ c := by
  rintro rfl
  exact absurd hd (by simp [hc])

theorem leaves_afterQuote? (hc : isDelimiter c = false)
    (h : afterQuote? c (u ++ [')']) = some x) : ∃ v, Leaves (afterQuote? c) u v := by
  have hopen : afterQuote? c [')'] = none := if_neg (ne_of_isDelimiter rfl hc)
  induction u using afterQuote?.induct c with
  | case1 =>
    rw [List.nil_append, hopen] at h
    cases h
  | case2 =>
    refine ⟨[], ?_⟩
    rintro _ ⟨d, m, hd, rfl⟩
    rw [List.singleton_append, afterQuote?, if_pos rfl, if_neg (ne_of_isDelimiter hd hc)]
    rfl
  | case3 d hd =>
    rw [List.singleton_append, afterQuote?, if_neg hd, hopen] at h
    cases h
  | case4 rest ih =>
    simp only [List.cons_append, afterQuote?, if_true] at h
    obtain ⟨v, hv⟩ := ih h
    refine ⟨v, fun r hr => ?_⟩
    simp only [List.cons_append, afterQuote?, if_true, hv r hr]
  | case5 d rest hd =>
    refine ⟨d :: rest, fun r _ => ?_⟩
    simp only [List.cons_append, afterQuote?, if_true, if_neg hd]
  | case6 d e rest hd ih =>
    simp only [List.cons_append, afterQuote?, if_neg hd] at h
    obtain ⟨v, hv⟩ := ih h
    refine ⟨v, fun r hr => ?_⟩
    simp only [List.cons_append, afterQuote?, if_neg hd]
    exact hv r hr

theorem leaves_afterBracket? (h : afterBracket? (u ++ [')']) = some x) :
    ∃ v, Leaves afterBracket? u v := by
  induction u with
  | nil => cases h
  | cons d u ih =>
    by_cases hd : d = ']'
    · subst hd
      exact ⟨u, fun r _ => rfl⟩
    · have hskip : ∀ r, afterBracket? (d :: u ++ r) = afterBracket? (u ++ r) := fun r =>
        afterBracket?.eq_2 d (u ++ r) hd
      rw [hskip] at h
      obtain ⟨v, hv⟩ := ih h
      exact ⟨v, fun r hr => (hskip r).trans (hv r hr)⟩

theorem stops_isHexDigit : Stops isHexDigit := stops_of rfl rfl rfl rfl

theorem leaves_afterBytes? (h : afterBytes? (u ++ [')']) = some x) :
    ∃ v, Leaves afterBytes? u v := by
  rw [afterBytes?, dropWhile_append stops_isHexDigit delimited_close,
    takeWhile_append stops_isHexDigit delimited_close] at h
  cases hdrop : u.dropWhile isHexDigit with
  | nil =>
    rw [hdrop] at h
    cases h
  | cons d v =>
    rw [hdrop] at h
    by_cases hd : d = '\''
    · subst hd
      obtain ⟨heven, -⟩ := Option.ite_none_right_eq_some.mp h
      refine ⟨v, fun r hr => ?_⟩
      rw [afterBytes?, dropWhile_append stops_isHexDigit hr, takeWhile_append stops_isHexDigit hr,
        hdrop]
      exact if_pos heven
    · split at h
      next heq => cases heq; exact absurd rfl hd
      next => cases h

theorem stops_isDigit : Stops isDigit := stops_of rfl rfl rfl rfl

theorem stops_continuesWord : Stops continuesWord := stops_of rfl rfl rfl rfl

theorem afterDigits_append {p : Char → Bool} (hp : Stops p) (hr : Delimited r) (u : List Char) :
    afterDigits p (u ++ r) = afterDigits p u ++ r := by
  refine dropWhile_append (fun c hc => ?_) hr u
  rw [hp c hc, Bool.false_or, decide_eq_false_iff_not]
  rintro rfl
  cases hc

theorem afterFraction_append (hr : Delimited r) (u : List Char) :
    afterFraction (u ++ r) = afterFraction u ++ r := by
  cases u with
  | nil =>
    obtain ⟨d, m, hd, rfl⟩ := hr
    rw [List.nil_append, afterFraction.eq_2 _ (by rintro _ ⟨⟩; cases hd)]
    rfl
  | cons c u =>
    by_cases hpoint : c = '.'
    · subst hpoint
      exact afterDigits_append stops_isDigit hr u
    · have hother (w : List Char) : afterFraction (c :: w) = c :: w :=
        afterFraction.eq_2 _ (by rintro _ ⟨⟩; exact hpoint rfl)
      rw [List.cons_append, hother, hother, List.cons_append]

/-- What follows a sign before a digit. -/
def afterSign : List Char → List Char
  | c :: d :: rest => if (c = '+' ∨ c = '-') ∧ isDigit d then d :: rest else c :: d :: rest
  | cs => cs

theorem afterExponent_cons (c : Char) (cs : List Char) :
    afterExponent (c :: cs) =
      if (c = 'e' ∨ c = 'E') ∧ (afterSign cs).head?.any isDigit then
        afterDigits isDigit (afterSign cs)
      else c :: cs := by
  rfl

theorem afterSign_append (hr : Delimited r) (u : List Char) :
    afterSign (u ++ r) = afterSign u ++ r := by
  obtain ⟨d, m, hd, rfl⟩ := hr
  match u with
  | [] =>
    cases m with
    | nil => rfl
    | cons e m =>
      have hsign : ¬ ((d = '+' ∨ d = '-') ∧ isDigit e = true) := by
        rintro ⟨rfl | rfl, -⟩ <;> cases hd
      exact if_neg hsign
  | [c] => exact if_neg fun h => absurd h.2 (by rw [stops_isDigit d hd]; decide)
  | c :: e :: u =>
    simp only [List.cons_append, afterSign]
    split <;> rfl

theorem afterExponent_append (hr : Delimited r) (u : List Char) :
    afterExponent (u ++ r) = afterExponent u ++ r := by
  cases u with
  | nil =>
    obtain ⟨d, m, hd, rfl⟩ := hr
    have hmark : ¬ (d = 'e' ∨ d = 'E') := by rintro (rfl | rfl) <;> cases hd
    rw [List.nil_append, afterExponent_cons, if_neg fun h => hmark h.1]
    rfl
  | cons c u =>
    rw [List.cons_append, afterExponent_cons, afterExponent_cons, afterSign_append hr,
      any_head?_append stops_isDigit hr, afterDigits_append stops_isDigit hr]
    split <;> rfl

theorem startsHex_iff : startsHex u = true ↔
    ∃ c d rest, u = '0' :: c :: d :: rest ∧ (c = 'x' ∨ c = 'X') ∧ isHexDigit d = true := by
  rw [startsHex.eq_def]
  split
  next c d rest =>
    rw [Bool.and_eq_true, Bool.or_eq_true, decide_eq_true_eq, decide_eq_true_eq]
    refine ⟨fun h => ⟨c, d, rest, rfl, h⟩, ?_⟩
    rintro ⟨_, _, _, heq, h⟩
    cases heq
    exact h
  next hother =>
    refine iff_of_false Bool.false_ne_true ?_
    rintro ⟨c, d, rest, rfl, -⟩
    exact hother c d rest rfl

theorem startsHex_append (hr : Delimited r) (u : List Char) : startsHex (u ++ r) = startsHex u := by
  obtain ⟨d, m, hd, rfl⟩ := hr
  rw [Bool.eq_iff_iff, startsHex_iff, startsHex_iff]
  constructor
  · rintro ⟨a, b, rest, heq, hmark, hdigit⟩
    match u with
    | [] => cases heq; cases hd
    | [_] => cases heq; rcases hmark with rfl | rfl <;> cases hd
    | [_, _] => cases heq; exact absurd hdigit (by rw [stops_isHexDigit _ hd]; decide)
    | _ :: _ :: _ :: u => 
      simp only [List.cons_append, List.cons.injEq] at heq
      obtain ⟨rfl, rfl, rfl, -⟩ := heq
      exact ⟨_, _, u, rfl, hmark, hdigit⟩
  · rintro ⟨a, b, rest, rfl, h⟩
    exact ⟨a, b, _, rfl, h⟩

theorem afterNumber_append (hr : Delimited r) (u : List Char) :
    afterNumber (u ++ r) = afterNumber u ++ r := by
  rw [afterNumber, startsHex_append hr, afterNumber]
  split
  next hhex =>
    obtain ⟨a, b, rest, rfl, -⟩ := startsHex_iff.mp hhex
    exact afterDigits_append stops_isHexDigit hr _
  next =>
    rw [afterDigits_append stops_isDigit hr, afterFraction_append hr, afterExponent_append hr]

theorem isPrefixOf_append (hr : Delimited r) {s : List Char}
    (hs : ∀ c ∈ s.tail, isDelimiter c = false) (hu : u ≠ []) :
    s.isPrefixOf (u ++ r) = s.isPrefixOf u := by
  obtain ⟨d, m, hd, rfl⟩ := hr
  induction u generalizing s with
  | nil => exact absurd rfl hu
  | cons a u ih =>
    match s with
    | [] => rfl
    | [b] => simp [List.isPrefixOf]
    | b :: e :: s =>
      simp only [List.tail_cons, List.forall_mem_cons] at hs
      cases u with
      | nil =>
        have hne : e ≠ d := (ne_of_isDelimiter hd hs.1).symm
        simp [List.isPrefixOf, hne]
      | cons f u =>
        have hrest := ih (s := e :: s) hs.2 (List.cons_ne_nil f u)
        rw [List.cons_append, List.isPrefixOf, List.isPrefixOf, hrest]

theorem symbols_tail : ∀ s ∈ symbols, ∀ c ∈ s.toList.tail, isDelimiter c = false := by
  have hcheck : symbols.all (fun s => s.toList.tail.all (!isDelimiter ·)) = true := by decide
  simpa using hcheck

theorem symbol?_append (hr : Delimited r) (hu : u ≠ []) :
    symbol? (u ++ r) = (symbol? u).map fun (kind, v) => (kind, v ++ r) := by
  have hfind : (symbols.find? fun s => s.toList.isPrefixOf (u ++ r)) =
      symbols.find? fun s => s.toList.isPrefixOf u :=
    List.find?_congr fun s hs => isPrefixOf_append hr (symbols_tail s hs) hu
  rw [symbol?, hfind, symbol?]
  cases hs : symbols.find? fun s => s.toList.isPrefixOf u with
  | none => rfl
  | some s =>
    have hstarts : s.toList.isPrefixOf u = true := by simpa using List.find?_some hs
    have hprefix := List.isPrefixOf_iff_prefix.mp hstarts
    have hlength : s.length ≤ u.length := by
      rw [← String.length_toList]
      exact hprefix.length_le
    simp only [Option.map_some, List.drop_append_of_le_length hlength]

theorem head?_append_eq_some_iff {q : Char} (hq : isDelimiter q = false) (hr : Delimited r)
    (u : List Char) : (u ++ r).head? = some q ↔ u.head? = some q := by
  obtain ⟨d, m, hd, rfl⟩ := hr
  cases u with
  | nil => simp [ne_of_isDelimiter hd hq]
  | cons a u => rfl

theorem numberPiece?_append (hr : Delimited r) (u : List Char) :
    (if (afterNumber (u ++ r)).head?.any continuesWord then none
      else some (kindOfNumber ((u ++ r).take ((u ++ r).length - (afterNumber (u ++ r)).length)),
        afterNumber (u ++ r))) =
    if (afterNumber u).head?.any continuesWord then none
    else some (kindOfNumber (u.take (u.length - (afterNumber u).length)), afterNumber u ++ r) := by
  have hlength : (u ++ r).length - (afterNumber u ++ r).length =
      u.length - (afterNumber u).length := by
    simp only [List.length_append]
    omega
  rw [afterNumber_append hr, any_head?_append stops_continuesWord hr, hlength,
    List.take_append_of_le_length (Nat.sub_le _ _)]

/-- What is left behind a piece is the same before every delimiter. -/
theorem exists_leaves_map {read? : List Char → Option (List Char)} {kind' : Kind}
    (hread : ∀ {x}, read? (u ++ [')']) = some x → ∃ v, Leaves read? u v)
    (h : (read? (u ++ [')'])).map (kind', ·) = some (kind, x)) :
    ∃ v, ∀ r, Delimited r → (read? (u ++ r)).map (kind', ·) = some (kind, v ++ r) := by
  obtain ⟨_, hsome, heq⟩ := Option.map_eq_some_iff.mp h
  cases heq
  obtain ⟨v, hv⟩ := hread hsome
  refine ⟨v, fun r hr => ?_⟩
  rw [hv r hr, Option.map_some]

/-- The piece that a quote, a bracket or a symbol begins. -/
def markedPiece? (c : Char) (cs : List Char) : Option (Kind × List Char) :=
  if c = '\'' then (afterQuote? c cs).map (.text, ·)
  else if c = '"' ∨ c = '\x60' then (afterQuote? c cs).map (.quotedName, ·)
  else if c = '[' then (afterBracket? cs).map (.quotedName, ·)
  else symbol? (c :: cs)

theorem markedPiece?_append (h : markedPiece? c (u ++ [')']) = some (kind, x)) :
    ∃ v, ∀ r, Delimited r → markedPiece? c (u ++ r) = some (kind, v ++ r) := by
  unfold markedPiece? at h ⊢
  split at h
  next htext =>
    simp only [if_pos htext]
    exact exists_leaves_map (leaves_afterQuote? (by subst htext; rfl)) h
  next htext =>
  simp only [if_neg htext]
  split at h
  next hname =>
    simp only [if_pos hname]
    exact exists_leaves_map (leaves_afterQuote? (by rcases hname with rfl | rfl <;> rfl)) h
  next hname =>
  simp only [if_neg hname]
  split at h
  next hbracket =>
    simp only [if_pos hbracket]
    exact exists_leaves_map leaves_afterBracket? h
  next hbracket =>
    simp only [if_neg hbracket]
    rw [← List.cons_append, symbol?_append delimited_close (List.cons_ne_nil c u)] at h
    obtain ⟨⟨kind', v⟩, hsymbol, heq⟩ := Option.map_eq_some_iff.mp h
    cases heq
    refine ⟨v, fun r hr => ?_⟩
    rw [← List.cons_append, symbol?_append hr (List.cons_ne_nil c u), hsymbol, Option.map_some]

/-- A piece is a word, a number or bytes, or begins with a mark. -/
theorem piece?_cons (c : Char) (cs : List Char) :
    piece? (c :: cs) =
      if (c = 'x' ∨ c = 'X') ∧ cs.head? = some '\'' then (afterBytes? cs.tail).map (.blob, ·)
      else if startsWord c then
        some (.word (folded (String.ofList ((c :: cs).takeWhile continuesWord))),
          (c :: cs).dropWhile continuesWord)
      else if isDigit c ∨ (c = '.' ∧ cs.head?.any isDigit) then
        if (afterNumber (c :: cs)).head?.any continuesWord then none
        else some
          (kindOfNumber ((c :: cs).take ((c :: cs).length - (afterNumber (c :: cs)).length)),
            afterNumber (c :: cs))
      else markedPiece? c cs := rfl

/-- A piece that ends before one delimiter is the same before every other. -/
theorem piece?_append (hu : u ≠ []) (h : piece? (u ++ [')']) = some (kind, x)) :
    ∃ v, ∀ r, Delimited r → piece? (u ++ r) = some (kind, v ++ r) := by
  obtain ⟨c, u, rfl⟩ := List.exists_cons_of_ne_nil hu
  have hquote {r : List Char} (hr : Delimited r) :=
    head?_append_eq_some_iff (q := '\'') rfl hr u
  have hdigit {r : List Char} (hr : Delimited r) := any_head?_append stops_isDigit hr u
  rw [List.cons_append, piece?_cons] at h
  simp only [hquote delimited_close, hdigit delimited_close] at h
  -- The same branch is taken before every delimiter.
  split at h
  next hblob =>
    obtain ⟨u, rfl⟩ := List.head?_eq_some_iff.mp hblob.2
    obtain ⟨v, hv⟩ := exists_leaves_map leaves_afterBytes? h
    refine ⟨v, fun r hr => ?_⟩
    rw [List.cons_append, piece?_cons, if_pos ⟨hblob.1, rfl⟩]
    exact hv r hr
  next hblob =>
  split at h
  next hword =>
    rw [← List.cons_append, takeWhile_append stops_continuesWord delimited_close] at h
    cases h
    refine ⟨(c :: u).dropWhile continuesWord, fun r hr => ?_⟩
    rw [List.cons_append, piece?_cons, if_neg (by rwa [hquote hr]), if_pos hword,
      ← List.cons_append, takeWhile_append stops_continuesWord hr,
      dropWhile_append stops_continuesWord hr]
  next hword =>
  split at h
  next hnumber =>
    rw [← List.cons_append, numberPiece?_append delimited_close] at h
    obtain ⟨hends, heq⟩ := Option.ite_none_left_eq_some.mp h
    cases heq
    refine ⟨afterNumber (c :: u), fun r hr => ?_⟩
    rw [List.cons_append, piece?_cons, if_neg (by rwa [hquote hr]), if_neg hword,
      if_pos (by rwa [hdigit hr]), ← List.cons_append, numberPiece?_append hr, if_neg hends]
  next hnumber =>
    obtain ⟨v, hv⟩ := markedPiece?_append h
    refine ⟨v, fun r hr => ?_⟩
    rw [List.cons_append, piece?_cons, if_neg (by rwa [hquote hr]), if_neg hword,
      if_neg (by rwa [hdigit hr]), hv r hr]

end Piece

section Length

variable {c : Char} {cs rest : List Char} {kind : Kind}

theorem length_afterQuote?_le (h : afterQuote? c cs = some rest) : rest.length ≤ cs.length := by
  induction cs using afterQuote?.induct c with
  | case1 => cases h
  | case2 =>
    rw [afterQuote?, if_pos rfl] at h
    cases h
    exact Nat.zero_le _
  | case3 d hd =>
    rw [afterQuote?, if_neg hd] at h
    cases h
  | case4 cs ih =>
    simp only [afterQuote?, if_true] at h
    exact Nat.le_succ_of_le (Nat.le_succ_of_le (ih h))
  | case5 d cs hd =>
    simp only [afterQuote?, if_true, if_neg hd] at h
    cases h
    exact Nat.le_succ _
  | case6 d e cs hd ih =>
    simp only [afterQuote?, if_neg hd] at h
    exact Nat.le_succ_of_le (ih h)

theorem length_afterBracket?_le (h : afterBracket? cs = some rest) : rest.length ≤ cs.length := by
  induction cs using afterBracket?.induct with
  | case1 cs =>
    cases h
    exact Nat.le_succ _
  | case2 d cs hd ih =>
    rw [afterBracket?.eq_2 d cs hd] at h
    exact Nat.le_succ_of_le (ih h)
  | case3 => cases h

theorem length_afterBytes?_le (h : afterBytes? cs = some rest) : rest.length ≤ cs.length := by
  have hle := length_dropWhile_le isHexDigit cs
  rw [afterBytes?] at h
  split at h
  next heq =>
    obtain ⟨-, hrest⟩ := Option.ite_none_right_eq_some.mp h
    cases hrest
    rw [heq, List.length_cons] at hle
    omega
  next => cases h

theorem length_afterFraction_le (cs : List Char) : (afterFraction cs).length ≤ cs.length := by
  rw [afterFraction.eq_def]
  split
  · exact Nat.le_succ_of_le (length_dropWhile_le _ _)
  · exact Nat.le_refl _

theorem length_afterSign_le (cs : List Char) : (afterSign cs).length ≤ cs.length := by
  rw [afterSign.eq_def]
  split
  · split
    · exact Nat.le_succ _
    · exact Nat.le_refl _
  · exact Nat.le_refl _

theorem length_afterExponent_le (cs : List Char) : (afterExponent cs).length ≤ cs.length := by
  cases cs with
  | nil => exact Nat.le_refl _
  | cons c cs =>
    rw [afterExponent_cons]
    split
    · exact Nat.le_succ_of_le (Nat.le_trans (length_dropWhile_le _ _) (length_afterSign_le cs))
    · exact Nat.le_refl _

theorem length_afterNumber_lt (h : isDigit c = true ∨ c = '.' ∧ cs.head?.any isDigit = true) :
    (afterNumber (c :: cs)).length < (c :: cs).length := by
  rw [afterNumber]
  split
  next hhex =>
    obtain ⟨a, b, rest, heq, -⟩ := startsHex_iff.mp hhex
    rw [heq]
    have hle := length_dropWhile_le (fun c => isHexDigit c || c = '_') (b :: rest)
    simp only [List.drop_succ_cons, List.drop_zero, afterDigits, List.length_cons] at hle ⊢
    omega
  next =>
    have hle := length_afterExponent_le (afterFraction (afterDigits isDigit (c :: cs)))
    refine Nat.lt_of_le_of_lt hle ?_
    by_cases hdigit : isDigit c = true
    · refine Nat.lt_of_le_of_lt (length_afterFraction_le _) ?_
      rw [afterDigits, List.dropWhile_cons_of_pos (by simp [hdigit])]
      exact Nat.lt_succ_of_le (length_dropWhile_le _ _)
    · obtain ⟨rfl, -⟩ := h.resolve_left hdigit
      exact Nat.lt_succ_of_le (length_dropWhile_le _ _)

theorem length_symbol?_lt (h : symbol? cs = some (kind, rest)) : rest.length < cs.length := by
  obtain ⟨s, hs, heq⟩ := Option.map_eq_some_iff.mp h
  cases heq
  have hstarts : s.toList.isPrefixOf cs = true := by simpa using List.find?_some hs
  have hle := (List.isPrefixOf_iff_prefix.mp hstarts).length_le
  have hpos : ∀ s ∈ symbols, 0 < s.length := by decide
  have hs := hpos s (List.mem_of_find?_eq_some hs)
  rw [String.length_toList] at hle
  rw [List.length_drop]
  omega

/-- What is left behind a piece that begins with a mark is no longer than the text behind that. -/
theorem length_map_lt {read? : List Char → Option (List Char)} {kind' : Kind}
    (hread : ∀ {rest}, read? cs = some rest → rest.length ≤ cs.length)
    (h : (read? cs).map (kind', ·) = some (kind, rest)) : rest.length < (c :: cs).length := by
  obtain ⟨_, hsome, heq⟩ := Option.map_eq_some_iff.mp h
  cases heq
  exact Nat.lt_succ_of_le (hread hsome)

theorem length_markedPiece?_lt (h : markedPiece? c cs = some (kind, rest)) :
    rest.length < (c :: cs).length := by
  unfold markedPiece? at h
  split at h
  next => exact length_map_lt length_afterQuote?_le h
  split at h
  next => exact length_map_lt length_afterQuote?_le h
  split at h
  next => exact length_map_lt length_afterBracket?_le h
  next => exact length_symbol?_lt h

/-- Every piece takes at least one character. -/
theorem length_piece?_lt (h : piece? cs = some (kind, rest)) : rest.length < cs.length := by
  cases cs with
  | nil => cases h
  | cons c cs =>
    rw [piece?_cons] at h
    split at h
    next hblob =>
      obtain ⟨cs, rfl⟩ := List.head?_eq_some_iff.mp hblob.2
      exact Nat.lt_succ_of_lt (length_map_lt length_afterBytes?_le h)
    split at h
    next hword =>
      cases h
      rw [List.dropWhile_cons_of_pos (by simp [continuesWord, hword])]
      exact Nat.lt_succ_of_le (length_dropWhile_le _ _)
    split at h
    next hnumber =>
      obtain ⟨-, heq⟩ := Option.ite_none_left_eq_some.mp h
      cases heq
      exact length_afterNumber_lt hnumber
    next => exact length_markedPiece?_lt h

end Length

end PackageIndex.Sql
