import PackageIndex.Sql.StatementReader
/-!
Readers and brackets. Whatever a reader of expressions takes leaves no bracket open and closes none
that was open before, so the bracket that closes what it stands in is the first one that the
pieces before it do not match.
-/
namespace PackageIndex.Sql

/-- The number of open brackets after a piece; one that closes needs one that is open. -/
def step (n : Nat) (t : Token) : Option Nat :=
  if t.isSymbol "(" then some (n + 1)
  else if t.isSymbol ")" then (if n = 0 then none else some (n - 1))
  else some n

/-- The number of open brackets after some pieces. -/
def depth (n : Nat) (ts : List Token) : Option Nat := ts.foldlM step n

/-- Pieces that leave no bracket open. -/
def Balanced (ts : List Token) : Prop := depth 0 ts = some 0

instance (ts : List Token) : Decidable (Balanced ts) := inferInstanceAs (Decidable (_ = _))

/-- What the reader takes brings the number of open brackets from one to another. -/
def Takes {α : Type} (i j : Nat) (read : Reader α) : Prop :=
  ∀ ts a rest, read ts = some (a, rest) → ∃ taken, ts = taken ++ rest ∧ depth i taken = some j

section Depth

variable {i j k : Nat} {t : Token} {ts us : List Token}

theorem depth_append (i : Nat) (ts us : List Token) :
    depth i (ts ++ us) = (depth i ts).bind fun j => depth j us :=
  List.foldlM_append

theorem depth_cons (i : Nat) (t : Token) (ts : List Token) :
    depth i (t :: ts) = (step i t).bind fun j => depth j ts :=
  List.foldlM_cons

theorem step_open (h : t.isSymbol "(" = true) (i : Nat) : step i t = some (i + 1) := if_pos h

theorem not_open_of_close (h : t.isSymbol ")" = true) : ¬ t.isSymbol "(" = true := by
  simp only [Token.isSymbol, decide_eq_true_eq] at h ⊢
  simp [h]

theorem step_close (h : t.isSymbol ")" = true) (i : Nat) : step (i + 1) t = some i := by
  rw [step, if_neg (not_open_of_close h), if_pos h, if_neg (Nat.succ_ne_zero i),
    Nat.add_sub_cancel]

theorem step_zero_close (h : t.isSymbol ")" = true) : step 0 t = none := by
  rw [step, if_neg (not_open_of_close h), if_pos h, if_pos rfl]

/-- Not one bracket more can be closed than are open. -/
theorem Balanced.not_closed (hts : Balanced ts) (ht : t.isSymbol ")" = true) (us : List Token) :
    ¬ Balanced (ts ++ t :: us) := by
  intro h
  rw [Balanced, depth_append, hts, Option.bind_some, depth_cons, step_zero_close ht] at h
  cases h

/-- Of two balanced beginnings that a closing bracket follows there is only one. -/
theorem Balanced.unique {t' : Token} {rest rest' : List Token} (hts : Balanced ts)
    (hus : Balanced us) (ht : t.isSymbol ")" = true) (ht' : t'.isSymbol ")" = true)
    (h : ts ++ t :: rest = us ++ t' :: rest') : ts = us ∧ t = t' ∧ rest = rest' := by
  rcases List.append_eq_append_iff.mp h with ⟨more, rfl, hmore⟩ | ⟨more, rfl, hmore⟩
  · cases more with
    | nil => simpa using hmore
    | cons c more =>
      obtain ⟨rfl, -⟩ := List.cons.inj hmore
      exact absurd hus (hts.not_closed ht more)
  · cases more with
    | nil => simpa [eq_comm] using hmore
    | cons c more =>
      obtain ⟨rfl, -⟩ := List.cons.inj hmore
      exact absurd hts (hus.not_closed ht' more)

end Depth

section Rules

variable {α β : Type} {i j k : Nat} {read : Reader α} {f : α → Reader β} {p : Token → Bool}

open Reader

theorem takes_pure (a : α) : Takes i i (pure a : Reader α) := by
  intro ts b rest h
  cases h
  exact ⟨[], rfl, rfl⟩

theorem takes_failure : Takes i j (failure : Reader α) := nofun

theorem Takes.bind (h : Takes i j read) (hf : ∀ a, Takes j k (f a)) : Takes i k (read >>= f) := by
  intro ts b rest hrun
  obtain ⟨⟨a, mid⟩, hread, hrest⟩ := Option.bind_eq_some_iff.mp hrun
  obtain ⟨taken, rfl, htaken⟩ := h ts a mid hread
  obtain ⟨taken', rfl, htaken'⟩ := hf a mid b rest hrest
  refine ⟨taken ++ taken', (List.append_assoc _ _ _).symm, ?_⟩
  rw [depth_append, htaken, Option.bind_some, htaken']

/-- No bracket is of the sort. -/
def Plain (p : Token → Bool) : Prop :=
  ∀ t, p t = true → t.isSymbol "(" = false ∧ t.isSymbol ")" = false

theorem step_plain {t : Token} (h : t.isSymbol "(" = false ∧ t.isSymbol ")" = false) (i : Nat) :
    step i t = some i := by
  rw [step, h.1, h.2]
  rfl

theorem takes_next {p : Token → Bool} (hp : ∀ t, p t = true → step i t = some j) :
    Takes i j (next p) := by
  intro ts t rest h
  cases ts with
  | nil => cases h
  | cons t' ts =>
    obtain ⟨ht, heq⟩ := Option.ite_none_right_eq_some.mp h
    cases heq
    exact ⟨[t], rfl, by rw [depth_cons, hp t ht]; rfl⟩

theorem takes_takes (hp : Plain p) : Takes i i (Reader.takes p) := by
  intro ts b rest h
  cases ts with
  | nil =>
    cases h
    exact ⟨[], rfl, rfl⟩
  | cons t ts =>
    rw [Reader.takes] at h
    split at h
    next ht =>
      cases h
      exact ⟨[t], rfl, by rw [depth_cons, step_plain (hp t ht)]; rfl⟩
    next =>
      cases h
      exact ⟨[], rfl, rfl⟩

theorem takes_peek? : Takes i i peek? := by
  intro ts t rest h
  cases h
  exact ⟨[], rfl, rfl⟩

theorem takes_takesWordOf (ws : List String) : Takes i i (takesWordOf ws) := by
  intro ts b rest h
  rw [takesWordOf.eq_def] at h
  split at h
  next w _ _ rest' =>
    split at h
    next =>
      cases h
      exact ⟨[_], rfl, rfl⟩
    next =>
      cases h
      exact ⟨[], rfl, rfl⟩
  next =>
    cases h
    exact ⟨[], rfl, rfl⟩

theorem plain_isWord (w : String) : Plain (·.isWord w) := by
  intro t ht
  simp only [Token.isWord, decide_eq_true_eq] at ht
  simp [Token.isSymbol, ht]

theorem plain_isSymbol {s : String} (hs : s ≠ "(" ∧ s ≠ ")") : Plain (·.isSymbol s) := by
  intro t ht
  simp only [Token.isSymbol, decide_eq_true_eq] at ht
  simp [Token.isSymbol, ht, hs]

theorem Plain.or {q : Token → Bool} (hp : Plain p) (hq : Plain q) : Plain fun t => p t || q t := by
  intro t ht
  rcases Bool.or_eq_true_iff.mp ht with h | h
  · exact hp t h
  · exact hq t h

theorem plain_any (ws : List String) : Plain fun t => ws.any fun w => t.isWord w := by
  intro t ht
  obtain ⟨w, -, hw⟩ := List.any_eq_true.mp ht
  exact plain_isWord w t hw

/-- A sort that no symbol is of has no brackets. -/
theorem plain_of (h : ∀ t s, t.kind = .symbol s → p t = false) : Plain p := by
  intro t ht
  constructor <;>
    · refine Bool.eq_false_iff.mpr fun hs => ?_
      rw [h t _ (of_decide_eq_true hs)] at ht
      cases ht

theorem plain_isObjectName : Plain Token.isObjectName :=
  plain_of fun t s h => by
    simp [Token.isObjectName, Token.isTermName, Token.isIdentifier, Token.isIndexed,
      Token.isJoining, h]

theorem plain_isTypeWord : Plain Token.isTypeWord :=
  plain_of fun t s h => by simp [Token.isTypeWord, Token.isIdentifier, h]

theorem plain_isNumber : Plain Token.isNumber :=
  plain_of fun t s h => by simp [Token.isNumber, h]

theorem takes_next_plain (hp : Plain p) : Takes i i (next p) :=
  takes_next fun t ht => step_plain (hp t ht) i

theorem takes_word (w : String) : Takes i i (word w) :=
  (takes_next_plain (plain_isWord w)).bind fun _ => takes_pure _

theorem takes_open : Takes i (i + 1) (symbol "(") :=
  (takes_next fun _ ht => step_open ht i).bind fun _ => takes_pure _

theorem takes_close : Takes (i + 1) i (symbol ")") :=
  (takes_next fun _ ht => step_close ht i).bind fun _ => takes_pure _

theorem takes_symbol {s : String} (hs : s ≠ "(" ∧ s ≠ ")") : Takes i i (symbol s) :=
  (takes_next_plain (plain_isSymbol hs)).bind fun _ => takes_pure _

theorem takes_takesWord (w : String) : Takes i i (takesWord w) := takes_takes (plain_isWord w)

theorem takes_takesSymbol {s : String} (hs : s ≠ "(" ∧ s ≠ ")") : Takes i i (takesSymbol s) :=
  takes_takes (plain_isSymbol hs)

/-- Where a bracket may be taken, what follows depends on it. -/
theorem takes_takesSymbol_bind {s : String} {f : Bool → Reader β}
    (hs : ∀ t, t.isSymbol s = true → step i t = some j) (htrue : Takes j k (f true))
    (hfalse : Takes i k (f false)) : Takes i k (takesSymbol s >>= f) := by
  intro ts b rest h
  cases ts with
  | nil => exact hfalse [] b rest h
  | cons t ts =>
    by_cases ht : t.isSymbol s = true
    · have hrun : (takesSymbol s >>= f) (t :: ts) = f true ts := by
        show Option.bind (if t.isSymbol s then _ else _) _ = _
        rw [if_pos ht]
        rfl
      obtain ⟨taken, rfl, htaken⟩ := htrue ts b rest (hrun.symm.trans h)
      exact ⟨t :: taken, rfl, by rw [depth_cons, hs t ht, Option.bind_some, htaken]⟩
    · have hrun : (takesSymbol s >>= f) (t :: ts) = f false (t :: ts) := by
        show Option.bind (if t.isSymbol s then _ else _) _ = _
        rw [if_neg ht]
        rfl
      exact hfalse (t :: ts) b rest (hrun.symm.trans h)

theorem takes_takesOpen_bind {f : Bool → Reader β} (htrue : Takes (i + 1) k (f true))
    (hfalse : Takes i k (f false)) : Takes i k (takesSymbol "(" >>= f) :=
  takes_takesSymbol_bind (fun _ ht => step_open ht i) htrue hfalse

/-- What the reader takes if the next piece is known. -/
def TakesHead (t : Token) (i j : Nat) (read : Reader α) : Prop :=
  ∀ ts a rest, read (t :: ts) = some (a, rest) →
    ∃ taken, t :: ts = taken ++ rest ∧ depth i taken = some j

section

variable {t : Token}

theorem Takes.head (h : Takes i j read) (t : Token) : TakesHead t i j read :=
  fun ts => h (t :: ts)

/-- What the reader takes, together with the piece before it. -/
def TakesAfter (t : Token) (i j : Nat) (read : Reader α) : Prop :=
  ∀ ts a rest, read ts = some (a, rest) → ∃ taken, t :: ts = taken ++ rest ∧ depth i taken = some j

theorem takesAfter_failure : TakesAfter t i j (failure : Reader α) := nofun

theorem Takes.after (h : Takes j k read) (ht : step i t = some j) : TakesAfter t i k read := by
  intro ts a rest hrun
  obtain ⟨taken, rfl, htaken⟩ := h ts a rest hrun
  exact ⟨t :: taken, rfl, by rw [depth_cons, ht, Option.bind_some, htaken]⟩

theorem takesHead_next_bind {f : Token → Reader β} (ht : step i t = some j)
    (h : Takes j k (f t)) : TakesHead t i k (next p >>= f) := by
  intro ts b rest hrun
  obtain ⟨⟨t', mid⟩, hnext, hrest⟩ := Option.bind_eq_some_iff.mp hrun
  obtain ⟨-, heq⟩ := Option.ite_none_right_eq_some.mp hnext
  cases heq
  exact h.after ht _ b rest hrest

theorem TakesHead.ite {c : Prop} [Decidable c] {read read' : Reader α} (h : TakesHead t i j read)
    (h' : TakesHead t i j read') : TakesHead t i j (if c then read else read') := by
  split
  · exact h
  · exact h'

/-- The next piece is looked at first. -/
theorem takes_peek?_bind {f : Option Token → Reader β} (hnone : Takes i j (f none))
    (hsome : ∀ t, TakesHead t i j (f (some t))) : Takes i j (peek? >>= f) := by
  intro ts b rest h
  cases ts with
  | nil => exact hnone [] b rest h
  | cons t ts => exact hsome t ts b rest h

theorem takes_next_bind {f : Token → Reader β} (h : ∀ t, p t = true → TakesAfter t i j (f t)) :
    Takes i j (next p >>= f) := by
  intro ts b rest hrun
  obtain ⟨⟨t, mid⟩, hnext, hrest⟩ := Option.bind_eq_some_iff.mp hrun
  cases ts with
  | nil => cases hnext
  | cons t' ts =>
    obtain ⟨ht, heq⟩ := Option.ite_none_right_eq_some.mp hnext
    cases heq
    exact h t ht _ b rest hrest

end

theorem takes_ite {c : Prop} [Decidable c] {read read' : Reader α} (h : Takes i j read)
    (h' : Takes i j read') : Takes i j (if c then read else read') := by
  split
  · exact h
  · exact h'

/-- Going on only where something does not hold. -/
theorem takes_unless {c : Prop} [Decidable c] {f : PUnit → Reader α} (h : Takes i j (f ⟨⟩)) :
    Takes i j (if c then failure >>= f else f ⟨⟩) :=
  takes_ite (nofun : Takes i j (failure >>= f)) h

theorem takes_commaSeparated (h : Takes i i read) (fuel : Nat) :
    Takes i i (commaSeparated read fuel) := by
  induction fuel with
  | zero => exact takes_failure
  | succ fuel ih =>
    rw [commaSeparated]
    refine h.bind fun _ => (takes_takesSymbol (by decide)).bind fun _ => ?_
    exact takes_ite (ih.bind fun _ => takes_pure _) (takes_pure _)

theorem takes_many {read? : Reader (Option α)} (h : Takes i i read?) (fuel : Nat) :
    Takes i i (many read? fuel) := by
  induction fuel with
  | zero => exact takes_failure
  | succ fuel ih =>
    rw [many]
    refine h.bind fun a? => ?_
    cases a? with
    | none => exact takes_pure _
    | some a => exact ih.bind fun _ => takes_pure _

end Rules

section Expressions

open Reader

variable {i fuel : Nat}

theorem takes_sign : Takes i i (do
    let _ ← Reader.takes fun t => t.isSymbol "+" || t.isSymbol "-"
    let _ ← next Token.isNumber) := by
  have hsign : Plain fun t => t.isSymbol "+" || t.isSymbol "-" :=
    (plain_isSymbol (by decide)).or (plain_isSymbol (by decide))
  exact (takes_takes hsign).bind fun _ =>
    (takes_next_plain plain_isNumber).bind fun _ => takes_pure ()

theorem takes_typeName (fuel : Nat) : Takes i i (typeName fuel) := by
  rw [typeName]
  refine (takes_takes plain_isTypeWord).bind fun _ => takes_ite ?_ (takes_pure ())
  refine (takes_many ((takes_takes plain_isTypeWord).bind fun _ => takes_pure _) fuel).bind
    fun _ => takes_takesOpen_bind ?_ (takes_pure ())
  refine takes_sign.bind fun _ => (takes_takesSymbol (by decide)).bind fun _ => ?_
  exact takes_ite (takes_sign.bind fun _ => takes_close) takes_close

theorem takes_direction : Takes i i direction := by
  rw [direction]
  refine (takes_takesWordOf _).bind fun _ => (takes_takesWord _).bind fun _ => ?_
  refine takes_ite ?_ (takes_pure _)
  exact (takes_next_plain ((plain_isWord _).or (plain_isWord _))).bind fun _ => takes_pure _

/-- No bracket is an operator. -/
theorem plain_of_level {t : Token} {own : Nat} (h : levels.lookup t.kind = some own) :
    t.isSymbol "(" = false ∧ t.isSymbol ")" = false := by
  have hopen : levels.lookup (.symbol "(") = none := by decide
  have hclose : levels.lookup (.symbol ")") = none := by decide
  constructor <;>
    · refine Bool.eq_false_iff.mpr fun hs => ?_
      rw [show t.kind = _ from of_decide_eq_true hs] at h
      simp_all

theorem step_of_kind {t : Token} (h : ∀ s, t.kind ≠ .symbol s) (i : Nat) : step i t = some i :=
  step_plain ⟨decide_eq_false (h "("), decide_eq_false (h ")")⟩ i

/-- What each of the readers that call one another takes with so much fuel. -/
structure Readers (fuel : Nat) : Prop where
  expression {i : Nat} (level : Nat) : Takes i i (expression fuel level)
  operators {i : Nat} (level : Nat) (conjoins : Bool) (left : Expr) :
    Takes i i (operators fuel level conjoins left)
  applied {i : Nat} (own : Nat) (kind : Kind) (left : Expr) : Takes i i (applied fuel own kind left)
  tested {i : Nat} (kind : Kind) (isNegated : Bool) (left : Expr) :
    Takes i i (tested fuel kind isNegated left)
  bracketed {i : Nat} : Takes (i + 1) i (bracketed fuel)
  operand {i : Nat} : Takes i i (operand fuel)
  named {i : Nat} (t : Token) : Takes i i (named fuel t)
  called {i : Nat} (function : String) : Takes (i + 1) i (called fuel function)
  distinction {i : Nat} : Takes i i (distinction fuel)

namespace Readers

theorem zero : Readers 0 := by
  constructor
  all_goals
    intros
    exact takes_failure

variable (h : Readers fuel)
include h

theorem expression_succ (level : Nat) : Takes i i (Sql.expression (fuel + 1) level) := by
  rw [Sql.expression]
  exact h.operand.bind fun _ => h.operators level true _

theorem operators_succ (level : Nat) (conjoins : Bool) (left : Expr) :
    Takes i i (Sql.operators (fuel + 1) level conjoins left) := by
  rw [Sql.operators]
  refine takes_peek?_bind (takes_pure _) fun t => ?_
  dsimp only
  split
  next own hown =>
    refine ((takes_pure _).head t).ite (takesHead_next_bind (step_plain (plain_of_level hown) i) ?_)
    exact (h.applied own _ left).bind fun _ => h.operators level conjoins _
  next => exact (takes_pure _).head t

theorem applied_succ (own : Nat) (kind : Kind) (left : Expr) :
    Takes i i (Sql.applied (fuel + 1) own kind left) := by
  unfold Sql.applied
  split
  -- the operators that need more than a second part
  case h_1 =>
    refine (takes_takesWord _).bind fun _ => (takes_takesWord _).bind fun _ => ?_
    have hright : Takes i i (Sql.expression fuel innerLevel >>= fun e => pure (left.identity e)) :=
      (h.expression innerLevel).bind fun _ => takes_pure _
    exact takes_ite ((takes_word _).bind fun _ => hright) hright
  case h_2 => exact takes_pure _
  case h_3 => exact takes_pure _
  case h_4 => exact (takes_next_plain plain_isTypeWord).bind fun _ => takes_pure _
  case h_5 =>
    refine (takes_takesWord _).bind fun _ => takes_ite (takes_pure _) ?_
    have hplain := ((plain_isWord "between").or (plain_isWord "in")).or (plain_any patternWords)
    exact (takes_next_plain hplain).bind fun t =>
      (h.tested t.kind true left).bind fun _ => takes_pure _
  case h_12 => exact (h.expression _).bind fun _ => takes_pure _
  all_goals exact h.tested _ false left

theorem tested_succ (kind : Kind) (isNegated : Bool) (left : Expr) :
    Takes i i (Sql.tested (fuel + 1) kind isNegated left) := by
  unfold Sql.tested
  split
  case h_1 =>
    refine h.operand.bind fun _ => (h.operators 1 false _).bind fun _ => ?_
    refine (takes_word _).bind fun _ => ?_
    exact (h.expression innerLevel).bind fun _ => takes_pure _
  case h_2 =>
    refine takes_open.bind fun _ => ?_
    refine takes_takesSymbol_bind (fun _ ht => step_close ht i) ?_ ?_
    · refine (takes_pure _).bind fun _ => ?_
      exact takes_unless (takes_pure _)
    · refine h.bracketed.bind fun _ => ?_
      exact takes_unless (takes_pure _)
  case h_3 =>
    refine (h.expression innerLevel).bind fun _ => (takes_takesWord _).bind fun _ => ?_
    exact takes_ite ((h.expression innerLevel).bind fun _ => takes_pure _) (takes_pure _)
  case h_4 => exact takes_failure

theorem bracketed_succ : Takes (i + 1) i (Sql.bracketed (fuel + 1)) := by
  rw [Sql.bracketed]
  refine takes_peek?_bind takes_failure fun t => (takes_unless ?_).head t
  refine (takes_commaSeparated (h.expression 1) fuel).bind fun _ => ?_
  exact takes_close.bind fun _ => takes_pure _

theorem operand_succ : Takes i i (Sql.operand (fuel + 1)) := by
  have hpart (level : Nat) : Takes i i (Sql.expression fuel level >>= fun e =>
      pure (Expr.node .operator [e])) := (h.expression level).bind fun _ => takes_pure _
  rw [Sql.operand]
  refine takes_next_bind fun t _ => ?_
  split
  case h_1 ht =>
    refine Takes.after (j := i + 1) ?_ (step_open (decide_eq_true ht) i)
    refine h.bracketed.bind fun parts => ?_
    split
    · exact takes_pure _
    · exact takes_pure _
  case h_2 s hs ht =>
    split
    next hsign =>
      refine (hpart signLevel).after (step_plain ?_ i)
      rcases hsign with rfl | rfl | rfl <;> simp [Token.isSymbol, ht]
    next => exact takesAfter_failure
  -- no other piece is a bracket
  all_goals
    refine Takes.after ?_ (step_of_kind (fun s hs => by simp_all) i)
  case h_3 => exact takes_pure _
  case h_4 => exact takes_pure _
  case h_5 => exact takes_pure _
  case h_6 => exact takes_ite (takes_pure _) takes_failure
  case h_7 => exact hpart negationLevel
  case h_8 => exact takes_pure _
  case h_9 => exact h.distinction
  case h_10 =>
    refine takes_open.bind fun _ => (h.expression 1).bind fun _ => (takes_word _).bind fun _ => ?_
    exact (takes_typeName fuel).bind fun _ => takes_close.bind fun _ => takes_pure _
  case h_11 =>
    refine takes_open.bind fun _ => (takes_takesWordOf _).bind fun _ => takes_ite ?_ ?_
    · exact (takes_word _).bind fun _ => takes_close.bind fun _ => takes_pure _
    · refine (takes_symbol (by decide)).bind fun _ => (h.expression 1).bind fun _ => ?_
      exact takes_close.bind fun _ => takes_pure _
  case h_12 => exact takes_ite (takes_pure _) (h.named t)
  case h_13 => exact h.named t

theorem named_succ (t : Token) : Takes i i (Sql.named (fuel + 1) t) := by
  have hname : Takes i i (next Token.isObjectName) := takes_next_plain plain_isObjectName
  rw [Sql.named]
  refine takes_unless ((takes_takesSymbol (by decide)).bind fun _ => takes_ite ?_ ?_)
  · refine hname.bind fun _ => (takes_takesSymbol (by decide)).bind fun _ => ?_
    exact takes_ite (hname.bind fun _ => takes_pure _) (takes_pure _)
  · exact takes_ite (takes_pure _) (takes_takesOpen_bind (h.called _) (takes_pure _))

theorem called_succ (function : String) : Takes (i + 1) i (Sql.called (fuel + 1) function) := by
  rw [Sql.called]
  refine (takes_takesSymbol (by decide)).bind fun _ => takes_ite ?_ ?_
  · exact takes_close.bind fun _ => takes_pure _
  refine (takes_takesWordOf _).bind fun _ => takes_peek?.bind fun _ => ?_
  refine takes_ite ((takes_pure _).bind fun _ => ?_)
    ((takes_commaSeparated (h.expression 1) fuel).bind fun _ => ?_)
  all_goals
    refine (takes_takesWord _).bind fun _ => takes_ite ?_ ?_
    · refine (takes_word _).bind fun _ => (takes_commaSeparated ?_ fuel).bind fun _ => ?_
      · exact (h.expression 1).bind fun _ => takes_direction.bind fun _ => takes_pure _
      · refine takes_close.bind fun _ => ?_
        exact takes_unless (takes_ite (takes_pure _) (takes_pure _))
    · refine (takes_pure _).bind fun _ => takes_close.bind fun _ => ?_
      exact takes_unless (takes_ite (takes_pure _) (takes_pure _))

theorem distinction_succ : Takes i i (Sql.distinction (fuel + 1)) := by
  rw [Sql.distinction]
  refine takes_peek?.bind fun _ => ?_
  refine takes_ite ((takes_pure _).bind fun _ => ?_)
    ((h.expression 1).bind fun _ => (takes_pure _).bind fun _ => ?_)
  all_goals
    refine (takes_many ?_ fuel).bind fun _ => ?_
    · refine (takes_takesWord _).bind fun _ => takes_ite ?_ (takes_pure _)
      refine (h.expression 1).bind fun _ => (takes_word _).bind fun _ => ?_
      exact (h.expression 1).bind fun _ => takes_pure _
    · refine takes_unless ((takes_takesWord _).bind fun _ => takes_ite ?_ ?_)
      · exact (h.expression 1).bind fun _ => (takes_word _).bind fun _ => takes_pure _
      · exact (takes_word _).bind fun _ => takes_pure _

end Readers

theorem readers (fuel : Nat) : Readers fuel := by
  induction fuel with
  | zero => exact .zero
  | succ fuel ih =>
    exact
      { expression := ih.expression_succ
        operators := ih.operators_succ
        applied := ih.applied_succ
        tested := ih.tested_succ
        bracketed := ih.bracketed_succ
        operand := ih.operand_succ
        named := ih.named_succ
        called := ih.called_succ
        distinction := ih.distinction_succ }

/-- An expression leaves no bracket open and closes none that it has not opened. -/
theorem takes_wholeExpression (fuel : Nat) : Takes i i (wholeExpression fuel) :=
  ((readers fuel).expression 1).bind fun _ => takes_ite takes_failure (takes_pure _)

end Expressions

end PackageIndex.Sql
