import PackageIndex.Proofs.Sql.Brackets
import PackageIndex.Proofs.Sql.Closed
/-!
Readers on pieces that are known. What a reader does is told by its first piece, whatever gap
stands before that; of a default, the text that is kept of its pieces.
-/
namespace PackageIndex.Sql

open Reader

section Runs

variable {α β : Type} {a : α} {read : Reader α} {p : Token → Bool} {t : Token}
  {ts mid rest : List Token} {w s : String} {ws : List String} {ks : List Kind}

theorem bind_run (h : read ts = some (a, mid)) (f : α → Reader β) :
    (read >>= f) ts = f a mid := by
  show Option.bind (read ts) _ = _
  rw [h]
  rfl

theorem exists_of_bind {f : α → Reader β} {b : β} (h : (read >>= f) ts = some (b, rest)) :
    ∃ a mid, read ts = some (a, mid) ∧ f a mid = some (b, rest) := by
  obtain ⟨⟨a, mid⟩, hread, hrest⟩ := Option.bind_eq_some_iff.mp h
  exact ⟨a, mid, hread, hrest⟩

theorem next_eq_some_iff : next p ts = some (t, rest) ↔ ts = t :: rest ∧ p t = true := by
  cases ts with
  | nil => simp [next]
  | cons t' ts =>
    show (if p t' = true then some (t', ts) else none) = _ ↔ _
    rw [Option.ite_none_right_eq_some]
    constructor
    · rintro ⟨hp, ⟨⟩⟩
      exact ⟨rfl, hp⟩
    · rintro ⟨⟨⟩, hp⟩
      exact ⟨hp, rfl⟩

theorem next_cons (h : p t = true) (ts : List Token) : next p (t :: ts) = some (t, ts) := if_pos h

theorem takes_cons (h : p t = true) (ts : List Token) :
    Reader.takes p (t :: ts) = some (true, ts) := if_pos h

theorem takesWord_cons (h : t.kind = .word w) (ts : List Token) :
    takesWord w (t :: ts) = some (true, ts) :=
  takes_cons (decide_eq_true h) ts

theorem takesSymbol_cons (h : t.kind = .symbol s) (ts : List Token) :
    takesSymbol s (t :: ts) = some (true, ts) :=
  takes_cons (decide_eq_true h) ts

theorem word_cons (h : t.kind = .word w) (ts : List Token) : word w (t :: ts) = some ((), ts) :=
  bind_run (next_cons (decide_eq_true h) ts) _

theorem symbol_cons (h : t.kind = .symbol s) (ts : List Token) :
    symbol s (t :: ts) = some ((), ts) :=
  bind_run (next_cons (decide_eq_true h) ts) _

theorem isObjectName_congr {t' : Token} (h : t'.kind = t.kind) :
    t'.isObjectName = t.isObjectName := by
  simp only [Token.isObjectName, Token.isTermName, Token.isIdentifier, Token.isIndexed,
    Token.isJoining, h]

theorem name_congr {t' : Token} (h : t'.text = t.text) : t'.name = t.name := by
  rw [Token.name, h, Token.name]

theorem not_reserved (h : t.isObjectName = true) (hkind : t.kind = .word w) :
    w ∉ reservedWords := by
  intro hw
  have hindexed : w ≠ "indexed" := fun heq => absurd (heq ▸ hw) (by decide)
  have hapart : ∀ w ∈ joiningWords, w ∉ reservedWords := by decide
  have hjoining : w ∉ joiningWords := fun hjoins => hapart w hjoins hw
  simp [Token.isObjectName, Token.isTermName, Token.isIdentifier, Token.isIndexed,
    Token.isJoining, hkind, hw, hindexed, hjoining] at h

theorem isObjectName_of_word (hkind : t.kind = .word w) (hw : w ∉ reservedWords) :
    t.isObjectName = true := by
  by_cases hjoins : w ∈ joiningWords <;> by_cases hindexed : w = "indexed" <;>
    simp [Token.isObjectName, Token.isTermName, Token.isIdentifier, Token.isIndexed,
      Token.isJoining, hkind, hw, hjoins, hindexed]

theorem takesSymbol_name (h : t.isObjectName = true) (s : String) (ts : List Token) :
    takesSymbol s (t :: ts) = some (false, t :: ts) := by
  have hmiss : ¬ t.isSymbol s = true := by
    intro hsymbol
    have hkind : t.kind = .symbol s := of_decide_eq_true hsymbol
    simp [Token.isObjectName, Token.isTermName, Token.isIdentifier, Token.isIndexed,
      Token.isJoining, hkind] at h
  exact if_neg hmiss

theorem objectName_cons (h : t.isObjectName = true) (ts : List Token) :
    objectName (t :: ts) = some (t.name, ts) :=
  bind_run (next_cons h ts) _

theorem takesWordOf_cons (h : t.kind = .word w) (hw : w ∈ ws) (ts : List Token) :
    takesWordOf ws (t :: ts) = some (some w, ts) := by
  obtain ⟨kind, text, gap⟩ := t
  cases h
  show some (if ws.contains w = true then _ else _) = _
  rw [if_pos (List.contains_iff_mem.mpr hw)]

section

variable {as : List α} {read? : Reader (Option α)} {fuel : Nat}

theorem exists_of_many (h : many read? fuel ts = some (as, rest)) :
    ∃ a? mid, read? ts = some (a?, mid) := by
  cases fuel with
  | zero => cases h
  | succ fuel =>
    rw [many] at h
    obtain ⟨a?, mid, hread, -⟩ := exists_of_bind h
    exact ⟨a?, mid, hread⟩

theorem many_cons (hread : read? ts = some (some a, mid))
    (h : many read? fuel ts = some (as, rest)) :
    ∃ fuel' as', as = a :: as' ∧ many read? fuel' mid = some (as', rest) := by
  cases fuel with
  | zero => cases h
  | succ fuel =>
    rw [many, bind_run hread] at h
    obtain ⟨as', mid', hmany, hend⟩ := exists_of_bind h
    cases hend
    exact ⟨fuel, as', rfl, hmany⟩

theorem many_nil (hread : read? ts = some (none, mid))
    (h : many read? fuel ts = some (as, rest)) : as = [] ∧ rest = mid := by
  cases fuel with
  | zero => cases h
  | succ fuel =>
    rw [many, bind_run hread] at h
    cases h
    exact ⟨rfl, rfl⟩

end

/-- The next piece is of one of some kinds. -/
def Starts (ks : List Kind) (ts : List Token) : Prop := ∃ t rest, ts = t :: rest ∧ t.kind ∈ ks

theorem starts_cons (ks : List Kind) (h : t.kind ∈ ks) (ts : List Token) : Starts ks (t :: ts) :=
  ⟨t, ts, rfl, h⟩

theorem Starts.mono {ks' : List Kind} (h : Starts ks ts) (hks : ks ⊆ ks') : Starts ks' ts := by
  obtain ⟨t, rest, rfl, ht⟩ := h
  exact ⟨t, rest, rfl, hks ht⟩

theorem Starts.takes_eq (h : Starts ks ts) (hp : ∀ t, t.kind ∈ ks → p t = false) :
    Reader.takes p ts = some (false, ts) := by
  obtain ⟨t, rest, rfl, ht⟩ := h
  show (if p t = true then _ else _) = _
  rw [hp t ht]
  rfl

theorem Starts.takesWord_eq (h : Starts ks ts) (hw : .word w ∉ ks) :
    takesWord w ts = some (false, ts) :=
  h.takes_eq fun _ ht => decide_eq_false fun heq => hw (heq ▸ ht)

theorem Starts.takesSymbol_eq (h : Starts ks ts) (hs : .symbol s ∉ ks) :
    takesSymbol s ts = some (false, ts) :=
  h.takes_eq fun _ ht => decide_eq_false fun heq => hs (heq ▸ ht)

theorem Starts.takesWordOf_eq (h : Starts ks ts) (hws : ∀ w ∈ ws, .word w ∉ ks) :
    takesWordOf ws ts = some (none, ts) := by
  obtain ⟨⟨kind, text, gap⟩, rest, rfl, ht⟩ := h
  rw [takesWordOf.eq_def]
  split
  next w _ _ _ heq =>
    cases heq
    have hmiss : ¬ ws.contains w = true := fun hw => hws w (List.contains_iff_mem.mp hw) ht
    rw [if_neg hmiss]
  next => rfl

/-- What begins the rest of a column behind its type. -/
def ruleStarts : List Kind :=
  [.word "primary", .word "not", .word "default", .symbol ",", .symbol ")"]

theorem isTypeWord_of_ruleStarts (h : t.kind ∈ ruleStarts) : t.isTypeWord = false := by
  simp only [ruleStarts, List.mem_cons, List.not_mem_nil, or_false] at h
  rcases h with h | h | h | h | h <;> simp [Token.isTypeWord, Token.isIdentifier, h] <;> decide

theorem typeName_cons {fuel : Nat} (ht : t.isTypeWord = true) (hts : Starts ruleStarts ts)
    (h : typeName fuel (t :: ts) = some ((), rest)) : rest = ts := by
  rw [typeName, bind_run (takes_cons ht ts), if_pos rfl] at h
  obtain ⟨_, mid, hmany, hend⟩ := exists_of_bind h
  obtain ⟨-, rfl⟩ :=
    many_nil (bind_run (hts.takes_eq fun _ ht => isTypeWord_of_ruleStarts ht) _) hmany
  rw [bind_run (hts.takesSymbol_eq (by decide))] at hend
  cases hend
  rfl

theorem conflict_eq (hts : Starts ruleStarts ts) : conflict ts = some (none, ts) := by
  rw [conflict, bind_run (hts.takesWord_eq (by decide))]
  rfl

variable {t' : Token}

theorem columnRule?_primary (h : t.kind = .word "primary") (h' : t'.kind = .word "key")
    (hts : Starts ruleStarts ts) (fuel : Nat) :
    columnRule? fuel (t :: t' :: ts) = some (some (.primaryKey false false none), ts) := by
  rw [columnRule?, bind_run (takesWordOf_cons h (by decide) _)]
  simp only
  rw [bind_run (word_cons h' ts), bind_run (hts.takesWordOf_eq (by decide)),
    bind_run (conflict_eq hts), bind_run (hts.takesWord_eq (by decide))]
  rfl

theorem columnRule?_nonNull (h : t.kind = .word "not") (h' : t'.kind = .word "null")
    (hts : Starts ruleStarts ts) (fuel : Nat) :
    columnRule? fuel (t :: t' :: ts) = some (some .nonNull, ts) := by
  rw [columnRule?, bind_run (takesWordOf_cons h (by decide) _)]
  simp only
  rw [bind_run (takesWord_cons h' ts), if_pos rfl, bind_run (conflict_eq hts)]
  rfl

theorem columnRule?_end (hts : Starts [.symbol ",", .symbol ")"] ts) (fuel : Nat) :
    columnRule? fuel ts = some (none, ts) := by
  rw [columnRule?, bind_run (hts.takesWordOf_eq (by decide))]
  rfl

/-- The text that is kept of the pieces of a default. -/
inductive Kept : List Token → List Char → Prop
  | value {t : Token} : (∀ s, t.kind ≠ .symbol s) → Kept [t] t.text
  | signed {sign value : Token} :
      sign.kind = .symbol "+" ∨ sign.kind = .symbol "-" →
      Kept [sign, value] (sign.text ++ value.gap ++ value.text)
  | bracketed {gap gap' : List Char} {inner : List Token} :
      Balanced inner →
      Kept (⟨.symbol "(", ['('], gap⟩ :: (inner ++ [closing gap']))
        (trimmed (written inner ++ gap'))

theorem Kept.ne_nil {kept : List Char} (h : Kept ts kept) : ts ≠ [] := by
  cases h <;> exact List.cons_ne_nil _ _

theorem Kept.unique {ts' : List Token} {kept kept' : List Char} (h : Kept ts kept)
    (h' : Kept ts' kept') (hts : ts = ts') : kept = kept' := by
  cases h with
  | value ht =>
    cases h' with
    | value _ => cases hts; rfl
    | signed _ => cases hts
    | bracketed _ => simp at hts
  | signed ht =>
    cases h' with
    | value _ => cases hts
    | signed _ => cases hts; rfl
    | bracketed _ =>
      obtain ⟨rfl, -⟩ := List.cons.inj hts
      simp at ht
  | bracketed _ =>
    cases h' with
    | value _ => simp at hts
    | signed ht =>
      obtain ⟨rfl, -⟩ := List.cons.inj hts
      simp at ht
    | bracketed _ =>
      obtain ⟨-, hinner⟩ := List.cons.inj hts
      obtain ⟨rfl, hclosing⟩ := List.append_inj' hinner rfl
      cases hclosing
      rfl

theorem run?_eq_some (h : run? read ts = some a) : read ts = some (a, []) := by
  unfold run? at h
  split at h
  next hread =>
    cases h
    exact hread
  next => cases h

theorem withTokens_eq_some {taken : List Token} (h : withTokens read ts = some ((a, taken), rest)) :
    read ts = some (a, rest) ∧ taken = ts.take (ts.length - rest.length) := by
  obtain ⟨⟨a', rest'⟩, hrun, heq⟩ := Option.bind_eq_some_iff.mp h
  cases heq
  exact ⟨hrun, rfl⟩

theorem withTokens_takes {i j : Nat} (hread : Takes i j read) {taken : List Token}
    (h : withTokens read ts = some ((a, taken), rest)) :
    ts = taken ++ rest ∧ depth i taken = some j := by
  obtain ⟨hrun, rfl⟩ := withTokens_eq_some h
  obtain ⟨taken, rfl, htaken⟩ := hread ts a rest hrun
  have htake : (taken ++ rest).take ((taken ++ rest).length - rest.length) = taken := by
    rw [List.length_append, Nat.add_sub_cancel, List.take_left]
  rw [htake]
  exact ⟨rfl, htaken⟩

section

variable {fuel : Nat} {rule : ColumnRule} {value sign close : Token} {inner : List Token}

theorem defaultRule_value (ht : ∀ s, t.kind ≠ .symbol s)
    (h : defaultRule fuel (t :: ts) = some (rule, rest)) :
    rule = .default t.text none ∧ rest = ts := by
  have hmiss : takesSymbol "(" (t :: ts) = some (false, t :: ts) :=
    (starts_cons [t.kind] (by simp) ts).takesSymbol_eq (by simpa using (ht "(").symm)
  have hsign : ¬ (t.isSymbol "+" = true ∨ t.isSymbol "-" = true) := by
    simp [Token.isSymbol, ht]
  rw [defaultRule, bind_run hmiss, if_neg Bool.false_ne_true, bind_run (next_cons rfl ts),
    if_neg hsign] at h
  split at h
  · cases h
    exact ⟨rfl, rfl⟩
  · cases h

theorem defaultRule_signed (ht : t.kind = .symbol "+" ∨ t.kind = .symbol "-")
    (h : defaultRule fuel (t :: value :: ts) = some (rule, rest)) :
    rule = .default (t.text ++ value.gap ++ value.text) none ∧ rest = ts := by
  have hmiss : takesSymbol "(" (t :: value :: ts) = some (false, t :: value :: ts) := by
    have hstarts : Starts [.symbol "+", .symbol "-"] (t :: value :: ts) :=
      starts_cons _ (by simpa using ht) _
    exact hstarts.takesSymbol_eq (by decide)
  have hsign : t.isSymbol "+" = true ∨ t.isSymbol "-" = true := by
    simpa [Token.isSymbol] using ht
  rw [defaultRule, bind_run hmiss, if_neg Bool.false_ne_true, bind_run (next_cons rfl _),
    if_pos hsign] at h
  obtain ⟨value', mid, hnext, h⟩ := exists_of_bind h
  obtain ⟨heq, -⟩ := next_eq_some_iff.mp hnext
  cases heq
  cases h
  exact ⟨rfl, rfl⟩

/-- The bracket that ends a default is the one that closes its first. -/
theorem defaultRule_bracketed (ht : t.kind = .symbol "(") (hclose : close.kind = .symbol ")")
    (hinner : Balanced inner)
    (h : defaultRule fuel (t :: (inner ++ close :: ts)) = some (rule, rest)) :
    (∃ e, rule = .default (trimmed (written inner ++ close.gap)) (some e)) ∧ rest = ts := by
  rw [defaultRule, bind_run (takesSymbol_cons ht _), if_pos rfl] at h
  obtain ⟨⟨e, taken⟩, mid, hread, hbehind⟩ := exists_of_bind h
  obtain ⟨close', mid', hnext, hend⟩ := exists_of_bind hbehind
  obtain ⟨rfl, hclose'⟩ := next_eq_some_iff.mp hnext
  obtain ⟨hsplit, htaken⟩ := withTokens_takes (takes_wholeExpression fuel) hread
  obtain ⟨rfl, rfl, rfl⟩ := hinner.unique htaken (decide_eq_true hclose) hclose' hsplit
  cases hend
  exact ⟨⟨e, rfl⟩, rfl⟩

theorem defaultRule_kept {pieces : List Token} {kept : List Char} (hkept : Kept pieces kept)
    (gap : List Char) (h : defaultRule fuel (behind gap pieces ++ ts) = some (rule, rest)) :
    (∃ value?, rule = .default kept value?) ∧ rest = ts := by
  cases hkept with
  | @value t hvalue =>
    obtain ⟨rfl, hrest⟩ := defaultRule_value (t := { t with gap := gap ++ t.gap }) hvalue h
    exact ⟨⟨none, rfl⟩, hrest⟩
  | @signed t value hsign =>
    obtain ⟨rfl, hrest⟩ := defaultRule_signed (t := { t with gap := gap ++ t.gap }) hsign h
    exact ⟨⟨none, rfl⟩, hrest⟩
  | bracketed hinner =>
    rw [behind, List.cons_append, List.append_assoc] at h
    obtain ⟨⟨e, rfl⟩, hrest⟩ := defaultRule_bracketed rfl rfl hinner h
    exact ⟨⟨some e, rfl⟩, hrest⟩

theorem columnRule?_default {pieces : List Token} {kept : List Char} {rule? : Option ColumnRule}
    (ht : t.kind = .word "default") (hkept : Kept pieces kept) (gap : List Char)
    (h : columnRule? fuel (t :: (behind gap pieces ++ ts)) = some (rule?, rest)) :
    (∃ value?, rule? = some (.default kept value?)) ∧ rest = ts := by
  rw [columnRule?, bind_run (takesWordOf_cons ht (by decide) _)] at h
  simp only at h
  obtain ⟨⟨rule, mid⟩, hrule, heq⟩ := Option.bind_eq_some_iff.mp h
  cases heq
  obtain ⟨⟨value?, rfl⟩, hrest⟩ := defaultRule_kept hkept gap hrule
  exact ⟨⟨value?, rfl⟩, hrest⟩

end

end Runs
end PackageIndex.Sql
