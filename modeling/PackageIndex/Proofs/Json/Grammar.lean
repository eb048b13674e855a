import PackageIndex.Proofs.Json.Number
import PackageIndex.Proofs.Json.Spelling
/-!
The grammar of JSON. A text denotes a value as the constructors say, with blanks around every part,
any spelling of its literals and any depth. The reader accepts such texts only, and it reads each as
its value.
-/
namespace PackageIndex.Json

def IsGap (cs : List Char) : Prop := ∀ c ∈ cs, isSpace c = true

/-- A member of an object as it is written, with what its literal and its text denote. -/
structure MemberText where
  literal : List Char
  key : Option (List Char)
  text : List Char
  value : Value

namespace MemberText

def written (m : MemberText) : List Char := m.literal ++ ':' :: m.text

def member (m : MemberText) : Option (List Char) × Value := (m.key, m.value)

end MemberText

/-- What a text denotes. A literal with a surrogate that has no partner denotes no text, but it is a
literal. -/
inductive Denotes : List Char → Value → Prop
  | null : Denotes "null".toList .null
  | yes : Denotes "true".toList (.bool true)
  | no : Denotes "false".toList (.bool false)
  | number {cs : List Char} : IsNumber cs → Denotes cs (.number cs)
  | string {body : List Char} {ps : List Piece} :
      PiecesSpelling body ps → Denotes ('"' :: (body ++ ['"'])) (.string (assemble? ps))
  | noItems {gap : List Char} : IsGap gap → Denotes ('[' :: (gap ++ [']'])) (.array [])
  | items {items : List (List Char × Value)} :
      items ≠ [] → (∀ i ∈ items, Denotes i.1 i.2) →
      Denotes ('[' :: (List.intercalate [','] (items.map Prod.fst) ++ [']']))
        (.array (items.map Prod.snd))
  | noMembers {gap : List Char} : IsGap gap → Denotes ('{' :: (gap ++ ['}'])) (.object [])
  | members {members : List MemberText} :
      members ≠ [] → (∀ m ∈ members, Denotes m.literal (.string m.key)) →
      (∀ m ∈ members, Denotes m.text m.value) →
      Denotes ('{' :: (List.intercalate [','] (members.map MemberText.written) ++ ['}']))
        (.object (members.map MemberText.member))
  | spaced {before cs after : List Char} {v : Value} :
      IsGap before → Denotes cs v → IsGap after → Denotes (before ++ (cs ++ after)) v

/-- The reader finds the value at the start of whatever starts with the text, unless a number goes
on after it, and leaves of the text blanks at most. -/
def Reads (cs : List Char) (v : Value) : Prop :=
  ∀ fuel rest, 2 * cs.length < fuel → Avoids goesOn rest →
    ∃ after, value? fuel (cs ++ rest) = some (v, after) ∧ skipSpace after = skipSpace rest

section Reading

variable {fuel : Nat} {cs rest after literal : List Char} {v : Value} {key : Option (List Char)}

theorem skipSpace_gap (h : IsGap cs) (rest : List Char) : skipSpace (cs ++ rest) = skipSpace rest :=
  List.dropWhile_append_of_pos h

theorem skipSpace_skipSpace (cs : List Char) : skipSpace (skipSpace cs) = skipSpace cs := by
  induction cs with
  | nil => rfl
  | cons c cs ih =>
    cases hspace : isSpace c with
    | true => simpa [skipSpace, hspace] using ih
    | false => simp [skipSpace, hspace]

theorem value?_skipSpace (fuel : Nat) (cs : List Char) :
    value? fuel (skipSpace cs) = value? fuel cs := by
  cases fuel with
  | zero => rfl
  | succ fuel => rw [value?, value?, skipSpace_skipSpace]

theorem items?_skipSpace (fuel : Nat) (cs : List Char) :
    items? fuel (skipSpace cs) = items? fuel cs := by
  cases fuel with
  | zero => rfl
  | succ fuel => rw [items?, items?, value?_skipSpace]

theorem members?_skipSpace (fuel : Nat) (cs : List Char) :
    members? fuel (skipSpace cs) = members? fuel cs := by
  cases fuel with
  | zero => rfl
  | succ fuel => rw [members?, members?, skipSpace_skipSpace]

theorem avoids_gap (h : IsGap cs) (hrest : Avoids goesOn rest) : Avoids goesOn (cs ++ rest) := by
  cases cs with
  | nil => exact hrest
  | cons c cs =>
    have hspace := h c List.mem_cons_self
    simp only [isSpace, Bool.or_eq_true, decide_eq_true_eq] at hspace
    obtain ((rfl | rfl) | rfl) | rfl := hspace <;> exact avoids_cons (by decide)

theorem value?_number {c : Char} (hc : c = '-' ∨ Text.isDigit c = true) :
    value? (fuel + 1) (c :: cs) =
      (number? (c :: cs)).map fun (text, rest) => (.number text, rest) := by
  have hspace : skipSpace (c :: cs) = c :: cs := by
    apply List.dropWhile_cons_of_neg
    simp only [isSpace, Bool.or_eq_true, decide_eq_true_eq]
    rintro (((rfl | rfl) | rfl) | rfl) <;> exact absurd hc (by decide)
  rw [value?, hspace]
  split
  case h_7 => rfl
  -- Every other value begins with a mark of its own.
  all_goals
    next heq =>
      obtain ⟨rfl, -⟩ := List.cons.inj heq
      exact absurd hc (by decide)

theorem items?_last (h : value? fuel cs = some (v, after))
    (hafter : skipSpace after = ']' :: rest) :
    items? (fuel + 1) cs = some ([v], rest) := by
  simp [items?, h, hafter]

theorem items?_cons {values : List Value} {rest' : List Char}
    (h : value? fuel cs = some (v, after)) (hafter : skipSpace after = ',' :: rest)
    (hrest : items? fuel rest = some (values, rest')) :
    items? (fuel + 1) cs = some (v :: values, rest') := by
  simp [items?, h, hafter, hrest]

theorem value?_of_items? {values : List Value} (h : items? fuel cs = some (values, rest)) :
    value? (fuel + 1) ('[' :: cs) = some (.array values, rest) := by
  have hopen : skipSpace ('[' :: cs) = '[' :: cs := rfl
  have hitem (after : List Char) : skipSpace cs ≠ ']' :: after := by
    -- No item starts with the closing bracket.
    intro hend
    match fuel, h with
    | 1, h => cases h
    | fuel + 2, h =>
      have hvalue : value? (fuel + 1) cs = none := by
        rw [value?, hend]
        rfl
      rw [items?, hvalue] at h
      cases h
  rw [← items?_skipSpace] at h
  simp only [value?, hopen, h, Option.map_some]

/-- What denotes a string is read as the key of a member. -/
theorem Reads.exists_key (h : Reads literal (.string key)) (cs : List Char) :
    ∃ inner after, skipSpace (literal ++ ':' :: cs) = '"' :: inner ∧
      string? inner = some (key, after) ∧ skipSpace after = ':' :: cs := by
  obtain ⟨after, hread, hafter⟩ :=
    h (2 * literal.length + 1) (':' :: cs) (Nat.lt_succ_self _) (avoids_cons (by decide))
  obtain ⟨inner, hinner, hkey⟩ := value?_string_iff.mp hread
  exact ⟨inner, after, hinner, hkey, hafter⟩

theorem members?_last (hkey : Reads literal (.string key)) (h : value? fuel cs = some (v, after))
    (hafter : skipSpace after = '}' :: rest) :
    members? (fuel + 1) (literal ++ ':' :: cs) = some ([(key, v)], rest) := by
  obtain ⟨inner, found, hinner, hstring, hfound⟩ := hkey.exists_key cs
  simp [members?, hinner, hstring, hfound, h, hafter]

theorem members?_cons {members : List (Option (List Char) × Value)} {rest' : List Char}
    (hkey : Reads literal (.string key)) (h : value? fuel cs = some (v, after))
    (hafter : skipSpace after = ',' :: rest) (hrest : members? fuel rest = some (members, rest')) :
    members? (fuel + 1) (literal ++ ':' :: cs) = some ((key, v) :: members, rest') := by
  obtain ⟨inner, found, hinner, hstring, hfound⟩ := hkey.exists_key cs
  simp [members?, hinner, hstring, hfound, h, hafter, hrest]

theorem value?_of_members? {members : List (Option (List Char) × Value)}
    (h : members? fuel cs = some (members, rest)) :
    value? (fuel + 1) ('{' :: cs) = some (.object members, rest) := by
  have hopen : skipSpace ('{' :: cs) = '{' :: cs := rfl
  have hmember (after : List Char) : skipSpace cs ≠ '}' :: after := by
    intro hend
    cases fuel with
    | zero => cases h
    | succ fuel =>
      rw [members?, hend] at h
      cases h
  rw [← members?_skipSpace] at h
  simp only [value?, hopen, h, Option.map_some]

/-- Items that are read, with commas between them, are read up to the closing bracket. -/
theorem items?_intercalate {items : List (List Char × Value)} (hne : items ≠ [])
    (h : ∀ i ∈ items, Reads i.1 i.2) (rest : List Char)
    (hfuel : 2 * (List.intercalate [','] (items.map Prod.fst)).length + 1 < fuel) :
    items? fuel (List.intercalate [','] (items.map Prod.fst) ++ ']' :: rest) =
      some (items.map Prod.snd, rest) := by
  induction items generalizing fuel with
  | nil => exact absurd rfl hne
  | cons i items ih =>
    obtain ⟨fuel, rfl⟩ : ∃ n, fuel = n + 1 := ⟨fuel - 1, by omega⟩
    have hfirst := h i List.mem_cons_self fuel
    cases items with
    | nil =>
      simp only [List.map_cons, List.map_nil, List.intercalate_singleton] at hfuel ⊢
      obtain ⟨after, hread, hafter⟩ :=
        hfirst (']' :: rest) (by omega) (avoids_cons (by decide))
      exact items?_last hread hafter
    | cons j items =>
      simp only [List.map_cons, List.intercalate_cons_cons, List.length_append, List.length_cons,
        List.append_assoc, List.cons_append, List.nil_append] at hfuel ih ⊢
      obtain ⟨after, hread, hafter⟩ := hfirst (',' :: _) (by omega) (avoids_cons (by decide))
      exact items?_cons hread hafter
        (ih (List.cons_ne_nil _ _) (fun k hk => h k (List.mem_cons_of_mem _ hk)) (by omega))

/-- Members that are read, with commas between them, are read up to the closing brace. -/
theorem members?_intercalate {members : List MemberText} (hne : members ≠ [])
    (hkey : ∀ m ∈ members, Reads m.literal (.string m.key))
    (h : ∀ m ∈ members, Reads m.text m.value) (rest : List Char)
    (hfuel : 2 * (List.intercalate [','] (members.map MemberText.written)).length + 1 < fuel) :
    members? fuel (List.intercalate [','] (members.map MemberText.written) ++ '}' :: rest) =
      some (members.map MemberText.member, rest) := by
  induction members generalizing fuel with
  | nil => exact absurd rfl hne
  | cons m members ih =>
    obtain ⟨fuel, rfl⟩ : ∃ n, fuel = n + 1 := ⟨fuel - 1, by omega⟩
    have hfirst := h m List.mem_cons_self fuel
    have hfirstKey := hkey m List.mem_cons_self
    cases members with
    | nil =>
      simp only [List.map_cons, List.map_nil, List.intercalate_singleton, MemberText.written,
        List.length_append, List.length_cons, List.append_assoc, List.cons_append] at hfuel ⊢
      obtain ⟨after, hread, hafter⟩ :=
        hfirst ('}' :: rest) (by omega) (avoids_cons (by decide))
      exact members?_last hfirstKey hread hafter
    | cons n members =>
      simp only [List.map_cons, List.intercalate_cons_cons, MemberText.written,
        List.length_append, List.length_cons, List.append_assoc, List.cons_append,
        List.nil_append] at hfuel ih ⊢
      obtain ⟨after, hread, hafter⟩ := hfirst (',' :: _) (by omega) (avoids_cons (by decide))
      exact members?_cons hfirstKey hread hafter
        (ih (List.cons_ne_nil _ _) (fun k hk => hkey k (List.mem_cons_of_mem _ hk))
          (fun k hk => h k (List.mem_cons_of_mem _ hk)) (by omega))

end Reading

variable {cs : List Char} {v : Value}

theorem Denotes.reads (h : Denotes cs v) : Reads cs v := by
  induction h with
  | null | yes | no =>
    intro fuel rest hfuel _
    obtain ⟨fuel, rfl⟩ : ∃ n, fuel = n + 1 := ⟨fuel - 1, by omega⟩
    exact ⟨rest, rfl, rfl⟩
  | @number cs hnumber =>
    intro fuel rest hfuel hrest
    obtain ⟨fuel, rfl⟩ : ∃ n, fuel = n + 1 := ⟨fuel - 1, by omega⟩
    have hread := number?_append hnumber hrest
    obtain ⟨c, tail, rfl, hc⟩ := hnumber.exists_head
    refine ⟨rest, ?_, rfl⟩
    rw [List.cons_append] at hread ⊢
    rw [value?_number hc, hread, Option.map_some]
  | @string body ps hbody =>
    intro fuel rest hfuel _
    obtain ⟨fuel, rfl⟩ : ∃ n, fuel = n + 1 := ⟨fuel - 1, by omega⟩
    refine ⟨rest, value?_string_iff.mpr ⟨body ++ '"' :: rest, ?_, ?_⟩, rfl⟩
    · simp [skipSpace, isSpace]
    · rw [string?, hbody.pieces?_append, Option.map_some]
  | @noItems gap hgap =>
    intro fuel rest hfuel _
    obtain ⟨fuel, rfl⟩ : ∃ n, fuel = n + 1 := ⟨fuel - 1, by omega⟩
    have hopen : skipSpace ('[' :: (gap ++ ']' :: rest)) = '[' :: (gap ++ ']' :: rest) := rfl
    have hclose : skipSpace (gap ++ ']' :: rest) = ']' :: rest := skipSpace_gap hgap _
    refine ⟨rest, ?_, rfl⟩
    simp [value?, hopen, hclose]
  | @noMembers gap hgap =>
    intro fuel rest hfuel _
    obtain ⟨fuel, rfl⟩ : ∃ n, fuel = n + 1 := ⟨fuel - 1, by omega⟩
    have hopen : skipSpace ('{' :: (gap ++ '}' :: rest)) = '{' :: (gap ++ '}' :: rest) := rfl
    have hclose : skipSpace (gap ++ '}' :: rest) = '}' :: rest := skipSpace_gap hgap _
    refine ⟨rest, ?_, rfl⟩
    simp [value?, hopen, hclose]
  | @items items hne _ ih =>
    intro fuel rest hfuel _
    obtain ⟨fuel, rfl⟩ : ∃ n, fuel = n + 1 := ⟨fuel - 1, by omega⟩
    simp only [List.length_cons, List.length_append, List.length_nil] at hfuel
    refine ⟨rest, ?_, rfl⟩
    rw [List.cons_append, List.append_assoc, List.singleton_append]
    exact value?_of_items? (items?_intercalate hne ih rest (by omega))
  | @members members hne _ _ ihkey ih =>
    intro fuel rest hfuel _
    obtain ⟨fuel, rfl⟩ : ∃ n, fuel = n + 1 := ⟨fuel - 1, by omega⟩
    simp only [List.length_cons, List.length_append, List.length_nil] at hfuel
    refine ⟨rest, ?_, rfl⟩
    rw [List.cons_append, List.append_assoc, List.singleton_append]
    exact value?_of_members? (members?_intercalate hne ihkey ih rest (by omega))
  | @spaced before cs after v hbefore _ hafter ih =>
    intro fuel rest hfuel hrest
    simp only [List.length_append] at hfuel
    obtain ⟨left, hread, hleft⟩ := ih fuel (after ++ rest) (by omega) (avoids_gap hafter hrest)
    refine ⟨left, ?_, hleft.trans (skipSpace_gap hafter rest)⟩
    rw [List.append_assoc, List.append_assoc, ← value?_skipSpace, skipSpace_gap hbefore,
      value?_skipSpace, hread]

theorem Denotes.ofText? (h : Denotes cs v) : Value.ofText? cs = some v := by
  obtain ⟨after, hread, hafter⟩ := h.reads (2 * cs.length + 2) [] (by omega) nofun
  rw [List.append_nil] at hread
  have hend : skipSpace after = [] := hafter
  simp only [Value.ofText?, hread, hend, if_true]

section Sound

variable {cs rest : List Char} {v : Value}

theorem exists_gap (cs : List Char) : ∃ gap, IsGap gap ∧ cs = gap ++ skipSpace cs :=
  ⟨cs.takeWhile isSpace, fun _ hc => List.mem_takeWhile_imp hc,
    List.takeWhile_append_dropWhile.symm⟩

theorem Denotes.after_gap {gap : List Char} (h : Denotes cs v) (hgap : IsGap gap) :
    Denotes (gap ++ cs) v := by
  simpa using Denotes.spaced hgap h (show IsGap [] from nofun)

theorem Denotes.before_gap {gap : List Char} (h : Denotes cs v) (hgap : IsGap gap) :
    Denotes (cs ++ gap) v := by
  simpa using Denotes.spaced (show IsGap [] from nofun) h hgap

/-- What is read as a value starts with a text that denotes it. -/
def SoundValue (fuel : Nat) : Prop :=
  ∀ cs v rest, value? fuel cs = some (v, rest) → ∃ text, cs = text ++ rest ∧ Denotes text v

def SoundItems (fuel : Nat) : Prop :=
  ∀ cs values rest, items? fuel cs = some (values, rest) →
    ∃ items : List (List Char × Value), items ≠ [] ∧ (∀ i ∈ items, Denotes i.1 i.2) ∧
      cs = List.intercalate [','] (items.map Prod.fst) ++ ']' :: rest ∧
      values = items.map Prod.snd

def SoundMembers (fuel : Nat) : Prop :=
  ∀ cs found rest, members? fuel cs = some (found, rest) →
    ∃ members : List MemberText, members ≠ [] ∧
      (∀ m ∈ members, Denotes m.literal (.string m.key)) ∧
      (∀ m ∈ members, Denotes m.text m.value) ∧
      cs = List.intercalate [','] (members.map MemberText.written) ++ '}' :: rest ∧
      found = members.map MemberText.member

theorem denotes_of_string? {key : Option (List Char)} (h : string? cs = some (key, rest)) :
    ∃ text, '"' :: cs = text ++ rest ∧ Denotes text (.string key) := by
  obtain ⟨⟨ps, after⟩, hread, heq⟩ := Option.map_eq_some_iff.mp h
  obtain ⟨rfl, rfl⟩ := Prod.mk.inj heq
  obtain ⟨body, rfl, hbody⟩ := exists_piecesSpelling hread
  exact ⟨_, by simp, .string hbody⟩

theorem soundItems_succ {fuel : Nat} (hvalue : SoundValue fuel) (hitems : SoundItems fuel) :
    SoundItems (fuel + 1) := by
  intro cs values rest h
  rw [items?] at h
  obtain ⟨⟨v, after⟩, hread, hnext⟩ := Option.bind_eq_some_iff.mp h
  obtain ⟨text, hcs, htext⟩ := hvalue _ _ _ hread
  obtain ⟨gap, hgap, hafter⟩ := exists_gap after
  have hfirst := htext.before_gap hgap
  rw [hcs, hafter]
  dsimp only at hnext
  split at hnext
  next hend =>
    obtain ⟨rfl, rfl⟩ := Prod.mk.inj (Option.some.inj hnext)
    exact ⟨[(text ++ gap, v)], List.cons_ne_nil _ _, by simpa using hfirst, by simp [hend], rfl⟩
  next hcomma =>
    obtain ⟨⟨values, _⟩, hrest, heq⟩ := Option.map_eq_some_iff.mp hnext
    obtain ⟨rfl, rfl⟩ := Prod.mk.inj heq
    obtain ⟨items, hne, hall, rfl, rfl⟩ := hitems _ _ _ hrest
    obtain ⟨item, items, rfl⟩ := List.exists_cons_of_ne_nil hne
    exact ⟨(text ++ gap, v) :: item :: items, List.cons_ne_nil _ _,
      List.forall_mem_cons.mpr ⟨hfirst, hall⟩, by simp [hcomma], rfl⟩
  next => cases hnext

theorem soundMembers_succ {fuel : Nat} (hvalue : SoundValue fuel) (hmembers : SoundMembers fuel) :
    SoundMembers (fuel + 1) := by
  intro cs found rest h
  rw [members?] at h
  obtain ⟨start, hstart, hcs⟩ := exists_gap cs
  rw [hcs]
  split at h
  next hquote =>
    obtain ⟨⟨key, afterKey⟩, hkey, hnext⟩ := Option.bind_eq_some_iff.mp h
    obtain ⟨literal, hliteral, hdenotes⟩ := denotes_of_string? hkey
    obtain ⟨colon, hcolon, hafterKey⟩ := exists_gap afterKey
    have hlit : Denotes (start ++ (literal ++ colon)) (.string key) :=
      .spaced hstart hdenotes hcolon
    rw [hquote, hliteral, hafterKey]
    dsimp only at hnext
    split at hnext
    next hmark =>
      obtain ⟨⟨v, after⟩, hread, hend⟩ := Option.bind_eq_some_iff.mp hnext
      obtain ⟨text, htextRest, htext⟩ := hvalue _ _ _ hread
      obtain ⟨gap, hgap, hafter⟩ := exists_gap after
      have hfirst := htext.before_gap hgap
      let first : MemberText := ⟨start ++ (literal ++ colon), key, text ++ gap, v⟩
      rw [hmark, htextRest, hafter]
      dsimp only at hend
      split at hend
      next hbrace =>
        obtain ⟨rfl, rfl⟩ := Prod.mk.inj (Option.some.inj hend)
        exact ⟨[first], List.cons_ne_nil _ _, by simpa [first] using hlit,
          by simpa [first] using hfirst, by simp [hbrace, first, MemberText.written], rfl⟩
      next hcomma =>
        obtain ⟨⟨found, _⟩, hrest, heq⟩ := Option.map_eq_some_iff.mp hend
        obtain ⟨rfl, rfl⟩ := Prod.mk.inj heq
        obtain ⟨members, hne, hkeys, hall, rfl, rfl⟩ := hmembers _ _ _ hrest
        obtain ⟨m, members, rfl⟩ := List.exists_cons_of_ne_nil hne
        exact ⟨first :: m :: members, List.cons_ne_nil _ _, List.forall_mem_cons.mpr ⟨hlit, hkeys⟩,
          List.forall_mem_cons.mpr ⟨hfirst, hall⟩, by simp [hcomma, first, MemberText.written], rfl⟩
      next => cases hend
    next => cases hnext
  next => cases h

theorem soundValue_succ {fuel : Nat} (hitems : SoundItems fuel) (hmembers : SoundMembers fuel) :
    SoundValue (fuel + 1) := by
  intro cs v rest h
  rw [value?] at h
  obtain ⟨start, hstart, hcs⟩ := exists_gap cs
  suffices hbare : ∃ text, skipSpace cs = text ++ rest ∧ Denotes text v by
    obtain ⟨text, htext, hdenotes⟩ := hbare
    exact ⟨start ++ text, by rw [List.append_assoc, ← htext, ← hcs], hdenotes.after_gap hstart⟩
  split at h
  next hquote =>
    obtain ⟨⟨key, _⟩, hkey, heq⟩ := Option.map_eq_some_iff.mp h
    obtain ⟨rfl, rfl⟩ := Prod.mk.inj heq
    rw [hquote]
    exact denotes_of_string? hkey
  next inner hopen =>
    rw [hopen]
    split at h
    next hclose =>
      obtain ⟨rfl, rfl⟩ := Prod.mk.inj (Option.some.inj h)
      obtain ⟨gap, hgap, hinner⟩ := exists_gap inner
      rw [hinner, hclose]
      exact ⟨_, by simp, .noItems hgap⟩
    next =>
      obtain ⟨⟨values, _⟩, hread, heq⟩ := Option.map_eq_some_iff.mp h
      obtain ⟨rfl, rfl⟩ := Prod.mk.inj heq
      rw [items?_skipSpace] at hread
      obtain ⟨items, hne, hall, hitem, rfl⟩ := hitems _ _ _ hread
      exact ⟨_, by simp [hitem], .items hne hall⟩
  next inner hopen =>
    rw [hopen]
    split at h
    next hclose =>
      obtain ⟨rfl, rfl⟩ := Prod.mk.inj (Option.some.inj h)
      obtain ⟨gap, hgap, hinner⟩ := exists_gap inner
      rw [hinner, hclose]
      exact ⟨_, by simp, .noMembers hgap⟩
    next =>
      obtain ⟨⟨found, _⟩, hread, heq⟩ := Option.map_eq_some_iff.mp h
      obtain ⟨rfl, rfl⟩ := Prod.mk.inj heq
      rw [members?_skipSpace] at hread
      obtain ⟨members, hne, hkeys, hall, hmember, rfl⟩ := hmembers _ _ _ hread
      exact ⟨_, by simp [hmember], .members hne hkeys hall⟩
  next hyes =>
    obtain ⟨rfl, rfl⟩ := Prod.mk.inj (Option.some.inj h)
    exact ⟨_, hyes, .yes⟩
  next hno =>
    obtain ⟨rfl, rfl⟩ := Prod.mk.inj (Option.some.inj h)
    exact ⟨_, hno, .no⟩
  next hnull =>
    obtain ⟨rfl, rfl⟩ := Prod.mk.inj (Option.some.inj h)
    exact ⟨_, hnull, .null⟩
  next =>
    obtain ⟨⟨text, _⟩, hread, heq⟩ := Option.map_eq_some_iff.mp h
    obtain ⟨rfl, rfl⟩ := Prod.mk.inj heq
    obtain ⟨hnumber, hbegin⟩ := number?_sound hread
    exact ⟨text, hbegin, .number hnumber⟩

theorem reader_sound (fuel : Nat) : SoundValue fuel ∧ SoundItems fuel ∧ SoundMembers fuel := by
  induction fuel with
  | zero => exact ⟨nofun, nofun, nofun⟩
  | succ fuel ih =>
    obtain ⟨hvalue, hitems, hmembers⟩ := ih
    exact ⟨soundValue_succ hitems hmembers, soundItems_succ hvalue hitems,
      soundMembers_succ hvalue hmembers⟩

/-- The reader accepts the texts that denote a value, and reads them as this value. -/
theorem ofText?_eq_some_iff_denotes : Value.ofText? cs = some v ↔ Denotes cs v := by
  constructor
  · intro h
    obtain ⟨after, hread, hafter⟩ := ofText?_eq_some_iff.mp h
    obtain ⟨text, rfl, hdenotes⟩ := (reader_sound _).1 _ _ _ hread
    exact hdenotes.before_gap hafter
  · exact Denotes.ofText?

end Sound

end PackageIndex.Json
