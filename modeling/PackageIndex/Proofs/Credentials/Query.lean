import Mathlib.Data.List.Forall2
import Mathlib.Data.List.Permutation
import PackageIndex.Proofs.Credentials.Value
import PackageIndex.Proofs.Text.Blank
/-!
Credentials are read from just the texts of their form: pairs of a key and a value between marks,
of which the last ones count. Whichever encodings of the values and whichever order of the pairs
the writer chose, the values are found again.
-/
namespace PackageIndex.Credentials

open PackageIndex.Text

/-- The keys of the two values. -/
def keys : List String := ["client_id", "client_secret"]

/-- A piece of a query gives a key its value. -/
inductive IsPair : List Char → String × String → Prop
  | intro {key value : String} {cs : List Char} :
      key ∈ keys → Decodes cs (bytes value) → IsPair (key.toList ++ '=' :: cs) (key, value)

/-- The value that a key has last. -/
def IsLast (key : String) (pairs : List (String × String)) (value : String) : Prop :=
  ∃ before after, pairs = before ++ (key, value) :: after ∧ ∀ pair ∈ after, pair.1 ≠ key

/-- A text is a query of credentials: between its marks stand pairs and nothing else, and the last
pairs of both keys have the values, of which the identifier is not empty. -/
def IsQuery (text : String) (c : Credentials) : Prop :=
  ∃ body pairs, TrimsTo text.toList body ∧
    List.Forall₂ IsPair ((body.splitOn '&').filter (· ≠ [])) pairs ∧
    IsLast "client_id" pairs c.clientId ∧ IsLast "client_secret" pairs c.clientSecret ∧
    c.clientId ≠ ""

section Pairs

variable {piece : List Char} {pieces : List (List Char)} {pair : String × String}
  {pairs : List (String × String)} {p q : Partial}

theorem keyValue?_eq_some_iff {cs key rest : List Char} :
    keyValue? cs = some (key, rest) ↔ cs = key ++ '=' :: rest ∧ '=' ∉ key := by
  induction cs using keyValue?.induct generalizing key with
  | case1 => simp [keyValue?]
  | case2 after => cases key <;> simp +contextual [keyValue?, eq_comm]
  | case3 c cs hc ih =>
    rw [keyValue?]
    · constructor
      · intro h
        obtain ⟨⟨key', rest'⟩, hread, heq⟩ := Option.map_eq_some_iff.mp h
        obtain ⟨rfl, rfl⟩ := Prod.mk.inj heq
        obtain ⟨rfl, hkey⟩ := ih.mp hread
        exact ⟨rfl, List.not_mem_cons_of_ne_of_not_mem (Ne.symm hc) hkey⟩
      · rintro ⟨h, hkey⟩
        cases key with
        | nil => exact absurd (List.cons.inj h).1 hc
        | cons k key =>
          obtain ⟨rfl, rfl⟩ := List.cons.inj h
          rw [ih.mpr ⟨rfl, List.not_mem_of_not_mem_cons hkey⟩]
          rfl
    · exact hc

/-- The values with the one that a pair gives to its key. -/
def Partial.entered (p : Partial) (pair : String × String) : Partial :=
  if pair.1 = "client_id" then { p with clientId := some pair.2 }
  else if pair.1 = "client_secret" then { p with clientSecret := some pair.2 }
  else p

theorem readPair_of_key {key : List Char} (hkey : '=' ∉ key) (cs : List Char) :
    readPair p (key ++ '=' :: cs) = (value (String.ofList key) cs).bind fun text =>
      if String.ofList key ∈ keys then .ok (p.entered (String.ofList key, text))
      else .error (.unknownKey (String.ofList key)) := by
  rw [readPair, keyValue?_eq_some_iff.mpr ⟨rfl, hkey⟩]
  dsimp only
  cases value (String.ofList key) cs with
  | error e => rfl
  | ok text =>
    simp only [keys, List.mem_cons, List.not_mem_nil, or_false, Partial.entered, bind, Except.bind]
    grind

/-- A piece is read just when it is a pair, whose value is entered then. -/
theorem readPair_eq_ok_iff :
    readPair p piece = .ok q ↔ ∃ pair, IsPair piece pair ∧ q = p.entered pair := by
  constructor
  · intro h
    cases hread : keyValue? piece with
    | none =>
      rw [readPair, hread] at h
      cases h
    | some parts =>
      obtain ⟨rfl, hkey⟩ := keyValue?_eq_some_iff.mp hread
      rw [readPair_of_key hkey] at h
      cases hvalue : value (String.ofList parts.1) parts.2 with
      | error e =>
        rw [hvalue] at h
        cases h
      | ok text =>
        rw [hvalue, Except.bind] at h
        split at h
        next hmem =>
          have hpair := IsPair.intro hmem (value_eq_ok_iff.mp hvalue)
          rw [String.toList_ofList] at hpair
          exact ⟨_, hpair, (Except.ok.inj h).symm⟩
        · cases h
  · rintro ⟨-, @⟨key, text, cs, hmem, hdecodes⟩, rfl⟩
    have hkey : ∀ key ∈ keys, '=' ∉ key.toList := by decide
    rw [readPair_of_key (hkey key hmem), String.ofList_toList, value_eq_ok_iff.mpr hdecodes,
      Except.bind, if_pos hmem]

theorem foldlM_readPair_eq_ok_iff : pieces.foldlM readPair p = .ok q ↔
    ∃ pairs, List.Forall₂ IsPair pieces pairs ∧ q = pairs.foldl Partial.entered p := by
  induction pieces generalizing p with
  | nil => simp [pure, Except.pure, eq_comm]
  | cons piece pieces ih =>
    rw [List.foldlM_cons]
    constructor
    · intro h
      cases hread : readPair p piece with
      | error e =>
        rw [hread] at h
        cases h
      | ok p' =>
        rw [hread] at h
        obtain ⟨pair, hpair, rfl⟩ := readPair_eq_ok_iff.mp hread
        obtain ⟨pairs, hpairs, rfl⟩ := ih.mp h
        exact ⟨pair :: pairs, .cons hpair hpairs, rfl⟩
    · rintro ⟨pairs, hpairs, rfl⟩
      cases hpairs with
      | cons hpair hpairs =>
        rw [readPair_eq_ok_iff.mpr ⟨_, hpair, rfl⟩]
        exact ih.mpr ⟨_, hpairs, rfl⟩

theorem isLast_cons_iff {key value : String} : IsLast key (pair :: pairs) value ↔
    IsLast key pairs value ∨ pair = (key, value) ∧ ∀ other ∈ pairs, other.1 ≠ key := by
  constructor
  · rintro ⟨before, after, heq, hafter⟩
    cases before with
    | nil =>
      obtain ⟨rfl, rfl⟩ := List.cons.inj heq
      exact .inr ⟨rfl, hafter⟩
    | cons first before =>
      obtain ⟨rfl, rfl⟩ := List.cons.inj heq
      exact .inl ⟨before, after, rfl, hafter⟩
  · rintro (⟨before, after, rfl, hafter⟩ | ⟨rfl, hafter⟩)
    · exact ⟨pair :: before, after, rfl, hafter⟩
    · exact ⟨[], pairs, rfl, hafter⟩

/-- Of a key the last value is left, or the one from before where no pair has the key. -/
theorem foldl_entered_eq_some_iff {get : Partial → Option String} {key value : String}
    (hget : ∀ p pair, get (p.entered pair) = if pair.1 = key then some pair.2 else get p) :
    get (pairs.foldl Partial.entered p) = some value ↔
      IsLast key pairs value ∨ get p = some value ∧ ∀ pair ∈ pairs, pair.1 ≠ key := by
  induction pairs generalizing p with
  | nil => simp [IsLast]
  | cons pair pairs ih =>
    rw [List.foldl_cons, ih, hget, isLast_cons_iff, List.forall_mem_cons]
    by_cases hkey : pair.1 = key
    · subst hkey
      simp [Prod.ext_iff]
    · have hpair : pair ≠ (key, value) := by
        rintro rfl
        exact hkey rfl
      simp [hkey, hpair]

theorem clientId_foldl_entered {value : String} :
    (pairs.foldl Partial.entered {}).clientId = some value ↔ IsLast "client_id" pairs value := by
  have hget (p : Partial) (pair : String × String) : (p.entered pair).clientId =
      if pair.1 = "client_id" then some pair.2 else p.clientId := by
    grind [Partial.entered]
  simp [foldl_entered_eq_some_iff hget]

theorem clientSecret_foldl_entered {value : String} :
    (pairs.foldl Partial.entered {}).clientSecret = some value ↔
      IsLast "client_secret" pairs value := by
  have hget (p : Partial) (pair : String × String) : (p.entered pair).clientSecret =
      if pair.1 = "client_secret" then some pair.2 else p.clientSecret := by
    grind [Partial.entered]
  simp [foldl_entered_eq_some_iff hget]

theorem Partial.credentials?_eq_some_iff {c : Credentials} : p.credentials? = some c ↔
    p.clientId = some c.clientId ∧ p.clientSecret = some c.clientSecret ∧ c.clientId ≠ "" := by
  obtain ⟨id?, secret?⟩ := p
  obtain ⟨id, secret⟩ := c
  cases id? <;> cases secret? <;> grind [Partial.credentials?]

/-- What the pieces of a query leave. -/
theorem exists_partial_iff {c : Credentials} :
    (∃ p, pieces.foldlM readPair {} = .ok p ∧ p.credentials? = some c) ↔
      ∃ pairs, List.Forall₂ IsPair pieces pairs ∧ IsLast "client_id" pairs c.clientId ∧
        IsLast "client_secret" pairs c.clientSecret ∧ c.clientId ≠ "" := by
  simp only [foldlM_readPair_eq_ok_iff, Partial.credentials?_eq_some_iff]
  constructor
  · rintro ⟨-, ⟨pairs, hpairs, rfl⟩, hid, hsecret, hne⟩
    exact ⟨pairs, hpairs, clientId_foldl_entered.mp hid, clientSecret_foldl_entered.mp hsecret, hne⟩
  · rintro ⟨pairs, hpairs, hid, hsecret, hne⟩
    exact ⟨_, ⟨pairs, hpairs, rfl⟩, clientId_foldl_entered.mpr hid,
      clientSecret_foldl_entered.mpr hsecret, hne⟩

end Pairs

section Texts

variable {text : String} {c : Credentials}

theorem parse_of_blank (h : ∀ c ∈ text.toList, isBlank c) : parse text = .ok none := by
  simp only [parse, trim_eq_nil_iff.mpr h, if_true]

/-- A text that is not blank has to be a query. -/
theorem parse_of_not_blank (h : trim text.toList ≠ []) : parse text =
    ((((trim text.toList).splitOn '&').filter (· ≠ [])).foldlM readPair {}).bind fun p =>
      match p.credentials? with
      | some c => .ok (some c)
      | none => .error .incomplete := by
  rw [parse, if_neg h, splitAt_eq_splitOn]
  rfl

theorem parse_eq_ok_none_iff : parse text = .ok none ↔ ∀ c ∈ text.toList, isBlank c := by
  refine ⟨fun h => trim_eq_nil_iff.mp (Classical.byContradiction fun hne => ?_), parse_of_blank⟩
  rw [parse_of_not_blank hne] at h
  cases hread : (((trim text.toList).splitOn '&').filter (· ≠ [])).foldlM readPair {} with
  | error e =>
    rw [hread] at h
    cases h
  | ok p =>
    rw [hread, Except.bind] at h
    split at h <;> cases h

theorem parse_eq_ok_some_iff_of_not_blank (h : trim text.toList ≠ []) :
    parse text = .ok (some c) ↔
      ∃ p, (((trim text.toList).splitOn '&').filter (· ≠ [])).foldlM readPair {} = .ok p ∧
        p.credentials? = some c := by
  rw [parse_of_not_blank h]
  cases (((trim text.toList).splitOn '&').filter (· ≠ [])).foldlM readPair {} with
  | error e => simp [Except.bind]
  | ok p => cases hp : p.credentials? <;> simp [Except.bind, hp]

theorem isQuery_iff : IsQuery text c ↔ ∃ pairs,
    List.Forall₂ IsPair (((trim text.toList).splitOn '&').filter (· ≠ [])) pairs ∧
      IsLast "client_id" pairs c.clientId ∧ IsLast "client_secret" pairs c.clientSecret ∧
      c.clientId ≠ "" := by
  constructor
  · rintro ⟨body, pairs, hbody, h⟩
    obtain rfl := trimsTo_iff.mp hbody
    exact ⟨pairs, h⟩
  · rintro ⟨pairs, h⟩
    exact ⟨_, pairs, trimsTo_trim _, h⟩

/-- No query is blank, for it has pairs. -/
theorem IsQuery.not_blank (h : IsQuery text c) : trim text.toList ≠ [] := by
  intro hblank
  obtain ⟨pairs, hpairs, ⟨before, after, rfl, -⟩, -⟩ := isQuery_iff.mp h
  rw [hblank] at hpairs
  simp at hpairs

theorem parse_eq_ok_some_iff : parse text = .ok (some c) ↔ IsQuery text c := by
  constructor
  · intro h
    have hne : trim text.toList ≠ [] := by
      intro hblank
      rw [parse_of_blank (trim_eq_nil_iff.mp hblank)] at h
      cases h
    rw [isQuery_iff, ← exists_partial_iff]
    exact (parse_eq_ok_some_iff_of_not_blank hne).mp h
  · intro h
    rw [parse_eq_ok_some_iff_of_not_blank h.not_blank, exists_partial_iff]
    exact isQuery_iff.mp h

end Texts

section Encodings

/-- The piece that gives a key an encoded value. -/
def pairText (key : String) (encoded : List Char) : List Char := key.toList ++ '=' :: encoded

variable {key value id secret : String} {encoded encodedId encodedSecret : List Char}

theorem isPair_pairText (hkey : key ∈ keys) (h : Encoding encoded value.toList) :
    IsPair (pairText key encoded) (key, value) := by
  have hdecodes := h.decodes
  rw [← bytes_eq_flatMap] at hdecodes
  exact .intro hkey hdecodes

theorem isInner_pairText {s : List Char} (hkey : key ∈ keys) (h : Encoding encoded s) :
    ∀ c ∈ pairText key encoded, IsInner c := by
  have hname : ∀ key ∈ keys, key.toList.all IsInner = true := by decide
  rw [pairText, List.forall_mem_append, List.forall_mem_cons]
  exact ⟨fun c hc => of_decide_eq_true (List.all_eq_true.mp (hname key hkey) c hc), by decide,
    h.isInner⟩

/-- Both pairs, in whichever order and encoding and with whatever empty pieces and blanks, are a
query of the values. -/
theorem isQuery_of_encodings {lead tail : List Char} {pieces : List (List Char)} (hne : id ≠ "")
    (hid : Encoding encodedId id.toList) (hsecret : Encoding encodedSecret secret.toList)
    (hlead : ∀ c ∈ lead, isBlank c) (htail : ∀ c ∈ tail, isBlank c)
    (hpieces : (pieces.filter (· ≠ [])).Perm
      [pairText "client_id" encodedId, pairText "client_secret" encodedSecret]) :
    IsQuery (String.ofList (lead ++ List.intercalate ['&'] pieces ++ tail)) ⟨id, secret⟩ := by
  have hinner : ∀ piece ∈ pieces, ∀ c ∈ piece, IsInner c := by
    intro piece hpiece c hc
    have hmem := hpieces.mem_iff.mp (List.mem_filter.mpr ⟨hpiece, by simp [List.ne_nil_of_mem hc]⟩)
    simp only [List.mem_cons, List.not_mem_nil, or_false] at hmem
    rcases hmem with rfl | rfl
    · exact isInner_pairText (by decide) hid c hc
    · exact isInner_pairText (by decide) hsecret c hc
  have hbody : ∀ c ∈ List.intercalate ['&'] pieces, ¬ isBlank c := by
    intro c hc
    rcases mem_intercalate hc with rfl | ⟨piece, hpiece, hc⟩
    · decide
    · exact (hinner piece hpiece c hc).2
  have hsplit : (List.intercalate ['&'] pieces).splitOn '&' = pieces := by
    refine List.splitOn_intercalate _ (fun piece hpiece hmark => ?_) ?_
    · exact (hinner piece hpiece '&' hmark).1 rfl
    · rintro rfl
      cases hpieces.length_eq
  have htrims := trimsTo_of_forall hlead htail hbody
  rw [← String.toList_ofList (l := lead ++ List.intercalate ['&'] pieces ++ tail)] at htrims
  have hidPair : IsPair _ ("client_id", id) := isPair_pairText (by decide) hid
  have hsecretPair : IsPair _ ("client_secret", secret) := isPair_pairText (by decide) hsecret
  rcases List.perm_pair.mp hpieces with heq | heq
  · refine ⟨_, [("client_id", id), ("client_secret", secret)], htrims, ?_, ⟨[], _, rfl, by simp⟩,
      ⟨[_], [], rfl, by simp⟩, hne⟩
    rw [hsplit, heq]
    exact .cons hidPair (.cons hsecretPair .nil)
  · refine ⟨_, [("client_secret", secret), ("client_id", id)], htrims, ?_, ⟨[_], [], rfl, by simp⟩,
      ⟨[], _, rfl, by simp⟩, hne⟩
    rw [hsplit, heq]
    exact .cons hsecretPair (.cons hidPair .nil)

end Encodings

/-- A blank text has no credentials; any other one is read just when it is a query of them, and as
those that it is a query of. However the values of a query are encoded, and in whichever order its
pairs stand between empty pieces and blanks, it is read as these values. -/
theorem parse_reads_queries (text : String) :
    (parse text = .ok none ↔ ∀ c ∈ text.toList, isBlank c) ∧
    (∀ c, parse text = .ok (some c) ↔ IsQuery text c) ∧
    ∀ (id secret : String) (encodedId encodedSecret lead tail : List Char)
      (pieces : List (List Char)), id ≠ "" →
      Encoding encodedId id.toList → Encoding encodedSecret secret.toList →
      (∀ c ∈ lead, isBlank c) → (∀ c ∈ tail, isBlank c) →
      (pieces.filter (· ≠ [])).Perm
        [pairText "client_id" encodedId, pairText "client_secret" encodedSecret] →
      text.toList = lead ++ List.intercalate ['&'] pieces ++ tail →
      parse text = .ok (some ⟨id, secret⟩) := by
  refine ⟨parse_eq_ok_none_iff, fun c => parse_eq_ok_some_iff, ?_⟩
  intro id secret encodedId encodedSecret lead tail pieces hne hid hsecret hlead htail hpieces htext
  rw [parse_eq_ok_some_iff, ← String.ofList_toList (s := text), htext]
  exact isQuery_of_encodings hne hid hsecret hlead htail hpieces

theorem encoded_query_is_read :
    parse " client_secret=%2F&&client_id=%c3%A9+b\n" = .ok (some ⟨"é b", "/"⟩) := by
  have hid : Encoding (['%', 'c', '3', '%', 'A', '9'] ++ (['+'] ++ (['b'] ++ []))) "é b".toList :=
    .cons (.escaped (.cons ⟨rfl, rfl⟩ (.cons ⟨rfl, rfl⟩ .nil)))
      (.cons .plus (.cons (.plain (by decide) (by decide)) .nil))
  have hsecret : Encoding (['%', '2', 'F'] ++ []) "/".toList :=
    .cons (.escaped (.cons ⟨rfl, rfl⟩ .nil)) .nil
  have hlead : ∀ c ∈ [' '], isBlank c := List.forall_mem_singleton.mpr (by decide)
  have htail : ∀ c ∈ ['\n'], isBlank c := List.forall_mem_singleton.mpr (by decide)
  exact (parse_reads_queries _).2.2 "é b" "/" _ _ [' '] ['\n']
    ["client_secret=%2F".toList, [], "client_id=%c3%A9+b".toList] (by decide) hid hsecret hlead
    htail (List.perm_pair.mpr (.inr rfl)) (by decide)

end PackageIndex.Credentials
