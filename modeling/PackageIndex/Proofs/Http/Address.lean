import PackageIndex.Http.Exchange
import PackageIndex.Proofs.Text.Blank
/-!
Addresses of a server that is told by its name alone. Whatever follows the name, the address leads
to that server, and a path of plain characters is sent as it is written.
-/
namespace PackageIndex

namespace Http

/-- Characters that mean nothing in an address but themselves. -/
def plainChars : List Char :=
  "ABCDEFGHIJKLMNOPQRSTUVWXYZabcdefghijklmnopqrstuvwxyz0123456789-_.".toList

/-- A part of an address without marks. -/
def IsPlain (cs : List Char) : Prop := ∀ c ∈ cs, c ∈ plainChars

instance (cs : List Char) : Decidable (IsPlain cs) :=
  decidable_of_iff (cs.all fun c => c ∈ plainChars) (by simp [IsPlain])

theorem IsPlain.forall {p : Char → Bool} {cs : List Char} (h : IsPlain cs)
    (hp : plainChars.all p = true) : ∀ c ∈ cs, p c = true :=
  fun c hc => List.all_eq_true.mp hp c (h c hc)

theorem IsPlain.not_mem {c : Char} {cs : List Char} (h : IsPlain cs) (hc : c ∉ plainChars) :
    c ∉ cs :=
  fun hmem => hc (h c hmem)

namespace Url

section

variable {scheme : Scheme} {server : List Char} {host : Host}

/-- An address of a server. -/
def addressOf (scheme : Scheme) (server rest : List Char) : List Char :=
  scheme.text ++ ':' :: '/' :: '/' :: (server ++ '/' :: rest)

/-- Characters that go from the ends of an address. -/
def isEdge (c : Char) : Bool := isControl c || c = ' '

/-- Characters that stay in an address, wherever they stand. -/
def isKept (c : Char) : Bool := c ≠ '\t' ∧ c ≠ '\n' ∧ c ≠ '\r'

/-- What is left of what follows the name of a server. -/
def cleaned (rest : List Char) : List Char :=
  (rest.reverse.dropWhile isEdge).reverse.filter isKept

/-- What is taken from the end of a text ends where a character stays. -/
theorem trimmedEnd_append {p : Char → Bool} {d : Char} (hd : p d = false) (l cs : List Char) :
    ((l ++ d :: cs).reverse.dropWhile p).reverse = l ++ d :: (cs.reverse.dropWhile p).reverse := by
  have hsplit : (l ++ d :: cs).reverse = cs.reverse ++ (d :: l.reverse) := by simp
  have hstays : (d :: l.reverse).dropWhile p = d :: l.reverse := by simp [hd]
  rw [hsplit, List.dropWhile_append, hstays]
  cases hempty : cs.reverse.dropWhile p with
  | nil => simp
  | cons c rest => simp

theorem cleaned_addressOf (hserver : IsPlain server) (rest : List Char) :
    ((((addressOf scheme server rest).dropWhile isEdge).reverse.dropWhile isEdge).reverse.filter
      isKept) = addressOf scheme server (cleaned rest) := by
  have hstarts : (addressOf scheme server rest).dropWhile isEdge =
      scheme.text ++ ':' :: '/' :: '/' :: server ++ '/' :: rest := by
    cases scheme <;> simp [addressOf, Scheme.text, isEdge, isControl]
  have hscheme : scheme.text.filter isKept = scheme.text := by cases scheme <;> decide
  have hkept : server.filter isKept = server :=
    List.filter_eq_self.mpr (hserver.forall (by decide))
  rw [hstarts, trimmedEnd_append (by decide)]
  simp [addressOf, cleaned, hscheme, hkept, isKept]

theorem afterScheme?_addressOf (rest : List Char) :
    afterScheme? (addressOf scheme server rest) =
      some (scheme, '/' :: '/' :: (server ++ '/' :: rest)) := by
  cases scheme <;> rfl

theorem hostAndPort_of_plain (hserver : IsPlain server) :
    hostAndPort false server = (server, []) := by
  induction server with
  | nil => rfl
  | cons c server ih =>
      have hmarks := hserver.forall (p := fun c => c ≠ ':' ∧ c ≠ '[' ∧ c ≠ ']') (by decide) c
        List.mem_cons_self
      rw [decide_eq_true_eq] at hmarks
      have hrest := ih fun d hd => hserver d (List.mem_cons_of_mem _ hd)
      simp [hostAndPort, hmarks, hrest]

/-- Whatever follows the name of a server, the address leads to it. -/
theorem parse?_addressOf (hserver : IsPlain server) (hnamed : server ≠ [])
    (hhost : Host.parse? server = some host) (rest : List Char) :
    parse? (addressOf scheme server rest) =
      some { scheme, host, port := none
             target := targetOf ('/' :: cleaned rest)
             fragment := fragmentOf ('/' :: cleaned rest) } := by
  have hclean : ((((addressOf scheme server rest).dropWhile fun c =>
      isControl c || c = ' ').reverse.dropWhile fun c => isControl c || c = ' ').reverse.filter
        fun c => c ≠ '\t' ∧ c ≠ '\n' ∧ c ≠ '\r') = addressOf scheme server (cleaned rest) :=
    cleaned_addressOf hserver rest
  have hslashes : ('/' :: '/' :: (server ++ '/' :: cleaned rest)).dropWhile
      (fun c => c = '/' ∨ c = '\\') = server ++ '/' :: cleaned rest := by
    obtain ⟨c, server, rfl⟩ := List.exists_cons_of_ne_nil hnamed
    have hc := hserver.forall (p := fun c => c ≠ '/' ∧ c ≠ '\\') (by decide) c List.mem_cons_self
    rw [decide_eq_true_eq] at hc
    simp [hc]
  have hinside : ∀ c ∈ server, (!endsAuthority c) = true := hserver.forall (by decide)
  have hauthority : (server ++ '/' :: cleaned rest).takeWhile (fun c => !endsAuthority c) =
      server := by
    rw [List.takeWhile_append_of_pos hinside]
    simp [endsAuthority]
  have hafter : (server ++ '/' :: cleaned rest).dropWhile (fun c => !endsAuthority c) =
      '/' :: cleaned rest := by
    rw [List.dropWhile_append_of_pos hinside]
    simp [endsAuthority]
  have hunnamed : Text.splitAt '@' server = [server] := by
    rw [Text.splitAt_eq_splitOn, List.splitOn_eq_singleton (hserver.not_mem (by decide))]
  rw [parse?]
  simp only [hclean, afterScheme?_addressOf, Option.bind_eq_bind, Option.bind_some, hslashes,
    hauthority, hafter, hunnamed, List.getLastD_cons, List.getLastD_nil,
    hostAndPort_of_plain hserver, hnamed, ite_false, hhost, port?]

end

/-- A segment of a path that is sent as it is. -/
structure IsSegment (cs : List Char) : Prop where
  plain : IsPlain cs
  noDots : cs ≠ ['.'] ∧ cs ≠ ['.', '.']

section

variable {cs : List Char} {segments : List (List Char)}

theorem path_forall {p : Char → Bool} (h : ∀ segment ∈ segments, IsPlain segment)
    (hslash : p '/' = true) (hp : plainChars.all p = true) :
    ∀ c ∈ '/' :: List.intercalate ['/'] segments, p c = true := by
  intro c hc
  rcases List.mem_cons.mp hc with rfl | hc
  · exact hslash
  · rcases Text.mem_intercalate hc with rfl | ⟨segment, hsegment, hc⟩
    · exact hslash
    · exact (h segment hsegment).forall hp c hc

theorem cleaned_of_forall (h : ∀ c ∈ cs, (!isEdge c && isKept c) = true) : cleaned cs = cs := by
  have hends : cs.reverse.dropWhile isEdge = cs.reverse := by
    cases hreverse : cs.reverse with
    | nil => rfl
    | cons c rest =>
        have hc := h c (List.mem_reverse.mp (by simp [hreverse]))
        simp_all
  rw [cleaned, hends, List.reverse_reverse, List.filter_eq_self]
  intro c hc
  simp_all

theorem plainDots_of_plain (h : IsPlain cs) : plainDots cs = cs := by
  induction cs with
  | nil => rfl
  | cons c cs ih =>
      have hc : c ≠ '%' := by
        rintro rfl
        exact h.not_mem (by decide) List.mem_cons_self
      have hrest := ih fun d hd => h d (List.mem_cons_of_mem _ hd)
      rw [plainDots, hrest]
      rintro c rest rfl
      exact absurd rfl hc

theorem resolve_of_segments (done : List (List Char)) (h : ∀ s ∈ segments, IsSegment s) :
    resolve done segments = done.reverse ++ segments := by
  induction segments generalizing done with
  | nil => simp [resolve]
  | cons s segments ih =>
      rw [List.forall_mem_cons] at h
      obtain ⟨hone, htwo⟩ := h.1.noDots
      rw [resolve]
      simp only [plainDots_of_plain h.1.plain, hone, htwo, ite_false]
      rw [ih _ h.2]
      simp

theorem encode_of_forall {escaped : Char → Bool} (h : ∀ c ∈ cs, (!escaped c) = true) :
    encode escaped cs = cs := by
  induction cs with
  | nil => rfl
  | cons c cs ih =>
      rw [List.forall_mem_cons] at h
      have hc : escaped c = false := by simpa using h.1
      have hrest := ih h.2
      rw [encode] at hrest ⊢
      simp [hc, hrest]

/-- A path of plain segments is sent as it is. -/
theorem path_of_segments (hne : segments ≠ []) (h : ∀ s ∈ segments, IsSegment s) :
    path ('/' :: List.intercalate ['/'] segments) = '/' :: List.intercalate ['/'] segments := by
  have hplain : ∀ s ∈ segments, IsPlain s := fun s hs => (h s hs).plain
  have hslashes : ('/' :: List.intercalate ['/'] segments).map
      (fun c => if c = '\\' then '/' else c) = '/' :: List.intercalate ['/'] segments := by
    refine (List.map_congr_left fun c hc => ?_).trans (List.map_id _)
    have hkept := path_forall (p := fun c => c ≠ '\\') hplain (by decide) (by decide) c hc
    simp_all
  have hsegments : Text.splitAt '/' (List.intercalate ['/'] segments) = segments := by
    rw [Text.splitAt_eq_splitOn]
    exact List.splitOn_intercalate '/' (fun s hs => (hplain s hs).not_mem (by decide)) hne
  have hencoded : segments.map (encode escapedInPath) = segments := by
    refine (List.map_congr_left fun s hs => ?_).trans (List.map_id _)
    exact encode_of_forall ((hplain s hs).forall (by decide))
  simp only [path, hslashes, hsegments, resolve_of_segments [] h, List.reverse_nil,
    List.nil_append, hencoded]

theorem targetOf_of_segments (hne : segments ≠ []) (h : ∀ s ∈ segments, IsSegment s) :
    targetOf ('/' :: List.intercalate ['/'] segments) =
      '/' :: List.intercalate ['/'] segments := by
  have hplain : ∀ s ∈ segments, IsPlain s := fun s hs => (h s hs).plain
  have hfragment := List.takeWhile_eq_self_iff.mpr
    (path_forall (p := (· ≠ '#')) hplain (by decide) (by decide))
  have hquery := path_forall (p := (· ≠ '?')) hplain (by decide) (by decide)
  simp only [targetOf, hfragment, List.takeWhile_eq_self_iff.mpr hquery,
    List.dropWhile_eq_nil_iff.mpr hquery, path_of_segments hne h, List.append_nil]

theorem fragmentOf_of_segments (h : ∀ s ∈ segments, IsSegment s) :
    fragmentOf ('/' :: List.intercalate ['/'] segments) = [] := by
  have hplain : ∀ s ∈ segments, IsPlain s := fun s hs => (h s hs).plain
  have hnone := path_forall (p := (· ≠ '#')) hplain (by decide) (by decide)
  rw [fragmentOf, List.dropWhile_eq_nil_iff.mpr hnone]

theorem cleaned_of_segments (h : ∀ s ∈ segments, IsSegment s) :
    cleaned (List.intercalate ['/'] segments) = List.intercalate ['/'] segments := by
  have hplain : ∀ s ∈ segments, IsPlain s := fun s hs => (h s hs).plain
  refine cleaned_of_forall fun c hc => ?_
  exact path_forall (p := fun c => !isEdge c && isKept c) hplain (by decide) (by decide) c
    (List.mem_cons_of_mem _ hc)

end

end Url

end Http

end PackageIndex
