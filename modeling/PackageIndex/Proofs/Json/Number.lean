import Mathlib.Data.List.TakeWhile
import PackageIndex.Json.Value
/-!
The numbers of JSON. A number has a whole part, and it may have a sign before it and a fraction and
an exponent after it. It is read to its end when no character follows that could go on a number,
and nothing else is read as a number.
-/
namespace PackageIndex.Json

open PackageIndex.Text

structure IsDigits (cs : List Char) : Prop where
  ne_nil : cs ≠ []
  digits : ∀ c ∈ cs, isDigit c = true

/-- A zero alone, or digits that do not begin with one. -/
inductive IsWhole : List Char → Prop
  | zero : IsWhole ['0']
  | digits {c : Char} {cs : List Char} : c ≠ '0' → IsDigits (c :: cs) → IsWhole (c :: cs)

inductive IsFraction : List Char → Prop
  | missing : IsFraction []
  | digits {cs : List Char} : IsDigits cs → IsFraction ('.' :: cs)

inductive IsExponent : List Char → Prop
  | missing : IsExponent []
  | digits {mark : Char} {sign cs : List Char} :
      mark = 'e' ∨ mark = 'E' → sign ∈ [[], ['+'], ['-']] → IsDigits cs →
      IsExponent (mark :: (sign ++ cs))

inductive IsNumber : List Char → Prop
  | parts {sign whole fraction exponent : List Char} :
      sign ∈ [[], ['-']] → IsWhole whole → IsFraction fraction → IsExponent exponent →
      IsNumber (sign ++ (whole ++ (fraction ++ exponent)))

/-- The text does not begin with a character of the kind. -/
def Avoids (p : Char → Bool) (cs : List Char) : Prop := ∀ c ∈ cs.head?, p c = false

/-- The character could go on a number. -/
def goesOn (c : Char) : Bool := isDigit c || c = '.' || c = 'e' || c = 'E'

section

variable {p q : Char → Bool} {cs rest : List Char}

theorem Avoids.imp (h : Avoids p cs) (hpq : ∀ c, q c = true → p c = true) : Avoids q cs := by
  intro c hc
  have hp := h c hc
  rw [← Bool.not_eq_true]
  intro hq
  rw [hpq c hq] at hp
  cases hp

theorem avoids_cons {c : Char} (h : p c = false) : Avoids p (c :: cs) := by
  intro d hd
  obtain rfl := Option.some.inj hd
  exact h

theorem digitRun?_append (h : IsDigits cs) (hrest : Avoids isDigit rest) :
    digitRun? (cs ++ rest) = some (cs, rest) := by
  have htake : rest.takeWhile isDigit = [] := by
    cases rest with
    | nil => rfl
    | cons c rest => exact List.takeWhile_cons_of_neg (by simp [hrest c rfl])
  have hdrop : rest.dropWhile isDigit = rest := by
    cases rest with
    | nil => rfl
    | cons c rest => exact List.dropWhile_cons_of_neg (by simp [hrest c rfl])
  simp only [digitRun?, List.takeWhile_append_of_pos h.digits,
    List.dropWhile_append_of_pos h.digits, htake, hdrop, List.append_nil, if_neg h.ne_nil]

theorem whole?_append (h : IsWhole cs) (hrest : Avoids isDigit rest) :
    whole? (cs ++ rest) = some (cs, rest) := by
  cases h with
  | zero =>
    cases rest with
    | nil => rfl
    | cons c rest => simp [whole?, hrest c rfl]
  | @digits c cs hzero hdigits =>
    rw [← digitRun?_append hdigits hrest, List.cons_append, whole?]
    simp [hzero]

theorem fraction?_append (h : IsFraction cs) (hrest : Avoids (fun c => isDigit c || c = '.') rest) :
    fraction? (cs ++ rest) = some (cs, rest) := by
  have hdigit : Avoids isDigit rest := hrest.imp fun c hc => by simp [hc]
  cases h with
  | missing =>
    cases rest with
    | nil => rfl
    | cons c rest =>
      have hpoint : c ≠ '.' := by
        rintro rfl
        exact absurd (hrest '.' rfl) (by decide)
      rw [List.nil_append, fraction?]
      simp [hpoint]
  | digits hdigits =>
    simp only [List.cons_append, fraction?, digitRun?_append hdigits hdigit, Option.map_some]

theorem exponent?_append (h : IsExponent cs) (hrest : Avoids goesOn rest) :
    exponent? (cs ++ rest) = some (cs, rest) := by
  have hdigit : Avoids isDigit rest := hrest.imp fun c hc => by simp [goesOn, hc]
  cases h with
  | missing =>
    cases rest with
    | nil => rfl
    | cons c rest =>
      have hmark : ¬ (c = 'e' ∨ c = 'E') := by
        rintro (rfl | rfl)
        · exact absurd (hrest 'e' rfl) (by decide)
        · exact absurd (hrest 'E' rfl) (by decide)
      simp only [List.nil_append, exponent?, if_neg hmark]
  | @digits mark sign cs hmark hsign hdigits =>
    have hrun := digitRun?_append hdigits hdigit
    obtain ⟨c, cs, rfl⟩ := List.exists_cons_of_ne_nil hdigits.ne_nil
    have hdigit : isDigit c = true := hdigits.digits c List.mem_cons_self
    have hplus : c ≠ '+' := by
      rintro rfl
      exact absurd hdigit (by decide)
    have hminus : c ≠ '-' := by
      rintro rfl
      exact absurd hdigit (by decide)
    simp only [List.mem_cons, List.not_mem_nil, or_false] at hsign
    obtain rfl | rfl | rfl := hsign <;>
      simp_all [exponent?]

theorem IsExponent.avoids_append (h : IsExponent cs) (hrest : Avoids goesOn rest) :
    Avoids (fun c => isDigit c || c = '.') (cs ++ rest) := by
  cases h with
  | missing => exact hrest.imp fun c hc => by simp_all [goesOn]
  | digits hmark =>
    obtain rfl | rfl := hmark <;> exact avoids_cons (by decide)

theorem IsFraction.avoids_append (h : IsFraction cs)
    (hrest : Avoids (fun c => isDigit c || c = '.') rest) : Avoids isDigit (cs ++ rest) := by
  cases h with
  | missing => exact hrest.imp fun c hc => by simp [hc]
  | digits => exact avoids_cons (by decide)

theorem IsWhole.exists_head (h : IsWhole cs) :
    ∃ c rest, cs = c :: rest ∧ isDigit c = true := by
  cases h with
  | zero => exact ⟨'0', [], rfl, by decide⟩
  | digits _ hdigits => exact ⟨_, _, rfl, hdigits.digits _ List.mem_cons_self⟩

theorem magnitude?_append {whole fraction exponent : List Char} (hwhole : IsWhole whole)
    (hfraction : IsFraction fraction) (hexponent : IsExponent exponent)
    (hrest : Avoids goesOn rest) :
    magnitude? (whole ++ (fraction ++ (exponent ++ rest))) =
      some (whole ++ (fraction ++ exponent), rest) := by
  have hafter := hexponent.avoids_append hrest
  rw [magnitude?, whole?_append hwhole (hfraction.avoids_append hafter)]
  simp [fraction?_append hfraction hafter, exponent?_append hexponent hrest]

/-- A number is read to its end. -/
theorem number?_append (h : IsNumber cs) (hrest : Avoids goesOn rest) :
    number? (cs ++ rest) = some (cs, rest) := by
  cases h with
  | @parts sign whole fraction exponent hsign hwhole hfraction hexponent =>
    have hread := magnitude?_append hwhole hfraction hexponent hrest
    obtain ⟨c, whole, rfl, hdigit⟩ := hwhole.exists_head
    have hminus : c ≠ '-' := by
      rintro rfl
      exact absurd hdigit (by decide)
    simp only [List.mem_cons, List.not_mem_nil, or_false] at hsign
    obtain rfl | rfl := hsign
    · simp_all [number?]
    · simp_all [number?]

/-- A number begins with a sign or a digit. -/
theorem IsNumber.exists_head (h : IsNumber cs) :
    ∃ c rest, cs = c :: rest ∧ (c = '-' ∨ isDigit c = true) := by
  cases h with
  | parts hsign hwhole =>
    obtain ⟨c, rest, rfl, hdigit⟩ := hwhole.exists_head
    simp only [List.mem_cons, List.not_mem_nil, or_false] at hsign
    obtain rfl | rfl := hsign
    · exact ⟨c, _, rfl, .inr hdigit⟩
    · exact ⟨'-', _, rfl, .inl rfl⟩

theorem digitRun?_sound {text : List Char} (h : digitRun? cs = some (text, rest)) :
    IsDigits text ∧ cs = text ++ rest := by
  simp only [digitRun?] at h
  split at h
  · cases h
  next hne =>
    obtain ⟨rfl, rfl⟩ := Prod.mk.inj (Option.some.inj h)
    exact ⟨⟨hne, fun c hc => List.mem_takeWhile_imp hc⟩, List.takeWhile_append_dropWhile.symm⟩

theorem whole?_sound {text : List Char} (h : whole? cs = some (text, rest)) :
    IsWhole text ∧ cs = text ++ rest := by
  rw [whole?.eq_def] at h
  split at h
  · split at h
    · split at h
      · cases h
      · obtain ⟨rfl, rfl⟩ := Prod.mk.inj (Option.some.inj h)
        exact ⟨.zero, rfl⟩
    · obtain ⟨rfl, rfl⟩ := Prod.mk.inj (Option.some.inj h)
      exact ⟨.zero, rfl⟩
  next hzero =>
    obtain ⟨hdigits, rfl⟩ := digitRun?_sound h
    obtain ⟨c, text, rfl⟩ := List.exists_cons_of_ne_nil hdigits.ne_nil
    refine ⟨.digits ?_ hdigits, rfl⟩
    rintro rfl
    exact hzero _ rfl

theorem fraction?_sound {text : List Char} (h : fraction? cs = some (text, rest)) :
    IsFraction text ∧ cs = text ++ rest := by
  rw [fraction?.eq_def] at h
  split at h
  · obtain ⟨⟨run, after⟩, hrun, heq⟩ := Option.map_eq_some_iff.mp h
    obtain ⟨rfl, rfl⟩ := Prod.mk.inj heq
    obtain ⟨hdigits, rfl⟩ := digitRun?_sound hrun
    exact ⟨.digits hdigits, rfl⟩
  · obtain ⟨rfl, rfl⟩ := Prod.mk.inj (Option.some.inj h)
    exact ⟨.missing, rfl⟩

theorem exponent?_sound {text : List Char} (h : exponent? cs = some (text, rest)) :
    IsExponent text ∧ cs = text ++ rest := by
  rw [exponent?.eq_def] at h
  split at h
  · split at h
    next hmark =>
      -- With a plus, with a minus and without a sign the digits are read alike.
      split at h
      all_goals
        obtain ⟨⟨run, after⟩, hrun, heq⟩ := Option.map_eq_some_iff.mp h
        obtain ⟨rfl, rfl⟩ := Prod.mk.inj heq
        obtain ⟨hdigits, rfl⟩ := digitRun?_sound hrun
      · exact ⟨.digits hmark (show ['+'] ∈ _ by simp) hdigits, rfl⟩
      · exact ⟨.digits hmark (show ['-'] ∈ _ by simp) hdigits, rfl⟩
      · exact ⟨.digits hmark (show [] ∈ _ by simp) hdigits, rfl⟩
    next =>
      obtain ⟨rfl, rfl⟩ := Prod.mk.inj (Option.some.inj h)
      exact ⟨.missing, rfl⟩
  · obtain ⟨rfl, rfl⟩ := Prod.mk.inj (Option.some.inj h)
    exact ⟨.missing, rfl⟩

theorem magnitude?_sound {text sign : List Char} (hsign : sign ∈ [[], ['-']])
    (h : magnitude? cs = some (text, rest)) : IsNumber (sign ++ text) ∧ cs = text ++ rest := by
  obtain ⟨⟨whole, _⟩, hwhole, h⟩ := Option.bind_eq_some_iff.mp h
  obtain ⟨⟨fraction, _⟩, hfraction, h⟩ := Option.bind_eq_some_iff.mp h
  obtain ⟨⟨exponent, _⟩, hexponent, h⟩ := Option.bind_eq_some_iff.mp h
  obtain ⟨rfl, rfl⟩ := Prod.mk.inj (Option.some.inj h)
  obtain ⟨hisWhole, rfl⟩ := whole?_sound hwhole
  obtain ⟨hisFraction, rfl⟩ := fraction?_sound hfraction
  obtain ⟨hisExponent, rfl⟩ := exponent?_sound hexponent
  simp only [List.append_assoc]
  exact ⟨.parts hsign hisWhole hisFraction hisExponent, trivial⟩

theorem number?_sound {text : List Char} (h : number? cs = some (text, rest)) :
    IsNumber text ∧ cs = text ++ rest := by
  rw [number?.eq_def] at h
  split at h
  · obtain ⟨⟨magnitude, after⟩, hread, heq⟩ := Option.map_eq_some_iff.mp h
    obtain ⟨rfl, rfl⟩ := Prod.mk.inj heq
    obtain ⟨hnumber, rfl⟩ := magnitude?_sound (show ['-'] ∈ _ by simp) hread
    exact ⟨hnumber, rfl⟩
  · exact magnitude?_sound (show [] ∈ _ by simp) h

end

end PackageIndex.Json
