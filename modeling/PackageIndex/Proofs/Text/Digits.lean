import PackageIndex.Text.Digits
/-!
Digits read back: of the decimal digits that a number is written with, a reader of the same
width finds the number again, as far as the width holds it. Of two numbers written in one width
the lesser comes first as text, whatever follows it.
-/
namespace PackageIndex.Text

theorem digitValue?_digitChar {d : Nat} (h : d < 10) : digitValue? (digitChar d) = some d := by
  match d, h with
  | 0, _ | 1, _ | 2, _ | 3, _ | 4, _ | 5, _ | 6, _ | 7, _ | 8, _ | 9, _ => rfl

theorem takeDigits?_digitChar {d : Nat} (h : d < 10) (width n : Nat) (cs : List Char) :
    takeDigits? (width + 1) n (digitChar d :: cs) = takeDigits? width (n * 10 + d) cs := by
  rw [takeDigits?, digitValue?_digitChar h, Option.bind_eq_bind, Option.bind_some]

/-- The last digits of a number are the digit at their end and those before it. -/
theorem mod_pow_succ (n width : Nat) :
    n % Nat.pow 10 (width + 1) = n / 10 % Nat.pow 10 width * 10 + n % 10 := by
  rw [show Nat.pow 10 (width + 1) = 10 * Nat.pow 10 width from Nat.mul_comm _ _, Nat.mod_mul]
  omega

/-- A padded number is read after what was read before it, and leaves the width of what comes
after it. -/
theorem takeDigits?_append_padded (width after n before : Nat) (rest : List Char) :
    takeDigits? (width + after) before (padded width n ++ rest) =
      takeDigits? after (before * Nat.pow 10 width + n % Nat.pow 10 width) rest := by
  induction width generalizing n after rest with
  | zero => simp [padded, Nat.mod_one]
  | succ width ih =>
    have hlast : n % 10 < 10 := Nat.mod_lt n (by decide)
    calc takeDigits? (width + 1 + after) before (padded (width + 1) n ++ rest)
        = takeDigits? (width + (after + 1)) before
            (padded width (n / 10) ++ digitChar (n % 10) :: rest) := by
          rw [padded, List.append_assoc, List.singleton_append, Nat.add_right_comm, Nat.add_assoc]
      _ = takeDigits? after ((before * Nat.pow 10 width + n / 10 % Nat.pow 10 width) * 10 + n % 10)
            rest := by
          rw [ih, takeDigits?_digitChar hlast]
      _ = takeDigits? after
            (before * Nat.pow 10 (width + 1) + n % Nat.pow 10 (width + 1)) rest := by
          rw [mod_pow_succ, show Nat.pow 10 (width + 1) = Nat.pow 10 width * 10 from rfl,
            ← Nat.mul_assoc]
          congr 1
          omega

theorem takeDigits?_padded {width n : Nat} (h : n < Nat.pow 10 width) (rest : List Char) :
    takeDigits? width 0 (padded width n ++ rest) = some (n, rest) := by
  have hread := takeDigits?_append_padded width 0 n 0 rest
  rwa [Nat.add_zero, Nat.zero_mul, Nat.zero_add, Nat.mod_eq_of_lt h, takeDigits?] at hread

theorem length_padded (width n : Nat) : (padded width n).length = width := by
  induction width generalizing n with
  | zero => rfl
  | succ width ih => rw [padded, List.length_append, ih, List.length_singleton]

theorem isDigit_of_mem_padded {width n : Nat} {c : Char} (h : c ∈ padded width n) :
    isDigit c = true := by
  induction width generalizing n with
  | zero => cases h
  | succ width ih =>
    rw [padded, List.mem_append, List.mem_singleton] at h
    rcases h with hbefore | rfl
    · exact ih hbefore
    · rw [isDigit, digitValue?_digitChar (Nat.mod_lt n (by decide)), Option.isSome_some]

theorem ofDigits?_padded {width n : Nat} (h : n < Nat.pow 10 width) :
    ofDigits? 10 digitValue? (padded width n) = some n := by
  have hpow (width : Nat) : Nat.pow 10 (width + 1) = Nat.pow 10 width * 10 := rfl
  rw [ofDigits?]
  induction width generalizing n with
  | zero =>
    obtain rfl := Nat.lt_one_iff.mp h
    rfl
  | succ width ih =>
    have hlast : n % 10 < 10 := Nat.mod_lt n (by decide)
    rw [padded, List.foldlM_append, ih (Nat.div_lt_of_lt_mul (by rw [hpow] at h; omega)),
      Option.bind_eq_bind, Option.bind_some, List.foldlM_cons, digitValue?_digitChar hlast,
      Option.map_some, Option.bind_eq_bind, Option.bind_some, List.foldlM_nil]
    exact congrArg some (by omega)

theorem digitValue?_lt {c : Char} {d : Nat} (h : digitValue? c = some d) : d < 10 := by
  rw [digitValue?] at h
  split at h
  next hc =>
    have hnine : c.toNat ≤ 57 := hc.2
    obtain rfl := Option.some.inj h
    omega
  · cases h

/-- Hexadecimal digits stand between the first decimal one and the last letter. -/
theorem hexValue?_bounds {c : Char} {d : Nat} (h : hexValue? c = some d) :
    d < 16 ∧ 48 ≤ c.toNat ∧ c.toNat ≤ 102 := by
  have hrange (low high : Char) {shift : Nat} (hc : low ≤ c ∧ c ≤ high)
      (hd : some (c.toNat - shift) = some d) :
      d = c.toNat - shift ∧ low.toNat ≤ c.toNat ∧ c.toNat ≤ high.toNat :=
    ⟨(Option.some.inj hd).symm, hc⟩
  rw [hexValue?] at h
  split at h
  next hc =>
    have hdigit := hrange '0' '9' hc h
    simp only [Char.reduceToNat] at hdigit
    omega
  split at h
  next hc =>
    have hdigit := hrange 'a' 'f' hc h
    simp only [Char.reduceToNat] at hdigit
    omega
  split at h
  next hc =>
    have hdigit := hrange 'A' 'F' hc h
    simp only [Char.reduceToNat] at hdigit
    omega
  · cases h

theorem hexValue?_lt {c : Char} {d : Nat} (h : hexValue? c = some d) : d < 16 :=
  (hexValue?_bounds h).1

section Value

variable {base : Nat} {value? : Char → Option Nat} {cs : List Char} {n : Nat}

theorem foldlM_digits_lt (hvalue : ∀ {c d}, value? c = some d → d < base) {before : Nat}
    (h : cs.foldlM (fun n c => (value? c).map (n * base + ·)) before = some n) :
    n < (before + 1) * Nat.pow base cs.length := by
  induction cs generalizing before with
  | nil =>
    obtain rfl := Option.some.inj h
    simp
  | cons c cs ih =>
    rw [List.foldlM_cons, Option.bind_eq_bind] at h
    obtain ⟨m, hm, hrest⟩ := Option.bind_eq_some_iff.mp h
    obtain ⟨d, hd, rfl⟩ := Option.map_eq_some_iff.mp hm
    have hdigit : before * base + d + 1 ≤ (before + 1) * base := by
      have hlt := hvalue hd
      rw [Nat.add_mul, Nat.one_mul]
      omega
    calc n < (before * base + d + 1) * Nat.pow base cs.length := ih hrest
      _ ≤ (before + 1) * base * Nat.pow base cs.length := Nat.mul_le_mul_right _ hdigit
      _ = (before + 1) * Nat.pow base (cs.length + 1) := by
        rw [Nat.mul_assoc, show Nat.pow base (cs.length + 1) = base * Nat.pow base cs.length from
          Nat.mul_comm _ _]

/-- As many digits denote no more than their count allows. -/
theorem ofDigits?_lt (hvalue : ∀ {c d}, value? c = some d → d < base)
    (h : ofDigits? base value? cs = some n) : n < Nat.pow base cs.length := by
  have hlt := foldlM_digits_lt hvalue h
  rwa [Nat.zero_add, Nat.one_mul] at hlt

end Value

section Order

variable {width m n : Nat}

theorem digitChar_lt : ∀ n < 10, ∀ m < n, digitChar m < digitChar n := by decide

/-- The last digits of a number, and before them those of what is left of it. -/
theorem padded_add (before width n : Nat) :
    padded (before + width) n = padded before (n / Nat.pow 10 width) ++ padded width n := by
  induction width generalizing n with
  | zero => simp [padded]
  | succ width ih =>
    rw [← Nat.add_assoc, padded, padded, ih, List.append_assoc, Nat.div_div_eq_div_mul,
      show 10 * Nat.pow 10 width = Nat.pow 10 (width + 1) from Nat.mul_comm _ _]

/-- A number is written with the digits that its width holds. -/
theorem padded_mod (width n : Nat) : padded width (n % Nat.pow 10 width) = padded width n := by
  induction width generalizing n with
  | zero => rfl
  | succ width ih =>
    rw [padded, padded, mod_pow_succ, ← ih (n / 10)]
    congr 3 <;> omega

theorem padded_append_lt (h : m < n) (hn : n < Nat.pow 10 width) (u v : List Char) :
    padded width m ++ u < padded width n ++ v := by
  induction width generalizing m n u v with
  | zero => exact absurd hn (by simp only [Nat.pow_eq, Nat.pow_zero]; omega)
  | succ width ih =>
    have hpow : Nat.pow 10 (width + 1) = Nat.pow 10 width * 10 := rfl
    simp only [padded, List.append_assoc]
    rcases Nat.lt_or_eq_of_le (Nat.div_le_div_right (c := 10) (Nat.le_of_lt h)) with hlt | heq
    · exact ih hlt (by omega) _ _
    · rw [heq]
      exact List.append_left_lt (List.Lex.rel (digitChar_lt _ (by omega) _ (by omega)))

/-- Where the numbers do not decide, what follows them has to. -/
theorem padded_append_lt_of {u v : List Char} (hn : n < Nat.pow 10 width)
    (h : m < n ∨ m = n ∧ u < v) : padded width m ++ u < padded width n ++ v := by
  rcases h with hlt | ⟨rfl, hlt⟩
  · exact padded_append_lt hlt hn u v
  · exact List.append_left_lt hlt

theorem cons_lt_padded_append {c : Char} (hc : c < '0') (width n : Nat) (u v : List Char) :
    c :: u < padded (width + 1) n ++ v := by
  have hdigit : '0' ≤ digitChar (n / Nat.pow 10 width % 10) := by
    have hzero : ∀ d < 10, '0' ≤ digitChar d := by decide
    exact hzero _ (Nat.mod_lt _ (by decide))
  rw [Nat.add_comm, padded_add]
  exact List.Lex.rel (Std.lt_of_lt_of_le hc hdigit)

end Order

end PackageIndex.Text
