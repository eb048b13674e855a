import PackageIndex.Table
/-!
Tables are determined by their view: two tables in which every key finds the same are equal,
since ascending rows can stand in one order only. So an operation on one row is determined by
what it leaves under its key and by leaving every other key alone.
-/
namespace PackageIndex.Table

variable {κ α : Type} [LT κ] [KeyOrder κ]

theorem rows_eq_of_same_members {l m : List (κ × α)}
    (hl : l.Pairwise fun a b => a.1 < b.1) (hm : m.Pairwise fun a b => a.1 < b.1)
    (h : ∀ r, r ∈ l ↔ r ∈ m) : l = m := by
  induction l generalizing m with
  | nil => exact (List.eq_nil_iff_forall_not_mem.mpr fun r hr => by simpa using (h r).mpr hr).symm
  | cons a l ih =>
      cases m with
      | nil => simpa using (h a).mp List.mem_cons_self
      | cons b m =>
          rw [List.pairwise_cons] at hl hm
          have hab : a = b := by
            rcases List.mem_cons.mp ((h a).mp List.mem_cons_self) with heq | hlt
            · exact heq
            · rcases List.mem_cons.mp ((h b).mpr List.mem_cons_self) with heq | hgt
              · exact heq.symm
              · exact absurd (KeyOrder.trans (hm.1 a hlt) (hl.1 b hgt)) (KeyOrder.irrefl b.1)
          subst hab
          rw [ih hl.2 hm.2]
          intro r
          constructor
          · intro hr
            rcases List.mem_cons.mp ((h r).mp (List.mem_cons_of_mem _ hr)) with rfl | hr'
            · exact absurd (hl.1 _ hr) (KeyOrder.irrefl _)
            · exact hr'
          · intro hr
            rcases List.mem_cons.mp ((h r).mpr (List.mem_cons_of_mem _ hr)) with rfl | hr'
            · exact absurd (hm.1 _ hr) (KeyOrder.irrefl _)
            · exact hr'

variable [DecidableEq κ]

theorem mem_rows_iff {t : Table κ α} {k : κ} {v : α} : (k, v) ∈ t.rows ↔ t.find? k = some v := by
  obtain ⟨rows, h⟩ := t
  simp only [find?]
  induction rows with
  | nil => simp
  | cons r rest ih =>
      rw [List.pairwise_cons] at h
      by_cases hr : r.1 = k
      · have hother : (k, v) ∉ rest := fun hmem =>
          KeyOrder.irrefl k (hr ▸ h.1 (k, v) hmem)
        simp only [List.mem_cons, hother, or_false, List.find?_cons, hr, decide_true,
          Option.map_some, Option.some.injEq]
        constructor
        · rintro rfl; rfl
        · rintro rfl; rw [← hr]
      · have hne : (k, v) ≠ r := by rintro rfl; exact hr rfl
        simpa [List.find?_cons, hr, hne] using ih h.2

theorem mem_keys_iff {t : Table κ α} {k : κ} : k ∈ t.keys ↔ ∃ v, t.find? k = some v := by
  simp [keys, mem_rows_iff]

theorem find?_filter {t : Table κ α} {p : κ × α → Bool} {k : κ} {v : α} :
    (t.filter p).find? k = some v ↔ t.find? k = some v ∧ p (k, v) = true := by
  rw [← mem_rows_iff, ← mem_rows_iff, filter, List.mem_filter]

theorem rows_eq_nil_iff {t : Table κ α} : t.rows = [] ↔ ∀ k, t.find? k = none := by
  constructor
  · intro h k
    simp [find?, h]
  · intro h
    apply List.eq_nil_iff_forall_not_mem.mpr
    rintro ⟨k, v⟩ hmem
    rw [mem_rows_iff, h k] at hmem
    cases hmem

theorem ext_find? {t u : Table κ α} (h : ∀ k, t.find? k = u.find? k) : t = u := by
  have hrows : t.rows = u.rows :=
    rows_eq_of_same_members t.ascending u.ascending fun ⟨k, v⟩ => by
      rw [mem_rows_iff, mem_rows_iff, h k]
  cases t
  cases u
  cases hrows
  rfl

/-- The second table is the first one but for what it has under a key. -/
structure Sets (k : κ) (v? : Option α) (t t' : Table κ α) : Prop where
  key : t'.find? k = v?
  others : ∀ j, j ≠ k → t'.find? j = t.find? j

omit [KeyOrder κ] in
theorem Sets.of_find? {j k : κ} {v : α} {v? : Option α} {t t' : Table κ α} (h : Sets k v? t t')
    (hv : t'.find? j = some v) : j = k ∧ v? = some v ∨ j ≠ k ∧ t.find? j = some v := by
  by_cases hj : j = k
  · subst hj
    exact .inl ⟨rfl, h.key.symm.trans hv⟩
  · exact .inr ⟨hj, (h.others j hj).symm.trans hv⟩

theorem sets_some_iff [DecidableLT κ] {k : κ} {v : α} {t t' : Table κ α} :
    Sets k (some v) t t' ↔ t' = t.put k v := by
  constructor
  · intro h
    apply ext_find?
    intro j
    rw [find?_put]
    by_cases hj : j = k
    · rw [hj, if_pos rfl, h.key]
    · rw [if_neg hj, h.others j hj]
  · rintro rfl
    exact ⟨by simp [find?_put], fun j hj => by simp [find?_put, hj]⟩

theorem put_put [DecidableLT κ] (t : Table κ α) (k : κ) (v v' : α) :
    (t.put k v).put k v' = t.put k v' := by
  apply ext_find?
  intro j
  simp only [find?_put]
  split <;> rfl

theorem sets_none_iff {k : κ} {t t' : Table κ α} : Sets k none t t' ↔ t' = t.erase k := by
  constructor
  · intro h
    apply ext_find?
    intro j
    rw [find?_erase]
    by_cases hj : j = k
    · rw [hj, if_pos rfl, h.key]
    · rw [if_neg hj, h.others j hj]
  · rintro rfl
    exact ⟨by simp [find?_erase], fun j hj => by simp [find?_erase, hj]⟩

/-- The second table is the first one but for the rows that meet a condition. -/
structure Changes (p : κ → α → Prop) (f : κ → α → α) (t t' : Table κ α) : Prop where
  changed : ∀ k v, t.find? k = some v → p k v → t'.find? k = some (f k v)
  others : ∀ k, (∀ v, t.find? k = some v → ¬ p k v) → t'.find? k = t.find? k

omit [KeyOrder κ] in
theorem changes_adjust (p : κ → α → Prop) [∀ k v, Decidable (p k v)] (f : κ → α → α)
    (t : Table κ α) : Changes p f t (t.adjust fun k v => if p k v then f k v else v) := by
  constructor
  · intro k v hv hp
    rw [find?_adjust, hv, Option.map_some, if_pos hp]
  · intro k hother
    rw [find?_adjust]
    cases hv : t.find? k with
    | none => rfl
    | some v => rw [Option.map_some, if_neg (hother v hv)]

theorem changes_iff {p : κ → α → Prop} [∀ k v, Decidable (p k v)] {f : κ → α → α}
    {t t' : Table κ α} :
    Changes p f t t' ↔ t' = t.adjust fun k v => if p k v then f k v else v := by
  constructor
  · intro h
    have hadjust := changes_adjust p f t
    apply ext_find?
    intro k
    by_cases hp : ∃ v, t.find? k = some v ∧ p k v
    · obtain ⟨v, hv, hp⟩ := hp
      rw [h.changed k v hv hp, hadjust.changed k v hv hp]
    · have hother : ∀ v, t.find? k = some v → ¬ p k v := fun v hv hpv => hp ⟨v, hv, hpv⟩
      rw [h.others k hother, hadjust.others k hother]
  · rintro rfl
    exact changes_adjust p f t

omit [KeyOrder κ] in
theorem Changes.of_find? {p : κ → α → Prop} {f : κ → α → α} {t t' : Table κ α} {k : κ} {v' : α}
    (h : Changes p f t t') (hv' : t'.find? k = some v') :
    ∃ v, t.find? k = some v ∧ (p k v ∧ v' = f k v ∨ ¬ p k v ∧ v' = v) := by
  cases hv : t.find? k with
  | none =>
      rw [h.others k (by simp [hv]), hv] at hv'
      cases hv'
  | some v =>
      refine ⟨v, rfl, ?_⟩
      by_cases hp : p k v
      · exact .inl ⟨hp, Option.some.inj (hv'.symm.trans (h.changed k v hv hp))⟩
      · have hother : ∀ w, t.find? k = some w → ¬ p k w := by
          intro w hw
          rwa [Option.some.inj (hw.symm.trans hv)]
        rw [h.others k hother, hv] at hv'
        exact .inr ⟨hp, (Option.some.inj hv').symm⟩

omit [KeyOrder κ] [DecidableEq κ] in
theorem adjust_adjust (t : Table κ α) (f g : κ → α → α) :
    (t.adjust f).adjust g = t.adjust fun k v => g k (f k v) := by
  simp [adjust, Function.comp_def]

omit [KeyOrder κ] [DecidableEq κ] in
theorem adjust_id (t : Table κ α) : (t.adjust fun _ v => v) = t := by
  simp [adjust]

omit [KeyOrder κ] [DecidableEq κ] in
theorem keys_ascending (t : Table κ α) : t.keys.Pairwise (· < ·) :=
  List.pairwise_map.mpr t.ascending

omit [DecidableEq κ] in
theorem keys_nodup (t : Table κ α) : t.keys.Nodup := by
  apply t.keys_ascending.imp
  intro j k hlt heq
  rw [heq] at hlt
  exact KeyOrder.irrefl _ hlt

omit [KeyOrder κ] in
theorem length_keys_erase_le (t : Table κ α) (k : κ) :
    (t.erase k).keys.length ≤ t.keys.length := by
  simp only [keys, erase, filter, List.length_map]
  exact List.length_filter_le _ _

theorem length_keys_erase_lt {t : Table κ α} {k : κ} {v : α} (h : t.find? k = some v) :
    (t.erase k).keys.length < t.keys.length := by
  simp only [keys, erase, filter, List.length_map, List.length_filter_lt_length_iff_exists]
  exact ⟨(k, v), mem_rows_iff.mpr h, by simp⟩

/-- The last key is the greatest one. -/
theorem greatest_of_getLast? {t : Table κ α} {k : κ} (h : t.keys.getLast? = some k) :
    (∃ v, t.find? k = some v) ∧ ∀ j v, t.find? j = some v → j = k ∨ j < k := by
  obtain ⟨init, hkeys⟩ := List.getLast?_eq_some_iff.mp h
  have hascending := t.keys_ascending
  rw [hkeys, List.pairwise_append] at hascending
  refine ⟨mem_keys_iff.mp (List.mem_of_getLast? h), fun j v hv => ?_⟩
  have hmem : j ∈ t.keys := mem_keys_iff.mpr ⟨v, hv⟩
  rw [hkeys, List.mem_append, List.mem_singleton] at hmem
  rcases hmem with hinit | rfl
  · exact .inr (hascending.2.2 j hinit k List.mem_cons_self)
  · exact .inl rfl

theorem getLast?_of_greatest {t : Table κ α} {k : κ} {v : α} (hv : t.find? k = some v)
    (hgreatest : ∀ j w, t.find? j = some w → j = k ∨ j < k) : t.keys.getLast? = some k := by
  cases hlast : t.keys.getLast? with
  | none =>
      have hmem : k ∈ t.keys := mem_keys_iff.mpr ⟨v, hv⟩
      simp [List.getLast?_eq_none_iff.mp hlast] at hmem
  | some l =>
      obtain ⟨⟨w, hw⟩, hbelow⟩ := greatest_of_getLast? hlast
      rcases hgreatest l w hw with rfl | hlt
      · rfl
      · rcases hbelow k v hv with rfl | hgt
        · rfl
        · exact absurd (KeyOrder.trans hlt hgt) (KeyOrder.irrefl l)

/-- A row with a key beyond all others becomes the last one. -/
theorem rows_put_of_beyond [DecidableLT κ] {t : Table κ α} {k : κ} (h : ∀ j ∈ t.keys, j < k)
    (v : α) : (t.put k v).rows = t.rows ++ [(k, v)] := by
  obtain ⟨rows, hascending⟩ := t
  simp only [put]
  simp only [keys] at h
  induction rows with
  | nil => rfl
  | cons r rest ih =>
      rw [List.map_cons, List.forall_mem_cons] at h
      have hbefore : ¬ k < r.1 := fun hlt => KeyOrder.irrefl k (KeyOrder.trans hlt h.1)
      have hother : ¬ k = r.1 := fun heq => KeyOrder.irrefl k (heq ▸ h.1)
      rw [placeRow, if_neg hbefore, if_neg hother, ih (List.pairwise_cons.mp hascending).2 h.2,
        List.cons_append]

theorem contains_put [DecidableLT κ] (t : Table κ α) (k j : κ) (v : α) :
    (t.put k v).contains j = true ↔ j = k ∨ t.contains j = true := by
  rw [contains, find?_put, contains]
  by_cases hj : j = k <;> simp [hj]

omit [KeyOrder κ] in
theorem contains_erase (t : Table κ α) (k j : κ) :
    (t.erase k).contains j = true ↔ j ≠ k ∧ t.contains j = true := by
  rw [contains, find?_erase, contains]
  by_cases hj : j = k <;> simp [hj]

omit [KeyOrder κ] in
theorem find?_erase_eq_some_iff {t : Table κ α} {k j : κ} {v : α} :
    (t.erase k).find? j = some v ↔ j ≠ k ∧ t.find? j = some v := by
  rw [find?_erase]
  by_cases hj : j = k <;> simp [hj]

omit [KeyOrder κ] in
theorem contains_adjust (t : Table κ α) (f : κ → α → α) (k : κ) :
    (t.adjust f).contains k = t.contains k := by
  rw [contains, find?_adjust, Option.isSome_map, contains]

end PackageIndex.Table
