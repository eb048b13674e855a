/-!
Keyed tables. The rows of a table stand in strictly ascending order of their keys, so a
key occurs at most once and a listing needs no sorting. `find?` is the view of a table
that the lemmas of its operations speak about.
-/
namespace PackageIndex

/-- A strict order in which any two keys can be told apart. -/
class KeyOrder (κ : Type) [LT κ] : Prop where
  irrefl (a : κ) : ¬ a < a
  trans {a b c : κ} : a < b → b < c → a < c
  eq_of_not_lt {a b : κ} : ¬ a < b → ¬ b < a → a = b

instance : KeyOrder String where
  irrefl := String.lt_irrefl
  trans := String.lt_trans
  eq_of_not_lt h h' := String.le_antisymm (String.not_lt.mp h') (String.not_lt.mp h)

instance : KeyOrder Int where
  irrefl := Int.lt_irrefl
  trans := Int.lt_trans
  eq_of_not_lt h h' := Int.le_antisymm (Int.not_lt.mp h') (Int.not_lt.mp h)

structure Table (κ α : Type) [LT κ] where
  rows : List (κ × α)
  ascending : rows.Pairwise fun a b => a.1 < b.1

namespace Table

variable {κ α : Type} [LT κ]

def empty : Table κ α := ⟨[], List.Pairwise.nil⟩

instance : Inhabited (Table κ α) := ⟨empty⟩

instance [DecidableEq κ] [DecidableEq α] : DecidableEq (Table κ α) :=
  fun a b => decidable_of_iff (a.rows = b.rows) (by cases a; cases b; simp)

def keys (t : Table κ α) : List κ := t.rows.map Prod.fst

def values (t : Table κ α) : List α := t.rows.map Prod.snd

def find? [DecidableEq κ] (t : Table κ α) (k : κ) : Option α :=
  (t.rows.find? fun r => r.1 = k).map Prod.snd

def contains [DecidableEq κ] (t : Table κ α) (k : κ) : Bool := (t.find? k).isSome

/-- Places a row among ascending rows, instead of one with the same key. -/
def placeRow [DecidableLT κ] [DecidableEq κ] (k : κ) (v : α) : List (κ × α) → List (κ × α)
  | [] => [(k, v)]
  | r :: rest =>
    if k < r.1 then (k, v) :: r :: rest
    else if k = r.1 then (k, v) :: rest
    else r :: placeRow k v rest

theorem mem_placeRow [DecidableLT κ] [DecidableEq κ] {k : κ} {v : α} {rows : List (κ × α)}
    {r : κ × α} (h : r ∈ placeRow k v rows) : r = (k, v) ∨ r ∈ rows := by
  induction rows with
  | nil => simpa [placeRow] using h
  | cons s rest ih =>
    simp only [placeRow] at h
    split at h
    · simpa using h
    · split at h
      · rcases List.mem_cons.mp h with h | h
        · exact .inl h
        · exact .inr (List.mem_cons_of_mem _ h)
      · rcases List.mem_cons.mp h with h | h
        · exact .inr (h ▸ List.mem_cons_self)
        · exact (ih h).imp_right (List.mem_cons_of_mem _)

theorem placeRow_ascending [DecidableLT κ] [DecidableEq κ] [KeyOrder κ]
    {k : κ} {v : α} {rows : List (κ × α)} (h : rows.Pairwise fun a b => a.1 < b.1) :
    (placeRow k v rows).Pairwise fun a b => a.1 < b.1 := by
  induction rows with
  | nil => simp [placeRow]
  | cons s rest ih =>
    rw [List.pairwise_cons] at h
    simp only [placeRow]
    split
    next hlt =>
      refine List.pairwise_cons.mpr ⟨fun r hr => ?_, List.pairwise_cons.mpr h⟩
      rcases List.mem_cons.mp hr with rfl | hr
      · exact hlt
      · exact KeyOrder.trans hlt (h.1 r hr)
    next hlt =>
      split
      next heq => exact List.pairwise_cons.mpr ⟨fun r hr => heq ▸ h.1 r hr, h.2⟩
      next hne =>
        refine List.pairwise_cons.mpr ⟨fun r hr => ?_, ih h.2⟩
        rcases mem_placeRow hr with rfl | hr
        · exact Classical.byContradiction fun hgt =>
            hne (KeyOrder.eq_of_not_lt hlt hgt)
        · exact h.1 r hr

/-- Adds a row, or replaces the one with the same key. -/
def put [DecidableLT κ] [DecidableEq κ] [KeyOrder κ] (t : Table κ α) (k : κ) (v : α) :
    Table κ α :=
  ⟨placeRow k v t.rows, placeRow_ascending t.ascending⟩

def ofList [DecidableLT κ] [DecidableEq κ] [KeyOrder κ] (rows : List (κ × α)) : Table κ α :=
  rows.foldl (fun t r => t.put r.1 r.2) empty

/-- Keeps the rows that satisfy a test. -/
def filter (t : Table κ α) (p : κ × α → Bool) : Table κ α :=
  ⟨t.rows.filter p, t.ascending.filter p⟩

def erase [DecidableEq κ] (t : Table κ α) (k : κ) : Table κ α := t.filter fun r => r.1 ≠ k

/-- Replaces the value of every row, leaving the keys. -/
def adjust (t : Table κ α) (f : κ → α → α) : Table κ α :=
  ⟨t.rows.map fun r => (r.1, f r.1 r.2), by
    rw [List.pairwise_map]
    exact t.ascending⟩

theorem find?_empty [DecidableEq κ] (k : κ) : (empty : Table κ α).find? k = none := rfl

theorem find?_erase [DecidableEq κ] (t : Table κ α) (k j : κ) :
    (t.erase k).find? j = if j = k then none else t.find? j := by
  obtain ⟨rows, _⟩ := t
  simp only [erase, filter, find?, List.find?_filter]
  split
  next h =>
    subst h
    rw [List.find?_eq_none.mpr (by simp)]
    rfl
  next h =>
    congr 2
    funext r
    by_cases hr : r.1 = j <;> simp [hr, h]

theorem find?_adjust [DecidableEq κ] (t : Table κ α) (f : κ → α → α) (k : κ) :
    (t.adjust f).find? k = (t.find? k).map (f k) := by
  obtain ⟨rows, h⟩ := t
  simp only [adjust, find?]
  clear h
  induction rows with
  | nil => rfl
  | cons r rest ih =>
    by_cases h : r.1 = k
    · simp [h]
    · simpa [List.find?_cons, h] using ih

theorem find?_put [DecidableLT κ] [DecidableEq κ] [KeyOrder κ]
    (t : Table κ α) (k j : κ) (v : α) :
    (t.put k v).find? j = if j = k then some v else t.find? j := by
  obtain ⟨rows, h⟩ := t
  simp only [put, find?]
  induction rows with
  | nil => by_cases hj : j = k <;> simp [placeRow, hj, eq_comm]
  | cons r rest ih =>
    rw [List.pairwise_cons] at h
    simp only [placeRow]
    split
    · by_cases hj : j = k
      · simp [hj]
      · simp [hj, Ne.symm hj]
    · split
      next heq =>
        subst heq
        by_cases hj : j = r.1
        · simp [hj]
        · simp [hj, Ne.symm hj]
      next hne =>
        by_cases hr : r.1 = j
        · subst hr
          simp [Ne.symm hne]
        · simpa [List.find?_cons, hr] using ih h.2

end Table

end PackageIndex
