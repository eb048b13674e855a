import PackageIndex.Catalog
import PackageIndex.Proofs.Table
import PackageIndex.Proofs.Text.ByteOrder
/-!
Which rows the catalog hands out first. The queue and the packages are both searched for the
row with the least time, and of several rows with one time for the least path in the order of
its bytes; this row is unique, and it exists unless the table is empty.
-/
namespace PackageIndex

/-- A row that no other precedes in the order of a measure and then of the paths' bytes. -/
structure Table.First {α : Type} (t : Table String α) (measure : α → Int) (path : String)
    (row : α) : Prop where
  stored : t.find? path = some row
  least : ∀ path' row', t.find? path' = some row' → path' ≠ path →
    measure row < measure row' ∨
      measure row = measure row' ∧ Text.bytes path < Text.bytes path'

namespace Table.First

variable {α : Type} {t : Table String α} {measure : α → Int} {path path' : String} {row row' : α}

theorem unique (h : t.First measure path row) (h' : t.First measure path' row') :
    path' = path ∧ row' = row := by
  have hpath : path' = path := by
    apply Classical.byContradiction
    intro hne
    rcases h.least path' row' h'.stored hne with hlt | ⟨heq, hlt⟩ <;>
      rcases h'.least path row h.stored (Ne.symm hne) with hgt | ⟨heq', hgt⟩
    · omega
    · omega
    · omega
    · exact List.lt_asymm hlt hgt
  subst hpath
  exact ⟨rfl, Option.some.inj (h'.stored.symm.trans h.stored)⟩

theorem not_of_empty (h : ∀ path, t.find? path = none) : ¬ t.First measure path row := by
  intro hfirst
  have hstored := hfirst.stored
  rw [h] at hstored
  cases hstored

end Table.First

namespace Catalog

variable {α : Type}

theorem leastBy_eq_none_iff {measure : α → Int} {l : List α} :
    leastBy measure l = none ↔ l = [] := by
  cases l with
  | nil => simp [leastBy]
  | cons a l =>
      simp only [leastBy]
      split
      · simp
      · split <;> simp

/-- Rows later in the list have to be less in the measure to be preferred. -/
theorem leastBy_spec {measure : α → Int} {l : List α} {before : α → α → Prop} {a : α}
    (hl : l.Pairwise before) (h : leastBy measure l = some a) :
    a ∈ l ∧ ∀ b ∈ l, b ≠ a →
      measure a < measure b ∨ measure a = measure b ∧ before a b := by
  induction l generalizing a with
  | nil => cases h
  | cons c l ih =>
      rw [List.pairwise_cons] at hl
      simp only [leastBy] at h
      cases hrest : leastBy measure l with
      | none =>
          have hnil : l = [] := leastBy_eq_none_iff.mp hrest
          rw [hrest] at h
          cases h
          subst hnil
          refine ⟨List.mem_cons_self, fun b hb hne => ?_⟩
          exact absurd (by simpa using hb) hne
      | some d =>
          obtain ⟨hd, hleast⟩ := ih hl.2 hrest
          simp only [hrest] at h
          split at h
          next hlt =>
            cases h
            refine ⟨List.mem_cons_of_mem _ hd, fun b hb hne => ?_⟩
            rcases List.mem_cons.mp hb with rfl | hb
            · exact .inl hlt
            · exact hleast b hb hne
          next hle =>
            cases h
            refine ⟨List.mem_cons_self, fun b hb hne => ?_⟩
            rcases List.mem_cons.mp hb with rfl | hb
            · exact absurd rfl hne
            · have hbound : measure d ≤ measure b := by
                by_cases hbd : b = d
                · exact Int.le_of_eq (congrArg measure hbd.symm)
                · rcases hleast b hb hbd with h | ⟨h, _⟩ <;> omega
              rcases Int.lt_or_eq_of_le (show measure c ≤ measure b by omega) with h | h
              · exact .inl h
              · exact .inr ⟨h, hl.1 b hb⟩

theorem leastBy_rows_eq_none_iff {t : Table String α} {measure : String × α → Int} :
    leastBy measure t.rows = none ↔ ∀ path, t.find? path = none := by
  rw [leastBy_eq_none_iff, Table.rows_eq_nil_iff]

theorem first_of_leastBy {t : Table String α} {measure : α → Int} {path : String} {row : α}
    (h : leastBy (fun r => measure r.2) t.rows = some (path, row)) :
    t.First measure path row := by
  obtain ⟨hmem, hleast⟩ := leastBy_spec t.ascending h
  refine ⟨Table.mem_rows_iff.mp hmem, fun path' row' hstored hne => ?_⟩
  rw [← Text.lt_iff_bytes_lt]
  exact hleast (path', row') (Table.mem_rows_iff.mpr hstored)
    fun heq => hne (congrArg Prod.fst heq)

/-- The search finds the first row and nothing else. -/
theorem leastBy_rows_eq_some_iff {t : Table String α} {measure : α → Int} {path : String}
    {row : α} :
    leastBy (fun r => measure r.2) t.rows = some (path, row) ↔ t.First measure path row := by
  refine ⟨first_of_leastBy, fun h => ?_⟩
  cases hleast : leastBy (fun r => measure r.2) t.rows with
  | none =>
      exact absurd h (Table.First.not_of_empty (leastBy_rows_eq_none_iff.mp hleast))
  | some r =>
      obtain ⟨hpath, hrow⟩ := h.unique (first_of_leastBy hleast)
      rw [← hpath, ← hrow]

variable {c : Catalog}

theorem popNewCrawl_of_empty (h : ∀ path, c.queue.find? path = none) :
    c.popNewCrawl = (none, c) := by
  have hleast : leastBy (fun r => r.2.queuedAt) c.queue.rows = none :=
    leastBy_rows_eq_none_iff.mpr h
  simp only [popNewCrawl, nextTarget?, hleast, Option.map_none]

theorem popNewCrawl_of_first {path : String} {row : QueueRow}
    (h : c.queue.First (·.queuedAt) path row) :
    c.popNewCrawl = (some ⟨path, row.hasSubdirs⟩, { c with queue := c.queue.erase path }) := by
  have hleast : leastBy (fun r => r.2.queuedAt) c.queue.rows = some (path, row) :=
    leastBy_rows_eq_some_iff.mpr h
  simp only [popNewCrawl, nextTarget?, hleast, Option.map_some]

theorem mostOverdueRow?_eq_none_iff :
    c.mostOverdueRow? = none ↔ ∀ path, c.packages.find? path = none :=
  leastBy_rows_eq_none_iff

theorem mostOverdueRow?_eq_some_iff {path : String} {row : PackageRow} :
    c.mostOverdueRow? = some (path, row) ↔ c.packages.First (·.nextCrawl) path row :=
  leastBy_rows_eq_some_iff

end Catalog

end PackageIndex
