import PackageIndex.Schema.Draft
import PackageIndex.Proofs.Schema.Definition
/-!
What a declared table is made of. Every column has the declared name, type and nullability, the
text that is kept of its default, and the first position of the key if and only if it is declared
as the key.
-/
namespace PackageIndex.Schema

open PackageIndex.Sql

namespace Draft

/-- No column is the key or one is, and then every index is over that column alone. -/
structure HasSoleKey (d : Draft) : Prop where
  notCounted : d.isCounted = false
  keyless : d.hasKey = false → d.indices = [] ∧ ∀ x ∈ d.columns, x.isKey = false
  keyed : ∀ i x, d.columns[i]? = some x → x.isKey = true →
    ∀ j ∈ d.indices, j.columns.map (·.1) = [i]

section

variable {d d' : Draft} {columns : List DraftColumn} {x y : DraftColumn} {b : Bool}
  {rule : ColumnRule} {i : Nat}

theorem hasSoleKey_empty : HasSoleKey {} := ⟨rfl, fun _ => ⟨rfl, nofun⟩, by simp⟩

theorem modify_last (f : DraftColumn → DraftColumn) :
    (columns ++ [x]).modify columns.length f = columns ++ [f x] := by
  simp [List.modify_eq_set_getElem?]

theorem foldlM_ruleIf :
    (ruleIf b rule).foldlM applyColumnRule d = if b then d.applyColumnRule rule else some d := by
  cases b <;> simp [ruleIf]

theorem getElem?_last (h : (columns ++ [x])[i]? = some y) :
    i < columns.length ∧ columns[i]? = some y ∨ i = columns.length ∧ y = x := by
  rcases Nat.lt_trichotomy i columns.length with hlt | rfl | hlt
  · rw [List.getElem?_append_left hlt] at h
    exact .inl ⟨hlt, h⟩
  · rw [List.getElem?_concat_length] at h
    exact .inr ⟨rfl, (Option.some.inj h).symm⟩
  · rw [List.getElem?_eq_none (by simpa using Nat.succ_le_of_lt hlt)] at h
    cases h

/-- The last column may change, as long as it does not become the key. -/
theorem HasSoleKey.replace_last (h : d.HasSoleKey) (hd : d.columns = columns ++ [x])
    (hy : y.isKey = x.isKey) : HasSoleKey { d with columns := columns ++ [y] } where
  notCounted := h.notCounted
  keyless hkeyless := by
    obtain ⟨hindices, hcolumns⟩ := h.keyless hkeyless
    simp only [hd, List.forall_mem_append, List.forall_mem_singleton] at hcolumns ⊢
    exact ⟨hindices, hcolumns.1, hy.trans hcolumns.2⟩
  keyed i z hz hkey := by
    rcases getElem?_last hz with ⟨hlt, hz⟩ | ⟨rfl, rfl⟩
    · exact h.keyed i z (by rw [hd, List.getElem?_append_left hlt, hz]) hkey
    · exact h.keyed _ x (by rw [hd, List.getElem?_concat_length]) (hy ▸ hkey)

theorem addColumn_eq_some {c : ColumnText} (h : d.addColumn c = some d') :
    d' = { d with columns := d.columns ++ [{ name := c.name, type := (reportedType c.type).1
                                             isStandard := (reportedType c.type).2 }] } := by
  unfold addColumn at h
  simp only at h
  split at h
  · cases h
  · exact (Option.some.inj h).symm

theorem HasSoleKey.append (h : d.HasSoleKey) (hx : x.isKey = false) :
    HasSoleKey { d with columns := d.columns ++ [x] } where
  notCounted := h.notCounted
  keyless hkeyless := by
    obtain ⟨hindices, hcolumns⟩ := h.keyless hkeyless
    simp only [List.forall_mem_append, List.forall_mem_singleton]
    exact ⟨hindices, hcolumns, hx⟩
  keyed i z hz hkey := by
    rcases getElem?_last hz with ⟨-, hz⟩ | ⟨rfl, rfl⟩
    · exact h.keyed i z hz hkey
    · rw [hx] at hkey
      cases hkey

theorem modify_eq (hd : d.columns = columns ++ [x]) (f : DraftColumn → DraftColumn) :
    d.modify (d.columns.length - 1) f = { d with columns := columns ++ [f x] } := by
  have hlength : d.columns.length - 1 = columns.length := by simp [hd]
  rw [modify, hlength, hd, modify_last]

theorem getElem?_length_sub_one (hd : d.columns = columns ++ [x]) :
    d.columns[d.columns.length - 1]? = some x := by
  simp [hd]

theorem nonNull_applied (h : d.HasSoleKey) (hd : d.columns = columns ++ [x])
    (hrun : (ruleIf b .nonNull).foldlM applyColumnRule d = some d') :
    d'.HasSoleKey ∧ d'.columns = columns ++ [{ x with nonNull := x.nonNull || b }] := by
  rw [foldlM_ruleIf] at hrun
  cases b with
  | false =>
    cases hrun
    simpa using ⟨h, hd⟩
  | true =>
    rw [if_pos rfl, applyColumnRule, getElem?_length_sub_one hd] at hrun
    simp only [Option.bind_eq_bind, Option.bind_some, modify_eq hd, Option.some.injEq] at hrun
    subst hrun
    exact ⟨h.replace_last hd rfl, by rw [Bool.or_true]⟩

theorem default_applied {kept : List Char} {value? : Option Expr} (h : d.HasSoleKey)
    (hd : d.columns = columns ++ [x])
    (hrun : (ruleIf b (.default kept value?)).foldlM applyColumnRule d = some d') :
    d'.HasSoleKey ∧
      d'.columns = columns ++ [{ x with default? := if b then some kept else x.default? }] := by
  rw [foldlM_ruleIf] at hrun
  cases b with
  | false =>
    cases hrun
    simpa using ⟨h, hd⟩
  | true =>
    rw [if_pos rfl, applyColumnRule, getElem?_length_sub_one hd] at hrun
    obtain ⟨-, hrun⟩ := Option.ite_none_left_eq_some.mp hrun
    rw [modify_eq hd] at hrun
    cases hrun
    exact ⟨h.replace_last hd rfl, rfl⟩

/-- A first key column, with whatever index comes with it. -/
theorem HasSoleKey.of_first (h : d.HasSoleKey) (hfree : d.hasKey = false)
    (hd : d.columns = columns ++ [x]) (hd' : d'.columns = columns ++ [y]) (hkey : d'.hasKey = true)
    (hcounted : d'.isCounted = false)
    (hindices : ∀ j ∈ d'.indices, j.columns.map (·.1) = [columns.length]) : d'.HasSoleKey where
  notCounted := hcounted
  keyless hkeyless := by
    rw [hkey] at hkeyless
    cases hkeyless
  keyed i z hz hzKey := by
    rw [hd'] at hz
    rcases getElem?_last hz with ⟨-, hz⟩ | ⟨rfl, -⟩
    · have hmem : z ∈ d.columns := hd ▸ List.mem_append_left _ (List.mem_of_getElem? hz)
      rw [(h.keyless hfree).2 z hmem] at hzKey
      cases hzKey
    · exact hindices

theorem addIndex_of_nil (h : d.indices = []) (new : DraftIndex) :
    d.addIndex new = some { d with indices := [new] } := by
  simp [addIndex, h]

theorem key_applied (h : d.HasSoleKey) (hd : d.columns = columns ++ [x])
    (hrun : (ruleIf b (.primaryKey false false none)).foldlM applyColumnRule d = some d') :
    d'.HasSoleKey ∧ d'.columns = columns ++ [{ x with isKey := x.isKey || b }] := by
  rw [foldlM_ruleIf] at hrun
  cases b with
  | false =>
    cases hrun
    simpa using ⟨h, hd⟩
  | true =>
    rw [if_pos rfl, applyColumnRule, getElem?_length_sub_one hd] at hrun
    simp only [Option.bind_eq_bind, Option.bind_some] at hrun
    unfold addKey at hrun
    simp only [List.foldl_cons, List.foldl_nil, modify_eq hd] at hrun
    obtain ⟨hfree, hrun⟩ := Option.ite_none_left_eq_some.mp hrun
    have hkeyless : d.hasKey = false := by simpa using (not_or.mp hfree).1
    rw [Bool.or_true]
    split at hrun
    · cases hrun
      refine ⟨h.of_first hkeyless hd rfl rfl rfl ?_, rfl⟩
      simp [(h.keyless hkeyless).1]
    · have hindices := addIndex_of_nil (d := { d with
        columns := columns ++ [{ x with isKey := true }], hasKey := true }) (h.keyless hkeyless).1
      rw [if_neg Bool.false_ne_true] at hrun
      simp only [Option.bind_eq_bind, Option.bind_some] at hrun
      cases (hindices _).symm.trans hrun
      refine ⟨h.of_first hkeyless hd rfl rfl h.notCounted ?_, rfl⟩
      simp [hd]

end

end Draft

/-- A column of a draft is as declared. -/
structure Drafts (c : Column) (x : DraftColumn) : Prop where
  name : Names c.name x.name
  type : x.type = c.type.keyword
  nonNull : x.nonNull = c.nonNull
  default : Option.Rel (fun kept text => Keeps text kept) x.default? c.default?
  isKey : x.isKey = c.isPrimaryKey
  notComputed : x.value? = none

section

open Draft

variable {d d' : Draft} {c : Column} {read : ColumnText}

theorem reportedType_keyword (type : ColumnType) :
    reportedType type.keyword.toList = (type.keyword, true) := by
  cases type <;> decide +kernel

theorem applyColumn_eq_some (h : d.HasSoleKey) (hread : ColumnRead c read)
    (happly : d.applyColumn read = some d') :
    d'.HasSoleKey ∧ ∃ x, Drafts c x ∧ d'.columns = d.columns ++ [x] := by
  obtain ⟨kept, value?, hrules, hkept⟩ := hread.rules
  rw [applyColumn, Option.bind_eq_bind, Option.bind_eq_some_iff] at happly
  obtain ⟨added, hadded, hrun⟩ := happly
  obtain rfl := addColumn_eq_some hadded
  rw [hrules, Column.rules, List.foldlM_append] at hrun
  obtain ⟨d₁, hkey, hrun⟩ := Option.bind_eq_some_iff.mp hrun
  rw [List.foldlM_append] at hrun
  obtain ⟨d₂, hnonNull, hdefault⟩ := Option.bind_eq_some_iff.mp hrun
  obtain ⟨h₁, hd₁⟩ := key_applied (h.append rfl) rfl hkey
  obtain ⟨h₂, hd₂⟩ := nonNull_applied h₁ hd₁ hnonNull
  obtain ⟨h₃, hd₃⟩ := default_applied h₂ hd₂ hdefault
  refine ⟨h₃, _, ⟨hread.name, ?_, Bool.false_or _, ?_, Bool.false_or _, rfl⟩, hd₃⟩
  · rw [hread.type, reportedType_keyword]
  · cases htext : c.default? with
    | none => exact .none
    | some text => exact .some (hkept text htext)

theorem columns_applied {columns : List Column} {reads : List ColumnText} (h : d.HasSoleKey)
    (hreads : List.Forall₂ ColumnRead columns reads)
    (hrun : reads.foldlM applyColumn d = some d') :
    d'.HasSoleKey ∧ ∃ xs, List.Forall₂ Drafts columns xs ∧ d'.columns = d.columns ++ xs := by
  induction hreads generalizing d with
  | nil =>
    cases hrun
    exact ⟨h, [], .nil, (List.append_nil _).symm⟩
  | cons hread _ ih =>
    rw [List.foldlM_cons, Option.bind_eq_bind, Option.bind_eq_some_iff] at hrun
    obtain ⟨mid, happly, hrun⟩ := hrun
    obtain ⟨hmid, x, hx, hcolumns⟩ := applyColumn_eq_some h hread happly
    obtain ⟨hsole, xs, hxs, hcolumns'⟩ := ih hmid hrun
    refine ⟨hsole, x :: xs, .cons hx hxs, ?_⟩
    rw [hcolumns', hcolumns, List.append_assoc, List.singleton_append]

/-- The only column of a key has the first position in it. -/
theorem Draft.HasSoleKey.keyPosition_eq (h : d.HasSoleKey) {i : Nat} {x : DraftColumn}
    (hx : d.columns[i]? = some x) : d.keyPosition i x = if x.isKey then 1 else 0 := by
  unfold keyPosition
  cases hkey : x.isKey with
  | false => rfl
  | true =>
    simp only [Bool.not_true, Bool.false_eq_true, if_false, if_true]
    split
    next => rfl
    next j hj =>
      rw [h.keyed i x hx hkey j (List.mem_of_find?_eq_some hj), List.idxOf_cons_self, Nat.zero_min]

/-- A column as it is reported that is no further one of a key. -/
def DraftColumn.stored (x : DraftColumn) : StoredColumn :=
  ⟨x.name, x.type, x.nonNull, x.default?.map String.ofList, if x.isKey then 1 else 0⟩

theorem Draft.HasSoleKey.storedColumns_eq (h : d.HasSoleKey)
    (hnone : ∀ x ∈ d.columns, x.value? = none) :
    d.storedColumns = d.columns.map DraftColumn.stored := by
  have hpaired : d.columns.mapIdx (fun i x => (x, d.keyPosition i x)) =
      d.columns.map fun x => (x, if x.isKey then 1 else 0) := by
    refine List.ext_getElem? fun i => ?_
    rw [List.getElem?_mapIdx, List.getElem?_map]
    cases hx : d.columns[i]? with
    | none => rfl
    | some x => rw [Option.map_some, Option.map_some, h.keyPosition_eq hx]
  rw [storedColumns, hpaired, List.filterMap_map, ← List.filterMap_eq_map]
  refine List.filterMap_congr fun x hx => ?_
  simp [hnone x hx, DraftColumn.stored]

/-- A column of a database is as declared, but for the text of its default. -/
structure ColumnStored (c : Column) (stored : StoredColumn) : Prop where
  name : Names c.name stored.name
  type : stored.type = c.type.keyword
  nonNull : stored.nonNull = c.nonNull
  default : Option.Rel (fun kept text => Keeps text kept.toList) stored.default? c.default?
  key : stored.keyPosition = 1 ↔ c.isPrimaryKey = true

theorem keeps_map {kept? : Option (List Char)} {text? : Option String}
    (h : Option.Rel (fun kept text => Keeps text kept) kept? text?) :
    Option.Rel (fun kept text => Keeps text kept.toList) (kept?.map String.ofList) text? := by
  cases h with
  | none => exact .none
  | some h => exact .some (by rwa [String.toList_ofList])

theorem Drafts.stored {x : DraftColumn} (h : Drafts c x) : ColumnStored c x.stored := by
  refine ⟨h.name, h.type, h.nonNull, keeps_map h.default, ?_⟩
  rw [← h.isKey, DraftColumn.stored]
  cases x.isKey <;> simp

theorem notComputed_of_drafts {columns : List Column} {xs : List DraftColumn}
    (h : List.Forall₂ Drafts columns xs) : ∀ x ∈ xs, x.value? = none := by
  induction h with
  | nil => nofun
  | cons hx _ ih => exact List.forall_mem_cons.mpr ⟨hx.notComputed, ih⟩

/-- The table that is made of a declared one, with the indices that come with it. -/
structure TableDrafted (t : TableSchema) (d : Drafted) : Prop where
  name : Names t.name d.table.name
  columns : List.Forall₂ ColumnStored t.columns d.table.columns
  notCounted : d.isCounted = false
  indices : ∀ j ∈ d.indices, ∃ n, j.name = automaticName d.table.name n

theorem drafted_of_read {t : TableSchema} {read : TableStatement} {drafted : Drafted}
    (hread : TableRead t read) (h : read.drafted? = some drafted) : TableDrafted t drafted := by
  rw [hread.others] at h
  unfold TableStatement.drafted? at h
  obtain ⟨d, hrun, h⟩ := Option.bind_eq_some_iff.mp h
  obtain ⟨hsole, xs, hxs, hcolumns⟩ := columns_applied hasSoleKey_empty hread.columns hrun
  simp only [List.foldlM_nil, Bool.false_eq_true, if_false, Option.pure_def, Option.bind_eq_bind,
    Option.bind_some] at h
  split at h
  · cases h
  · cases h
    have hnone : ∀ x ∈ d.columns, x.value? = none := by
      rw [hcolumns, List.nil_append]
      exact notComputed_of_drafts hxs
    refine ⟨hread.name, ?_, hsole.notCounted, ?_⟩
    · rw [hsole.storedColumns_eq hnone, hcolumns, List.nil_append, List.forall₂_map_right_iff]
      exact hxs.imp fun _ _ hx => hx.stored
    · intro j hj
      simp only [List.mem_map, List.mem_filter, List.mem_mapIdx] at hj
      obtain ⟨_, ⟨⟨i, hi, rfl⟩, -⟩, rfl⟩ := hj
      exact ⟨i + 1, rfl⟩

end

end PackageIndex.Schema
