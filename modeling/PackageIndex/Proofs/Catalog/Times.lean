import PackageIndex.Proofs.Catalog.Bump
import PackageIndex.Proofs.Catalog.Effects
import PackageIndex.Proofs.Catalog.Hiding
import PackageIndex.Proofs.Instant
/-!
The epoch as the first of all times. A package is stored with the time it is given, with the one it
had or with the epoch, so as long as no operation is given a time before the epoch, no package has
one. Where nothing is earlier, a package that is put first at the epoch is handed out before every
package with a later time.
-/
namespace PackageIndex.Catalog

/-- One operation that writes, with no time before the epoch for a package. The clock, which dates
queued and bad paths, may be anywhere. -/
inductive StepSinceEpoch (c : Catalog) : Catalog → Prop
  | addNewCrawl (clock : Instant) (path : String) (hasSubdirs : Bool) :
      StepSinceEpoch c (c.addNewCrawl clock path hasSubdirs).2
  | popNewCrawl : StepSinceEpoch c c.popNewCrawl.2
  | markBad (clock : Instant) (path : String) : StepSinceEpoch c (c.markBad clock path)
  | put (d : Document) {nextCrawl? : Option Instant} (suppressed : Bool) :
      (∀ at', nextCrawl? = some at' → Instant.epoch ≤ at') →
      StepSinceEpoch c (c.putDocument d nextCrawl? suppressed)
  | delete (path : String) : StepSinceEpoch c (c.delete path)
  | setNextCrawl (root etag : String) {at' : Instant} :
      Instant.epoch ≤ at' → StepSinceEpoch c (c.setNextCrawl root etag at')
  | bump (root : String) : StepSinceEpoch c (c.bump root).2
  | writeBlob (clock : Instant) (key : String) (value : ByteArray) :
      StepSinceEpoch c (c.writeBlob clock key value)

/-- Operations with no time before the epoch lead from one catalog to another one. -/
abbrev LeadsSinceEpoch : Catalog → Catalog → Prop := Relation.ReflTransGen StepSinceEpoch

/-- No package has a time before the epoch. -/
def SinceEpoch (c : Catalog) : Prop :=
  ∀ path row, c.packages.find? path = some row → Instant.epoch.secs ≤ row.nextCrawl

/-- A package whose time is the epoch. -/
def AtEpoch (c : Catalog) (path : String) : Prop :=
  ∃ row, c.packages.find? path = some row ∧ row.nextCrawl = Instant.epoch.secs

variable {c c' : Catalog}

theorem StepSinceEpoch.step (h : StepSinceEpoch c c') : Step c c' := by
  cases h with
  | addNewCrawl clock path hasSubdirs => exact .addNewCrawl clock path hasSubdirs
  | popNewCrawl => exact .popNewCrawl
  | markBad clock path => exact .markBad clock path
  | put d suppressed _ => exact .put d _ suppressed
  | delete path => exact .delete path
  | setNextCrawl root etag _ => exact .setNextCrawl root etag _
  | bump root => exact .bump root
  | writeBlob clock key value => exact .writeBlob clock key value

theorem leads_of_leadsSinceEpoch (h : LeadsSinceEpoch c c') : Leads c c' :=
  Relation.ReflTransGen.mono (fun _ _ => StepSinceEpoch.step) _ _ h

theorem sinceEpoch_empty : SinceEpoch {} := by
  intro path row hrow
  cases hrow

namespace SinceEpoch

/-- Every time that is new is not before the epoch. -/
theorem of_rows (h : c.SinceEpoch)
    (hrows : ∀ path row', c'.packages.find? path = some row' →
      Instant.epoch.secs ≤ row'.nextCrawl ∨
      ∃ row, c.packages.find? path = some row ∧ row'.nextCrawl = row.nextCrawl) :
    c'.SinceEpoch := by
  intro path row' hrow'
  rcases hrows path row' hrow' with hnew | ⟨row, hrow, htime⟩
  · exact hnew
  · rw [htime]
    exact h path row hrow

theorem of_packages (h : c.SinceEpoch) (hsame : c'.packages = c.packages) : c'.SinceEpoch :=
  h.of_rows fun _ row hrow => .inr ⟨row, hsame ▸ hrow, rfl⟩

theorem of_stores {d : Document} {at' : Instant} {suppressed : Bool} (h : c.SinceEpoch)
    (hstores : c.Stores d at' suppressed c') (hat : Instant.epoch ≤ at') : c'.SinceEpoch := by
  refine h.of_rows fun path row' hrow' => ?_
  rcases hstores.row_of_find? hrow' with ⟨_, rfl⟩ | ⟨_, hbefore⟩
  · exact .inl (Instant.secs_le_of_le hat)
  · exact .inr ⟨row', hbefore, rfl⟩

theorem of_changes {p : String → PackageRow → Prop} {secs : Int} (h : c.SinceEpoch)
    (hchanges : Table.Changes p (fun _ row => { row with nextCrawl := secs }) c.packages
      c'.packages) (hsecs : Instant.epoch.secs ≤ secs) : c'.SinceEpoch := by
  refine h.of_rows fun path row' hrow' => ?_
  obtain ⟨row, hrow, ⟨_, rfl⟩ | ⟨_, rfl⟩⟩ := hchanges.of_find? hrow'
  · exact .inl hsecs
  · exact .inr ⟨row', hrow, rfl⟩

theorem of_reschedules {root etag : String} {at' : Instant} (h : c.SinceEpoch)
    (hmoved : c.Reschedules root etag at' c') (hat : Instant.epoch ≤ at') : c'.SinceEpoch :=
  h.of_changes hmoved.changes (Instant.secs_le_of_le hat)

theorem of_bumps {roots : String → Prop} (h : c.SinceEpoch) (hbumps : c.Bumps roots c') :
    c'.SinceEpoch :=
  h.of_changes ⟨hbumps.bumped, hbumps.others⟩ (Int.le_refl _)

theorem of_deletes {path : String} (h : c.SinceEpoch) (hdeletes : c.Deletes path c') :
    c'.SinceEpoch :=
  h.of_rows fun _ row hrow => .inr ⟨row, (hdeletes.row_of_find? hrow).2, rfl⟩

theorem of_keepsRow (h : c.SinceEpoch) (hkeeps : ∀ path, c.KeepsRow path c') :
    c'.SinceEpoch := by
  refine h.of_rows fun path row' hrow' => .inr ?_
  cases hrow : c.packages.find? path with
  | none =>
      rw [(hkeeps path).gone hrow] at hrow'
      cases hrow'
  | some row =>
      obtain ⟨kept, hkept, rfl | hhidden⟩ := (hkeeps path).kept row hrow
      · obtain rfl := Option.some.inj (hkept.symm.trans hrow')
        exact ⟨_, rfl, rfl⟩
      · obtain rfl := Option.some.inj (hkept.symm.trans hrow')
        exact ⟨row, rfl, hhidden.nextCrawl⟩

/-- Without a time a package keeps its own, and a new one gets the epoch. -/
theorem putDocument {nextCrawl? : Option Instant} (h : c.SinceEpoch) (d : Document)
    (suppressed : Bool) (hat : ∀ at', nextCrawl? = some at' → Instant.epoch ≤ at') :
    (c.putDocument d nextCrawl? suppressed).SinceEpoch := by
  cases nextCrawl? with
  | some at' => exact h.of_stores (stores_iff.mpr rfl) (hat at' rfl)
  | none =>
      intro path row hrow
      simp only [Catalog.putDocument, Table.find?_put] at hrow
      split at hrow
      · obtain rfl := Option.some.inj hrow
        simp only [PackageRow.ofDocument]
        split
        next hnone => cases hnone
        next before _ hbefore => exact h _ before hbefore
        next => exact Int.le_refl _
      · exact h path row hrow

theorem step (h : c.SinceEpoch) (hstep : StepSinceEpoch c c') : c'.SinceEpoch := by
  cases hstep with
  | addNewCrawl clock path hasSubdirs =>
      exact h.of_packages (tables_addNewCrawl c clock path hasSubdirs).1
  | popNewCrawl => exact h.of_packages (tables_popNewCrawl c).1
  | put d suppressed hat => exact h.putDocument d suppressed hat
  | delete path => exact h.of_deletes (deletes_iff.mpr rfl)
  | setNextCrawl root etag hat => exact h.of_reschedules (reschedules_iff.mpr rfl) hat
  | bump root =>
      rw [bump_eq]
      exact h.of_bumps (bumps_iff.mpr rfl)
  | markBad | writeBlob => exact h.of_packages rfl

theorem leads (h : c.SinceEpoch) (hleads : LeadsSinceEpoch c c') : c'.SinceEpoch := by
  induction hleads with
  | refl => exact h
  | tail _ hstep ih => exact ih.step hstep

end SinceEpoch

/-- Where no time is before the epoch, the first package has it as soon as any package has. -/
theorem AtEpoch.of_first {path path' : String} {row : PackageRow} (h : c.AtEpoch path)
    (hsince : c.SinceEpoch) (hfirst : c.packages.First (·.nextCrawl) path' row) :
    row.nextCrawl = Instant.epoch.secs := by
  obtain ⟨row', hrow', htime⟩ := h
  have hnotBefore := hsince path' row hfirst.stored
  by_cases hpath : path = path'
  · subst hpath
    rw [← htime, Option.some.inj (hrow'.symm.trans hfirst.stored)]
  · rcases hfirst.least path row' hrow' hpath with hlt | ⟨heq, _⟩ <;> omega

theorem exists_first (h : ∃ path row, c.packages.find? path = some row) :
    ∃ path row, c.packages.First (·.nextCrawl) path row := by
  cases hfirst : c.mostOverdueRow? with
  | none =>
      obtain ⟨path, row, hrow⟩ := h
      rw [mostOverdueRow?_eq_none_iff.mp hfirst path] at hrow
      cases hrow
  | some found =>
      obtain ⟨path, row⟩ := found
      exact ⟨path, row, mostOverdueRow?_eq_some_iff.mp hfirst⟩

/-- A package is bumped when any is counted. -/
theorem exists_atEpoch_of_bump {root : String} (h : 0 < (c.bump root).1) :
    ∃ path, (c.bump root).2.AtEpoch path := by
  rw [bump_eq, projectSize, List.countP_pos_iff] at h
  obtain ⟨row, hmem, hroot⟩ := h
  obtain ⟨⟨path, row⟩, hrow, rfl⟩ := List.mem_map.mp hmem
  have hbumps : c.Bumps (· ∈ [root]) (c.bump root).2 := by
    rw [bump_eq]
    exact bumps_iff.mpr rfl
  exact ⟨path, _, hbumps.bumped path row (Table.mem_rows_iff.mp hrow) (by simpa using hroot), rfl⟩

/-- The catalog hands a package at the epoch out as long as it has one. -/
theorem mostOverdue_of_atEpoch {path : String} (h : c.AtEpoch path) (hsince : c.SinceEpoch)
    (hwritten : c.Written) :
    ∃ entry, c.mostOverdue = .ok (some entry) ∧ c.AtEpoch entry.record.importPath ∧
      entry.record.nextCrawl = Instant.epoch := by
  obtain ⟨row, hrow, _⟩ := id h
  obtain ⟨first, row', hfirst⟩ := exists_first ⟨path, row, hrow⟩
  have htime := h.of_first hsince hfirst
  obtain ⟨r, hread, hpath⟩ := (hwritten first row' hfirst.stored).exists_record
  obtain ⟨_, _, _, hnext⟩ := record?_fields hread
  refine ⟨c.entry r, ?_, ⟨row', hpath ▸ hfirst.stored, htime⟩, ?_⟩
  · simp only [mostOverdue, mostOverdueRow?_eq_some_iff.mpr hfirst, hread]
  · rw [entry, hnext, htime]
    rfl

end PackageIndex.Catalog
