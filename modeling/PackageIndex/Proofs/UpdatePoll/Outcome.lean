import Mathlib.Algebra.GroupWithZero.Nat
import PackageIndex.UpdatePoll
import PackageIndex.Proofs.Catalog.Bump
/-!
What a poll of the update feed leaves. The outcomes say, for every answer of the feed and every
refusal of the catalog, which packages are put first, what becomes of the stored cursor and what
is counted. The poll has exactly one outcome.
-/
namespace PackageIndex.UpdatePoll

/-- The cursor that the catalog keeps; without a blob it is the empty one. -/
inductive KeepsCursor (c : Catalog) : String → Prop
  | absent : c.blobs.find? UpdateCursor.key = none → KeepsCursor c ""
  | stored {row : BlobRow} {cursor : String} :
      c.blobs.find? UpdateCursor.key = some row →
      UpdateCursor.decode? row.value = some cursor → KeepsCursor c cursor

/-- The identifiers of a batch, each with the number of the operations before its bump. -/
def places (batch : UpdateBatch) : List (String × Nat) := batch.changed.zipIdx 1

section

variable (feed : UpdateFeed) (faultsAt : Nat → CatalogFaults) (clock : Instant)

/-- The bump of an identifier goes through at its place. -/
def Passes (r : String × Nat) : Prop := faultsAt r.2 (.bump (feed.projectRoot r.1)) = none

instance (r : String × Nat) : Decidable (Passes feed faultsAt r) :=
  inferInstanceAs (Decidable (_ = none))

/-- The projects of the identifiers whose bump goes through. -/
def passedRoots (rs : List (String × Nat)) : List String :=
  (rs.filter fun r => Passes feed faultsAt r).map fun r => feed.projectRoot r.1

/-- What a poll of a batch counts, told by the catalog that it starts from. -/
structure Counts (batch : UpdateBatch) (c : Catalog) (summary : PollSummary) : Prop where
  changed : summary.changed = batch.changed.length
  failed : summary.failed = (places batch).countP fun r => ¬ Passes feed faultsAt r
  bumped : summary.bumped =
    ((passedRoots feed faultsAt (places batch)).map c.projectSize).sum

/-- A poll that ends with an error of its own. -/
def failedWith (message reason : String) : Except Interruption PollSummary :=
  .error (.failed (.executionFailed (becauseOf message reason)))

inductive Outcome (c : Catalog) : Result → Prop
  | notRead {reason : String} :
      faultsAt 0 (.readBlob UpdateCursor.key) = some reason →
      Outcome c ⟨failedWith "Failed to read update cursor" reason, c, none, none⟩
  | corrupt {row : BlobRow} :
      faultsAt 0 (.readBlob UpdateCursor.key) = none →
      c.blobs.find? UpdateCursor.key = some row → UpdateCursor.decode? row.value = none →
      Outcome c ⟨.error (.failed (.config
        (becauseOf "Stored update cursor is corrupt" Cause.json.mark))), c, none, none⟩
  | notAnswered {cursor reason : String} :
      faultsAt 0 (.readBlob UpdateCursor.key) = none → KeepsCursor c cursor →
      feed.poll cursor = .error (.error reason) →
      Outcome c ⟨failedWith "Update feed request failed" reason, c, some cursor, none⟩
  | crashed {cursor : String} {p : Payload} :
      faultsAt 0 (.readBlob UpdateCursor.key) = none → KeepsCursor c cursor →
      feed.poll cursor = .error (.crash p) →
      Outcome c ⟨.error (.crashed p), c, some cursor, none⟩
  | notStored {cursor reason : String} {batch : UpdateBatch} {c' : Catalog} :
      faultsAt 0 (.readBlob UpdateCursor.key) = none → KeepsCursor c cursor →
      feed.poll cursor = .ok batch →
      c.Bumps (· ∈ passedRoots feed faultsAt (places batch)) c' →
      faultsAt (batch.changed.length + 1) (.writeBlob UpdateCursor.key) = some reason →
      c'.blobs = c.blobs →
      Outcome c ⟨failedWith "Failed to store update cursor" reason, c', some cursor,
        some batch.changed.length⟩
  | stored {cursor : String} {batch : UpdateBatch} {c' : Catalog} {summary : PollSummary} :
      faultsAt 0 (.readBlob UpdateCursor.key) = none → KeepsCursor c cursor →
      feed.poll cursor = .ok batch →
      c.Bumps (· ∈ passedRoots feed faultsAt (places batch)) c' →
      faultsAt (batch.changed.length + 1) (.writeBlob UpdateCursor.key) = none →
      Table.Sets UpdateCursor.key (some (.written clock (UpdateCursor.encode batch.cursor)))
        c.blobs c'.blobs →
      Counts feed faultsAt batch c summary →
      Outcome c ⟨.ok summary, c', some cursor, some batch.changed.length⟩

end

variable {feed : UpdateFeed} {faultsAt : Nat → CatalogFaults} {clock : Instant} {c : Catalog}

theorem load_of_refused {faults : CatalogFaults} {reason : String}
    (h : faults (.readBlob UpdateCursor.key) = some reason) :
    UpdateCursor.load faults c =
      .error (.executionFailed (becauseOf "Failed to read update cursor" reason)) := by
  simp only [UpdateCursor.load, Access.readBlob, Access.guarded_of_some _ _ h, StoreError.message]

theorem load_of_corrupt {faults : CatalogFaults} {row : BlobRow}
    (h : faults (.readBlob UpdateCursor.key) = none)
    (hrow : c.blobs.find? UpdateCursor.key = some row)
    (hdecode : UpdateCursor.decode? row.value = none) :
    UpdateCursor.load faults c =
      .error (.config (becauseOf "Stored update cursor is corrupt" Cause.json.mark)) := by
  simp only [UpdateCursor.load, Access.readBlob, Access.guarded_of_none _ _ h, Access.reading,
    Except.map, Catalog.readBlob, hrow, Option.map_some, hdecode]

theorem load_of_keepsCursor {faults : CatalogFaults} {cursor : String}
    (h : faults (.readBlob UpdateCursor.key) = none) (hcursor : KeepsCursor c cursor) :
    UpdateCursor.load faults c = .ok cursor := by
  cases hcursor with
  | absent hnone =>
      simp only [UpdateCursor.load, Access.readBlob, Access.guarded_of_none _ _ h, Access.reading,
        Except.map, Catalog.readBlob, hnone, Option.map_none]
  | stored hrow hdecode =>
      simp only [UpdateCursor.load, Access.readBlob, Access.guarded_of_none _ _ h, Access.reading,
        Except.map, Catalog.readBlob, hrow, Option.map_some, hdecode]

theorem passedRoots_cons (r : String × Nat) (rs : List (String × Nat)) :
    passedRoots feed faultsAt (r :: rs) =
      (if Passes feed faultsAt r then [feed.projectRoot r.1] else []) ++
        passedRoots feed faultsAt rs := by
  by_cases h : Passes feed faultsAt r <;> simp [passedRoots, h]

/-- The bumps of some identifiers together put the projects of those first that go through. -/
theorem bumpAll_eq (n : Nat) (ids : List String) (summary : PollSummary) (c : Catalog) :
    bumpAll feed faultsAt n ids summary c =
      ({ summary with
          bumped := summary.bumped +
            ((passedRoots feed faultsAt (ids.zipIdx n)).map c.projectSize).sum
          failed := summary.failed +
            (ids.zipIdx n).countP fun r => ¬ Passes feed faultsAt r },
        c.bumpRoots (passedRoots feed faultsAt (ids.zipIdx n))) := by
  induction ids generalizing n summary c with
  | nil => simp [bumpAll, passedRoots, Catalog.bumpRoots_nil]
  | cons id rest ih =>
      rw [bumpAll, List.zipIdx_cons, passedRoots_cons, List.countP_cons]
      cases hf : faultsAt n (.bump (feed.projectRoot id)) with
      | none =>
          have hpasses : Passes feed faultsAt (id, n) := hf
          simp only [Access.bump, Access.guarded_of_none _ _ hf, Catalog.bump_eq, ih, hpasses,
            Catalog.projectSize_bumpRoots, Catalog.bumpRoots_append, ite_true, List.map_append,
            List.sum_append, List.map_singleton, List.sum_singleton, Nat.add_assoc, not_true,
            decide_false, Bool.false_eq_true, ite_false, Nat.add_zero]
      | some reason =>
          have hpasses : ¬ Passes feed faultsAt (id, n) := by simp [Passes, hf]
          simp only [Access.bump, Access.guarded_of_some _ _ hf, ih, hpasses, ite_false,
            List.nil_append, not_false_eq_true, decide_true, ite_true, Nat.add_assoc,
            Nat.add_comm 1]

theorem poll_of_answer {cursor : String} {batch : UpdateBatch}
    (hread : faultsAt 0 (.readBlob UpdateCursor.key) = none) (hcursor : KeepsCursor c cursor)
    (hanswer : feed.poll cursor = .ok batch) :
    poll feed faultsAt clock c =
      ⟨(apply feed faultsAt clock batch c).1, (apply feed faultsAt clock batch c).2, some cursor,
        some batch.changed.length⟩ := by
  simp only [poll, load_of_keepsCursor hread hcursor, hanswer]

theorem apply_of_refused {batch : UpdateBatch} {reason : String}
    (h : faultsAt (batch.changed.length + 1) (.writeBlob UpdateCursor.key) = some reason) :
    apply feed faultsAt clock batch c =
      (failedWith "Failed to store update cursor" reason,
        c.bumpRoots (passedRoots feed faultsAt (places batch))) := by
  simp only [apply, bumpAll_eq, UpdateCursor.store, Access.writeBlob,
    Access.guarded_of_some _ _ h, StoreError.message]
  rfl

theorem apply_of_stored {batch : UpdateBatch}
    (h : faultsAt (batch.changed.length + 1) (.writeBlob UpdateCursor.key) = none) :
    apply feed faultsAt clock batch c =
      (.ok { changed := batch.changed.length
             bumped := ((passedRoots feed faultsAt (places batch)).map c.projectSize).sum
             failed := (places batch).countP fun r => ¬ Passes feed faultsAt r },
        (c.bumpRoots (passedRoots feed faultsAt (places batch))).writeBlob clock
          UpdateCursor.key (UpdateCursor.encode batch.cursor)) := by
  simp only [apply, bumpAll_eq, UpdateCursor.store, Access.writeBlob,
    Access.guarded_of_none _ _ h, Access.writing, Nat.zero_add]
  rfl

theorem Outcome.eq_poll {result : Result} (h : Outcome feed faultsAt clock c result) :
    result = poll feed faultsAt clock c := by
  cases h with
  | notRead hread => rw [poll, load_of_refused hread, failedWith]
  | corrupt hread hrow hdecode => rw [poll, load_of_corrupt hread hrow hdecode]
  | notAnswered hread hcursor hanswer =>
      simp only [poll, load_of_keepsCursor hread hcursor, hanswer, failedWith]
  | crashed hread hcursor hanswer =>
      simp only [poll, load_of_keepsCursor hread hcursor, hanswer]
  | notStored hread hcursor hanswer hbumps hwrite hblobs =>
      rw [Catalog.bumps_iff, hblobs] at hbumps
      rw [poll_of_answer hread hcursor hanswer, apply_of_refused hwrite, hbumps]
      rfl
  | stored hread hcursor hanswer hbumps hwrite hblobs hcounts =>
      rw [Catalog.bumps_iff, Table.sets_some_iff.mp hblobs] at hbumps
      rw [poll_of_answer hread hcursor hanswer, apply_of_stored hwrite, hbumps,
        ← hcounts.changed, ← hcounts.failed, ← hcounts.bumped]
      rfl

variable (feed faultsAt clock c)

theorem exists_outcome : ∃ result, Outcome feed faultsAt clock c result := by
  cases hread : faultsAt 0 (.readBlob UpdateCursor.key) with
  | some reason => exact ⟨_, .notRead hread⟩
  | none =>
      let roots (batch : UpdateBatch) := passedRoots feed faultsAt (places batch)
      have hanswered {cursor : String} (hcursor : KeepsCursor c cursor) :
          ∃ result, Outcome feed faultsAt clock c result := by
        cases hanswer : feed.poll cursor with
        | error failure =>
            cases failure with
            | error reason => exact ⟨_, .notAnswered hread hcursor hanswer⟩
            | crash p => exact ⟨_, .crashed hread hcursor hanswer⟩
        | ok batch =>
            cases hwrite : faultsAt (batch.changed.length + 1) (.writeBlob UpdateCursor.key) with
            | some reason =>
                have hbumps : c.Bumps (· ∈ roots batch) (c.bumpRoots (roots batch)) :=
                  Catalog.bumps_iff.mpr rfl
                exact ⟨_, .notStored hread hcursor hanswer hbumps hwrite rfl⟩
            | none =>
                have hbumps : c.Bumps (· ∈ roots batch)
                    ((c.bumpRoots (roots batch)).writeBlob clock UpdateCursor.key
                      (UpdateCursor.encode batch.cursor)) :=
                  Catalog.bumps_iff.mpr rfl
                have hcounts : Counts feed faultsAt batch c ⟨_, _, _⟩ := ⟨rfl, rfl, rfl⟩
                exact ⟨_, .stored hread hcursor hanswer hbumps hwrite
                  (Table.sets_some_iff.mpr rfl) hcounts⟩
      cases hrow : c.blobs.find? UpdateCursor.key with
      | none => exact hanswered (.absent hrow)
      | some row =>
          cases hdecode : UpdateCursor.decode? row.value with
          | none => exact ⟨_, .corrupt hread hrow hdecode⟩
          | some cursor => exact hanswered (.stored hrow hdecode)

theorem outcome_iff_eq_poll {result : Result} :
    Outcome feed faultsAt clock c result ↔ result = poll feed faultsAt clock c := by
  refine ⟨Outcome.eq_poll, ?_⟩
  rintro rfl
  obtain ⟨result, h⟩ := exists_outcome feed faultsAt clock c
  rwa [← h.eq_poll]

end PackageIndex.UpdatePoll
