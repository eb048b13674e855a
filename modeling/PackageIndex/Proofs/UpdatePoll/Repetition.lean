import Mathlib.Logic.Relation
import PackageIndex.Proofs.UpdatePoll.Cursor
import PackageIndex.Proofs.UpdatePoll.Moments
/-!
Polls of one batch again and again. With the same bumps refused every time, a poll that comes to
its end leaves what the set of the reported identifiers says, and the time at which it wrote its
cursor. So it may be repeated, and polls that were stopped before they stored their cursor leave
nothing that the next one does not do anyway.
-/
namespace PackageIndex.UpdatePoll

/-- What a poll meets besides the catalog. -/
structure Surroundings where
  feed : UpdateFeed
  faultsAt : Nat → CatalogFaults := fun _ _ => none
  clock : Instant := .epoch

def pollIn (s : Surroundings) (c : Catalog) : Result := poll s.feed s.faultsAt s.clock c

/-- The answer to the cursor of a catalog is a batch. -/
def Receives (s : Surroundings) (batch : UpdateBatch) (c : Catalog) : Prop :=
  ∃ cursor, UpdateCursor.load (s.faultsAt 0) c = .ok cursor ∧ s.feed.poll cursor = .ok batch

section

variable (root : String → String) (failing : String → Prop)

/-- The feed names projects as `root` does, and exactly the bumps of the `failing` ones are
refused, whenever they are tried. -/
structure Agrees (s : Surroundings) : Prop where
  projectRoot : s.feed.projectRoot = root
  bumps : ∀ n project, s.faultsAt n (.bump project) = none ↔ ¬ failing project

/-- A poll of a catalog gets a batch and comes to its end. -/
structure Completes (s : Surroundings) (batch : UpdateBatch) (c : Catalog) : Prop where
  agrees : Agrees root failing s
  receives : Receives s batch c
  exit : ∃ summary, (pollIn s c).exit = .ok summary

/-- A poll of a catalog gets a batch, but does not store its cursor: that is refused, or the poll
is stopped before. -/
inductive Stops (batch : UpdateBatch) (c : Catalog) : Catalog → Prop
  | refused {s : Surroundings} {reason : String} :
      Agrees root failing s → Receives s batch c →
      s.faultsAt (batch.changed.length + 1) (.writeBlob UpdateCursor.key) = some reason →
      Stops batch c (pollIn s c).catalog
  | killed {s : Surroundings} {n : Nat} :
      Agrees root failing s → Receives s batch c → (moment s.feed s.faultsAt s.clock c n).exit = none →
      Stops batch c (moment s.feed s.faultsAt s.clock c n).catalog

/-- What a poll leaves, and what another one leaves in its place: the cursor's blob has the time
of the other poll, and nothing else differs. -/
structure Agree (s s' : Surroundings) (c c' : Catalog) : Prop where
  dated : ∃ row, c.blobs.find? UpdateCursor.key = some row ∧
    c' = c.writeBlob s'.clock UpdateCursor.key row.value
  sameTime : s'.clock = s.clock → c' = c

/-- A project that a batch puts first. -/
def Reported (batch : UpdateBatch) (project : String) : Prop :=
  ¬ failing project ∧ ∃ id ∈ batch.changed, root id = project

end

variable {root : String → String} {failing : String → Prop} {s : Surroundings}
  {batch : UpdateBatch} {c c' : Catalog}

theorem mem_passedRoots (h : Agrees root failing s) {ids : List String} {n : Nat}
    {project : String} : project ∈ passedRoots s.feed s.faultsAt (ids.zipIdx n) ↔
      ¬ failing project ∧ ∃ id ∈ ids, root id = project := by
  have hpasses (r : String × Nat) :
      Passes s.feed s.faultsAt r ↔ ¬ failing (root r.1) := by
    rw [Passes, h.bumps, h.projectRoot]
  simp only [passedRoots, List.mem_map, List.mem_filter, decide_eq_true_eq, hpasses, h.projectRoot]
  constructor
  · rintro ⟨⟨id, k⟩, ⟨hmem, hpass⟩, rfl⟩
    exact ⟨hpass, id, List.fst_mem_of_mem_zipIdx hmem, rfl⟩
  · rintro ⟨hpass, id, hid, rfl⟩
    rw [← List.zipIdx_map_fst n ids] at hid
    obtain ⟨r, hr, rfl⟩ := List.mem_map.mp hid
    exact ⟨r, ⟨hr, hpass⟩, rfl⟩

theorem pollIn_of_receives (h : Receives s batch c) :
    (pollIn s c).exit = (apply s.feed s.faultsAt s.clock batch c).1 ∧
      (pollIn s c).catalog = (apply s.feed s.faultsAt s.clock batch c).2 ∧
      (pollIn s c).reported = some batch.changed.length := by
  obtain ⟨cursor, hload, hanswer⟩ := h
  simp only [pollIn, poll, hload, hanswer, and_self]

theorem catalog_of_refused {reason : String} (h : Receives s batch c)
    (hwrite : s.faultsAt (batch.changed.length + 1) (.writeBlob UpdateCursor.key) = some reason) :
    (pollIn s c).catalog = c.bumpRoots (passedRoots s.feed s.faultsAt (places batch)) := by
  rw [(pollIn_of_receives h).2.1, apply_of_refused hwrite]

/-- A poll that comes to its end puts the reported projects first and stores the cursor. -/
theorem Completes.catalog_eq (h : Completes root failing s batch c) :
    (pollIn s c).catalog = (c.bumpRoots (passedRoots s.feed s.faultsAt (places batch))).writeBlob
      s.clock UpdateCursor.key (UpdateCursor.encode batch.cursor) := by
  obtain ⟨summary, hexit⟩ := h.exit
  obtain ⟨hexit', hcatalog, _⟩ := pollIn_of_receives h.receives
  cases hwrite : s.faultsAt (batch.changed.length + 1) (.writeBlob UpdateCursor.key) with
  | none => rw [hcatalog, apply_of_stored hwrite]
  | some reason =>
      rw [hexit', apply_of_refused hwrite] at hexit
      cases hexit

/-- The cursor that a poll stores stands in its blob, with the time of the poll. -/
theorem Completes.find?_blob (h : Completes root failing s batch c) :
    (pollIn s c).catalog.blobs.find? UpdateCursor.key =
      some (.written s.clock (UpdateCursor.encode batch.cursor)) := by
  rw [h.catalog_eq, Catalog.writeBlob, Table.find?_put, if_pos rfl]

theorem Completes.mem_passedRoots (h : Completes root failing s batch c) (project : String) :
    project ∈ passedRoots s.feed s.faultsAt (places batch) ↔ Reported root failing batch project :=
  UpdatePoll.mem_passedRoots h.agrees

/-- A poll that was stopped has put some of the reported projects first, and done nothing else. -/
theorem Stops.exists_roots (h : Stops root failing batch c c') :
    ∃ roots, c' = c.bumpRoots roots ∧ ∀ project ∈ roots, Reported root failing batch project := by
  cases h with
  | refused hagrees hreceives hwrite =>
      refine ⟨_, catalog_of_refused hreceives hwrite, ?_⟩
      intro project
      exact (mem_passedRoots hagrees).mp
  | @killed s n hagrees hreceives hexit =>
      have hstands := stands_moment s.feed s.faultsAt s.clock c n
      generalize moment s.feed s.faultsAt s.clock c n = m at hstands hexit
      cases hstands with
      | begun => exact ⟨[], c.bumpRoots_nil.symm, by simp⟩
      | unanswered => cases hexit
      | stored => cases hexit
      | @bumping cursor batch' tried todo hload hanswer hchanged =>
          obtain ⟨cursor', hload', hanswer'⟩ := hreceives
          rw [hload, Except.ok.injEq] at hload'
          rw [← hload', hanswer, Except.ok.injEq] at hanswer'
          subst hanswer'
          refine ⟨passedRoots s.feed s.faultsAt (tried.zipIdx 1), ?_, ?_⟩
          · simp only [bumping, bumpAll_eq]
          · intro project hproject
            obtain ⟨hpass, id, hid, hroot⟩ := (mem_passedRoots hagrees).mp hproject
            exact ⟨hpass, id, hchanged ▸ List.mem_append_left _ hid, hroot⟩

theorem exists_roots_of_stops (h : Relation.ReflTransGen (Stops root failing batch) c c') :
    ∃ roots, c' = c.bumpRoots roots ∧ ∀ project ∈ roots, Reported root failing batch project := by
  induction h with
  | refl => exact ⟨[], c.bumpRoots_nil.symm, by simp⟩
  | tail _ hstops ih =>
      obtain ⟨before, rfl, hbefore⟩ := ih
      obtain ⟨roots, rfl, hroots⟩ := hstops.exists_roots
      refine ⟨before ++ roots, (c.bumpRoots_append before roots).symm, ?_⟩
      intro project hproject
      exact (List.mem_append.mp hproject).elim (hbefore project) (hroots project)

theorem bumpRoots_writeBlob (roots : List String) (c : Catalog) (clock : Instant) (key : String)
    (value : ByteArray) :
    (c.writeBlob clock key value).bumpRoots roots = (c.bumpRoots roots).writeBlob clock key value :=
  rfl

theorem writeBlob_writeBlob (c : Catalog) (clock clock' : Instant) (key : String)
    (value value' : ByteArray) :
    (c.writeBlob clock key value).writeBlob clock' key value' = c.writeBlob clock' key value' := by
  simp only [Catalog.writeBlob, Table.put_put]

/-- Two polls that write one cursor leave the same but for its time. -/
theorem agree_writeBlob (s s' : Surroundings) (c : Catalog) (value : ByteArray) :
    Agree s s' (c.writeBlob s.clock UpdateCursor.key value)
      (c.writeBlob s'.clock UpdateCursor.key value) where
  dated := by
    refine ⟨.written s.clock value, ?_, ?_⟩
    · rw [Catalog.writeBlob, Table.find?_put, if_pos rfl]
    · rw [writeBlob_writeBlob]
      rfl
  sameTime := fun hclock => by rw [hclock]

/-- With the same bumps refused, the catalog after a poll that came to its end does not depend on
the order of the reported identifiers nor on how often one is reported; a second such poll of the
same batch changes nothing but the time of the cursor's blob, and is counted like the first one;
and after any polls of the batch that were stopped before their cursor was stored, one that comes
to its end leaves the catalog and the cursor that it would have left at once. -/
theorem polls_can_be_repeated (root : String → String) (failing : String → Prop) (s : Surroundings)
    (batch : UpdateBatch) (c : Catalog) (h : Completes root failing s batch c) :
    (∀ s' batch', Completes root failing s' batch' c → batch'.cursor = batch.cursor →
      (∀ id, id ∈ batch'.changed ↔ id ∈ batch.changed) →
      Agree s s' (pollIn s c).catalog (pollIn s' c).catalog) ∧
    (∀ s', Completes root failing s' batch (pollIn s c).catalog →
      Agree s s' (pollIn s c).catalog (pollIn s' (pollIn s c).catalog).catalog ∧
      (pollIn s' (pollIn s c).catalog).reported = some batch.changed.length) ∧
    ∀ s' c', Relation.ReflTransGen (Stops root failing batch) c c' →
      Completes root failing s' batch c' →
      Agree s s' (pollIn s c).catalog (pollIn s' c').catalog ∧
      (pollIn s' c').catalog.readBlob UpdateCursor.key =
        some (UpdateCursor.encode batch.cursor) := by
  have hsame {s' : Surroundings} {c' : Catalog} (h' : Completes root failing s' batch c') (project) :
      project ∈ passedRoots s'.feed s'.faultsAt (places batch) ↔
        project ∈ passedRoots s.feed s.faultsAt (places batch) := by
    rw [h'.mem_passedRoots, h.mem_passedRoots]
  refine ⟨?_, ?_, ?_⟩
  · intro s' batch' h' hcursor hids
    have hbumped : c.bumpRoots (passedRoots s'.feed s'.faultsAt (places batch')) =
        c.bumpRoots (passedRoots s.feed s.faultsAt (places batch)) := by
      apply Catalog.bumpRoots_congr
      intro project
      rw [h'.mem_passedRoots, h.mem_passedRoots]
      simp only [Reported, hids]
    rw [h'.catalog_eq, h.catalog_eq, hcursor, hbumped]
    exact agree_writeBlob s s' _ _
  · intro s' h'
    refine ⟨?_, (pollIn_of_receives h'.receives).2.2⟩
    rw [h'.catalog_eq, h.catalog_eq, bumpRoots_writeBlob, writeBlob_writeBlob,
      Catalog.bumpRoots_congr (hsame h'), Catalog.bumpRoots_absorb fun _ hroot => hroot]
    exact agree_writeBlob s s' _ _
  · intro s' c' hstops h'
    obtain ⟨roots, rfl, hroots⟩ := exists_roots_of_stops hstops
    have habsorb : ∀ project ∈ roots,
        project ∈ passedRoots s.feed s.faultsAt (places batch) := by
      intro project hproject
      exact (h.mem_passedRoots project).mpr (hroots project hproject)
    constructor
    · rw [h'.catalog_eq, h.catalog_eq, Catalog.bumpRoots_congr (hsame h'),
        Catalog.bumpRoots_absorb habsorb]
      exact agree_writeBlob s s' _ _
    · rw [Catalog.readBlob, h'.find?_blob]
      rfl

/-- A package that the feed reports, due in the hundredth second. -/
def oneReported : Catalog :=
  ({} : Catalog).putDocument { importPath := "a", projectRoot := "a" } (some ⟨100, 0⟩) false

def faultless (clock : Instant) : Surroundings := { feed := reportsOne, clock }

/-- The catalog takes no blob. -/
def unwritable : Surroundings where
  feed := reportsOne
  faultsAt := fun _ op => if op = .writeBlob UpdateCursor.key then some "full" else none

theorem completes_faultless (clock : Instant) {cursor : String} (h : KeepsCursor c cursor) :
    Completes id (fun _ => False) (faultless clock) { cursor := "1", changed := ["a"] } c := by
  have hreceives : Receives (faultless clock) { cursor := "1", changed := ["a"] } c :=
    ⟨cursor, load_of_keepsCursor rfl h, rfl⟩
  have hexit := (pollIn_of_receives hreceives).1
  rw [apply_of_stored rfl] at hexit
  exact ⟨⟨rfl, fun _ _ => by simp [faultless]⟩, hreceives, _, hexit⟩

/-- A poll that cannot store its cursor and one that can leave what the second one alone does. -/
theorem failed_poll_is_made_good :
    (pollIn (faultless .epoch) (pollIn unwritable oneReported).catalog).catalog =
      (pollIn (faultless .epoch) oneReported).catalog := by
  have hagrees : Agrees id (fun _ => False) unwritable := ⟨rfl, fun _ _ => by simp [unwritable]⟩
  have hstops : Stops id (fun _ => False) { cursor := "1", changed := ["a"] } oneReported
      (pollIn unwritable oneReported).catalog :=
    .refused hagrees ⟨"", rfl, rfl⟩ rfl
  exact ((polls_can_be_repeated id (fun _ => False) (faultless .epoch) _ oneReported
    (completes_faultless .epoch (.absent rfl))).2.2 (faultless .epoch) _ (.single hstops)
    (completes_faultless .epoch (.absent rfl))).1.sameTime rfl

/-- The second one of two polls, a second later, dates the blob anew. -/
theorem second_poll_dates_the_blob :
    ¬ ∀ (root : String → String) (failing : String → Prop) (s s' : Surroundings)
      (batch : UpdateBatch) (c : Catalog), Completes root failing s batch c →
      Completes root failing s' batch (pollIn s c).catalog →
      (pollIn s' (pollIn s c).catalog).catalog = (pollIn s c).catalog := by
  intro h
  have hfirst : Completes id (fun _ => False) (faultless .epoch)
      { cursor := "1", changed := ["a"] } oneReported := completes_faultless .epoch (.absent rfl)
  have hsecond := completes_faultless ⟨1, 0⟩
    (.stored hfirst.find?_blob (UpdateCursor.decode?_encode "1"))
  have hdated := hsecond.find?_blob
  rw [h _ _ _ _ _ _ hfirst hsecond, hfirst.find?_blob] at hdated
  have htimes := congrArg BlobRow.updatedAt (Option.some.inj hdated)
  exact absurd htimes (by decide)

end PackageIndex.UpdatePoll
