import PackageIndex.Proofs.UpdatePoll.Outcome
/-!
A poll moment by moment. Whoever stops a poll leaves the catalog of some moment, so what holds at
every moment is what the next poll can build on: the cursor changes last, when the bump of every
reported identifier has been tried.
-/
namespace PackageIndex.UpdatePoll

/-- Where a poll stands between two operations. -/
structure Moment where
  catalog : Catalog
  asked : Option String := none
  batch : Option UpdateBatch := none
  /-- The identifiers whose bump has been tried, in this order. -/
  tried : List String := []
  summary : PollSummary := ⟨0, 0, 0⟩
  exit : Option (Except Interruption PollSummary) := none

section

variable (feed : UpdateFeed) (faultsAt : Nat → CatalogFaults) (clock : Instant)

def ask (m : Moment) : Moment :=
  match UpdateCursor.load (faultsAt 0) m.catalog with
  | .error e => { m with exit := some (.error (.failed e)) }
  | .ok cursor =>
    match feed.poll cursor with
    | .error (.error reason) =>
      { m with asked := some cursor, exit := some (failedWith "Update feed request failed" reason) }
    | .error (.crash p) => { m with asked := some cursor, exit := some (.error (.crashed p)) }
    | .ok batch =>
      { m with asked := some cursor, batch := some batch, summary := ⟨batch.changed.length, 0, 0⟩ }

def tryBump (id : String) (m : Moment) : Moment :=
  let (summary, catalog) := bumpAll feed faultsAt (m.tried.length + 1) [id] m.summary m.catalog
  { m with catalog, summary, tried := m.tried ++ [id] }

def storeCursor (batch : UpdateBatch) (m : Moment) : Moment :=
  match UpdateCursor.store (faultsAt (batch.changed.length + 1)) clock batch.cursor m.catalog with
  | .ok ((), catalog) => { m with catalog, exit := some (.ok m.summary) }
  | .error e => { m with exit := some (failedWith "Failed to store update cursor" e.message) }

/-- The next operation, and nothing more once the poll is over. -/
def next (m : Moment) : Moment :=
  match m.exit, m.batch with
  | some _, _ => m
  | none, none => ask feed faultsAt m
  | none, some batch =>
    match batch.changed[m.tried.length]? with
    | some id => tryBump feed faultsAt id m
    | none => storeCursor faultsAt clock batch m

def moment (c : Catalog) : Nat → Moment
  | 0 => { catalog := c }
  | n + 1 => next feed faultsAt clock (moment c n)

/-- The feed answered a batch, and the bumps of its first identifiers have been tried. -/
def bumping (c : Catalog) (cursor : String) (batch : UpdateBatch) (tried : List String) : Moment :=
  let after := bumpAll feed faultsAt 1 tried ⟨batch.changed.length, 0, 0⟩ c
  { catalog := after.2, asked := some cursor, batch := some batch, tried, summary := after.1 }

/-- The poll of an answered batch is over. -/
def stored (c : Catalog) (cursor : String) (batch : UpdateBatch) : Moment :=
  { bumping feed faultsAt c cursor batch batch.changed with
    catalog := (apply feed faultsAt clock batch c).2
    exit := some (apply feed faultsAt clock batch c).1 }

/-- The moments of a poll. -/
inductive Stands (c : Catalog) : Moment → Prop
  | begun : Stands c { catalog := c }
  | unanswered {asked : Option String} {exit : Except Interruption PollSummary} :
      poll feed faultsAt clock c = ⟨exit, c, asked, none⟩ →
      Stands c { catalog := c, asked, exit := some exit }
  | bumping {cursor : String} {batch : UpdateBatch} {tried todo : List String} :
      UpdateCursor.load (faultsAt 0) c = .ok cursor → feed.poll cursor = .ok batch →
      batch.changed = tried ++ todo → Stands c (bumping feed faultsAt c cursor batch tried)
  | stored {cursor : String} {batch : UpdateBatch} :
      UpdateCursor.load (faultsAt 0) c = .ok cursor → feed.poll cursor = .ok batch →
      Stands c (stored feed faultsAt clock c cursor batch)

end

variable {feed : UpdateFeed} {faultsAt : Nat → CatalogFaults} {clock : Instant} {c : Catalog}

theorem bumpAll_append (n : Nat) (ids ids' : List String) (summary : PollSummary) (c : Catalog) :
    bumpAll feed faultsAt n (ids ++ ids') summary c =
      bumpAll feed faultsAt (n + ids.length) ids' (bumpAll feed faultsAt n ids summary c).1
        (bumpAll feed faultsAt n ids summary c).2 := by
  induction ids generalizing n summary c with
  | nil => rfl
  | cons id rest ih =>
      rw [List.cons_append, List.length_cons, Nat.add_comm rest.length, ← Nat.add_assoc]
      simp only [bumpAll]
      split <;> exact ih _ _ _

theorem next_begun : next feed faultsAt clock { catalog := c } = ask feed faultsAt { catalog := c } := rfl

theorem next_bumping {cursor id : String} {batch : UpdateBatch} {tried todo : List String}
    (h : batch.changed = tried ++ id :: todo) :
    next feed faultsAt clock (bumping feed faultsAt c cursor batch tried) =
      bumping feed faultsAt c cursor batch (tried ++ [id]) := by
  have hid : batch.changed[tried.length]? = some id := by
    rw [h, List.getElem?_append_right (Nat.le_refl _), Nat.sub_self]
    rfl
  simp only [next, bumping, hid, tryBump, bumpAll_append, Nat.add_comm 1]

theorem next_bumped {cursor : String} {batch : UpdateBatch} :
    next feed faultsAt clock (bumping feed faultsAt c cursor batch batch.changed) =
      stored feed faultsAt clock c cursor batch := by
  have hnone : batch.changed[batch.changed.length]? = none := by simp
  simp only [next, bumping, stored, hnone, storeCursor, apply]
  generalize UpdateCursor.store _ _ _ _ = result
  rcases result with e | ⟨⟨⟩, c'⟩ <;> rfl

theorem Stands.next {m : Moment} (h : Stands feed faultsAt clock c m) :
    Stands feed faultsAt clock c (next feed faultsAt clock m) := by
  cases h with
  | begun =>
      rw [next_begun]
      cases hload : UpdateCursor.load (faultsAt 0) c with
      | error e =>
          simp only [ask, hload]
          apply Stands.unanswered
          simp only [poll, hload]
      | ok cursor =>
          cases hanswer : feed.poll cursor with
          | error failure =>
              cases failure <;> simp only [ask, hload, hanswer] <;> apply Stands.unanswered <;>
                simp only [poll, hload, hanswer, failedWith]
          | ok batch =>
              simp only [ask, hload, hanswer]
              exact .bumping hload hanswer (List.nil_append _).symm
  | unanswered hpoll => exact .unanswered hpoll
  | @bumping cursor batch tried todo hload hanswer hchanged =>
      cases todo with
      | nil =>
          rw [List.append_nil] at hchanged
          subst hchanged
          rw [next_bumped]
          exact .stored hload hanswer
      | cons id todo =>
          rw [next_bumping hchanged]
          exact .bumping hload hanswer (by rw [hchanged, List.append_assoc]; rfl)
  | stored hload hanswer => exact .stored hload hanswer

theorem stands_moment (feed : UpdateFeed) (faultsAt : Nat → CatalogFaults) (clock : Instant)
    (c : Catalog) (n : Nat) :
    Stands feed faultsAt clock c (moment feed faultsAt clock c n) := by
  induction n with
  | zero => exact .begun
  | succ n ih => exact ih.next

/-- A feed that reports one project from its start on. -/
def reportsOne : UpdateFeed where
  poll := fun _ => .ok { cursor := "1", changed := ["a"] }
  projectRoot := id

end PackageIndex.UpdatePoll
