import Mathlib.Logic.Hydra
import Mathlib.Logic.Relation
import PackageIndex.Suppression
/-!
The pool of workers step by step. A schedule is followed by steps, and what steps lead to is
reached by a schedule. As long as some package has no settled verdict a step is possible, with any
number of workers, and no evaluation takes steps forever.
-/
namespace PackageIndex.Suppression

section

variable (scorer : Scorer) (faults : CatalogFaults) (credentials : Option Credentials)
  (workers : UInt64)

/-- One step of an evaluation. -/
inductive Moves (p : Progress) : Progress → Prop
  | take {before after : List Record} {record : Record} :
      p.waiting = before ++ record :: after → p.running.length < capacity workers →
      Moves p { p with
        waiting := before ++ after
        running := p.running ++ [(record, scorer record credentials)] }
  | visit {before after : List (Record × Scoring)} {record : Record}
      {change : Catalog → Catalog} {next : Catalog → Scoring} :
      p.running = before ++ (record, .visit change next) :: after →
      Moves p { p with
        catalog := change p.catalog
        running := before ++ (record, next p.catalog) :: after }
  | hand {before after : List (Record × Scoring)} {record : Record} {scoring : Scoring}
      {verdict : Verdict} :
      p.running = before ++ (record, scoring) :: after →
      scoring.verdict? record.importPath = some verdict → p.handed.length < capacity workers →
      Moves p { p with
        running := before ++ after
        handed := p.handed ++ [(record, verdict)] }
  | settle {after : List (Record × Verdict)} {record : Record} {verdict : Verdict} :
      p.handed = (record, verdict) :: after →
      Moves p (settle faults record verdict { p with handed := after })

abbrev Reaches : Progress → Progress → Prop :=
  Relation.ReflTransGen (Moves scorer faults credentials workers)

end

variable {scorer : Scorer} {faults : CatalogFaults} {credentials : Option Credentials}
  {workers : UInt64} {p p' : Progress}

theorem exists_split {α : Type} {l : List α} {i : Nat} {a : α} (h : l[i]? = some a) :
    ∃ before after, l = before ++ a :: after ∧ l.eraseIdx i = before ++ after ∧
      ∀ b, l.set i b = before ++ b :: after := by
  obtain ⟨hi, rfl⟩ := List.getElem?_eq_some_iff.mp h
  refine ⟨l.take i, l.drop (i + 1), ?_, List.eraseIdx_eq_take_drop_succ l i, fun b => ?_⟩
  · rw [List.getElem_cons_drop, List.take_append_drop]
  · rw [List.set_eq_take_append_cons_drop, if_pos hi]

theorem moves_of_step? {e : Event} (h : step? scorer faults credentials workers p e = some p') :
    Moves scorer faults credentials workers p p' := by
  cases e with
  | take i =>
      simp only [step?] at h
      split at h
      · cases h
      next record hrecord =>
        obtain ⟨before, after, hsplit, herase, _⟩ := exists_split hrecord
        split at h
        next hfree =>
          cases h
          rw [herase]
          exact .take hsplit hfree
        next => cases h
  | visit i =>
      simp only [step?] at h
      split at h
      next record change next hrunning =>
        obtain ⟨before, after, hsplit, _, hset⟩ := exists_split hrunning
        cases h
        rw [hset]
        exact .visit hsplit
      next => cases h
  | hand i =>
      simp only [step?] at h
      split at h
      · cases h
      next record scoring hrunning =>
        obtain ⟨before, after, hsplit, herase, _⟩ := exists_split hrunning
        split at h
        · cases h
        next verdict hverdict =>
          split at h
          next hroom =>
            cases h
            rw [herase]
            exact .hand hsplit hverdict hroom
          next => cases h
  | settle =>
      simp only [step?] at h
      split at h
      · cases h
      next record verdict after hhanded =>
        cases h
        exact .settle hhanded

theorem Moves.exists_event (h : Moves scorer faults credentials workers p p') :
    ∃ e, step? scorer faults credentials workers p e = some p' := by
  cases h with
  | @take before after record hsplit hfree =>
      refine ⟨.take before.length, ?_⟩
      simp [step?, hsplit, hfree, List.eraseIdx_append_of_length_le]
  | @visit before after record change next hsplit =>
      refine ⟨.visit before.length, ?_⟩
      simp [step?, hsplit]
  | @hand before after record scoring verdict hsplit hverdict hroom =>
      refine ⟨.hand before.length, ?_⟩
      simp [step?, hsplit, hverdict, hroom, List.eraseIdx_append_of_length_le]
  | settle hhanded =>
      refine ⟨.settle, ?_⟩
      simp only [step?, hhanded]

theorem moves_iff : Moves scorer faults credentials workers p p' ↔
    ∃ e, step? scorer faults credentials workers p e = some p' :=
  ⟨Moves.exists_event, fun ⟨_, h⟩ => moves_of_step? h⟩

theorem reaches_follow (schedule : List Event) (p : Progress) :
    Reaches scorer faults credentials workers p
      (follow scorer faults credentials workers schedule p) := by
  induction schedule generalizing p with
  | nil => exact .refl
  | cons e schedule ih =>
      rw [follow, List.foldl_cons]
      cases hstep : step? scorer faults credentials workers p e with
      | none => exact ih p
      | some p' => exact .head (moves_of_step? hstep) (ih p')

/-- What can be reached is reached by a schedule. -/
theorem exists_schedule (h : Reaches scorer faults credentials workers p p') :
    ∃ schedule, follow scorer faults credentials workers schedule p = p' := by
  induction h with
  | refl => exact ⟨[], rfl⟩
  | tail _ hmoves ih =>
      obtain ⟨schedule, rfl⟩ := ih
      obtain ⟨e, he⟩ := hmoves.exists_event
      refine ⟨schedule ++ [e], ?_⟩
      rw [follow, List.foldl_append]
      simp only [follow] at he
      simp only [List.foldl_cons, List.foldl_nil, he, Option.getD_some]

theorem Moves.takeFirst {record : Record} {after : List Record} (h : p.waiting = record :: after)
    (hfree : p.running.length < capacity workers) :
    Moves scorer faults credentials workers p { p with
      waiting := after
      running := p.running ++ [(record, scorer record credentials)] } := by
  have hsplit : p.waiting = [] ++ record :: after := h
  exact .take hsplit hfree

theorem Moves.visitFirst {record : Record} {change : Catalog → Catalog} {next : Catalog → Scoring}
    {after : List (Record × Scoring)} (h : p.running = (record, .visit change next) :: after) :
    Moves scorer faults credentials workers p { p with
      catalog := change p.catalog
      running := (record, next p.catalog) :: after } := by
  have hsplit : p.running = [] ++ (record, .visit change next) :: after := h
  exact .visit hsplit

theorem Moves.handFirst {record : Record} {scoring : Scoring} {verdict : Verdict}
    {after : List (Record × Scoring)} (h : p.running = (record, scoring) :: after)
    (hended : scoring.verdict? record.importPath = some verdict)
    (hroom : p.handed.length < capacity workers) :
    Moves scorer faults credentials workers p { p with
      running := after
      handed := p.handed ++ [(record, verdict)] } := by
  have hsplit : p.running = [] ++ (record, scoring) :: after := h
  exact .hand hsplit hended hroom

/-- Every package of the listing has a settled verdict. -/
structure Finished (p : Progress) : Prop where
  waiting : p.waiting = []
  running : p.running = []
  handed : p.handed = []

theorem capacity_pos (workers : UInt64) : 0 < capacity workers := by
  simp only [capacity]
  omega

variable (scorer faults credentials workers) in
theorem exists_moves (h : ¬ Finished p) :
    ∃ p', Moves scorer faults credentials workers p p' := by
  cases hhanded : p.handed with
  | cons r after => exact ⟨_, .settle hhanded⟩
  | nil =>
      -- With no verdict to settle there is room for the next one, and a worker that
      -- does nothing is free.
      have hroom : p.handed.length < capacity workers := by simp [hhanded, capacity_pos]
      cases hrunning : p.running with
      | cons r after =>
          obtain ⟨record, scoring⟩ := r
          cases scoring with
          | answered answer => exact ⟨_, .handFirst hrunning rfl hroom⟩
          | crashed payload => exact ⟨_, .handFirst hrunning rfl hroom⟩
          | visit change next => exact ⟨_, .visitFirst hrunning⟩
      | nil =>
          have hfree : p.running.length < capacity workers := by simp [hrunning, capacity_pos]
          cases hwaiting : p.waiting with
          | cons record after => exact ⟨_, .takeFirst hwaiting hfree⟩
          | nil => exact absurd ⟨hwaiting, hrunning, hhanded⟩ h

/-- A scoring goes on by what it found. -/
inductive GoesOn : Scoring → Scoring → Prop
  | next (change : Catalog → Catalog) (next : Catalog → Scoring) (c : Catalog) :
      GoesOn (next c) (.visit change next)

theorem wellFounded_goesOn : WellFounded GoesOn := by
  constructor
  intro scoring
  induction scoring with
  | answered answer => exact ⟨_, fun _ h => by cases h⟩
  | crashed payload => exact ⟨_, fun _ h => by cases h⟩
  | visit change next ih =>
      refine ⟨_, fun scoring h => ?_⟩
      cases h with
      | next _ _ c => exact ih c

/-- What is left to do: packages to be taken, scorings to go on, and verdicts to be settled. -/
def remaining (p : Progress) : Nat × Multiset Scoring × Nat :=
  (p.waiting.length, (p.running.map Prod.snd : List Scoring), p.handed.length)

theorem settle_fields (faults : CatalogFaults) (record : Record) (verdict : Verdict)
    (p : Progress) :
    (settle faults record verdict p).waiting = p.waiting ∧
      (settle faults record verdict p).running = p.running ∧
      (settle faults record verdict p).handed = p.handed ∧
      (settle faults record verdict p).settled = p.settled ++ [(record, verdict)] := by
  simp only [settle]
  split <;> exact ⟨rfl, rfl, rfl, rfl⟩

theorem scorings_split (before after : List (Record × Scoring)) (record : Record)
    (scoring : Scoring) :
    (((before ++ (record, scoring) :: after).map Prod.snd : List Scoring) : Multiset Scoring) =
      (((before ++ after).map Prod.snd : List Scoring) : Multiset Scoring) + {scoring} := by
  rw [← Multiset.coe_singleton, Multiset.coe_add, Multiset.coe_eq_coe]
  simp only [List.map_append, List.map_cons]
  exact List.perm_middle.trans (List.perm_append_singleton _ _).symm

/-- No evaluation takes steps forever. -/
theorem wellFounded_moves (scorer : Scorer) (faults : CatalogFaults)
    (credentials : Option Credentials) (workers : UInt64) :
    WellFounded fun p' p => Moves scorer faults credentials workers p p' := by
  have hless : WellFounded (Prod.Lex (· < · : Nat → Nat → Prop)
      (Prod.Lex (Relation.CutExpand GoesOn) (· < · : Nat → Nat → Prop))) :=
    WellFounded.prod_lex Nat.lt_wfRel.wf
      (WellFounded.prod_lex wellFounded_goesOn.cutExpand Nat.lt_wfRel.wf)
  refine Subrelation.wf (fun {p' p} h => ?_) (InvImage.wf remaining hless)
  -- Only taking a package adds a scoring, and only handing one on adds a verdict to be settled;
  -- what they take away from stands before what they add to.
  cases h with
  | take hsplit _ =>
      apply Prod.Lex.left
      simp [hsplit]
  | @visit before after record change next hsplit =>
      apply Prod.Lex.right
      apply Prod.Lex.left
      simp only [hsplit, scorings_split]
      exact Relation.cutExpand_add_single _ (.next change next p.catalog)
  | @hand before after record scoring verdict hsplit _ _ =>
      apply Prod.Lex.right
      apply Prod.Lex.left
      simp only [hsplit, scorings_split]
      simpa using (Relation.cutExpand_add_left (t := 0) _).mpr
        (Relation.cutExpand_singleton (r := GoesOn) (x := scoring) (by simp))
  | @settle after record verdict hhanded =>
      obtain ⟨hwaiting, hrunning, hhanded', _⟩ :=
        settle_fields faults record verdict { p with handed := after }
      simp only [InvImage, remaining, hwaiting, hrunning, hhanded', hhanded]
      exact .right _ (.right _ (by simp))

end PackageIndex.Suppression
