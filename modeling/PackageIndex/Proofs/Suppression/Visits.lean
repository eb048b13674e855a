import PackageIndex.Proofs.Suppression.Settlement
/-!
Which scorings visit the catalog, and when. Where every scoring visits the catalog once, the visits
of an evaluation that has come to its end are one for each listed package, in whichever order.
-/
namespace PackageIndex

/-- The scoring has a visit before it. -/
def Scoring.isVisit : Scoring → Bool
  | .visit _ _ => true
  | .answered _ | .crashed _ => false

/-- The scoring has ended, or ends with its next visit. -/
inductive Scoring.VisitsOnce : Scoring → Prop
  | ended {scoring : Scoring} : scoring.isVisit = false → VisitsOnce scoring
  | visit {change : Catalog → Catalog} {next : Catalog → Scoring} :
      (∀ c, (next c).isVisit = false) → VisitsOnce (.visit change next)

theorem Scoring.isVisit_of_verdict? {path : String} {answer : Verdict} {scoring : Scoring}
    (h : scoring.verdict? path = some answer) : scoring.isVisit = false := by
  cases scoring with
  | answered _ => rfl
  | crashed _ => rfl
  | visit _ _ => cases h

namespace Suppression

/-- The package whose scoring an event goes on with, and the catalog that it visits. -/
def visited? (p : Progress) : Event → Option (Record × Catalog)
  | .visit i =>
    match p.running[i]? with
    | some (record, .visit _ _) => some (record, p.catalog)
    | _ => none
  | .take _ | .hand _ | .settle => none

/-- The visits along a schedule. -/
def visits (scorer : Scorer) (faults : CatalogFaults) (credentials : Option Credentials)
    (workers : UInt64) : List Event → Progress → List (Record × Catalog)
  | [], _ => []
  | e :: schedule, p =>
    (visited? p e).toList ++ visits scorer faults credentials workers schedule
      ((step? scorer faults credentials workers p e).getD p)

/-- The packages whose scoring has a visit before it. -/
def unvisited (scorer : Scorer) (credentials : Option Credentials) (p : Progress) : List Record :=
  ((p.unsettled scorer credentials).filter fun r => r.2.isVisit).map Prod.fst

variable {scorer : Scorer} {faults : CatalogFaults} {credentials : Option Credentials}
  {workers : UInt64} {packages : List Record} {c : Catalog} {p p' : Progress}

theorem unvisited_eq (p : Progress) : unvisited scorer credentials p =
    (p.running.filter fun r => r.2.isVisit).map Prod.fst ++
      p.waiting.filter fun record => (scorer record credentials).isVisit := by
  have hhanded : ((p.handed.map fun r => (r.1, Scoring.answered r.2)).filter fun r =>
      r.2.isVisit) = [] := by
    rw [List.filter_map, List.map_eq_nil_iff, List.filter_eq_nil_iff]
    intro r _
    simp [Scoring.isVisit]
  have hwaiting : ((p.waiting.map fun record => (record, scorer record credentials)).filter
      fun r => r.2.isVisit).map Prod.fst =
        p.waiting.filter fun record => (scorer record credentials).isVisit := by
    simp [List.filter_map, Function.comp_def]
  rw [unvisited, Progress.unsettled, List.filter_append, List.filter_append, List.map_append,
    List.map_append, hhanded, hwaiting, List.map_nil, List.nil_append]

theorem Moves.visitsOnce (h : Moves scorer faults credentials workers p p')
    (honce : ∀ r ∈ p.unsettled scorer credentials, r.2.VisitsOnce) :
    ∀ r ∈ p'.unsettled scorer credentials, r.2.VisitsOnce := by
  refine h.unsettled (P := fun _ scoring => scoring.VisitsOnce) honce ?_ ?_
  · rintro record change next (hended | hnext)
    · cases hended
    · exact .ended (hnext p.catalog)
  · intro record scoring answer _ _
    exact .ended rfl

theorem unvisited_take {before after : List Record} {record : Record}
    (h : p.waiting = before ++ record :: after) :
    (unvisited scorer credentials { p with
      waiting := before ++ after
      running := p.running ++ [(record, scorer record credentials)] }).Perm
      (unvisited scorer credentials p) := by
  simp only [unvisited_eq, h, List.filter_append, List.map_append, List.append_assoc]
  refine .append_left _ ?_
  cases hvisit : (scorer record credentials).isVisit with
  | false => simp [hvisit]
  | true =>
      simp only [List.filter_cons, hvisit, ite_true, List.filter_nil, List.map_cons, List.map_nil,
        List.singleton_append]
      exact List.perm_middle.symm

theorem unvisited_visit {before after : List (Record × Scoring)} {record : Record}
    {change : Catalog → Catalog} {next : Catalog → Scoring} {ended : Scoring} {c' : Catalog}
    (h : p.running = before ++ (record, .visit change next) :: after)
    (hended : ended.isVisit = false) :
    (record :: unvisited scorer credentials { p with
      catalog := c'
      running := before ++ (record, ended) :: after }).Perm (unvisited scorer credentials p) := by
  have hvisit : (Scoring.visit change next).isVisit = true := rfl
  simp only [unvisited_eq, h, List.filter_append, List.filter_cons, hvisit, hended, ite_true,
    ite_false, List.map_append, List.map_cons, List.append_assoc, Bool.false_eq_true,
    List.cons_append]
  exact List.perm_middle.symm

theorem unvisited_hand {before after : List (Record × Scoring)} {record : Record}
    {scoring : Scoring} {handed : List (Record × Verdict)}
    (h : p.running = before ++ (record, scoring) :: after) (hended : scoring.isVisit = false) :
    unvisited scorer credentials { p with running := before ++ after, handed } =
      unvisited scorer credentials p := by
  simp only [unvisited_eq, h, List.filter_append, List.filter_cons, hended, Bool.false_eq_true,
    ite_false]

/-- An event takes away from what has to be visited what it visits, and nothing else. -/
theorem perm_of_step? {e : Event} (h : step? scorer faults credentials workers p e = some p')
    (honce : ∀ r ∈ p.unsettled scorer credentials, r.2.VisitsOnce) :
    ((visited? p e).toList.map Prod.fst ++ unvisited scorer credentials p').Perm
      (unvisited scorer credentials p) := by
  cases e with
  | take i =>
      simp only [step?] at h
      split at h
      · cases h
      next record hrecord =>
        obtain ⟨before, after, hsplit, herase, _⟩ := exists_split hrecord
        split at h
        next =>
          cases h
          rw [herase]
          exact unvisited_take hsplit
        next => cases h
  | visit i =>
      simp only [step?] at h
      split at h
      next record change next hrunning =>
        obtain ⟨before, after, hsplit, _, hset⟩ := exists_split hrunning
        -- This visit is the only one of the scoring, so none is before it any more.
        have hended : (next p.catalog).isVisit = false := by
          cases honce (record, .visit change next)
            (mem_unsettled_of_running (by simp [hsplit])) with
          | ended hended => cases hended
          | visit hnext => exact hnext p.catalog
        cases h
        simp only [visited?, hrunning, hset]
        exact unvisited_visit hsplit hended
      next => cases h
  | hand i =>
      simp only [step?] at h
      split at h
      · cases h
      next record scoring hrunning =>
        obtain ⟨before, after, hsplit, herase, _⟩ := exists_split hrunning
        split at h
        · cases h
        next verdict hverdict =>
          split at h
          next =>
            cases h
            rw [herase]
            exact .of_eq (unvisited_hand hsplit (Scoring.isVisit_of_verdict? hverdict))
          next => cases h
  | settle =>
      simp only [step?] at h
      split at h
      · cases h
      next record verdict after hhanded =>
        cases h
        obtain ⟨hwaiting, hrunning, _, _⟩ :=
          settle_fields faults record verdict { p with handed := after }
        refine .of_eq ?_
        simp only [visited?, Option.toList_none, List.map_nil, List.nil_append, unvisited_eq,
          hwaiting, hrunning]

theorem visited?_of_impossible {e : Event}
    (h : step? scorer faults credentials workers p e = none) : visited? p e = none := by
  cases e with
  | take i => rfl
  | visit i =>
      simp only [step?] at h
      split at h
      · cases h
      next => simp only [visited?]
  | hand i => rfl
  | settle => rfl

variable (faults workers) in
theorem visits_perm (schedule : List Event) (p : Progress)
    (honce : ∀ r ∈ p.unsettled scorer credentials, r.2.VisitsOnce) :
    ((visits scorer faults credentials workers schedule p).map Prod.fst ++
        unvisited scorer credentials
          (follow scorer faults credentials workers schedule p)).Perm
      (unvisited scorer credentials p) := by
  induction schedule generalizing p with
  | nil => exact .refl _
  | cons e schedule ih =>
      rw [visits, follow, List.foldl_cons, List.map_append, List.append_assoc]
      cases hstep : step? scorer faults credentials workers p e with
      | none =>
          rw [visited?_of_impossible hstep]
          exact ih p honce
      | some p' =>
          have honce' := (moves_of_step? hstep).visitsOnce honce
          exact ((ih p' honce').append_left _).trans (perm_of_step? hstep honce)

theorem unvisited_of_finished (h : Finished p) : unvisited scorer credentials p = [] := by
  obtain ⟨hwaiting, hrunning, _⟩ := h
  simp [unvisited_eq, hwaiting, hrunning]

/-- In the end every listed package has been visited once. -/
theorem visits_of_finished {schedule : List Event}
    (hscorer : ∀ record, (scorer record credentials).isVisit = true ∧
      (scorer record credentials).VisitsOnce)
    (hfinished : Finished (follow scorer faults credentials workers schedule
      { catalog := c, waiting := packages })) :
    ((visits scorer faults credentials workers schedule
      { catalog := c, waiting := packages }).map Prod.fst).Perm packages := by
  have honce : ∀ r ∈ Progress.unsettled scorer credentials { catalog := c, waiting := packages },
      r.2.VisitsOnce := by
    intro r hr
    obtain ⟨_, hnone, _⟩ | hnone | ⟨record, _, rfl⟩ := mem_unsettled.mp hr
    · cases hnone
    · cases hnone
    · exact (hscorer record).2
  have hall : unvisited scorer credentials { catalog := c, waiting := packages } = packages := by
    simp [unvisited_eq, hscorer]
  have hperm := visits_perm faults workers schedule _ honce
  rwa [unvisited_of_finished hfinished, List.append_nil, hall] at hperm

/-- What holds of all that an evaluation comes to holds where it visits. -/
theorem reaches_of_visit {schedule : List Event} {visit : Record × Catalog}
    (h : visit ∈ visits scorer faults credentials workers schedule p) :
    ∃ p', Reaches scorer faults credentials workers p p' ∧ visit.2 = p'.catalog := by
  induction schedule generalizing p with
  | nil => cases h
  | cons e schedule ih =>
      rw [visits, List.mem_append, Option.mem_toList] at h
      rcases h with hvisit | hlater
      · refine ⟨p, .refl, ?_⟩
        cases e with
        | take | hand | settle => cases hvisit
        | visit i =>
            simp only [visited?] at hvisit
            split at hvisit
            next =>
              cases hvisit
              rfl
            next => cases hvisit
      · cases hstep : step? scorer faults credentials workers p e with
        | none =>
            rw [hstep] at hlater
            exact ih hlater
        | some p' =>
            rw [hstep] at hlater
            obtain ⟨p'', hreaches, hcatalog⟩ := ih hlater
            exact ⟨p'', .head (moves_of_step? hstep) hreaches, hcatalog⟩

end Suppression

end PackageIndex
