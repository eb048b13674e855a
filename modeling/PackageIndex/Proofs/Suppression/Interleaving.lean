import PackageIndex.Proofs.Suppression.Settlement
import PackageIndex.Proofs.Suppression.WriteBack
/-!
Evaluations whose scorers change the catalog. A scorer may replace and delete packages on each of
its visits, and these come in any order with the verdicts that are settled. A verdict is written
back to the row as it stands by then: a package that is gone stays gone, and one that was replaced
keeps what it was replaced with. The listing is only the list of what has to be scored.
-/
namespace PackageIndex

/-- The visits that are left to a scoring leave the row of a path as it is. -/
inductive Scoring.LeavesAlone (path : String) : Scoring → Prop
  | answered (answer : Verdict) : LeavesAlone path (.answered answer)
  | crashed (p : Payload) : LeavesAlone path (.crashed p)
  | visit {change : Catalog → Catalog} {next : Catalog → Scoring} :
      (∀ c, (change c).packages.find? path = c.packages.find? path) →
      (∀ c, LeavesAlone path (next c)) → LeavesAlone path (.visit change next)

namespace Suppression

/-- What a step of an evaluation does to the catalog, and what it counts. -/
inductive Effect (faults : CatalogFaults) (p p' : Progress) : Prop
  | quiet :
      p'.catalog = p.catalog → p'.settled = p.settled → p'.summary = p.summary →
      Effect faults p p'
  | changed {record : Record} {change : Catalog → Catalog} {next : Catalog → Scoring} :
      (record, Scoring.visit change next) ∈ p.running → p'.catalog = change p.catalog →
      p'.settled = p.settled → p'.summary = p.summary → Effect faults p p'
  | unflagged {record : Record} {answer : Verdict} {after : List (Record × Verdict)} :
      p.handed = (record, answer) :: after → answer ≠ .ok true → p'.catalog = p.catalog →
      p'.settled = p.settled ++ [(record, answer)] →
      p'.summary.scored = p.summary.scored + 1 → Effect faults p p'
  | flagged {record : Record} {after : List (Record × Verdict)} :
      p.handed = (record, .ok true) :: after → p'.settled = p.settled ++ [(record, .ok true)] →
      WritesBack faults record.importPath { p.summary with scored := p.summary.scored + 1 }
        p.catalog (p'.summary, p'.catalog) →
      (∀ path, p.catalog.KeepsRow path p'.catalog) → Effect faults p p'

variable {scorer : Scorer} {faults : CatalogFaults} {credentials : Option Credentials}
  {workers : UInt64} {path : String} {c : Catalog} {p p' : Progress}

theorem WritesBack.keepsRow {summary : SuppressionSummary} {result : SuppressionSummary × Catalog}
    (h : WritesBack faults path summary c result) (path' : String) :
    c.KeepsRow path' result.2 := by
  cases h with
  | hidden _ hrow _ _ hhides => exact hhides.keepsRow hrow path'
  | notRead | gone | unreadable | notStored => exact .of_eq rfl

theorem WritesBack.scored_eq {summary : SuppressionSummary}
    {result : SuppressionSummary × Catalog} (h : WritesBack faults path summary c result) :
    result.1.scored = summary.scored := by
  cases h <;> rfl

theorem Moves.effect (h : Moves scorer faults credentials workers p p') : Effect faults p p' := by
  cases h with
  | take _ _ => exact .quiet rfl rfl rfl
  | @visit before after record change next hsplit =>
      have hrunning : (record, Scoring.visit change next) ∈ p.running := by simp [hsplit]
      exact .changed hrunning rfl rfl rfl
  | hand _ _ _ => exact .quiet rfl rfl rfl
  | @settle after record answer hhanded =>
      rcases answer with e | _ | _
      · exact .unflagged hhanded (by simp) rfl rfl rfl
      · exact .unflagged hhanded (by simp) rfl rfl rfl
      · have hwrites := writesBack_writeBack faults record.importPath
          { p.summary with scored := p.summary.scored + 1 } p.catalog
        exact .flagged hhanded rfl hwrites hwrites.keepsRow

theorem scored_eq_of_reaches {packages : List Record}
    (h : Reaches scorer faults credentials workers { catalog := c, waiting := packages } p) :
    p.summary.scored = p.settled.length := by
  induction h with
  | refl => rfl
  | tail _ hmoves ih =>
      cases hmoves.effect with
      | quiet _ hsettled hsummary => rw [hsettled, hsummary, ih]
      | changed _ _ hsettled hsummary => rw [hsettled, hsummary, ih]
      | unflagged _ _ _ hsettled hscored => simp [hsettled, hscored, ih]
      | flagged _ hsettled hwrites _ =>
          have hscored := hwrites.scored_eq
          simp only at hscored
          simp [hsettled, hscored, ih]

/-- Once only scorings are left that leave a path alone, a step keeps its row. -/
theorem Moves.keepsRow (h : Moves scorer faults credentials workers p p')
    (halone : ∀ r ∈ p.unsettled scorer credentials, r.2.LeavesAlone path) :
    p.catalog.KeepsRow path p'.catalog := by
  cases h.effect with
  | quiet hcatalog _ _ => exact .of_eq (by rw [hcatalog])
  | changed hrunning hcatalog _ _ =>
      cases halone _ (mem_unsettled_of_running hrunning) with
      | visit hchange _ => exact .of_eq (by rw [hcatalog, hchange])
  | unflagged _ _ hcatalog _ _ => exact .of_eq (by rw [hcatalog])
  | flagged _ _ _ hkeeps => exact hkeeps path

theorem Moves.leavesAlone (h : Moves scorer faults credentials workers p p')
    (halone : ∀ r ∈ p.unsettled scorer credentials, r.2.LeavesAlone path) :
    ∀ r ∈ p'.unsettled scorer credentials, r.2.LeavesAlone path := by
  refine h.unsettled (P := fun _ scoring => scoring.LeavesAlone path) halone ?_ ?_
  · rintro record change next (_ | _ | ⟨_, hnext⟩)
    exact hnext p.catalog
  · intro record scoring answer _ _
    exact .answered answer

theorem keepsRow_of_reaches (h : Reaches scorer faults credentials workers p p')
    (halone : ∀ r ∈ p.unsettled scorer credentials, r.2.LeavesAlone path) :
    p.catalog.KeepsRow path p'.catalog := by
  suffices hboth : p.catalog.KeepsRow path p'.catalog ∧
      ∀ r ∈ p'.unsettled scorer credentials, r.2.LeavesAlone path from hboth.1
  induction h with
  | refl => exact ⟨.of_eq rfl, halone⟩
  | tail _ hmoves ih => exact ⟨ih.1.trans (hmoves.keepsRow ih.2), hmoves.leavesAlone ih.2⟩

/-- The result of an evaluation that has come to its end. -/
def ofFinished (credentials : Option Credentials) (p : Progress) : Result :=
  ⟨.ok p.summary, p.catalog, p.settled, p.settled.map fun _ => credentials⟩

theorem evaluate_eq_ofFinished {credentialsText? : Option String} {packages : List Record}
    (hread : readCredentials credentialsText? = .ok credentials)
    (hlist : Access.all faults c = .ok (packages, c)) (schedule : List Event) :
    evaluate scorer faults workers credentialsText? schedule c =
      ofFinished credentials (finish scorer faults credentials
        (follow scorer faults credentials workers schedule
          { catalog := c, waiting := packages })) := by
  simp only [evaluate, hread, hlist]
  rfl

variable (scorer faults credentials workers) in
/-- A schedule can be carried on to the end. -/
theorem exists_rest (schedule : List Event) (p : Progress) :
    ∃ rest, follow scorer faults credentials workers (schedule ++ rest) p =
      finish scorer faults credentials
        (follow scorer faults credentials workers schedule p) := by
  have hreaches : Reaches scorer faults credentials workers
      (follow scorer faults credentials workers schedule p) _ :=
    reaches_finish workers _
  obtain ⟨rest, hrest⟩ := exists_schedule hreaches
  refine ⟨rest, ?_⟩
  rw [← hrest]
  exact List.foldl_append

/-- Whatever the scorers change while packages are scored, and in whichever order that comes with
the verdicts that are settled, every listed package gets one verdict, some step can be taken until
all of them have it, and no order of steps goes on forever. A step changes the catalog by what a
scorer does on a visit, or hides a flagged package by its row at that moment, or not at all; and
from any moment on, a package that no visit touches any more is gone if it was gone then, and
otherwise keeps the row that it had then but for being hidden. -/
theorem changes_are_met (scorer : Scorer) (faults : CatalogFaults) (workers : UInt64)
    (credentialsText? : Option String) (c : Catalog) (credentials : Option Credentials)
    (packages : List Record) (hread : readCredentials credentialsText? = .ok credentials)
    (hlist : Access.all faults c = .ok (packages, c)) :
    let at' := fun schedule =>
      follow scorer faults credentials workers schedule { catalog := c, waiting := packages }
    let result := fun schedule => evaluate scorer faults workers credentialsText? schedule c
    (packages.map Record.importPath).Nodup ∧
    WellFounded (fun p' p => ∃ e, step? scorer faults credentials workers p e = some p') ∧
    ∀ schedule,
      ((result schedule).settled.map Prod.fst).Perm packages ∧
      (∃ rest, Finished (at' (schedule ++ rest)) ∧
        (at' (schedule ++ rest)).summary.scored = packages.length ∧
        result schedule = ofFinished credentials (at' (schedule ++ rest))) ∧
      (¬ Finished (at' schedule) →
        ∃ e p', step? scorer faults credentials workers (at' schedule) e = some p') ∧
      (∀ e p', step? scorer faults credentials workers (at' schedule) e = some p' →
        Effect faults (at' schedule) p') ∧
      ∀ path, (∀ r ∈ (at' schedule).unsettled scorer credentials, r.2.LeavesAlone path) →
        (at' schedule).catalog.KeepsRow path (result schedule).catalog := by
  intro at' result
  refine ⟨?_, ?_, fun schedule => ?_⟩
  · rw [Catalog.map_importPath_all (all_of_access hlist).2]
    exact c.packages.keys_nodup
  · simp only [← moves_iff]
    exact wellFounded_moves scorer faults credentials workers
  · have hresult : result schedule =
        ofFinished credentials (finish scorer faults credentials (at' schedule)) :=
      evaluate_eq_ofFinished hread hlist schedule
    have hend := reaches_end scorer faults credentials workers schedule
      { catalog := c, waiting := packages }
    have hfinished := finished_finish scorer faults credentials (at' schedule)
    have hsettled := settled_of_finished hend hfinished
    refine ⟨hresult ▸ hsettled, ?_, ?_, ?_, ?_⟩
    · obtain ⟨rest, hrest⟩ := exists_rest scorer faults credentials workers schedule
        { catalog := c, waiting := packages }
      refine ⟨rest, ?_⟩
      rw [hresult, show at' (schedule ++ rest) = _ from hrest]
      refine ⟨hfinished, ?_, rfl⟩
      rw [scored_eq_of_reaches hend, ← hsettled.length_eq, List.length_map]
    · intro hunfinished
      obtain ⟨p', hmoves⟩ := exists_moves scorer faults credentials workers hunfinished
      obtain ⟨e, he⟩ := hmoves.exists_event
      exact ⟨e, p', he⟩
    · intro e p' he
      exact (moves_of_step? he).effect
    · intro path halone
      rw [hresult]
      exact keepsRow_of_reaches (reaches_finish workers (at' schedule)) halone

/-- Two packages to be scored. -/
def two : Catalog :=
  (({} : Catalog).putDocument { importPath := "a", projectRoot := "a" } none false).putDocument
    { importPath := "b", projectRoot := "b" } none false

/-- Flags one package; scoring the other one deletes the first. -/
def deletingScorer : Scorer := fun record _ =>
  if record.importPath = "a" then .answered (.ok true)
  else .visit (fun c => c.delete "a") fun _ => .answered (.ok false)

def flaggedRecord : Record := ⟨{ importPath := "a", projectRoot := "a" }, .epoch, false⟩

def deletingRecord : Record := ⟨{ importPath := "b", projectRoot := "b" }, .epoch, false⟩

/-- A flagged package that is deleted before its verdict is settled stays gone. -/
theorem deleted_package_stays_gone :
    (evaluate deletingScorer (fun _ => none) 2 none [.take 0, .take 0, .hand 0, .visit 0]
      two).catalog.packages.find? "a" = none := by
  obtain ⟨_, _, hschedule⟩ := changes_are_met deletingScorer (fun _ => none) 2 none two none
    [flaggedRecord, deletingRecord] rfl rfl
  obtain ⟨_, _, _, _, hkeeps⟩ := hschedule [.take 0, .take 0, .hand 0, .visit 0]
  refine (hkeeps "a" fun r hr => ?_).gone rfl
  have hanswered : r ∈ [(flaggedRecord, .answered (.ok true)),
      (deletingRecord, Scoring.answered (.ok false))] := hr
  simp only [List.mem_cons, List.not_mem_nil, or_false] at hanswered
  rcases hanswered with rfl | rfl <;> exact .answered _

end Suppression

end PackageIndex
