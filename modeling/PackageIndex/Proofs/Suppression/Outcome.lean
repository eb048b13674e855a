import PackageIndex.GitHub.Health
import PackageIndex.Proofs.Suppression.Settlement
import PackageIndex.Proofs.Suppression.WriteBack
/-!
What an evaluation leaves, for scorers that change nothing. A scorer may look at the catalog as
long as its verdict does not rest on which packages are hidden by then; so which workers there are
and in which order the verdicts are settled makes no difference to what is counted and to what is
hidden.
-/
namespace PackageIndex

/-- The scoring changes nothing and comes to the verdict, whichever packages of the catalog have
been hidden when it visits. -/
inductive Scoring.Gives (c : Catalog) (path : String) (verdict : Verdict) : Scoring → Prop
  | ended {scoring : Scoring} :
      scoring.verdict? path = some verdict → Gives c path verdict scoring
  | visit {next : Catalog → Scoring} :
      (∀ paths, Gives c path verdict (next (c.hidePaths paths))) →
      Gives c path verdict (.visit id next)

theorem Scoring.Gives.eq_of_verdict? {c : Catalog} {path : String} {verdict verdict' : Verdict}
    {scoring : Scoring} (h : scoring.Gives c path verdict)
    (hended : scoring.verdict? path = some verdict') : verdict' = verdict := by
  cases h with
  | ended hverdict => exact Option.some.inj (hended.symm.trans hverdict)
  | visit _ => cases hended

namespace Suppression

/-- The package is flagged, and its row is written. -/
def IsHidden (faults : CatalogFaults) (r : Record × Verdict) : Prop :=
  r.2 = .ok true ∧ Passes faults r.1.importPath

/-- The package has no verdict, or is flagged without its row being written. -/
def IsError (faults : CatalogFaults) (r : Record × Verdict) : Prop :=
  r.2.isOk = false ∨ r.2 = .ok true ∧ ¬ Passes faults r.1.importPath

instance (faults : CatalogFaults) (r : Record × Verdict) : Decidable (IsHidden faults r) :=
  inferInstanceAs (Decidable (_ ∧ _))

instance (faults : CatalogFaults) (r : Record × Verdict) : Decidable (IsError faults r) :=
  inferInstanceAs (Decidable (_ ∨ _))

/-- What an evaluation counts. -/
def tally (faults : CatalogFaults) (settled : List (Record × Verdict)) : SuppressionSummary where
  scored := settled.length
  suppressed := settled.countP fun r => IsHidden faults r
  errors := settled.countP fun r => IsError faults r

/-- The paths that are hidden. -/
def hiddenPaths (faults : CatalogFaults) (settled : List (Record × Verdict)) : List String :=
  (settled.filter fun r => IsHidden faults r).map fun r => r.1.importPath

/-- What an evaluation leaves, told by the verdict of each package alone. -/
inductive Outcome (verdict : Record → Option Credentials → Verdict) (faults : CatalogFaults)
    (credentialsText? : Option String) (c : Catalog) : Result → Prop
  | malformed {text : String} {e : Credentials.ParseError} :
      credentialsText? = some text → Credentials.parse text = .error e →
      Outcome verdict faults credentialsText? c
        ⟨.error (.failed (.config (becauseOf "Invalid GitHub credentials" e.message))), c, [], []⟩
  | notListed {credentials : Option Credentials} {reason : String} :
      readCredentials credentialsText? = .ok credentials → faults .all = some reason →
      Outcome verdict faults credentialsText? c
        ⟨.error (.failed (.executionFailed (becauseOf "Failed to list packages" reason))),
          c, [], []⟩
  | evaluated {credentials : Option Credentials} {packages : List Record} {c' : Catalog}
      {settled : List (Record × Verdict)} :
      readCredentials credentialsText? = .ok credentials → faults .all = none →
      c.all = .ok packages →
      settled.Perm (packages.map fun r => (r, verdict r credentials)) →
      c.HidesAll (fun path => ∃ r ∈ packages, r.importPath = path ∧
        verdict r credentials = .ok true ∧ Passes faults path) c' →
      Outcome verdict faults credentialsText? c
        ⟨.ok (tally faults (packages.map fun r => (r, verdict r credentials))), c', settled,
          packages.map fun _ => credentials⟩

variable {scorer : Scorer} {faults : CatalogFaults} {credentials : Option Credentials}
  {workers : UInt64} {verdict : Record → Verdict} {packages : List Record} {c : Catalog}
  {p p' : Progress}

theorem tally_append (settled settled' : List (Record × Verdict)) :
    tally faults (settled ++ settled') =
      ⟨(tally faults settled).scored + (tally faults settled').scored,
        (tally faults settled).suppressed + (tally faults settled').suppressed,
        (tally faults settled).errors + (tally faults settled').errors⟩ := by
  simp [tally]

theorem tally_of_perm {settled settled' : List (Record × Verdict)} (h : settled.Perm settled') :
    tally faults settled = tally faults settled' := by
  simp only [tally, h.length_eq, h.countP_eq]

theorem hiddenPaths_append (settled settled' : List (Record × Verdict)) :
    hiddenPaths faults (settled ++ settled') =
      hiddenPaths faults settled ++ hiddenPaths faults settled' := by
  simp [hiddenPaths]

theorem hiddenPaths_of_perm {settled settled' : List (Record × Verdict)}
    (h : settled.Perm settled') : (hiddenPaths faults settled).Perm (hiddenPaths faults settled') :=
  (h.filter _).map _

/-- A verdict on a stored package is counted, and hides it if it says so. -/
theorem settle_of_stored (record : Record) (answer : Verdict) {row : PackageRow}
    (hwritten : p.catalog.Written) (hapart : p.catalog.Apart)
    (hrow : p.catalog.packages.find? record.importPath = some row)
    (hsummary : p.summary = tally faults p.settled) :
    (settle faults record answer p).catalog =
        p.catalog.hidePaths (hiddenPaths faults [(record, answer)]) ∧
      (settle faults record answer p).summary = tally faults (p.settled ++ [(record, answer)]) := by
  rw [tally_append, ← hsummary]
  rcases answer with e | _ | _
  · simp [settle, tally, hiddenPaths, IsHidden, IsError, Except.isOk,
      Except.toBool, Catalog.hidePaths_nil]
  · simp [settle, tally, hiddenPaths, IsHidden, IsError, Except.isOk,
      Except.toBool, Catalog.hidePaths_nil]
  · by_cases hpasses : Passes faults record.importPath <;>
      simp [settle, writeBack_of_stored hwritten hapart hrow, tally, hiddenPaths, IsHidden,
        IsError, hpasses, Except.isOk, Except.toBool, Catalog.hidePaths_nil]

/-- The evaluation of some packages has come so far, and has done what their verdicts ask for. -/
structure Sound (scorer : Scorer) (faults : CatalogFaults) (credentials : Option Credentials)
    (verdict : Record → Verdict) (packages : List Record) (c : Catalog) (p : Progress) : Prop where
  unsettled : ∀ r ∈ p.unsettled scorer credentials,
    r.1 ∈ packages ∧ r.2.Gives c r.1.importPath (verdict r.1)
  settled : ∀ r ∈ p.settled, r.2 = verdict r.1
  catalog : p.catalog = c.hidePaths (hiddenPaths faults p.settled)
  summary : p.summary = tally faults p.settled

theorem sound_start
    (hscorer : ∀ record, (scorer record credentials).Gives c record.importPath (verdict record)) :
    Sound scorer faults credentials verdict packages c { catalog := c, waiting := packages } where
  unsettled := by
    intro r hr
    obtain ⟨_, hnone, _⟩ | hnone | ⟨record, hrecord, rfl⟩ := mem_unsettled.mp hr
    · cases hnone
    · cases hnone
    · exact ⟨hrecord, hscorer record⟩
  settled := by
    intro r hr
    cases hr
  catalog := (c.hidePaths_nil).symm
  summary := rfl

theorem Sound.step (h : Sound scorer faults credentials verdict packages c p)
    (hwritten : c.Written) (hapart : c.Apart)
    (hstored : ∀ record ∈ packages, ∃ row, c.packages.find? record.importPath = some row)
    (hmoves : Moves scorer faults credentials workers p p') :
    Sound scorer faults credentials verdict packages c p' := by
  have hunsettled : ∀ r ∈ p'.unsettled scorer credentials,
      r.1 ∈ packages ∧ r.2.Gives c r.1.importPath (verdict r.1) := by
    refine hmoves.unsettled (P := fun record scoring =>
      record ∈ packages ∧ scoring.Gives c record.importPath (verdict record)) h.unsettled ?_ ?_
    · rintro record change next ⟨hlisted, hgives⟩
      cases hgives with
      | ended hended => cases hended
      | visit hnext =>
          -- So far paths were only hidden, which the scoring does not mind.
          rw [h.catalog]
          exact ⟨hlisted, hnext _⟩
    · rintro record scoring answer hended ⟨hlisted, hgives⟩
      obtain rfl := hgives.eq_of_verdict? hended
      exact ⟨hlisted, .ended rfl⟩
  cases hmoves with
  | take _ _ => exact ⟨hunsettled, h.settled, h.catalog, h.summary⟩
  | @visit before after record change next hsplit =>
      obtain ⟨_, hgives⟩ := h.unsettled (record, .visit change next)
        (mem_unsettled_of_running (by simp [hsplit]))
      cases hgives with
      | ended hended => cases hended
      | visit _ => exact ⟨hunsettled, h.settled, h.catalog, h.summary⟩
  | hand _ _ _ => exact ⟨hunsettled, h.settled, h.catalog, h.summary⟩
  | @settle after record answer hhanded =>
      obtain ⟨hlisted, hgives⟩ := h.unsettled (record, .answered answer)
        (mem_unsettled.mpr (.inl ⟨(record, answer), by simp [hhanded], rfl⟩))
      obtain rfl : answer = verdict record := hgives.eq_of_verdict? rfl
      obtain ⟨row, hrow⟩ := hstored record hlisted
      have hrow' := Catalog.find?_hidePaths (hiddenPaths faults p.settled) c record.importPath
      rw [hrow, ← h.catalog] at hrow'
      obtain ⟨hcatalog, hsummary⟩ := settle_of_stored record (verdict record)
        (p := { p with handed := after }) (h.catalog ▸ hwritten.hidePaths _)
        (h.catalog ▸ hapart.hidePaths _) hrow' h.summary
      have hsettled : (settle faults record (verdict record) { p with handed := after }).settled =
          p.settled ++ [(record, verdict record)] := (settle_fields _ _ _ _).2.2.2
      refine ⟨hunsettled, ?_, ?_, ?_⟩
      · rw [hsettled]
        intro r hr
        rcases List.mem_append.mp hr with hr | hr
        · exact h.settled r hr
        · obtain rfl := List.mem_singleton.mp hr
          rfl
      · rw [hcatalog, hsettled, hiddenPaths_append, Catalog.hidePaths_append, h.catalog]
      · rw [hsummary, hsettled]

theorem Sound.reaches (h : Sound scorer faults credentials verdict packages c p)
    (hwritten : c.Written) (hapart : c.Apart)
    (hstored : ∀ record ∈ packages, ∃ row, c.packages.find? record.importPath = some row)
    (hreaches : Reaches scorer faults credentials workers p p') :
    Sound scorer faults credentials verdict packages c p' := by
  induction hreaches with
  | refl => exact h
  | tail _ hmoves ih => exact ih.step hwritten hapart hstored hmoves

variable (faults) in
/-- However an evaluation goes, in the end each package has its verdict. -/
theorem exists_settled (hwritten : c.Written) (hapart : c.Apart) (hpackages : c.all = .ok packages)
    (hscorer : ∀ record, (scorer record credentials).Gives c record.importPath (verdict record))
    (workers : UInt64) (schedule : List Event) :
    ∃ settled, settled.Perm (packages.map fun r => (r, verdict r)) ∧
      finish scorer faults credentials (follow scorer faults credentials workers schedule
        { catalog := c, waiting := packages }) =
      { catalog := c.hidePaths (hiddenPaths faults (packages.map fun r => (r, verdict r)))
        waiting := [], settled
        summary := tally faults (packages.map fun r => (r, verdict r)) } := by
  have hreaches := reaches_end scorer faults credentials workers schedule
    { catalog := c, waiting := packages }
  have hfinished := finished_finish scorer faults credentials
    (follow scorer faults credentials workers schedule { catalog := c, waiting := packages })
  generalize finish scorer faults credentials _ = p at hreaches hfinished
  have hsound := (sound_start hscorer).reaches hwritten hapart (Catalog.stored_of_all hpackages)
    hreaches
  have hsettled : p.settled.Perm (packages.map fun r => (r, verdict r)) := by
    have hverdicts : p.settled = (p.settled.map Prod.fst).map fun r => (r, verdict r) := by
      rw [List.map_map]
      refine (List.map_id _).symm.trans (List.map_congr_left fun r hr => ?_)
      exact Prod.ext rfl (hsound.settled r hr)
    rw [hverdicts]
    exact (settled_of_finished hreaches hfinished).map _
  refine ⟨p.settled, hsettled, ?_⟩
  have hcatalog := hsound.catalog.trans
    (Catalog.hidePaths_of_perm (hiddenPaths_of_perm hsettled) c)
  have hsummary := hsound.summary.trans (tally_of_perm hsettled)
  obtain ⟨hwaiting, hrunning, hhanded⟩ := hfinished
  cases p
  simp_all only

theorem evaluate_of_listed {credentialsText? : Option String} (hwritten : c.Written)
    (hapart : c.Apart) (hread : readCredentials credentialsText? = .ok credentials)
    (hlist : faults .all = none) (hpackages : c.all = .ok packages)
    (hscorer : ∀ record, (scorer record credentials).Gives c record.importPath (verdict record))
    (workers : UInt64) (schedule : List Event) :
    ∃ settled, settled.Perm (packages.map fun r => (r, verdict r)) ∧
      evaluate scorer faults workers credentialsText? schedule c =
        ⟨.ok (tally faults (packages.map fun r => (r, verdict r))),
          c.hidePaths (hiddenPaths faults (packages.map fun r => (r, verdict r))), settled,
          packages.map fun _ => credentials⟩ := by
  obtain ⟨settled, hsettled, hfinish⟩ := exists_settled faults hwritten hapart hpackages
    hscorer workers schedule
  refine ⟨settled, hsettled, ?_⟩
  simp only [evaluate, hread, Access.all, Access.guarded_of_none _ _ hlist, Access.reading,
    hpackages, Except.map, hfinish, List.map_const', hsettled.length_eq, List.length_map]

theorem readCredentials_of_malformed {credentialsText? : Option String} {text : String}
    {e : Credentials.ParseError} (htext : credentialsText? = some text)
    (hparse : Credentials.parse text = .error e) :
    readCredentials credentialsText? =
      .error (.config (becauseOf "Invalid GitHub credentials" e.message)) := by
  simp only [readCredentials, htext, hparse]

theorem malformed_of_readCredentials {credentialsText? : Option String} {e : JobError}
    (h : readCredentials credentialsText? = .error e) :
    ∃ text parseError, credentialsText? = some text ∧ Credentials.parse text = .error parseError ∧
      e = .config (becauseOf "Invalid GitHub credentials" parseError.message) := by
  simp only [readCredentials] at h
  split at h
  · cases h
  next text =>
    split at h
    · cases h
    next parseError hparse =>
      cases h
      exact ⟨text, parseError, rfl, hparse, rfl⟩

theorem hidesAll_hiddenPaths (faults : CatalogFaults) (verdict : Record → Verdict)
    (packages : List Record) (c : Catalog) :
    c.HidesAll
      (fun path => ∃ r ∈ packages, r.importPath = path ∧ verdict r = .ok true ∧ Passes faults path)
      (c.hidePaths (hiddenPaths faults (packages.map fun r => (r, verdict r)))) := by
  have hpaths : (fun path => ∃ r ∈ packages, r.importPath = path ∧ verdict r = .ok true ∧
      Passes faults path) = (· ∈ hiddenPaths faults (packages.map fun r => (r, verdict r))) := by
    funext path
    simp only [hiddenPaths, IsHidden, List.mem_map, List.mem_filter, eq_iff_iff]
    grind
  rw [hpaths, Catalog.hidesAll_iff]

theorem outcome_evaluate {credentialsText? : Option String}
    {verdict : Record → Option Credentials → Verdict} (hwritten : c.Written) (hapart : c.Apart)
    (hscorer : ∀ record credentials,
      (scorer record credentials).Gives c record.importPath (verdict record credentials))
    (workers : UInt64) (schedule : List Event) :
    Outcome verdict faults credentialsText? c
      (evaluate scorer faults workers credentialsText? schedule c) := by
  cases hread : readCredentials credentialsText? with
  | error e =>
      obtain ⟨text, parseError, rfl, hparse, rfl⟩ := malformed_of_readCredentials hread
      simp only [evaluate, hread]
      exact .malformed rfl hparse
  | ok credentials =>
      cases hlist : faults .all with
      | some reason =>
          simp only [evaluate, hread, Access.all, Access.guarded_of_some _ _ hlist,
            StoreError.message]
          exact .notListed hread hlist
      | none =>
          obtain ⟨packages, hpackages⟩ := hwritten.exists_all
          obtain ⟨settled, hsettled, heq⟩ := evaluate_of_listed hwritten hapart hread hlist
            hpackages (fun record => hscorer record credentials) workers schedule
          rw [heq]
          exact .evaluated hread hlist hpackages hsettled
            (hidesAll_hiddenPaths faults (verdict · credentials) packages c)

/-- Two evaluations of one outcome differ in the order of the settled verdicts alone. -/
theorem Outcome.agree {verdict : Record → Option Credentials → Verdict}
    {credentialsText? : Option String} {result result' : Result}
    (h : Outcome verdict faults credentialsText? c result)
    (h' : Outcome verdict faults credentialsText? c result') :
    result'.exit = result.exit ∧ result'.catalog = result.catalog := by
  cases h with
  | malformed htext hparse =>
      have hread := readCredentials_of_malformed htext hparse
      cases h' with
      | malformed htext' hparse' =>
          cases htext.symm.trans htext'
          cases hparse.symm.trans hparse'
          exact ⟨rfl, rfl⟩
      | notListed hread' _ => cases hread.symm.trans hread'
      | evaluated hread' _ _ _ _ => cases hread.symm.trans hread'
  | notListed hread hlist =>
      cases h' with
      | malformed htext' hparse' =>
          cases hread.symm.trans (readCredentials_of_malformed htext' hparse')
      | notListed _ hlist' =>
          cases hlist.symm.trans hlist'
          exact ⟨rfl, rfl⟩
      | evaluated _ hlist' _ _ _ => cases hlist.symm.trans hlist'
  | evaluated hread hlist hpackages _ hhides =>
      cases h' with
      | malformed htext' hparse' =>
          cases hread.symm.trans (readCredentials_of_malformed htext' hparse')
      | notListed _ hlist' => cases hlist.symm.trans hlist'
      | evaluated hread' _ hpackages' _ hhides' =>
          cases hread.symm.trans hread'
          cases hpackages.symm.trans hpackages'
          exact ⟨rfl, hhides.unique hhides'⟩

/-- An evaluation with a scorer that changes nothing hides exactly the flagged packages whose row
can be read again and written, and counts the packages, those it has hidden and those it could
not tell of or write; it changes nothing else, and asks for no verdict when the credentials are
malformed or the packages cannot be listed. The number of workers and the order in which they go
on make no difference to that. -/
theorem evaluation_is_the_outcome (scorer : Scorer) (faults : CatalogFaults)
    (credentialsText? : Option String) (verdict : Record → Option Credentials → Verdict)
    (c : Catalog) (h : Catalog.Leads {} c)
    (hscorer : ∀ record credentials,
      (scorer record credentials).Gives c record.importPath (verdict record credentials)) :
    (∀ workers schedule, Outcome verdict faults credentialsText? c
      (evaluate scorer faults workers credentialsText? schedule c)) ∧
    ∀ workers schedule workers' schedule',
      (evaluate scorer faults workers' credentialsText? schedule' c).exit =
        (evaluate scorer faults workers credentialsText? schedule c).exit ∧
      (evaluate scorer faults workers' credentialsText? schedule' c).catalog =
        (evaluate scorer faults workers credentialsText? schedule c).catalog := by
  have hwritten : c.Written := Catalog.written_of_leads h
  have hapart : c.Apart := Catalog.apart_empty.leads h
  have houtcome (workers : UInt64) (schedule : List Event) :
      Outcome verdict faults credentialsText? c
        (evaluate scorer faults workers credentialsText? schedule c) :=
    outcome_evaluate hwritten hapart hscorer workers schedule
  refine ⟨houtcome, fun workers schedule workers' schedule' => ?_⟩
  exact (houtcome workers schedule).agree (houtcome workers' schedule')

theorem importerCount_hidePaths (paths : List String) (c : Catalog) (path : String) :
    (c.hidePaths paths).importerCount path = c.importerCount path := by
  have himports : (c.hidePaths paths).packages.values.map PackageRow.imports =
      c.packages.values.map PackageRow.imports := by
    simp only [Catalog.hidePaths, Table.values, Table.adjust, List.map_map]
    refine List.map_congr_left fun r _ => ?_
    simp only [Function.comp_apply]
    split <;> rfl
  have hlists (c : Catalog) :
      (c.packages.values.mapM fun row => Json.Lenient.texts? row.imports.toList) =
        (c.packages.values.map PackageRow.imports).mapM
          fun imports => Json.Lenient.texts? imports.toList := by
    rw [List.mapM_map]
    rfl
  simp only [Catalog.importerCount, hlists, himports]

theorem resource?_hidePaths (faults : CatalogFaults) (record : Record) (paths : List String)
    (c : Catalog) :
    GitHub.Health.resource? faults record (c.hidePaths paths) =
      GitHub.Health.resource? faults record c := by
  simp only [GitHub.Health.resource?, Access.importerCount]
  cases hfault : faults (.importerCount record.importPath) with
  | some reason => simp only [Access.guarded_of_some _ _ hfault]
  | none =>
      simp only [Access.guarded_of_none _ _ hfault, Access.reading, importerCount_hidePaths]
      cases c.importerCount record.importPath <;> rfl

/-- Three packages, the last of them hidden already. -/
def three : Catalog :=
  ((({} : Catalog).putDocument { importPath := "a", projectRoot := "a" } none false).putDocument
    { importPath := "b", projectRoot := "b" } none false).putDocument
    { importPath := "c", projectRoot := "c" } none true

theorem leads_three : Catalog.Leads {} three :=
  .tail (.tail (.tail .refl (.put _ _ _)) (.put _ _ _)) (.put _ _ _)

/-- Flags one package, keeps another one after a look at the catalog, and crashes on the rest. -/
def crashingScorer : Scorer := fun record _ =>
  if record.importPath = "a" then .answered (.ok true)
  else if record.importPath = "b" then .visit id fun _ => .answered (.ok false)
  else .crashed (.text "boom")

/-- A single worker that takes the last package first comes to the same as four that go on in
turn. -/
theorem three_come_to_the_same :
    (evaluate crashingScorer (fun _ => none) 0 none [.take 2, .hand 0, .take 0] three).exit =
        .ok ⟨3, 1, 1⟩ ∧
      (evaluate crashingScorer (fun _ => none) 0 none [.take 2, .hand 0, .take 0]
        three).catalog.packages.find? "c" = three.packages.find? "c" := by
  have hverdict : ∀ record credentials,
      (crashingScorer record credentials).Gives three record.importPath
        (if record.importPath = "a" then .ok true else if record.importPath = "b" then .ok false
          else .error (.crashed record.importPath (.text "boom"))) := by
    intro record credentials
    simp only [crashingScorer]
    split
    · exact .ended rfl
    · split
      · exact .visit fun _ => .ended rfl
      · exact .ended rfl
  obtain ⟨hexit, hcatalog⟩ := (evaluation_is_the_outcome crashingScorer (fun _ => none) none _ three
    leads_three hverdict).2 4 [] 0 [.take 2, .hand 0, .take 0]
  rw [hexit, hcatalog]
  exact ⟨rfl, rfl⟩

end Suppression

end PackageIndex
