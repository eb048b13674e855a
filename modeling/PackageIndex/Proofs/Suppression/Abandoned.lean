import PackageIndex.Proofs.GitHub.Health
import PackageIndex.Proofs.Permanence
import PackageIndex.Proofs.Suppression.Outcome
import PackageIndex.Proofs.Suppression.Visits
/-!
Evaluations by the health of repositories. Which packages are hidden, how many are errors and which
requests are made is told by the catalog that the evaluation begins with and by the reply that each
exchange ends with, whichever way the evaluation goes.
-/
namespace PackageIndex.Suppression

open GitHub GitHub.Health Http

/-- The scorer that asks a code host. Each package is asked for at a time of its own and may meet
other replies. -/
def healthScorer (base : String) (transport : Record → Transport) (clock : Record → Instant)
    (inactiveDays : UInt32) : Scorer := fun record =>
  Health.scorer ⟨transport record, base⟩ (clock record) inactiveDays (fun _ => none) record

/-- The package belongs to a repository and nobody imports it, and this is the request for it. -/
def IsAsked (base : String) (credentials : Option Credentials) (packages : List Record)
    (record : Record) (request : Request) : Prop :=
  ∃ owner repository, IsUnused packages record owner repository ∧
    Client.request? base credentials ("repos/" ++ owner ++ "/" ++ repository) = some request

/-- The reply to the request for a package tells that its repository is gone or dormant. -/
def IsAbandoned (base : String) (transport : Record → Transport) (clock : Record → Instant)
    (inactiveDays : UInt32) (credentials : Option Credentials) (packages : List Record)
    (record : Record) : Prop :=
  ∃ request, IsAsked base credentials packages record request ∧
    Condemns (clock record) inactiveDays (transport record request)

/-- The package belongs to a repository and nobody imports it, but nothing is told about it. -/
def IsUndecided (base : String) (transport : Record → Transport)
    (credentials : Option Credentials) (packages : List Record) (record : Record) : Prop :=
  (∃ owner repository, IsUnused packages record owner repository) ∧
    ∀ request, IsAsked base credentials packages record request →
      Fails (transport record request)

/-- The requests that exchanges are made for along a schedule. -/
def requests (base : String) (transport : Record → Transport) (clock : Record → Instant)
    (inactiveDays : UInt32) (credentials : Option Credentials) (workers : UInt64)
    (schedule : List Event) (p : Progress) : List Request :=
  (visits (healthScorer base transport clock inactiveDays) (fun _ => none) credentials workers
    schedule p).filterMap fun visit =>
      (plan base (clock visit.1) inactiveDays visit.1 credentials visit.2).request?

section

variable {base : String} {transport : Record → Transport} {clock : Record → Instant}
  {inactiveDays : UInt32} {credentials : Option Credentials} {packages : List Record} {c : Catalog}

theorem plan_hidePaths (base : String) (at' : Instant) (inactiveDays : UInt32) (record : Record)
    (credentials : Option Credentials) (paths : List String) (c : Catalog) :
    plan base at' inactiveDays record credentials (c.hidePaths paths) =
      plan base at' inactiveDays record credentials c := by
  simp only [plan, resource?_hidePaths]

/-- The verdict on a package, told by the catalog that the evaluation begins with. -/
def verdictOn (base : String) (transport : Record → Transport) (clock : Record → Instant)
    (inactiveDays : UInt32) (credentials : Option Credentials) (c : Catalog) (record : Record) :
    Verdict :=
  (plan base (clock record) inactiveDays record credentials c).verdict (transport record)

variable (base transport clock inactiveDays credentials c) in
theorem healthScorer_gives (record : Record) :
    (healthScorer base transport clock inactiveDays record credentials).Gives c record.importPath
      (verdictOn base transport clock inactiveDays credentials c record) := by
  rw [healthScorer, scorer_eq]
  refine .visit fun paths => ?_
  rw [plan_hidePaths]
  exact .ended rfl

theorem isAsked_iff (hwritten : c.Written) (hpackages : c.all = .ok packages) (record : Record)
    (request : Request) :
    (plan base (clock record) inactiveDays record credentials c).request? = some request ↔
      IsAsked base credentials packages record request :=
  plan_request?_eq_some_iff hwritten hpackages

theorem verdictOn_eq_true_iff (hwritten : c.Written) (hpackages : c.all = .ok packages)
    (record : Record) :
    verdictOn base transport clock inactiveDays credentials c record = .ok true ↔
      IsAbandoned base transport clock inactiveDays credentials packages record := by
  simp only [verdictOn, plan_verdict_eq_true_iff hwritten hpackages, IsAbandoned,
    isAsked_iff hwritten hpackages]

theorem verdictOn_isError_iff (hwritten : c.Written) (hpackages : c.all = .ok packages)
    (record : Record) :
    (verdictOn base transport clock inactiveDays credentials c record).isOk = false ↔
      IsUndecided base transport credentials packages record := by
  simp only [verdictOn, plan_verdict_isError_iff hwritten hpackages, IsUndecided,
    isAsked_iff hwritten hpackages]

/-- The packages with their verdicts. -/
def verdictsOn (base : String) (transport : Record → Transport) (clock : Record → Instant)
    (inactiveDays : UInt32) (credentials : Option Credentials) (c : Catalog)
    (packages : List Record) : List (Record × Verdict) :=
  packages.map fun r => (r, verdictOn base transport clock inactiveDays credentials c r)

variable (base transport clock inactiveDays) in
/-- However an evaluation goes, it comes to the verdicts. -/
theorem evaluate_healthScorer {credentialsText? : Option String} (hwritten : c.Written)
    (hapart : c.Apart) (hpackages : c.all = .ok packages)
    (hread : readCredentials credentialsText? = .ok credentials) (workers : UInt64)
    (schedule : List Event) :
    (evaluate (healthScorer base transport clock inactiveDays) (fun _ => none) workers
        credentialsText? schedule c).exit =
          .ok (tally (fun _ => none)
            (verdictsOn base transport clock inactiveDays credentials c packages)) ∧
      (evaluate (healthScorer base transport clock inactiveDays) (fun _ => none) workers
        credentialsText? schedule c).catalog =
          c.hidePaths (hiddenPaths (fun _ => none)
            (verdictsOn base transport clock inactiveDays credentials c packages)) := by
  have hsettled : ∃ settled : List (Record × Verdict), settled.Perm _ ∧
      evaluate (healthScorer base transport clock inactiveDays) (fun _ => none) workers
        credentialsText? schedule c = _ :=
    evaluate_of_listed hwritten hapart hread rfl hpackages
      (healthScorer_gives base transport clock inactiveDays credentials c) workers schedule
  obtain ⟨settled, _, hresult⟩ := hsettled
  rw [hresult]
  exact ⟨rfl, rfl⟩

theorem passes_without_faults (path : String) : Passes (fun _ => none) path := ⟨rfl, rfl⟩

open Classical in
theorem tally_verdictsOn (hwritten : c.Written) (hpackages : c.all = .ok packages) :
    tally (fun _ => none) (verdictsOn base transport clock inactiveDays credentials c packages) =
      { scored := packages.length
        suppressed := packages.countP fun r =>
          IsAbandoned base transport clock inactiveDays credentials packages r
        errors := packages.countP fun r => IsUndecided base transport credentials packages r } := by
  simp only [tally, verdictsOn, IsHidden, IsError, List.length_map, List.countP_map,
    Function.comp_def, passes_without_faults, and_true, not_true_eq_false, and_false, or_false,
    verdictOn_eq_true_iff hwritten hpackages, verdictOn_isError_iff hwritten hpackages]

variable (base transport clock inactiveDays credentials c) in
theorem hidesAll_abandoned (hwritten : c.Written) (hpackages : c.all = .ok packages) :
    c.HidesAll (fun path => ∃ r ∈ packages, r.importPath = path ∧
        IsAbandoned base transport clock inactiveDays credentials packages r)
      (c.hidePaths (hiddenPaths (fun _ => none)
        (verdictsOn base transport clock inactiveDays credentials c packages))) := by
  have hhides := hidesAll_hiddenPaths (fun _ => none)
    (verdictOn base transport clock inactiveDays credentials c) packages c
  simpa only [verdictsOn, verdictOn_eq_true_iff hwritten hpackages, passes_without_faults,
    and_true] using hhides

/-- A package that was shown is hidden if it is abandoned, and otherwise not. -/
theorem isSuppressed_iff {c' : Catalog} {r : Record} (hpackages : c.all = .ok packages)
    (hhides : c.HidesAll (fun path => ∃ r ∈ packages, r.importPath = path ∧
      IsAbandoned base transport clock inactiveDays credentials packages r) c')
    (hr : r ∈ packages) (hshown : r.suppressed = false) :
    c'.IsSuppressed r.importPath ↔
      IsAbandoned base transport clock inactiveDays credentials packages r := by
  obtain ⟨row, hrow, hread⟩ := (Catalog.mem_all_iff hpackages).mp hr
  -- No two packages have one path, so the one that is abandoned is this one.
  have honly : (∃ other ∈ packages, other.importPath = r.importPath ∧
      IsAbandoned base transport clock inactiveDays credentials packages other) ↔
        IsAbandoned base transport clock inactiveDays credentials packages r := by
    have hnodup : (packages.map Record.importPath).Nodup := by
      rw [Catalog.map_importPath_all hpackages]
      exact c.packages.keys_nodup
    constructor
    · rintro ⟨other, hother, hpath, habandoned⟩
      rwa [← List.inj_on_of_nodup_map hnodup hother hr hpath]
    · exact fun habandoned => ⟨r, hr, rfl, habandoned⟩
  by_cases habandoned : IsAbandoned base transport clock inactiveDays credentials packages r
  · have hrow' := hhides.hidden r.importPath row hrow (honly.mpr habandoned)
    simp only [habandoned, iff_true]
    exact ⟨_, hrow', by simp⟩
  · have hrow' := hhides.others r.importPath fun _ _ hmem => habandoned (honly.mp hmem)
    simp only [habandoned, iff_false]
    rintro ⟨row', hfound, hsuppressed⟩
    rw [hrow', hrow, Option.some.injEq] at hfound
    subst hfound
    have hflag := (PackageRow.suppressed_of_record? hread).mpr hsuppressed
    rw [hshown] at hflag
    cases hflag

/-- In the end each request for a listed package has had one exchange, and no other one has. -/
theorem requests_of_finished (hwritten : c.Written) (hapart : c.Apart)
    (hpackages : c.all = .ok packages) {workers : UInt64} {schedule : List Event}
    (hfinished : Finished (follow (healthScorer base transport clock inactiveDays) (fun _ => none)
      credentials workers schedule { catalog := c, waiting := packages })) :
    (requests base transport clock inactiveDays credentials workers schedule
        { catalog := c, waiting := packages }).Perm
      (packages.filterMap fun r =>
        (plan base (clock r) inactiveDays r credentials c).request?) := by
  have hscorer (record : Record) :
      (healthScorer base transport clock inactiveDays record credentials).isVisit = true ∧
        (healthScorer base transport clock inactiveDays record credentials).VisitsOnce := by
    rw [healthScorer, scorer_eq]
    exact ⟨rfl, .visit fun _ => rfl⟩
  -- Wherever a scoring visits, packages were only hidden so far, and the plan does not mind that.
  have hsame : ∀ visit ∈ visits (healthScorer base transport clock inactiveDays) (fun _ => none)
      credentials workers schedule { catalog := c, waiting := packages },
      (plan base (clock visit.1) inactiveDays visit.1 credentials visit.2).request? =
        (plan base (clock visit.1) inactiveDays visit.1 credentials c).request? := by
    intro visit hvisit
    obtain ⟨p, hreaches, hcatalog⟩ := reaches_of_visit hvisit
    have hsound := (sound_start (healthScorer_gives base transport clock inactiveDays credentials
      c)).reaches hwritten hapart (Catalog.stored_of_all hpackages) hreaches
    rw [hcatalog, hsound.catalog, plan_hidePaths]
  rw [requests, List.filterMap_congr hsame]
  have hvisited := (visits_of_finished hscorer hfinished).filterMap fun r =>
    (plan base (clock r) inactiveDays r credentials c).request?
  rwa [List.filterMap_map] at hvisited

end

/-- What an evaluation makes of a catalog with these packages: those are hidden that are abandoned,
nothing else changes, and each is counted. -/
structure HidesAbandoned (base : String) (transport : Record → Transport)
    (clock : Record → Instant) (inactiveDays : UInt32) (credentials : Option Credentials)
    (packages : List Record) (c : Catalog) (result : Result) : Prop where
  shown : ∀ r ∈ packages, r.suppressed = false → (result.catalog.IsSuppressed r.importPath ↔
    IsAbandoned base transport clock inactiveDays credentials packages r)
  hides : c.HidesAll (fun path => ∃ r ∈ packages, r.importPath = path ∧
    IsAbandoned base transport clock inactiveDays credentials packages r) result.catalog
  exit : open Classical in result.exit = .ok
    { scored := packages.length
      suppressed := packages.countP fun r =>
        IsAbandoned base transport clock inactiveDays credentials packages r
      errors := packages.countP fun r => IsUndecided base transport credentials packages r }

/-- What an evaluation asks: each package is visited once, and once the evaluation has come to its
end, along some schedule that goes on from the given one, there was one exchange for each request
for a package and no other one. -/
structure AsksOnce (base : String) (transport : Record → Transport) (clock : Record → Instant)
    (inactiveDays : UInt32) (workers : UInt64) (credentials : Option Credentials)
    (schedule : List Event) (packages : List Record) (c : Catalog) (result : Result) : Prop where
  visits : ∀ record, healthScorer base transport clock inactiveDays record credentials =
    .visit id fun c' => .answered
      ((plan base (clock record) inactiveDays record credentials c').verdict (transport record))
  exchanges : ∃ (sent : Record → Option Request) (rest : List Event),
    (∀ r request, sent r = some request ↔ IsAsked base credentials packages r request) ∧
    let finished := follow (healthScorer base transport clock inactiveDays) (fun _ => none)
      credentials workers (schedule ++ rest) { catalog := c, waiting := packages }
    Finished finished ∧ result = ofFinished credentials finished ∧
    (requests base transport clock inactiveDays credentials workers (schedule ++ rest)
      { catalog := c, waiting := packages }).Perm (packages.filterMap sent)

/-- The requests that the code host can be sent: those whose address is not too long, in which plain
names stand as they are. -/
structure AsksCodeHost (credentials : Option Credentials) : Prop where
  tooLong : ∀ resource, Client.request? Launch.codeHost credentials resource = none ↔
    Url.longestSent < (Client.hostUrl resource).text.length
  plain : ∀ owner repository, Url.IsSegment owner.toList → Url.IsSegment repository.toList →
    Client.request? Launch.codeHost credentials ("repos/" ++ owner ++ "/" ++ repository) =
      if 30 + owner.length + repository.length ≤ Url.longestSent then
        some { method := "GET"
               target := "/repos/" ++ owner ++ "/" ++ repository
               host := "api.github.com"
               headers := Client.headers credentials ++ [("user-agent", userAgent)] }
      else none

section

variable {base : String} {transport : Record → Transport} {clock : Record → Instant}
  {inactiveDays : UInt32} {credentials : Option Credentials} {packages : List Record} {c : Catalog}
  {credentialsText? : Option String}

variable (base transport clock inactiveDays) in
theorem hidesAbandoned_evaluate (hwritten : c.Written) (hapart : c.Apart)
    (hpackages : c.all = .ok packages)
    (hread : readCredentials credentialsText? = .ok credentials) (workers : UInt64)
    (schedule : List Event) :
    HidesAbandoned base transport clock inactiveDays credentials packages c
      (evaluate (healthScorer base transport clock inactiveDays) (fun _ => none) workers
        credentialsText? schedule c) := by
  obtain ⟨hexit, hcatalog⟩ := evaluate_healthScorer base transport clock inactiveDays hwritten
    hapart hpackages hread workers schedule
  have hhides := hidesAll_abandoned base transport clock inactiveDays credentials c hwritten
    hpackages
  rw [← hcatalog] at hhides
  rw [tally_verdictsOn hwritten hpackages] at hexit
  exact
    { shown := fun r hr hshown => isSuppressed_iff hpackages hhides hr hshown
      hides := hhides
      exit := hexit }

variable (base transport clock inactiveDays) in
theorem asksOnce_evaluate (hwritten : c.Written) (hapart : c.Apart)
    (hpackages : c.all = .ok packages)
    (hread : readCredentials credentialsText? = .ok credentials) (workers : UInt64)
    (schedule : List Event) :
    AsksOnce base transport clock inactiveDays workers credentials schedule packages c
      (evaluate (healthScorer base transport clock inactiveDays) (fun _ => none) workers
        credentialsText? schedule c) where
  visits record :=
    scorer_eq (transport record) base (clock record) inactiveDays record credentials
  exchanges := by
    have hlist : Access.all (fun _ => none) c = .ok (packages, c) := by
      simp only [Access.all, Access.guarded, Access.reading, hpackages, Except.map]
    obtain ⟨rest, hrest⟩ := exists_rest (healthScorer base transport clock inactiveDays)
      (fun _ => none) credentials workers schedule { catalog := c, waiting := packages }
    have hfinished : Finished (follow (healthScorer base transport clock inactiveDays)
        (fun _ => none) credentials workers (schedule ++ rest)
        { catalog := c, waiting := packages }) := by
      rw [hrest]
      exact finished_finish _ (fun _ => none) credentials _
    refine ⟨fun r => (plan base (clock r) inactiveDays r credentials c).request?, rest,
      isAsked_iff hwritten hpackages, hfinished, ?_,
      requests_of_finished hwritten hapart hpackages hfinished⟩
    rw [hrest]
    exact evaluate_eq_ofFinished hread hlist schedule

theorem asksCodeHost (credentials : Option Credentials) : AsksCodeHost credentials where
  tooLong resource := by
    rw [Client.request?_codeHost]
    simp
  plain _ _ howner hrepository := Client.request?_of_plain howner hrepository credentials

end

/-- Whatever the exchanges come to, at whatever times, and in whichever order the scorings go on: a
package that was shown is hidden if it belongs to a repository, no package imports it and the reply
for it tells that the repository is gone, archived or without a push for too long; nothing else
changes. There is one exchange for each request whose address can be sent and no other one; a
package of which nothing is told is one error. The code host is asked for plain names as they are,
up to the greatest length of an address. -/
theorem abandoned_packages_are_hidden (base : String) (transport : Record → Transport)
    (clock : Record → Instant) (inactiveDays : UInt32) (workers : UInt64)
    (credentialsText? : Option String) (credentials : Option Credentials)
    (schedule : List Event) (c : Catalog) (h : Catalog.Leads {} c)
    (hread : readCredentials credentialsText? = .ok credentials) :
    let result := evaluate (healthScorer base transport clock inactiveDays) (fun _ => none) workers
      credentialsText? schedule c
    ∃ packages, c.all = .ok packages ∧
      HidesAbandoned base transport clock inactiveDays credentials packages c result ∧
      AsksOnce base transport clock inactiveDays workers credentials schedule packages c result ∧
      AsksCodeHost credentials := by
  intro result
  have hwritten := Catalog.written_of_leads h
  have hapart := Catalog.apart_empty.leads h
  obtain ⟨packages, hpackages⟩ := hwritten.exists_all
  exact ⟨packages, hpackages,
    hidesAbandoned_evaluate base transport clock inactiveDays hwritten hapart hpackages hread
      workers schedule,
    asksOnce_evaluate base transport clock inactiveDays hwritten hapart hpackages hread workers
      schedule,
    asksCodeHost credentials⟩

/-- A package of a repository of one owner. -/
def named (name : String) : Document :=
  { importPath := "p", projectRoot := "github.com/o/" ++ name }

/-- A catalog of that package alone. -/
def onlyNamed (name : String) : Catalog := ({} : Catalog).putDocument (named name) none false

def namedRecord (name : String) : Record := ⟨named name, .epoch, false⟩

/-- The code host as it answers when nothing is there. -/
def nothingThere : Record → Transport := fun _ _ => some ⟨404, .empty⟩

def goneScorer : Scorer := healthScorer Launch.codeHost nothingThere (fun _ => .epoch) 730

theorem leads_onlyNamed (name : String) : Catalog.Leads {} (onlyNamed name) :=
  .single (.put (named name) none false)

theorem all_onlyNamed (name : String) : (onlyNamed name).all = .ok [namedRecord name] := by
  have hread := PackageRow.record?_ofDocument (named name) 0 false
  rw [Catalog.all_eq_ok_iff]
  exact congrArg (fun r => [r]) hread

section

variable {name : String} (hname : Url.IsSegment name.toList) (hwhole : name ≠ "")
include hname hwhole

theorem isUnused_named : IsUnused [namedRecord name] (namedRecord name) "o" name := by
  have hslash : '/' ∉ name.toList := hname.plain.not_mem (by decide)
  have hroot : (named name).projectRoot = "github.com/" ++ "o" ++ "/" ++ name := by
    simp [named]
  exact ⟨⟨⟨by decide, hwhole⟩, ⟨by decide, hslash⟩, .inl hroot⟩, by simp [namedRecord, named]⟩

variable (hlong : Url.longestSent < 31 + name.length)
include hlong

theorem plan_named :
    ∃ e, plan Launch.codeHost .epoch 730 (namedRecord name) none (onlyNamed name) =
      .settled (.error e) := by
  have howner : Url.IsSegment "o".toList := ⟨by decide, by decide⟩
  have hrequest := Client.request?_of_plain howner hname none
  have hlength : ¬ 30 + "o".length + name.length ≤ Url.longestSent := by
    have hone : "o".length = 1 := by decide
    omega
  rw [if_neg hlength] at hrequest
  rw [plan_of_isUnused (Catalog.written_of_leads (leads_onlyNamed name)) (all_onlyNamed name)
    (isUnused_named hname hwhole), planOf_of_unsendable hrequest]
  exact ⟨_, rfl⟩

/-- A name that leaves no room for the rest of an address keeps a package from its verdict. -/
theorem evaluate_named :
    (evaluate goneScorer (fun _ => none) 4 none [] (onlyNamed name)).exit = .ok ⟨1, 0, 1⟩ ∧
      (evaluate goneScorer (fun _ => none) 4 none [] (onlyNamed name)).catalog =
        onlyNamed name := by
  obtain ⟨e, hplan⟩ := plan_named hname hwhole hlong
  have hleads := leads_onlyNamed name
  have hread : readCredentials none = .ok none := rfl
  have hcomes := evaluate_healthScorer Launch.codeHost nothingThere (fun _ => .epoch) 730
    (Catalog.written_of_leads hleads) (Catalog.apart_empty.leads hleads) (all_onlyNamed name)
    hread 4 []
  have hverdicts : verdictsOn Launch.codeHost nothingThere (fun _ => .epoch) 730 none
      (onlyNamed name) [namedRecord name] = [(namedRecord name, .error e)] := by
    simp [verdictsOn, verdictOn, hplan, Plan.verdict]
  rw [goneScorer, hcomes.1, hcomes.2, hverdicts]
  simp [tally, hiddenPaths, IsHidden, IsError, Except.isOk, Except.toBool, Catalog.hidePaths_nil]

theorem requests_named {schedule : List Event}
    (hfinished : Finished (follow goneScorer (fun _ => none) none 4 schedule
      { catalog := onlyNamed name, waiting := [namedRecord name] })) :
    requests Launch.codeHost nothingThere (fun _ => .epoch) 730 none 4 schedule
      { catalog := onlyNamed name, waiting := [namedRecord name] } = [] := by
  obtain ⟨e, hplan⟩ := plan_named hname hwhole hlong
  have hleads := leads_onlyNamed name
  have hperm := requests_of_finished (Catalog.written_of_leads hleads)
    (Catalog.apart_empty.leads hleads) (all_onlyNamed name) hfinished
  have hnone : [namedRecord name].filterMap (fun r =>
      (plan Launch.codeHost .epoch 730 r none (onlyNamed name)).request?) = [] := by
    simp [hplan, Plan.request?]
  rw [hnone] at hperm
  exact hperm.eq_nil

end

theorem gone_package_is_hidden :
    (evaluate goneScorer (fun _ => none) 4 none [] (onlyNamed "r")).catalog.IsSuppressed "p" := by
  obtain ⟨packages, hpackages, hhides, _, _⟩ := abandoned_packages_are_hidden
    Launch.codeHost nothingThere (fun _ => .epoch) 730 4 none none [] (onlyNamed "r")
    (leads_onlyNamed "r") rfl
  rw [all_onlyNamed] at hpackages
  cases hpackages
  have howner : Url.IsSegment "o".toList := ⟨by decide, by decide⟩
  have hname : Url.IsSegment "r".toList := ⟨by decide, by decide⟩
  have hrequest := Client.request?_of_plain howner hname none
  rw [if_pos (by decide)] at hrequest
  refine (hhides.shown _ (List.mem_singleton.mpr rfl) rfl).mpr ?_
  exact ⟨_, ⟨"o", "r", isUnused_named hname (by decide), hrequest⟩, _, rfl, .inl rfl⟩

theorem isSegment_replicate {n : Nat} (hn : 2 < n) : Url.IsSegment (List.replicate n 'r') := by
  refine ⟨fun c hc => ?_, fun hdot => ?_, fun hdots => ?_⟩
  · rw [List.eq_of_mem_replicate hc]
    decide
  · have hlength := congrArg List.length hdot
    simp at hlength
    omega
  · have hlength := congrArg List.length hdots
    simp at hlength
    omega

/-- A name of this many letters. -/
def lettered (n : Nat) : String := String.ofList (List.replicate n 'r')

/-- The repository of a package that nobody imports is gone, and yet it is not asked for, and the
package is not hidden. -/
theorem long_name_is_not_asked :
    let name := lettered 66000
    (onlyNamed name).all = .ok [namedRecord name] ∧
      IsUnused [namedRecord name] (namedRecord name) "o" name ∧
      (∀ schedule,
        Finished (follow goneScorer (fun _ => none) none 4 schedule
          { catalog := onlyNamed name, waiting := [namedRecord name] }) →
        requests Launch.codeHost nothingThere (fun _ => .epoch) 730 none 4 schedule
          { catalog := onlyNamed name, waiting := [namedRecord name] } = []) ∧
      (evaluate goneScorer (fun _ => none) 4 none [] (onlyNamed name)).exit = .ok ⟨1, 0, 1⟩ ∧
      ¬ (evaluate goneScorer (fun _ => none) 4 none [] (onlyNamed name)).catalog.IsSuppressed
        "p" := by
  have hname : Url.IsSegment (lettered 66000).toList := by
    rw [lettered, String.toList_ofList]
    exact isSegment_replicate (by omega)
  have hlength : (lettered 66000).length = 66000 := by
    rw [lettered, String.length_ofList, List.length_replicate]
  have hlong : Url.longestSent < 31 + (lettered 66000).length := by
    rw [hlength]
    decide
  have hwhole : lettered 66000 ≠ "" := by
    intro hempty
    rw [hempty] at hlength
    simp at hlength
  obtain ⟨hexit, hcatalog⟩ := evaluate_named hname hwhole hlong
  refine ⟨all_onlyNamed _, isUnused_named hname hwhole, ?_, hexit, ?_⟩
  · exact fun schedule hfinished => requests_named hname hwhole hlong hfinished
  · rw [hcatalog]
    rintro ⟨row, hrow, hsuppressed⟩
    cases hrow
    exact hsuppressed rfl

end PackageIndex.Suppression
