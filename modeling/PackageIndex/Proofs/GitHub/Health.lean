import PackageIndex.Proofs.Catalog.Importers
import PackageIndex.Proofs.GitHub.Address
import PackageIndex.Proofs.GitHub.Repository
/-!
What the health of a package rests on. The catalog tells whether its repository is asked for at
all, and by which request; the verdict is what the one reply to it says.
-/
namespace PackageIndex.GitHub.Health

open Http

/-- What is done for a verdict: it stands at once, or one request is sent and its reply judged. -/
inductive Plan where
  | settled (verdict : Verdict)
  | asks (request : Request) (judge : Option Reply → Verdict)

namespace Plan

/-- The request that is sent. -/
def request? : Plan → Option Request
  | settled _ => none
  | asks request _ => some request

/-- The verdict of a plan that is carried out. -/
def verdict (transport : Transport) : Plan → Verdict
  | settled verdict => verdict
  | asks request judge => judge (transport request)

end Plan

/-- What the reply for the health of a repository says. -/
def judge (url : String) (clock : Instant) (inactiveDays : UInt32) : Option Reply → Verdict
  | none => .error (.failed (ClientError.unreachable url .connection).message)
  | some reply =>
    match Client.interpret url repository? reply with
    | .error e => .error (.failed e.message)
    | .ok repository? => .ok (isUnhealthy repository? clock inactiveDays.toNat)

/-- What is done for the health of a repository. -/
def planOf (base : String) (clock : Instant) (inactiveDays : UInt32)
    (credentials : Option Credentials) (resource : String) : Plan :=
  let url := Client.url ⟨closed, base⟩ resource
  match Client.request? base credentials resource with
  | none => .settled (.error (.failed (ClientError.unreachable url .address).message))
  | some request => .asks request (judge url clock inactiveDays)

/-- What is done for the health of a package, in a catalog without faults. -/
def plan (base : String) (clock : Instant) (inactiveDays : UInt32) (record : Record)
    (credentials : Option Credentials) (c : Catalog) : Plan :=
  match resource? (fun _ => none) record c with
  | .error e => .settled (.error (.store e))
  | .ok none => .settled (.ok false)
  | .ok (some resource) => planOf base clock inactiveDays credentials resource

/-- The reply tells of a repository. -/
def Reports (reply : Reply) (repository : Repository) : Prop :=
  isSuccess reply.status = true ∧
    (Json.Value.ofBytes? reply.body).bind repository? = some repository

/-- A member that is not asked for may hold bytes that are no text. -/
example : (Json.Value.ofBytes? ("\x7b\"description\":\"".toUTF8 ++ ⟨#[0xFF]⟩ ++
    "\",\"archived\":true\x7d".toUTF8)).bind repository? = some { archived := true } := by
  decide +kernel

/-- The repository is archived, or its last push is too long ago. -/
def IsDormant (clock : Instant) (inactiveDays : UInt32) (repository : Repository) : Prop :=
  repository.archived = true ∨ ∃ pushed, repository.pushedAt = some pushed ∧
    (Span.ofDays inactiveDays.toNat).nanos < clock.since pushed

/-- The reply tells that the repository is gone, or of one that is dormant. -/
def Condemns (clock : Instant) (inactiveDays : UInt32) (reply? : Option Reply) : Prop :=
  ∃ reply, reply? = some reply ∧ (reply.status = 404 ∨
    ∃ repository, Reports reply repository ∧ IsDormant clock inactiveDays repository)

/-- There is no reply, or it tells nothing about the repository. -/
def Fails (reply? : Option Reply) : Prop :=
  ∀ reply, reply? = some reply →
    reply.status ≠ 404 ∧ ∀ repository, ¬ Reports reply repository

/-- The package belongs to a repository, and no package imports it. -/
structure IsUnused (packages : List Record) (record : Record) (owner repository : String) :
    Prop where
  root : InRepository record.document.projectRoot owner repository
  noImporter : ∀ other ∈ packages, record.importPath ∉ other.document.imports

variable {base : String} {clock : Instant} {inactiveDays : UInt32} {record : Record}
  {credentials : Option Credentials} {c : Catalog} {packages : List Record} {request : Request}

theorem planOf_of_request? {resource : String}
    (h : Client.request? base credentials resource = some request) :
    planOf base clock inactiveDays credentials resource =
      .asks request (judge (Client.url ⟨closed, base⟩ resource) clock inactiveDays) := by
  simp only [planOf, h]

theorem planOf_of_unsendable {resource : String}
    (h : Client.request? base credentials resource = none) :
    planOf base clock inactiveDays credentials resource =
      .settled (.error (.failed
        (ClientError.unreachable (Client.url ⟨closed, base⟩ resource) .address).message)) := by
  simp only [planOf, h]

/-- The scorer carries out the plan, and the plan does not rest on the transport. -/
theorem scorer_eq (transport : Transport) (base : String) (clock : Instant) (inactiveDays : UInt32)
    (record : Record) (credentials : Option Credentials) :
    scorer ⟨transport, base⟩ clock inactiveDays (fun _ => none) record credentials =
      .visit id fun c =>
        .answered ((plan base clock inactiveDays record credentials c).verdict transport) := by
  simp only [scorer, Scoring.visit.injEq, true_and]
  funext c
  cases hresource : resource? (fun _ => none) record c with
  | error e => simp only [plan, hresource, Plan.verdict]
  | ok resource? =>
      cases resource? with
      | none => simp only [plan, hresource, Plan.verdict]
      | some resource =>
          simp only [plan, hresource]
          cases hrequest : Client.request? base credentials resource with
          | none =>
              rw [Client.get_of_unsendable transport repository? hrequest,
                planOf_of_unsendable hrequest, Plan.verdict]
          | some request =>
              rw [Client.get_of_request? transport repository? hrequest,
                planOf_of_request? hrequest, Plan.verdict]
              cases transport request with
              | none => rfl
              | some reply =>
                  simp only [judge]
                  cases Client.interpret (Client.url ⟨closed, base⟩ resource) repository? reply <;>
                    rfl

theorem isUnhealthy_iff {repository : Repository} :
    isUnhealthy (some repository) clock inactiveDays.toNat = true ↔
      IsDormant clock inactiveDays repository := by
  simp only [isUnhealthy, IsDormant, Bool.or_eq_true]
  cases repository.pushedAt <;> simp

/-- What comes of a reply: it tells that the repository is gone, or tells of the repository, or
tells nothing. -/
inductive Judged (clock : Instant) (inactiveDays : UInt32) (reply : Reply) : Verdict → Prop
  | gone : reply.status = 404 → Judged clock inactiveDays reply (.ok true)
  | reported {repository : Repository} :
      reply.status ≠ 404 → Reports reply repository →
      Judged clock inactiveDays reply
        (.ok (isUnhealthy (some repository) clock inactiveDays.toNat))
  | failed {e : ScoreError} :
      reply.status ≠ 404 → (∀ repository, ¬ Reports reply repository) →
      Judged clock inactiveDays reply (.error e)

theorem judged_judge (url : String) (clock : Instant) (inactiveDays : UInt32) (reply : Reply) :
    Judged clock inactiveDays reply (judge url clock inactiveDays (some reply)) := by
  by_cases hgone : reply.status = 404
  · simp only [judge, Client.interpret, hgone, ite_true]
    exact .gone hgone
  by_cases hsuccess : isSuccess reply.status = true
  · cases hbody : (Json.Value.ofBytes? reply.body).bind repository? with
    | none =>
        simp only [judge, Client.interpret, hgone, hsuccess, ite_false, ite_true, hbody]
        refine .failed hgone ?_
        rintro repository ⟨_, hread⟩
        rw [hbody] at hread
        cases hread
    | some repository =>
        simp only [judge, Client.interpret, hgone, hsuccess, ite_false, ite_true, hbody]
        exact .reported hgone ⟨hsuccess, hbody⟩
  · simp only [judge, Client.interpret, hgone, hsuccess, ite_false]
    exact .failed hgone fun repository hreports => hsuccess hreports.1

theorem Reports.unique {reply : Reply} {repository repository' : Repository}
    (h : Reports reply repository) (h' : Reports reply repository') :
    repository' = repository :=
  Option.some.inj (h'.2.symm.trans h.2)

theorem judge_eq_true_iff {url : String} {reply? : Option Reply} :
    judge url clock inactiveDays reply? = .ok true ↔ Condemns clock inactiveDays reply? := by
  cases reply? with
  | none => simp [judge, Condemns]
  | some reply =>
      have hjudged := judged_judge url clock inactiveDays reply
      simp only [Condemns, Option.some.injEq, exists_eq_left']
      generalize judge url clock inactiveDays (some reply) = verdict at hjudged
      cases hjudged with
      | gone hgone => simp [hgone]
      | failed hfound hsilent => simp [hfound, hsilent]
      | @reported repository hfound hreports =>
          simp only [Except.ok.injEq, isUnhealthy_iff, hfound, false_or]
          constructor
          · exact fun hdormant => ⟨repository, hreports, hdormant⟩
          · rintro ⟨repository', hreports', hdormant⟩
            rwa [hreports'.unique hreports]

theorem judge_isError_iff {url : String} {reply? : Option Reply} :
    (judge url clock inactiveDays reply?).isOk = false ↔ Fails reply? := by
  cases reply? with
  | none => simp [judge, Fails, Except.isOk, Except.toBool]
  | some reply =>
      have hjudged := judged_judge url clock inactiveDays reply
      simp only [Fails, Option.some.injEq, forall_eq']
      generalize judge url clock inactiveDays (some reply) = verdict at hjudged
      cases hjudged with
      | gone hgone => simp [hgone, Except.isOk, Except.toBool]
      | failed hfound hsilent => simp [hfound, hsilent, Except.isOk, Except.toBool]
      | @reported repository hfound hreports =>
          simp only [Except.isOk, Except.toBool, Bool.true_eq_false, false_iff]
          exact fun hfails => hfails.2 repository hreports

section

variable (hwritten : c.Written) (hpackages : c.all = .ok packages)
include hwritten hpackages

/-- In a catalog that comes from the empty one it can always be told whether to ask. -/
theorem resource?_of_written (record : Record) :
    resource? (fun _ => none) record c = .ok ((slug? record.document.projectRoot).bind fun slug =>
      if packages.countP (fun r => record.importPath ∈ r.document.imports) = 0 then
        some ("repos/" ++ slug)
      else none) := by
  have hcount := Catalog.importerCount_of_written hwritten hpackages record.importPath
  cases hslug : slug? record.document.projectRoot with
  | none => simp only [resource?, hslug, Option.bind_none]
  | some slug =>
      simp only [resource?, hslug, Access.importerCount, Access.guarded, Access.reading, hcount,
        Except.map, Option.bind_some, Nat.pos_iff_ne_zero, ite_not]

theorem resource?_eq_some_iff {resource : String} :
    resource? (fun _ => none) record c = .ok (some resource) ↔
      ∃ owner repository, IsUnused packages record owner repository ∧
        resource = "repos/" ++ owner ++ "/" ++ repository := by
  have hcount : packages.countP (fun r => record.importPath ∈ r.document.imports) = 0 ↔
      ∀ other ∈ packages, record.importPath ∉ other.document.imports := by
    simp [List.countP_eq_zero]
  rw [resource?_of_written hwritten hpackages record, Except.ok.injEq, Option.bind_eq_some_iff]
  constructor
  · rintro ⟨slug, hslug, hresource⟩
    rw [Option.ite_none_right_eq_some] at hresource
    obtain ⟨hnone, hresource⟩ := hresource
    obtain ⟨owner, repository, hroot, rfl⟩ := slug?_eq_some_iff.mp hslug
    refine ⟨owner, repository, ⟨hroot, hcount.mp hnone⟩, ?_⟩
    rw [← Option.some.inj hresource]
    simp only [String.append_assoc]
  · rintro ⟨owner, repository, ⟨hroot, hnone⟩, rfl⟩
    refine ⟨_, slug?_eq_some_iff.mpr ⟨owner, repository, hroot, rfl⟩, ?_⟩
    rw [if_pos (hcount.mpr hnone)]
    simp only [String.append_assoc]

theorem plan_of_isUnused {owner repository : String}
    (h : IsUnused packages record owner repository) :
    plan base clock inactiveDays record credentials c =
      planOf base clock inactiveDays credentials ("repos/" ++ owner ++ "/" ++ repository) := by
  have hresource := (resource?_eq_some_iff hwritten hpackages).mpr ⟨owner, repository, h, rfl⟩
  simp only [plan, hresource]

theorem plan_of_not_isUnused (h : ∀ owner repository, ¬ IsUnused packages record owner repository) :
    plan base clock inactiveDays record credentials c = .settled (.ok false) := by
  cases hasked : resource? (fun _ => none) record c with
  | error e =>
      rw [resource?_of_written hwritten hpackages record] at hasked
      cases hasked
  | ok resource? =>
      cases resource? with
      | none => simp only [plan, hasked]
      | some resource =>
          obtain ⟨owner, repository, hunused, _⟩ :=
            (resource?_eq_some_iff hwritten hpackages).mp hasked
          exact absurd hunused (h owner repository)

/-- A request is sent for an unused package, unless its address cannot be sent. -/
theorem plan_request?_eq_some_iff :
    (plan base clock inactiveDays record credentials c).request? = some request ↔
      ∃ owner repository, IsUnused packages record owner repository ∧
        Client.request? base credentials ("repos/" ++ owner ++ "/" ++ repository) =
          some request := by
  constructor
  · intro hasked
    by_cases hunused : ∃ owner repository, IsUnused packages record owner repository
    · obtain ⟨owner, repository, hunused⟩ := hunused
      refine ⟨owner, repository, hunused, ?_⟩
      rw [plan_of_isUnused hwritten hpackages hunused, planOf] at hasked
      split at hasked
      next hnone => cases hasked
      next request' hsome =>
        rw [hsome]
        exact hasked
    · simp only [not_exists] at hunused
      rw [plan_of_not_isUnused hwritten hpackages hunused] at hasked
      cases hasked
  · rintro ⟨owner, repository, hunused, hrequest⟩
    rw [plan_of_isUnused hwritten hpackages hunused, planOf_of_request? hrequest, Plan.request?]

theorem plan_verdict_eq_true_iff {transport : Transport} :
    (plan base clock inactiveDays record credentials c).verdict transport = .ok true ↔
      ∃ request, (plan base clock inactiveDays record credentials c).request? = some request ∧
        Condemns clock inactiveDays (transport request) := by
  by_cases hunused : ∃ owner repository, IsUnused packages record owner repository
  · obtain ⟨owner, repository, hunused⟩ := hunused
    rw [plan_of_isUnused hwritten hpackages hunused]
    cases hrequest : Client.request? base credentials ("repos/" ++ owner ++ "/" ++ repository) with
    | none => simp [planOf_of_unsendable hrequest, Plan.verdict, Plan.request?]
    | some request =>
        simp [planOf_of_request? hrequest, Plan.verdict, Plan.request?, judge_eq_true_iff]
  · simp only [not_exists] at hunused
    simp [plan_of_not_isUnused hwritten hpackages hunused, Plan.verdict, Plan.request?]

theorem plan_verdict_isError_iff {transport : Transport} :
    ((plan base clock inactiveDays record credentials c).verdict transport).isOk = false ↔
      (∃ owner repository, IsUnused packages record owner repository) ∧
        ∀ request, (plan base clock inactiveDays record credentials c).request? = some request →
          Fails (transport request) := by
  by_cases hunused : ∃ owner repository, IsUnused packages record owner repository
  · simp only [hunused, true_and]
    obtain ⟨owner, repository, hunused⟩ := hunused
    rw [plan_of_isUnused hwritten hpackages hunused]
    cases hrequest : Client.request? base credentials ("repos/" ++ owner ++ "/" ++ repository) with
    | none =>
        simp [planOf_of_unsendable hrequest, Plan.verdict, Plan.request?, Except.isOk,
          Except.toBool]
    | some request =>
        simp [planOf_of_request? hrequest, Plan.verdict, Plan.request?, judge_isError_iff]
  · simp only [hunused, false_and, iff_false]
    simp only [not_exists] at hunused
    simp [plan_of_not_isUnused hwritten hpackages hunused, Plan.verdict, Except.isOk,
      Except.toBool]

end

end PackageIndex.GitHub.Health
