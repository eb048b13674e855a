import PackageIndex.Proofs.Suppression.Pool
/-!
How an evaluation comes to its end. No step loses a package of the listing or tells of one twice.
Whatever schedule was followed, what is left can be brought to its end by steps, one package after
the other, and then every package of the listing has got one verdict.
-/
namespace PackageIndex.Suppression

variable {scorer : Scorer} {faults : CatalogFaults} {credentials : Option Credentials}
  {workers : UInt64} {p p' : Progress}

theorem mem_unsettled {r : Record × Scoring} : r ∈ p.unsettled scorer credentials ↔
    (∃ answered ∈ p.handed, r = (answered.1, .answered answered.2)) ∨ r ∈ p.running ∨
      ∃ record ∈ p.waiting, r = (record, scorer record credentials) := by
  simp only [Progress.unsettled, List.mem_append, List.mem_map, or_assoc, eq_comm]

theorem mem_unsettled_of_running {r : Record × Scoring} (h : r ∈ p.running) :
    r ∈ p.unsettled scorer credentials :=
  mem_unsettled.mpr (.inr (.inl h))

/-- What holds of the scorings without a settled verdict goes on to hold of them, if it is kept by
a visit and by the handing on of a verdict. -/
theorem Moves.unsettled {P : Record → Scoring → Prop}
    (h : Moves scorer faults credentials workers p p')
    (hp : ∀ r ∈ p.unsettled scorer credentials, P r.1 r.2)
    (hvisit : ∀ record change next, P record (.visit change next) → P record (next p.catalog))
    (hhand : ∀ record scoring answer, scoring.verdict? record.importPath = some answer →
      P record scoring → P record (.answered answer)) :
    ∀ r ∈ p'.unsettled scorer credentials, P r.1 r.2 := by
  simp only [mem_unsettled] at hp ⊢
  intro r hr
  cases h with
  | @take before after record hsplit _ =>
      apply hp
      rw [hsplit]
      simp only [List.mem_append, List.mem_cons] at hr ⊢
      grind
  | @visit before after record change next hsplit =>
      simp only [List.mem_append, List.mem_cons] at hr
      rcases hr with hr | (hr | rfl | hr) | hr
      · exact hp r (.inl hr)
      · exact hp r (.inr (.inl (by simp [hsplit, hr])))
      · exact hvisit record change next (hp (record, _) (.inr (.inl (by simp [hsplit]))))
      · exact hp r (.inr (.inl (by simp [hsplit, hr])))
      · exact hp r (.inr (.inr hr))
  | @hand before after record scoring answer hsplit hended _ =>
      simp only [List.mem_append, List.mem_singleton] at hr
      rcases hr with ⟨answered, hanswered | rfl, rfl⟩ | (hr | hr) | hr
      · exact hp _ (.inl ⟨answered, hanswered, rfl⟩)
      · exact hhand record scoring answer hended
          (hp (record, scoring) (.inr (.inl (by simp [hsplit]))))
      · exact hp r (.inr (.inl (by simp [hsplit, hr])))
      · exact hp r (.inr (.inl (by simp [hsplit, hr])))
      · exact hp r (.inr (.inr hr))
  | @settle after record answer hhanded =>
      simp only [settle_fields] at hr
      rcases hr with ⟨answered, hanswered, rfl⟩ | hr
      · exact hp _ (.inl ⟨answered, by simp [hhanded, hanswered], rfl⟩)
      · exact hp r (.inr hr)

/-- The packages with a settled verdict, and those without one. -/
def packagesOf (scorer : Scorer) (credentials : Option Credentials) (p : Progress) : List Record :=
  p.settled.map Prod.fst ++ (p.unsettled scorer credentials).map Prod.fst

theorem packagesOf_eq (p : Progress) :
    packagesOf scorer credentials p = p.settled.map Prod.fst ++
      (p.handed.map Prod.fst ++ (p.running.map Prod.fst ++ p.waiting)) := by
  simp [packagesOf, Progress.unsettled, Function.comp_def]

/-- A step loses no package and tells of none twice. -/
theorem Moves.perm (h : Moves scorer faults credentials workers p p') :
    (packagesOf scorer credentials p').Perm (packagesOf scorer credentials p) := by
  simp only [packagesOf_eq]
  cases h with
  | @take before after record hsplit _ =>
      refine .append_left _ (.append_left _ ?_)
      rw [hsplit, List.map_append, List.append_assoc]
      have hmiddle : (before ++ record :: after).Perm (record :: (before ++ after)) :=
        List.perm_middle
      exact .append_left _ hmiddle.symm
  | visit hsplit => simp [hsplit]
  | @hand before after record scoring verdict hsplit _ _ =>
      refine .append_left _ ?_
      rw [hsplit, List.map_append, List.append_assoc]
      refine .append_left _ ?_
      simp only [List.map_append, List.map_cons, List.append_assoc]
      have hmiddle : (before.map Prod.fst ++ record :: (after.map Prod.fst ++ p.waiting)).Perm
          (record :: (before.map Prod.fst ++ (after.map Prod.fst ++ p.waiting))) :=
        List.perm_middle
      exact hmiddle.symm
  | @settle after record verdict hhanded =>
      obtain ⟨hwaiting, hrunning, hhanded', hsettled⟩ :=
        settle_fields faults record verdict { p with handed := after }
      simp [hwaiting, hrunning, hhanded', hsettled, hhanded]

theorem perm_of_reaches (h : Reaches scorer faults credentials workers p p') :
    (packagesOf scorer credentials p').Perm (packagesOf scorer credentials p) := by
  induction h with
  | refl => exact .refl _
  | tail _ hmoves ih => exact hmoves.perm.trans ih

variable (scorer faults credentials workers) in
/-- A scoring that the others leave alone visits the catalog until it has ended. -/
theorem reaches_ended {record : Record} {scoring : Scoring} {after : List (Record × Scoring)}
    (hrunning : p.running = (record, scoring) :: after) :
    ∃ ended, ended.verdict? record.importPath =
        some (scoring.run record.importPath p.catalog).1 ∧
      Reaches scorer faults credentials workers p { p with
        catalog := (scoring.run record.importPath p.catalog).2
        running := (record, ended) :: after } := by
  induction scoring generalizing p with
  | answered answer => exact ⟨.answered answer, rfl, by simp only [← hrunning]; exact .refl⟩
  | crashed payload => exact ⟨.crashed payload, rfl, by simp only [← hrunning]; exact .refl⟩
  | visit change next ih =>
      obtain ⟨ended, hverdict, hreaches⟩ :=
        ih p.catalog (p := { p with
          catalog := change p.catalog, running := (record, next p.catalog) :: after }) rfl
      exact ⟨ended, hverdict, .head (.visitFirst hrunning) hreaches⟩

/-- Settling leaves what is not settled as it is, and does not look at it. -/
theorem settle_alone (record : Record) (verdict : Verdict) (p : Progress) (waiting : List Record)
    (running : List (Record × Scoring)) (handed : List (Record × Verdict)) :
    settle faults record verdict { p with waiting := [], running := [], handed := [] } =
      { settle faults record verdict { p with waiting, running, handed } with
        waiting := [], running := [], handed := [] } := by
  rcases verdict with e | _ | _ <;> rfl

variable (scorer faults credentials workers) in
/-- A scoring that the others leave alone comes to its settled verdict. -/
theorem reaches_settled {record : Record} {scoring : Scoring} {after : List (Record × Scoring)}
    (hhanded : p.handed = []) (hrunning : p.running = (record, scoring) :: after) :
    Reaches scorer faults credentials workers p
      (settle faults record (scoring.run record.importPath p.catalog).1 { p with
        catalog := (scoring.run record.importPath p.catalog).2
        running := after
        handed := [] }) := by
  obtain ⟨ended, hverdict, hreaches⟩ :=
    reaches_ended scorer faults credentials workers hrunning
  refine (hreaches.tail (.handFirst rfl hverdict ?_)).tail (.settle ?_)
  · simp [hhanded, capacity_pos]
  · simp [hhanded]

theorem finish_settle {record : Record} {scoring : Scoring} {rest running : List (Record × Scoring)}
    {waiting : List Record} {handed : List (Record × Verdict)}
    (h : p.unsettled scorer credentials = (record, scoring) :: rest)
    (hp' : p' = settle faults record (scoring.run record.importPath p.catalog).1 { p with
      catalog := (scoring.run record.importPath p.catalog).2, waiting, running, handed })
    (hrest : p'.unsettled scorer credentials = rest) :
    finish scorer faults credentials p' = finish scorer faults credentials p := by
  rw [finish, finish, hrest, h, hp']
  simp only [inTurn]
  congr 1
  exact (settle_alone record _ { p with catalog := (scoring.run record.importPath p.catalog).2 }
    waiting running handed).symm

variable (faults workers) in
/-- One package after the other comes to its settled verdict. -/
theorem exists_turn {record : Record} {scoring : Scoring} {rest : List (Record × Scoring)}
    (h : p.unsettled scorer credentials = (record, scoring) :: rest) :
    ∃ p', Reaches scorer faults credentials workers p p' ∧
      p'.unsettled scorer credentials = rest ∧
      finish scorer faults credentials p' = finish scorer faults credentials p := by
  have hunsettled := h
  simp only [Progress.unsettled] at hunsettled
  cases hhanded : p.handed with
  | cons r after =>
      obtain ⟨record', verdict⟩ := r
      simp only [hhanded, List.map_cons, List.cons_append, List.cons.injEq, Prod.mk.injEq]
        at hunsettled
      obtain ⟨⟨rfl, rfl⟩, rfl⟩ := hunsettled
      refine ⟨_, .single (.settle hhanded), ?_, finish_settle h rfl ?_⟩ <;>
        simp [Progress.unsettled, settle_fields]
  | nil =>
      simp only [hhanded, List.map_nil, List.nil_append] at hunsettled
      cases hrunning : p.running with
      | cons r after =>
          simp only [hrunning, List.cons_append, List.cons.injEq] at hunsettled
          obtain ⟨rfl, rfl⟩ := hunsettled
          refine ⟨_, reaches_settled scorer faults credentials workers hhanded hrunning, ?_,
            finish_settle h rfl ?_⟩ <;>
            simp [Progress.unsettled, settle_fields]
      | nil =>
          simp only [hrunning, List.nil_append] at hunsettled
          cases hwaiting : p.waiting with
          | nil => simp [hwaiting] at hunsettled
          | cons record' after =>
              simp only [hwaiting, List.map_cons, List.cons.injEq, Prod.mk.injEq] at hunsettled
              obtain ⟨⟨rfl, rfl⟩, rfl⟩ := hunsettled
              have hfree : p.running.length < capacity workers := by
                simp [hrunning, capacity_pos]
              have htake : Moves scorer faults credentials workers p _ :=
                .takeFirst hwaiting hfree
              rw [hrunning] at htake
              refine ⟨_, .head htake (reaches_settled _ _ _ _ hhanded rfl), ?_,
                finish_settle h rfl ?_⟩ <;>
                simp [Progress.unsettled, settle_fields]

theorem finish_of_finished (h : Finished p) : finish scorer faults credentials p = p := by
  obtain ⟨hwaiting, hrunning, hhanded⟩ := h
  cases p
  simp_all [finish, Progress.unsettled, inTurn]

variable (workers) in
theorem reaches_finish (p : Progress) :
    Reaches scorer faults credentials workers p (finish scorer faults credentials p) := by
  -- On the number of packages that are left; a turn settles the first of them.
  generalize hn : (p.unsettled scorer credentials).length = n
  induction n generalizing p with
  | zero =>
      have hfinished : Finished p := by
        simp only [Progress.unsettled, List.length_append, List.length_map] at hn
        constructor <;> apply List.eq_nil_of_length_eq_zero <;> omega
      rw [finish_of_finished hfinished]
  | succ n ih =>
      obtain ⟨⟨record, scoring⟩, rest, hunsettled⟩ := List.exists_cons_of_length_eq_add_one hn
      obtain ⟨p', hreaches, hrest, hfinish⟩ := exists_turn faults workers hunsettled
      rw [← hfinish]
      exact hreaches.trans (ih p' (by simp_all))

theorem inTurn_fields (l : List (Record × Scoring)) (p : Progress) :
    (inTurn faults l p).waiting = p.waiting ∧ (inTurn faults l p).running = p.running ∧
      (inTurn faults l p).handed = p.handed := by
  induction l generalizing p with
  | nil => exact ⟨rfl, rfl, rfl⟩
  | cons r l ih => simp only [inTurn, ih, settle_fields, and_self]

variable (scorer faults credentials) in
theorem finished_finish (p : Progress) : Finished (finish scorer faults credentials p) := by
  constructor <;> simp only [finish, inTurn_fields]

/-- An evaluation that has come to its end has settled every package once. -/
theorem settled_of_finished {c : Catalog} {packages : List Record}
    (h : Reaches scorer faults credentials workers { catalog := c, waiting := packages } p)
    (hfinished : Finished p) : (p.settled.map Prod.fst).Perm packages := by
  obtain ⟨hwaiting, hrunning, hhanded⟩ := hfinished
  have hperm := perm_of_reaches h
  simpa [packagesOf_eq, hwaiting, hrunning, hhanded] using hperm

theorem all_of_access {packages : List Record} {c c' : Catalog}
    (h : Access.all faults c = .ok (packages, c')) : c' = c ∧ c.all = .ok packages := by
  cases hlist : faults .all with
  | some reason =>
      rw [Access.all, Access.guarded_of_some _ _ hlist] at h
      cases h
  | none =>
      simp only [Access.all, Access.guarded_of_none _ _ hlist, Access.reading] at h
      cases hall : c.all with
      | error e =>
          rw [hall] at h
          cases h
      | ok records =>
          rw [hall] at h
          cases h
          exact ⟨rfl, rfl⟩

theorem reaches_end (scorer : Scorer) (faults : CatalogFaults) (credentials : Option Credentials)
    (workers : UInt64) (schedule : List Event) (p : Progress) :
    Reaches scorer faults credentials workers p
      (finish scorer faults credentials (follow scorer faults credentials workers schedule p)) :=
  (reaches_follow schedule p).trans (reaches_finish workers _)

/-- The catalog that an evaluation leaves is the one it began with, or that of the end of some
steps from there. -/
theorem evaluate_catalog (scorer : Scorer) (faults : CatalogFaults) (workers : UInt64)
    (credentialsText? : Option String) (schedule : List Event) (c : Catalog) :
    (evaluate scorer faults workers credentialsText? schedule c).catalog = c ∨
      ∃ credentials packages p,
        Reaches scorer faults credentials workers { catalog := c, waiting := packages } p ∧
        (evaluate scorer faults workers credentialsText? schedule c).catalog = p.catalog := by
  cases hread : readCredentials credentialsText? with
  | error e => exact .inl (by simp only [evaluate, hread])
  | ok credentials =>
      cases hlist : Access.all faults c with
      | error e => exact .inl (by simp only [evaluate, hread, hlist])
      | ok listed =>
          obtain ⟨packages, c'⟩ := listed
          obtain ⟨rfl, _⟩ := all_of_access hlist
          refine .inr ⟨credentials, packages, _, reaches_end scorer faults credentials workers
            schedule _, ?_⟩
          simp only [evaluate, hread, hlist]

end PackageIndex.Suppression
