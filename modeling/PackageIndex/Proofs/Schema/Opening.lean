import PackageIndex.Schema.Opening
/-!
What opening leaves of a database that exists. It is found as it should be, taken through every
migration above its version and given the latest version number. Otherwise it is left as it was,
unless a migration has ended the transaction that it runs in.
-/
namespace PackageIndex.Schema

/-- The version that the number in a database stands for. -/
def Database.version (db : Database) : Int := db.userVersion - baseVersion.toNat

/-- The schemas above the version of a database. -/
def above (schemas : List VersionedSchema) (db : Database) : List VersionedSchema :=
  schemas.filter fun s => db.version < s.version.toNat

def migrations (schemas : List VersionedSchema) : List Migration :=
  schemas.filterMap (·.migration)

/-- Every one of some migrations goes through, each on what the one before has left. -/
inductive Ran : List Migration → Connection → Connection → Prop
  | nil {c : Connection} : Ran [] c c
  | cons {run : Migration} {rest : List Migration} {c mid c' : Connection} :
      run c = (.ok (), mid) → Ran rest mid c' → Ran (run :: rest) c c'

/-- The migration of one of the schemas fails, after those before it went through, and leaves its
connection as it is then. -/
inductive Fails : List VersionedSchema → Connection → OpenError → Connection → Prop
  | here {s : VersionedSchema} {rest : List VersionedSchema} {run : Migration}
      {c left : Connection} {why : MigrationError} :
      s.migration = some run → run c = (.error why, left) →
      Fails (s :: rest) c (.migration s.version why) left
  | later {s : VersionedSchema} {rest : List VersionedSchema} {c mid left : Connection}
      {e : OpenError} :
      Ran (migrations [s]) c mid → Fails rest mid e left → Fails (s :: rest) c e left

/-- The schema that a database declares itself to be of, and matches. -/
structure Matches (schemas : List VersionedSchema) (db : Database) (s : VersionedSchema) :
    Prop where
  positive : 1 ≤ db.version
  found : schemas.find? (fun s => (s.version.toNat : Int) = db.version) = some s
  valid : s.validate db = .ok ()

/-- A transaction on the file of a database, in which nothing was done yet. -/
def Database.started (db : Database) : Connection := { file := db, pending? := some db }

/-- Why a database is not opened, and what is in its file then. -/
inductive Rejects (schemas : List VersionedSchema) (label : String) (db : Database) :
    OpenError → Database → Prop
  | noVersions :
      schemas = [] → Rejects schemas label db (.noVersions label) db
  | invalid :
      schemas ≠ [] → db.version < 1 →
      Rejects schemas label db (.invalidVersion label db.version) db
  | unknown :
      schemas ≠ [] → 1 ≤ db.version → (∀ s ∈ schemas, (s.version.toNat : Int) ≠ db.version) →
      Rejects schemas label db (.unknownVersion label db.version) db
  | mismatched {s : VersionedSchema} {why : Mismatch} :
      1 ≤ db.version → schemas.find? (fun s => (s.version.toNat : Int) = db.version) = some s →
      s.validate db = .error why → Rejects schemas label db (.mismatch label db.version why) db
  | failed {latest s : VersionedSchema} {e : OpenError} {left : Connection} :
      schemas.getLast? = some latest → Matches schemas db s → db.version < latest.version.toNat →
      Fails (above schemas db) db.started e left → Rejects schemas label db e left.file
  /-- The migrations went through, and one of them ended the transaction. -/
  | ended {latest s : VersionedSchema} {c : Connection} :
      schemas.getLast? = some latest → Matches schemas db s → db.version < latest.version.toNat →
      Ran (migrations (above schemas db)) db.started c → c.pending? = none →
      Rejects schemas label db .refused (c.file.setVersion latest.number)

/-- What opening a database comes to, and what is in its file afterwards. -/
inductive Opening (schemas : List VersionedSchema) (label : String) (db : Database) :
    Except OpenError Unit → Database → Prop
  | rejected {e : OpenError} {db' : Database} :
      Rejects schemas label db e db' → Opening schemas label db (.error e) db'
  | raised {latest s : VersionedSchema} {c : Connection} {migrated : Database} :
      schemas.getLast? = some latest → Matches schemas db s → db.version < latest.version.toNat →
      Ran (migrations (above schemas db)) db.started c → c.pending? = some migrated →
      Opening schemas label db (.ok ()) (migrated.setVersion latest.number)
  | current {latest s : VersionedSchema} :
      schemas.getLast? = some latest → Matches schemas db s → latest.version.toNat ≤ db.version →
      Opening schemas label db (.ok ()) db

section

variable {schemas rest : List VersionedSchema} {latest s : VersionedSchema} {label : String}
  {db : Database} {c mid c' left : Connection} {e : OpenError} {ms ns : List Migration}

theorem Ran.append (h : Ran ms c mid) (h' : Ran ns mid c') : Ran (ms ++ ns) c c' := by
  induction h with
  | nil => exact h'
  | cons hrun _ ih => exact .cons hrun (ih h')

theorem ran_singleton_iff {run : Migration} : Ran [run] c c' ↔ run c = (.ok (), c') := by
  constructor
  · intro hran
    cases hran with
    | cons hrun hrest =>
        cases hrest
        exact hrun
  · intro hrun
    exact .cons hrun .nil

theorem not_fails_nil : ¬ Fails [] c e left := by
  intro hfails
  cases hfails

/-- A migration that goes through does not fail. -/
theorem not_fails_of_ran {run : Migration} (hs : s.migration = some run)
    (hran : Ran [run] c c') : ¬ Fails [s] c e left := by
  intro hfails
  rw [ran_singleton_iff] at hran
  cases hfails with
  | here hs' hrun =>
      obtain rfl := Option.some.inj (hs.symm.trans hs')
      rw [hran] at hrun
      cases hrun
  | later _ hrest => exact not_fails_nil hrest

theorem migrations_cons (s : VersionedSchema) (rest : List VersionedSchema) :
    migrations (s :: rest) = migrations [s] ++ migrations rest := by
  cases hs : s.migration <;> simp [migrations, hs]

/-- One schema's migration fails, or what it leaves is what the next one finds. -/
theorem migrate_step (s : VersionedSchema) (rest : List VersionedSchema) (c : Connection) :
    (∃ e left, Fails (s :: rest) c e left ∧ migrate (s :: rest) c = (.error e, left)) ∨
    ∃ mid, Ran (migrations [s]) c mid ∧ migrate (s :: rest) c = migrate rest mid := by
  cases hs : s.migration with
  | none =>
      refine .inr ⟨c, ?_, by simp only [migrate, hs]⟩
      rw [migrations, List.filterMap_cons_none hs]
      exact .nil
  | some run =>
      cases hrun : run c with
      | mk result left =>
          cases result with
          | error why => exact .inl ⟨_, left, .here hs hrun, by simp only [migrate, hs, hrun]⟩
          | ok _ =>
              refine .inr ⟨left, ?_, by simp only [migrate, hs, hrun]⟩
              rw [migrations, List.filterMap_cons_some hs]
              exact .cons hrun .nil

/-- All migrations go through, or one fails. -/
theorem migrate_outcome (schemas : List VersionedSchema) (c : Connection) :
    (∃ e left, Fails schemas c e left ∧ migrate schemas c = (.error e, left)) ∨
    ∃ c', Ran (migrations schemas) c c' ∧ migrate schemas c = (.ok (), c') := by
  induction schemas generalizing c with
  | nil => exact .inr ⟨c, .nil, rfl⟩
  | cons s rest ih =>
      obtain hfails | ⟨mid, hmid, hstep⟩ := migrate_step s rest c
      · exact .inl hfails
      · rw [hstep]
        obtain ⟨e, left, hfails, hrest⟩ | ⟨c', hran, hrest⟩ := ih mid
        · exact .inl ⟨e, left, .later hmid hfails, hrest⟩
        · refine .inr ⟨c', ?_, hrest⟩
          rw [migrations_cons]
          exact hmid.append hran

theorem opening_upgrade (label : String) (hlatest : schemas.getLast? = some latest)
    (hmatches : Matches schemas db s) :
    Opening schemas label db (upgrade schemas latest db.version { file := db }).1
      (upgrade schemas latest db.version { file := db }).2.file := by
  by_cases hbelow : db.version < latest.version.toNat
  · have hstart : ({ file := db } : Connection).start = db.started := rfl
    have habove : (schemas.filter fun s => db.version < s.version.toNat) = above schemas db := rfl
    rw [upgrade, if_pos hbelow, hstart, habove]
    obtain ⟨e, left, hfails, hmigrate⟩ | ⟨c, hran, hmigrate⟩ :=
      migrate_outcome (above schemas db) db.started
    · rw [hmigrate]
      have hfailed : Rejects schemas label db e left.file :=
        .failed hlatest hmatches hbelow hfails
      exact .rejected hfailed
    · rw [hmigrate]
      cases hpending : c.pending? with
      | none =>
          simp only [Connection.write, Connection.seen, hpending, Connection.commit?,
            Option.map_none, Option.getD_none]
          exact .rejected (.ended hlatest hmatches hbelow hran hpending)
      | some migrated =>
          simp only [Connection.write, Connection.seen, hpending, Connection.commit?,
            Option.map_some, Option.getD_some]
          exact .raised hlatest hmatches hbelow hran hpending
  · rw [upgrade, if_neg hbelow]
    exact .current hlatest hmatches (by omega)

theorem opening_openExisting (hlatest : schemas.getLast? = some latest) (label : String)
    (db : Database) :
    Opening schemas label db (openExisting schemas latest label { file := db }).1
      (openExisting schemas latest label { file := db }).2.file := by
  have hsome : schemas ≠ [] := by
    rintro rfl
    cases hlatest
  have hseen : ({ file := db } : Connection).seen.userVersion - (baseVersion.toNat : Int) =
      db.version := rfl
  simp only [openExisting, hseen]
  by_cases hinvalid : db.version < 1
  · rw [if_pos hinvalid]
    exact .rejected (.invalid hsome hinvalid)
  · rw [if_neg hinvalid]
    have hpositive : 1 ≤ db.version := by omega
    cases hfound : schemas.find? fun s => (s.version.toNat : Int) = db.version with
    | none =>
        refine .rejected (.unknown hsome hpositive fun s hs => ?_)
        simpa using List.find?_eq_none.mp hfound s hs
    | some s =>
        cases hcheck : s.validate db with
        | error why =>
            simp only [Connection.seen, Option.getD_none, hcheck]
            exact .rejected (.mismatched hpositive hfound hcheck)
        | ok _ =>
            simp only [Connection.seen, Option.getD_none, hcheck]
            exact opening_upgrade label hlatest ⟨hpositive, hfound, hcheck⟩

/-- Where a database stands, opening leaves a database. -/
theorem exists_opening (schemas : List VersionedSchema) (label : String) (db : Database) :
    ∃ result db', openPlace schemas label (.database db) = ⟨result, .database db'⟩ ∧
      Opening schemas label db result db' := by
  cases hlatest : schemas.getLast? with
  | none =>
      refine ⟨_, db, by simp only [openPlace, hlatest], .rejected (.noVersions ?_)⟩
      exact List.getLast?_eq_none_iff.mp hlatest
  | some latest =>
      refine ⟨_, _, ?_, opening_openExisting hlatest label db⟩
      simp only [openPlace, hlatest]

theorem version_le_latest (hsorted : schemas.Pairwise fun s t => s.version ≤ t.version)
    (hlatest : schemas.getLast? = some latest) (hs : s ∈ schemas) :
    s.version.toNat ≤ latest.version.toNat := by
  obtain ⟨before, rfl⟩ := List.getLast?_eq_some_iff.mp hlatest
  obtain hs | rfl : s ∈ before ∨ s = latest := by simpa using hs
  · exact UInt64.le_iff_toNat_le.mp ((List.pairwise_append.mp hsorted).2.2 s hs latest (by simp))
  · exact Nat.le_refl _

theorem Matches.version_eq (hmatches : Matches schemas db s) :
    (s.version.toNat : Int) = db.version := by
  simpa using List.find?_some hmatches.found

theorem Matches.mem (hmatches : Matches schemas db s) : s ∈ schemas :=
  List.mem_of_find?_eq_some hmatches.found

end

/-- In a transaction a migration works on what the connection sees, and leaves it to the
transaction what comes of that. -/
def Migration.StaysInside (run : Migration) : Prop :=
  ∀ file db, ∃ db', (run { file, pending? := some db }).2 = { file, pending? := some db' }

section

variable {schemas : List VersionedSchema} {label : String} {db db' : Database}
  {ms : List Migration} {c left : Connection} {e : OpenError}

/-- What does no more than write stays inside. -/
theorem Migration.writing_staysInside (change : Database → Done MigrationError) :
    (Migration.writing change).StaysInside :=
  fun _ db => ⟨(change db).2, rfl⟩

theorem Ran.stays_inside (hinside : ∀ run ∈ ms, run.StaysInside) (hran : Ran ms c left)
    (hopen : c.pending?.isSome) : left.file = c.file ∧ left.pending?.isSome := by
  induction hran with
  | nil => exact ⟨rfl, hopen⟩
  | @cons run _ c mid _ hrun _ ih =>
      obtain ⟨db, hdb⟩ := Option.isSome_iff_exists.mp hopen
      obtain ⟨db', hdb'⟩ := hinside run List.mem_cons_self c.file db
      have hmid : mid = { file := c.file, pending? := some db' } := by
        rw [← hdb', ← hdb, hrun]
      have hrest := ih (fun run h => hinside run (List.mem_cons_of_mem _ h)) (by simp [hmid])
      rw [hmid] at hrest
      exact hrest

theorem Fails.stays_inside (hinside : ∀ run ∈ migrations schemas, run.StaysInside)
    (hfails : Fails schemas c e left) (hopen : c.pending?.isSome) : left.file = c.file := by
  induction hfails with
  | @here s _ run c left _ hs hrun =>
      obtain ⟨db, hdb⟩ := Option.isSome_iff_exists.mp hopen
      obtain ⟨db', hdb'⟩ := hinside run (by simp [migrations, hs]) c.file db
      have hleft : left = { file := c.file, pending? := some db' } := by
        rw [← hdb', ← hdb, hrun]
      rw [hleft]
  | later hran _ ih =>
      rw [migrations_cons, List.forall_mem_append] at hinside
      obtain ⟨hfile, hstill⟩ := hran.stays_inside hinside.1 hopen
      rw [ih hinside.2 hstill, hfile]

theorem migrations_above_subset (schemas : List VersionedSchema) (db : Database) :
    migrations (above schemas db) ⊆ migrations schemas :=
  (List.filter_sublist.filterMap _).subset

/-- What is rejected is as it was, unless a migration has ended its transaction. -/
theorem Rejects.eq_of_inside (hinside : ∀ run ∈ migrations schemas, run.StaysInside)
    (hrejects : Rejects schemas label db e db') : db' = db := by
  have habove : ∀ run ∈ migrations (above schemas db), run.StaysInside :=
    fun run h => hinside run (migrations_above_subset schemas db h)
  cases hrejects with
  | noVersions _ | invalid _ _ | unknown _ _ _ | mismatched _ _ _ => rfl
  | failed _ _ _ hfails => exact hfails.stays_inside habove rfl
  | ended _ _ _ hran hended =>
      have hopen := (hran.stays_inside habove rfl).2
      simp [hended] at hopen

end

/-- A database holds the number of the version. -/
def VersionedSchema.IsKept (s : VersionedSchema) : Prop :=
  (baseVersion.toNat + s.version.toNat : Int) ≤ Database.maxVersion

instance (s : VersionedSchema) : Decidable s.IsKept :=
  inferInstanceAs (Decidable (_ ≤ Database.maxVersion))

section

variable {s : VersionedSchema}

/-- The number of a version is the sum, as far as 64 bits hold it. -/
theorem VersionedSchema.number_eq (s : VersionedSchema) :
    s.number = ((baseVersion.toNat + s.version.toNat) % 18446744073709551616 : Nat) := by
  rw [VersionedSchema.number, UInt64.toNat_add]

theorem userVersion_of_kept (hkept : s.IsKept) (db : Database) :
    (db.setVersion s.number).userVersion = baseVersion.toNat + s.version.toNat := by
  have hmax : Database.maxVersion = 2147483647 := rfl
  have hnumber := s.number_eq
  simp only [VersionedSchema.IsKept, Database.setVersion] at hkept ⊢
  omega

/-- A number that is too great to be kept is lost. -/
theorem userVersion_of_lost (hlost : ¬ s.IsKept)
    (hfits : baseVersion.toNat + s.version.toNat < UInt64.size) (db : Database) :
    (db.setVersion s.number).userVersion = 0 := by
  have hsize : UInt64.size = 18446744073709551616 := rfl
  have hnumber := s.number_eq
  simp only [VersionedSchema.IsKept, Database.setVersion] at hlost ⊢
  omega

/-- A sum that does not fit loses its highest bit, and then it is kept. -/
theorem userVersion_of_wrapped (hlong : UInt64.size ≤ baseVersion.toNat + s.version.toNat)
    (db : Database) : (db.setVersion s.number).userVersion =
      baseVersion.toNat + s.version.toNat - UInt64.size := by
  have hmax : Database.maxVersion = 2147483647 := rfl
  have hsize : UInt64.size = 18446744073709551616 := rfl
  have hbase : baseVersion.toNat = 99999 := rfl
  have hsmall := s.version.toNat_lt
  have hnumber := s.number_eq
  simp only [Database.setVersion]
  omega

end

/-- A database went through all migrations above its version, in their order, and has got the
latest version number. One that had it is as it was. -/
structure BroughtUp (schemas : List VersionedSchema) (latest : VersionedSchema)
    (db db' : Database) : Prop where
  known : ∃ s, Matches schemas db s
  ascending : (above schemas db).Pairwise fun s t => s.version ≤ t.version
  ran : ∃ migrated, Ran (migrations (above schemas db)) db.started
      { file := db, pending? := some migrated } ∧
    db'.tables = migrated.tables ∧ db'.indices = migrated.indices
  unchanged : db.version = latest.version.toNat → db' = db
  kept : db.version = latest.version.toNat ∨ latest.IsKept →
    db'.userVersion = baseVersion.toNat + latest.version.toNat
  /-- A number that is too great to be kept is lost. -/
  lost : db.version ≠ latest.version.toNat → ¬ latest.IsKept →
    baseVersion.toNat + latest.version.toNat < UInt64.size → db'.userVersion = 0
  /-- A sum that does not fit loses its highest bit. -/
  wrapped : db.version ≠ latest.version.toNat →
    UInt64.size ≤ baseVersion.toNat + latest.version.toNat →
    db'.userVersion = baseVersion.toNat + latest.version.toNat - UInt64.size

section

variable {schemas : List VersionedSchema} {latest s : VersionedSchema} {db migrated : Database}

theorem broughtUp_of_current (hsorted : schemas.Pairwise fun s t => s.version ≤ t.version)
    (hlatest : schemas.getLast? = some latest) (hmatches : Matches schemas db s)
    (hreached : latest.version.toNat ≤ db.version) : BroughtUp schemas latest db db := by
  have hle := version_le_latest hsorted hlatest hmatches.mem
  have hversion : db.version = latest.version.toNat := by
    have := hmatches.version_eq
    omega
  have hnone : above schemas db = [] := by
    refine List.filter_eq_nil_iff.mpr fun t ht => ?_
    have := version_le_latest hsorted hlatest ht
    simp only [decide_eq_true_eq]
    omega
  have hnumber : db.userVersion = baseVersion.toNat + latest.version.toNat := by
    rw [← hversion, Database.version]
    omega
  exact
    { known := ⟨s, hmatches⟩
      ascending := hsorted.filter _
      ran := ⟨db, hnone ▸ .nil, rfl, rfl⟩
      unchanged := fun _ => rfl
      kept := fun _ => hnumber
      lost := fun hne => absurd hversion hne
      wrapped := fun hne => absurd hversion hne }

theorem broughtUp_of_raised (hsorted : schemas.Pairwise fun s t => s.version ≤ t.version)
    (hmatches : Matches schemas db s) (hbelow : db.version < latest.version.toNat)
    (hran : Ran (migrations (above schemas db)) db.started
      { file := db, pending? := some migrated }) :
    BroughtUp schemas latest db (migrated.setVersion latest.number) := by
  have hne : db.version ≠ latest.version.toNat := by omega
  exact
    { known := ⟨s, hmatches⟩
      ascending := hsorted.filter _
      ran := ⟨migrated, hran, rfl, rfl⟩
      unchanged := fun h => absurd h hne
      kept := fun h => userVersion_of_kept (h.resolve_left hne) migrated
      lost := fun _ hlost hfits => userVersion_of_lost hlost hfits migrated
      wrapped := fun _ hlong => userVersion_of_wrapped hlong migrated }

end

/-- Migrations that leave the transaction open are run all of them or not at all. -/
theorem opening_is_all_or_nothing (schemas : List VersionedSchema) (label : String)
    (db : Database) (hsorted : schemas.Pairwise fun s t => s.version ≤ t.version)
    (hinside : ∀ run ∈ migrations schemas, run.StaysInside) :
    (∃ e, Rejects schemas label db e db ∧
      openPlace schemas label (.database db) = ⟨.error e, .database db⟩) ∨
    ∃ latest db', schemas.getLast? = some latest ∧ BroughtUp schemas latest db db' ∧
      openPlace schemas label (.database db) = ⟨.ok (), .database db'⟩ := by
  obtain ⟨result, db', hopen, hopening⟩ := exists_opening schemas label db
  cases hopening with
  | rejected hrejects =>
      obtain rfl := hrejects.eq_of_inside hinside
      exact .inl ⟨_, hrejects, hopen⟩
  | @raised _ _ c migrated hlatest hmatches hbelow hran hpending =>
      have habove : ∀ run ∈ migrations (above schemas db), run.StaysInside :=
        fun run h => hinside run (migrations_above_subset schemas db h)
      have hfile : c.file = db := (hran.stays_inside habove rfl).1
      obtain rfl : c = { file := db, pending? := some migrated } := by rw [← hpending, ← hfile]
      have hup := broughtUp_of_raised hsorted hmatches hbelow hran
      exact .inr ⟨_, _, hlatest, hup, hopen⟩
  | current hlatest hmatches hreached =>
      have hup := broughtUp_of_current hsorted hlatest hmatches hreached
      exact .inr ⟨_, _, hlatest, hup, hopen⟩

/-- The second version adds a table. The migration to the third one takes all tables away, and
then fails. -/
def stepSchemas : List VersionedSchema :=
  [ { version := 1, tables := [] }
  , { version := 2, tables := []
      migration := some <| .writing fun db =>
        (.ok (), { db with tables := db.tables ++ [{ name := "added", columns := [] }] }) }
  , { version := 3, tables := []
      migration := some <| .writing fun db =>
        (.error (.failed "no room"), { db with tables := [] }) } ]

/-- What the second version would have added is not in the database either. -/
theorem stopped_opening_leaves_all :
    stepSchemas.Pairwise (fun s t => s.version ≤ t.version) ∧
      (∀ run ∈ migrations stepSchemas, run.StaysInside) ∧
      ∃ e, Rejects stepSchemas "steps" { userVersion := 100000 } e { userVersion := 100000 } ∧
        openPlace stepSchemas "steps" (.database { userVersion := 100000 }) =
          ⟨.error e, .database { userVersion := 100000 }⟩ := by
  have hsorted : stepSchemas.Pairwise fun s t => s.version ≤ t.version := by simp [stepSchemas]
  have hinside : ∀ run ∈ migrations stepSchemas, run.StaysInside := by
    simp only [stepSchemas, migrations, List.filterMap_cons, List.filterMap_nil,
      List.forall_mem_cons]
    exact ⟨Migration.writing_staysInside _, Migration.writing_staysInside _, nofun⟩
  have hstopped :
      (openPlace stepSchemas "steps" (.database { userVersion := 100000 })).result =
        .error (.migration 3 (.failed "no room")) := rfl
  refine ⟨hsorted, hinside,
    (opening_is_all_or_nothing _ _ _ hsorted hinside).resolve_right ?_⟩
  rintro ⟨latest, db', _, _, hopen⟩
  rw [hopen] at hstopped
  cases hstopped

/-- A migration that commits what it has done before it fails. -/
def hastySchemas : List VersionedSchema :=
  [ { version := 1, tables := [] }
  , { version := 2, tables := []
      migration := some fun c =>
        let c := c.write { c.seen with tables := [{ name := "added", columns := [] }] }
        (.error (.failed "no room"), c.commit?.getD c) } ]

example : openPlace hastySchemas "hasty" (.database { userVersion := 100000 }) =
    ⟨.error (.migration 2 (.failed "no room")),
      .database { userVersion := 100000, tables := [{ name := "added", columns := [] }] }⟩ := rfl

/-- Two versions so far apart that the number of the second one cannot be kept. -/
def farSchemas : List VersionedSchema :=
  [{ version := 1, tables := [] }, { version := 2147383649, tables := [] }]

/-- A database of the first version is opened, and no version can be told of it any more. -/
theorem great_version_is_lost :
    ¬ ∀ (schemas : List VersionedSchema) (label : String) (db db' : Database),
      schemas.Pairwise (fun s t => s.version ≤ t.version) →
      (∀ run ∈ migrations schemas, run.StaysInside) →
      openPlace schemas label (.database db) = ⟨.ok (), .database db'⟩ →
      ∃ latest, schemas.getLast? = some latest ∧
        db'.userVersion = baseVersion.toNat + latest.version.toNat := by
  intro h
  have hopen : openPlace farSchemas "far" (.database { userVersion := 100000 }) =
      ⟨.ok (), .database {}⟩ := rfl
  obtain ⟨latest, hlatest, hversion⟩ :=
    h farSchemas _ _ _ (by simp [farSchemas]) (by simp [farSchemas, migrations]) hopen
  obtain rfl : { version := 2147383649, tables := [] } = latest := by
    simpa [farSchemas] using hlatest
  exact absurd hversion (by decide)

end PackageIndex.Schema
