import PackageIndex.Schema.Stores
import PackageIndex.Proofs.Schema.Validation
/-!
Opening the two stores. What is made is added behind what is there, so that a catalog of the first
version matches the second one after its migration, whatever else is in it.
-/
namespace PackageIndex.Schema

open PackageIndex.Sql

/-- Tables, with their rows, and indices are added behind those that are there. -/
structure Database.Grows (db db' : Database) : Prop where
  tables : db.tables <+: db'.tables
  indices : db.indices <+: db'.indices

def tableStatement? : Statement → Option TableStatement
  | .table s => some s
  | .index _ => none

/-- A definition makes a table of a name in the file, as a draft says. -/
def Defines (text : List Char) (name : String) (d : Drafted) : Prop :=
  ∃ s ∈ (statement? text).bind tableStatement?, s.name.name = name ∧
    siteOf? s.name = some .file ∧ isKept name = false ∧ s.isGuarded = false ∧ s.drafted? = some d

instance (text : List Char) (name : String) (d : Drafted) : Decidable (Defines text name d) :=
  inferInstanceAs (Decidable (∃ s ∈ (statement? text).bind tableStatement?, _))

section

variable {db db' : Database} {text : List Char} {name : String} {d : Drafted} {t : TableSchema}

theorem execute_eq_ok_iff (hdefines : Defines text name d) :
    db.execute text = .ok db' ↔
      db.table? name = none ∧ db.index? name = none ∧ db' = db.add d := by
  obtain ⟨s, hs, rfl, hsite, hkept, hguard, hdraft⟩ := hdefines
  have hstatement : statement? text = some (.table s) := by
    obtain ⟨statement, hread, hs⟩ := Option.bind_eq_some_iff.mp hs
    cases statement with
    | table _ =>
        cases hs
        exact hread
    | index _ => cases hs
  simp only [Database.execute, hstatement, Database.createTable, hsite, hkept, hguard, hdraft]
  cases htable : db.table? s.name.name with
  | some _ => simp
  | none =>
      cases hindex : db.index? s.name.name with
      | some _ => simp
      | none => simp [eq_comm]

theorem creating_eq_ok_iff {c : Connection} (hindices : t.indices = []) :
    Migration.creating [t] none db.started = (.ok (), c) ↔
      ∃ db', db.execute t.definition = .ok db' ∧ c = { file := db, pending? := some db' } := by
  cases hexecute : db.execute t.definition <;>
    simp [Migration.creating, Migration.writing, Database.started, Connection.seen,
      Connection.write, createTables, TableSchema.create, createIndices, hexecute, hindices,
      eq_comm]

theorem grows_add (hplain : d.isCounted = false) : db.Grows (db.add d) := by
  simp only [Database.add, hplain]
  exact ⟨List.prefix_append _ _, List.prefix_append _ _⟩

theorem table?_add (hplain : d.isCounted = false) (name : String) :
    (db.add d).table? name =
      (db.table? name).or (if sameName d.table.name name then some d.table else none) := by
  simp only [Database.table?, Database.add, hplain, Bool.false_eq_true, ite_false,
    List.find?_append, List.find?_singleton]

/-- The columns that are reported for a name depend on the table that it asks for. -/
theorem columnsOf?_congr {table : String}
    (h : ∀ name, questionOf? (Database.columnsQuestion table) = some name →
      db'.table? name = db.table? name) : db'.columnsOf? table = db.columnsOf? table := by
  unfold Database.columnsOf?
  cases hname : questionOf? (Database.columnsQuestion table) with
  | none => rfl
  | some name => simp [Database.columnsOf, h name hname]

theorem Passes.of_columnsOf? (hpasses : Passes db t)
    (hcolumns : db'.columnsOf? t.name = db.columnsOf? t.name)
    (hindices : db.indices ⊆ db'.indices) : Passes db' t := by
  obtain ⟨columns, hreported, hfits, hindexed⟩ := hpasses
  refine ⟨columns, hcolumns.trans hreported, hfits, fun i hi => ?_⟩
  obtain ⟨j, hj, hname⟩ := hindexed i hi
  exact ⟨j, hindices hj, hname⟩

theorem Passes.setVersion (hpasses : Passes db t) (version : Int) :
    Passes (db.setVersion version) t :=
  hpasses.of_columnsOf? rfl (List.Subset.refl _)

/-- A question that does not ask for a name. -/
def AsksElsewhere (table name : String) : Prop :=
  ∀ asked, questionOf? (Database.columnsQuestion table) = some asked →
    sameName name asked = false

/-- A table that is added under another name changes nothing for a declared one. -/
theorem Passes.add (hpasses : Passes db t) (hplain : d.isCounted = false)
    (helsewhere : AsksElsewhere t.name d.table.name) : Passes (db.add d) t := by
  refine hpasses.of_columnsOf? (columnsOf?_congr fun name hname => ?_)
    (grows_add hplain).indices.subset
  rw [table?_add hplain, helsewhere name hname]
  simp

end

def blobsDraft : Drafted :=
  { table :=
      { name := "blobs"
        columns :=
          [ ⟨"key", "TEXT", false, none, 1⟩, ⟨"value", "BLOB", true, none, 0⟩
          , ⟨"updated_at", "TEXT", true, some "datetime('now')", 0⟩ ] }
    indices := [{ name := "sqlite_autoindex_blobs_1", table := "blobs", isAutomatic := true }]
    isCounted := false }

theorem defines_blobs : Defines blobsTable.definition "blobs" blobsDraft := by
  decide +kernel

theorem asksElsewhere_blobs {t : TableSchema} (ht : t ∈ firstCatalog.tables) :
    AsksElsewhere t.name "blobs" := by
  have hcheck : firstCatalog.tables.all (fun t =>
      (questionOf? (Database.columnsQuestion t.name)).all fun asked =>
        !sameName "blobs" asked) = true := by decide +kernel
  intro asked hasked
  have ht := List.all_eq_true.mp hcheck t ht
  simpa [hasked] using ht

/-- In a database without blobs the new table is as declared. -/
theorem passes_blobs {db : Database} (hmissing : db.table? "blobs" = none) :
    Passes (db.add blobsDraft) blobsTable := by
  have hempty : Passes (({} : Database).add blobsDraft) blobsTable :=
    validate_eq_ok_iff.mp (by decide +kernel)
  have hasked : questionOf? (Database.columnsQuestion blobsTable.name) = some "blobs" := by
    decide +kernel
  refine hempty.of_columnsOf? (columnsOf?_congr fun name hname => ?_)
    (List.subset_append_right _ _)
  obtain rfl := Option.some.inj (hasked.symm.trans hname)
  rw [table?_add rfl, table?_add rfl, hmissing]
  rfl

/-- The migration to the second version goes through where nothing has the name of the blobs. -/
theorem ran_secondCatalog_iff {db : Database} {c : Connection} :
    Ran (migrations [secondCatalog]) db.started c ↔
      db.table? "blobs" = none ∧ db.index? "blobs" = none ∧
        c = { file := db, pending? := some (db.add blobsDraft) } := by
  have hmigrations : migrations [secondCatalog] = [Migration.creating [blobsTable]] := rfl
  have hindices : blobsTable.indices = [] := rfl
  simp only [hmigrations, ran_singleton_iff, creating_eq_ok_iff hindices,
    execute_eq_ok_iff defines_blobs, and_assoc]
  constructor
  · rintro ⟨_, htable, hindex, rfl, hc⟩
    exact ⟨htable, hindex, hc⟩
  · rintro ⟨htable, hindex, hc⟩
    exact ⟨_, htable, hindex, rfl, hc⟩

/-- After its migration a catalog of the first version matches the second one. -/
theorem valid_of_migrated {db : Database} (hvalid : firstCatalog.validate db = .ok ())
    (hmissing : db.table? "blobs" = none) (version : Int) :
    secondCatalog.validate ((db.add blobsDraft).setVersion version) = .ok () := by
  rw [validate_schema_eq_ok_iff] at hvalid ⊢
  intro t ht
  have hsplit : t ∈ firstCatalog.tables ∨ t = blobsTable := by
    simpa [secondCatalog, firstCatalog, or_assoc] using ht
  refine Passes.setVersion ?_ version
  cases hsplit with
  | inl hfirst => exact (hvalid t hfirst).add rfl (asksElsewhere_blobs hfirst)
  | inr hblobs => exact hblobs ▸ passes_blobs hmissing

inductive Store where
  | catalog
  | history

namespace Store

def schemas : Store → List VersionedSchema
  | catalog => catalogSchemas
  | history => historySchemas

def latest : Store → VersionedSchema
  | catalog => secondCatalog
  | history => firstHistory

/-- A database matches the latest version of a store, and says so. -/
structure Current (store : Store) (db : Database) : Prop where
  version : db.version = store.latest.version.toNat
  valid : store.latest.validate db = .ok ()

end Store

section

variable {store : Store} {label : String} {db db' : Database}

theorem Store.getLast?_schemas (store : Store) : store.schemas.getLast? = some store.latest := by
  cases store <;> rfl

theorem Store.find?_latest (store : Store) :
    store.schemas.find? (fun s => (s.version.toNat : Int) = store.latest.version.toNat) =
      some store.latest := by
  cases store <;> rfl

theorem Store.version_le (store : Store) :
    ∀ s ∈ store.schemas, s.version.toNat ≤ store.latest.version.toNat := by
  cases store <;> decide

theorem Store.Current.above_eq_nil (hcurrent : store.Current db) :
    above store.schemas db = [] := by
  refine List.filter_eq_nil_iff.mpr fun s hs => ?_
  have hle : s.version.toNat ≤ store.latest.version.toNat := store.version_le s hs
  have hversion := hcurrent.version
  simp only [decide_eq_true_eq]
  omega

/-- What is current is opened and left as it is. -/
theorem Store.Current.openPlace_eq (hcurrent : store.Current db) (label : String) :
    openPlace store.schemas label (.database db) = ⟨.ok (), .database db⟩ := by
  have hversion := hcurrent.version
  have hpositive : 1 ≤ db.version := by cases store <;> exact hversion ▸ by decide
  have hfound := store.find?_latest
  rw [← hversion] at hfound
  have hok := opened_of_passes label hpositive hfound
    (by simp [hcurrent.above_eq_nil]) (validate_schema_eq_ok_iff.mp hcurrent.valid)
  obtain ⟨result, db', hopen, hopening⟩ := exists_opening store.schemas label db
  rw [hopen] at hok ⊢
  cases hopening with
  | rejected _ => cases hok
  | raised hlatest _ hbelow _ _ =>
      obtain rfl := Option.some.inj (store.getLast?_schemas.symm.trans hlatest)
      omega
  | current _ _ _ => rfl

theorem above_catalog (hversion : db.version = 1) :
    above catalogSchemas db = [secondCatalog] := by
  simp [above, catalogSchemas, firstCatalog, secondCatalog, hversion]

theorem ran_above_catalog_iff (hversion : db.version = 1) {c : Connection} :
    Ran (migrations (above catalogSchemas db)) db.started c ↔
      db.table? "blobs" = none ∧ db.index? "blobs" = none ∧
        c = { file := db, pending? := some (db.add blobsDraft) } := by
  rw [above_catalog hversion, ran_secondCatalog_iff]

/-- A database that is below the latest version of its store is a catalog of the first one. -/
theorem Store.eq_of_below (store : Store) {s : VersionedSchema}
    (hmatches : Matches store.schemas db s) (hbelow : db.version < store.latest.version.toNat) :
    store = .catalog ∧ s = firstCatalog ∧ db.version = 1 := by
  have hpositive := hmatches.positive
  have hversion := hmatches.version_eq
  have hmem := hmatches.mem
  cases store with
  | history =>
      have hlatest : Store.history.latest.version.toNat = 1 := rfl
      omega
  | catalog =>
      have hlatest : Store.catalog.latest.version.toNat = 2 := rfl
      obtain rfl | rfl : s = firstCatalog ∨ s = secondCatalog := by
        simpa [Store.schemas, catalogSchemas] using hmem
      · exact ⟨rfl, rfl, by omega⟩
      · have hsecond : secondCatalog.version.toNat = 2 := rfl
        omega

/-- A catalog of the first version, with the blobs behind all that is in it. -/
def Database.withBlobs (db : Database) : Database :=
  (db.add blobsDraft).setVersion secondCatalog.number

theorem grows_withBlobs (db : Database) : db.Grows db.withBlobs :=
  have hadd : db.Grows (db.add blobsDraft) := grows_add rfl
  ⟨hadd.tables, hadd.indices⟩

theorem current_withBlobs (hvalid : firstCatalog.validate db = .ok ())
    (hmissing : db.table? "blobs" = none) : Store.catalog.Current db.withBlobs :=
  ⟨rfl, valid_of_migrated hvalid hmissing _⟩

/-- An opened store is current and has all that was there. -/
theorem Store.current_of_opened
    (hopened : openPlace store.schemas label (.database db) = ⟨.ok (), .database db'⟩) :
    store.Current db' ∧ db.Grows db' := by
  obtain ⟨result, db'', hopen, hopening⟩ := exists_opening store.schemas label db
  rw [hopened] at hopen
  cases hopen
  cases hopening with
  | raised hlatest hmatches hbelow hran hpending =>
      obtain rfl := Option.some.inj (store.getLast?_schemas.symm.trans hlatest)
      obtain ⟨rfl, rfl, hversion⟩ := store.eq_of_below hmatches hbelow
      obtain ⟨hmissing, _, rfl⟩ := (ran_above_catalog_iff hversion).mp hran
      cases hpending
      exact ⟨current_withBlobs hmatches.valid hmissing, grows_withBlobs db⟩
  | current hlatest hmatches hreached =>
      obtain rfl := Option.some.inj (store.getLast?_schemas.symm.trans hlatest)
      have hle := store.version_le _ hmatches.mem
      have hversion : db.version = store.latest.version.toNat := by
        have := hmatches.version_eq
        omega
      have hfound := hmatches.found
      rw [hversion, store.find?_latest] at hfound
      cases hfound
      exact ⟨⟨hversion, hmatches.valid⟩, List.prefix_refl _, List.prefix_refl _⟩

/-- The latest version of a store makes a current database in an empty file. -/
def Store.isMade (store : Store) : Bool :=
  match store.latest.create {} with
  | (.ok (), db) => db.version = store.latest.version.toNat ∧ store.latest.validate db = .ok ()
  | (.error _, _) => false

theorem Store.isMade_eq_true (store : Store) : store.isMade = true := by
  cases store <;> decide +kernel

theorem Store.exists_fresh (store : Store) (label : String) :
    ∃ db, openPlace store.schemas label .absent = ⟨.ok (), .database db⟩ ∧ store.Current db := by
  have hmade := store.isMade_eq_true
  unfold Store.isMade at hmade
  split at hmade
  · rename_i db hcreate
    have hcurrent := of_decide_eq_true hmade
    refine ⟨db, ?_, hcurrent.1, hcurrent.2⟩
    simp only [openPlace, createPlace, store.getLast?_schemas, hcreate]
  · cases hmade

theorem Store.stays_inside (store : Store) :
    ∀ run ∈ migrations store.schemas, run.StaysInside := by
  intro run hrun
  cases store with
  | history => simp [Store.schemas, historySchemas, migrations, firstHistory] at hrun
  | catalog =>
      obtain rfl := List.mem_singleton.mp hrun
      exact Migration.writing_staysInside _

/-- Nothing is left half done. -/
theorem Store.opened_or_untouched (store : Store) (label : String) (db : Database) :
    (∃ db', openPlace store.schemas label (.database db) = ⟨.ok (), .database db'⟩) ∨
      ∃ e, openPlace store.schemas label (.database db) = ⟨.error e, .database db⟩ := by
  obtain ⟨result, db', hopen, hopening⟩ := exists_opening store.schemas label db
  cases hopening with
  | rejected hrejects =>
      obtain rfl := hrejects.eq_of_inside store.stays_inside
      exact .inr ⟨_, hopen⟩
  | raised _ _ _ _ _ | current _ _ _ => exact .inl ⟨_, hopen⟩

/-- What a catalog of the first version needs to be opened. -/
structure Migratable (db : Database) : Prop where
  version : db.version = 1
  valid : firstCatalog.validate db = .ok ()
  noTable : db.table? "blobs" = none
  noIndex : db.index? "blobs" = none

theorem openPlace_of_migratable (label : String) (hmigratable : Migratable db) :
    openPlace catalogSchemas label (.database db) = ⟨.ok (), .database db.withBlobs⟩ := by
  obtain ⟨hversion, hvalid, htable, hindex⟩ := hmigratable
  have hran : Ran (migrations [secondCatalog]) db.started _ :=
    ran_secondCatalog_iff.mpr ⟨htable, hindex, rfl⟩
  have hfound : catalogSchemas.find? (fun s => (s.version.toNat : Int) = db.version) =
      some firstCatalog := by
    rw [hversion]
    rfl
  obtain ⟨result, db', hopen, hopening⟩ := exists_opening catalogSchemas label db
  rw [hopen]
  cases hopening with
  | raised hlatest _ _ hran' hpending =>
      obtain ⟨_, _, rfl⟩ := (ran_above_catalog_iff hversion).mp hran'
      cases hpending
      obtain rfl := Option.some.inj (Store.catalog.getLast?_schemas.symm.trans hlatest)
      rfl
  | current hlatest _ hreached =>
      obtain rfl := Option.some.inj (Store.catalog.getLast?_schemas.symm.trans hlatest)
      have hsecond : Store.catalog.latest.version.toNat = 2 := rfl
      omega
  | rejected hrejects =>
      cases hrejects with
      | noVersions hempty => cases hempty
      | invalid _ hinvalid => omega
      | unknown _ _ hunknown =>
          have hfirst : (firstCatalog.version.toNat : Int) = 1 := rfl
          exact absurd hversion.symm (hunknown firstCatalog (by simp [catalogSchemas]))
      | mismatched _ hfound' hmismatch =>
          obtain rfl := Option.some.inj (hfound.symm.trans hfound')
          rw [hvalid] at hmismatch
          cases hmismatch
      | failed _ _ _ hfails =>
          rw [above_catalog hversion] at hfails
          exact absurd hfails (not_fails_of_ran rfl hran)
      | ended _ _ _ hran' hended =>
          obtain ⟨_, _, rfl⟩ := (ran_above_catalog_iff hversion).mp hran'
          cases hended

/-- A catalog of the first version is opened only with what its migration needs. -/
theorem migratable_of_opened (hversion : db.version = 1)
    (hopened : openPlace catalogSchemas label (.database db) = ⟨.ok (), .database db'⟩) :
    Migratable db := by
  obtain ⟨result, db'', hopen, hopening⟩ := exists_opening catalogSchemas label db
  rw [hopened] at hopen
  cases hopen
  cases hopening with
  | raised hlatest hmatches hbelow hran _ =>
      obtain rfl := Option.some.inj (Store.catalog.getLast?_schemas.symm.trans hlatest)
      obtain ⟨_, rfl, _⟩ := Store.eq_of_below .catalog hmatches hbelow
      obtain ⟨htable, hindex, _⟩ := (ran_above_catalog_iff hversion).mp hran
      exact ⟨hversion, hmatches.valid, htable, hindex⟩
  | current hlatest _ hreached =>
      obtain rfl := Option.some.inj (Store.catalog.getLast?_schemas.symm.trans hlatest)
      have hsecond : Store.catalog.latest.version.toNat = 2 := rfl
      omega

end

/-- What is opened is current, keeps all tables with their rows, and is opened again as it is; what
is not opened is as it was. New stores are opened, and a catalog of the first version is opened if
and only if it matches that version and nothing in it has the name of the blobs. -/
theorem opened_store_is_current (store : Store) (label : String) :
    (∃ db, openPlace store.schemas label .absent = ⟨.ok (), .database db⟩ ∧ store.Current db ∧
      openPlace store.schemas label (.database db) = ⟨.ok (), .database db⟩) ∧
    (∀ db, (∃ db', openPlace store.schemas label (.database db) = ⟨.ok (), .database db'⟩) ∨
      ∃ e, openPlace store.schemas label (.database db) = ⟨.error e, .database db⟩) ∧
    (∀ db db', openPlace store.schemas label (.database db) = ⟨.ok (), .database db'⟩ →
      store.Current db' ∧ db.Grows db' ∧
        openPlace store.schemas label (.database db') = ⟨.ok (), .database db'⟩) ∧
    (∀ db, store.Current db →
      openPlace store.schemas label (.database db) = ⟨.ok (), .database db⟩) ∧
    ∀ db, store = .catalog → db.version = 1 → ∀ db',
      (openPlace store.schemas label (.database db) = ⟨.ok (), .database db'⟩ ↔
        Migratable db ∧ db' = db.withBlobs) := by
  refine ⟨?_, store.opened_or_untouched label, ?_, fun db h => h.openPlace_eq label, ?_⟩
  · obtain ⟨db, hopen, hcurrent⟩ := store.exists_fresh label
    exact ⟨db, hopen, hcurrent, hcurrent.openPlace_eq label⟩
  · intro db db' hopened
    obtain ⟨hcurrent, hgrows⟩ := Store.current_of_opened hopened
    exact ⟨hcurrent, hgrows, hcurrent.openPlace_eq label⟩
  · rintro db rfl hversion db'
    constructor
    · intro hopened
      have hmigratable := migratable_of_opened hversion hopened
      have hmigrated := openPlace_of_migratable label hmigratable
      cases hopened.symm.trans hmigrated
      exact ⟨hmigratable, rfl⟩
    · rintro ⟨hmigratable, rfl⟩
      exact openPlace_of_migratable label hmigratable

/-- A table as a database keeps it that was made by its declaration. -/
def TableSchema.stored (t : TableSchema) : StoredTable :=
  { name := t.name
    columns := t.columns.map fun c =>
      ⟨c.name, c.type.keyword, c.nonNull, c.default?, if c.isPrimaryKey then 1 else 0⟩ }

/-- A catalog of the first version in which another program keeps its notes. -/
def notedCatalog : Database :=
  { userVersion := 100000
    tables := { name := "notes", columns := [], rows := [[.text "kept"]] } ::
      firstCatalog.tables.map (·.stored)
    indices := firstCatalog.tables.flatMap fun t => t.indices.map fun i => ⟨i.1, t.name, false⟩ }

theorem noted_catalog_is_opened :
    ∃ db, openPlace catalogSchemas catalogLabel (.database notedCatalog) =
        ⟨.ok (), .database db⟩ ∧
      Store.catalog.Current db ∧ notedCatalog.Grows db ∧
      openPlace catalogSchemas catalogLabel (.database db) = ⟨.ok (), .database db⟩ := by
  have hmigratable : Migratable notedCatalog :=
    ⟨by decide, by decide +kernel, by decide +kernel, by decide +kernel⟩
  obtain ⟨_, _, hkept, _, hfirst⟩ := opened_store_is_current .catalog catalogLabel
  have hopened := (hfirst notedCatalog rfl hmigratable.version _).mpr ⟨hmigratable, rfl⟩
  exact ⟨_, hopened, hkept _ _ hopened⟩

end PackageIndex.Schema
