import PackageIndex.Proofs.Schema.Creation
/-!
Opening a database again that was made of declared schemas. That changes nothing, and it succeeds
if and only if the version number could be kept and all tables pass. Of plain tables those pass that
are found again as they are declared, so that one more pair of brackets is enough to fail.
-/
namespace PackageIndex.Schema

open PackageIndex.Sql

section

variable {schemas : List VersionedSchema} {latest s : VersionedSchema} {label : String}
  {db : Database}

theorem opened_eq {opened : Opened} {place : Place} (hresult : opened.result = .ok ())
    (hplace : opened.place = place) : opened = ⟨.ok (), place⟩ := by
  rw [← hresult, ← hplace]

/-- A new database has the tables of the latest version and its number. -/
theorem exists_createTables (hlatest : schemas.getLast? = some latest)
    (hmade : openPlace schemas label .absent = ⟨.ok (), .database db⟩) :
    ∃ made, createTables latest.tables {} = (.ok (), made) ∧
      db = made.setVersion latest.number := by
  simp only [openPlace, createPlace, hlatest, VersionedSchema.create] at hmade
  cases hcreate : createTables latest.tables {} with
  | mk result made =>
    cases result with
    | error _ => simp [hcreate] at hmade
    | ok _ =>
      simp only [hcreate, Opened.mk.injEq, Place.database.injEq, true_and] at hmade
      exact ⟨made, rfl, hmade.symm⟩

theorem version_setVersion_of_kept (made : Database) (hkept : s.IsKept) :
    (made.setVersion s.number).version = s.version.toNat := by
  rw [Database.version, userVersion_of_kept hkept]
  omega

/-- A number that is lost, or has lost its highest bit, stands for no version. -/
theorem version_setVersion_of_not_kept (made : Database) (hlost : ¬ s.IsKept) :
    (made.setVersion s.number).version < 1 := by
  have hsmall := s.version.toNat_lt
  have hsize : UInt64.size = 18446744073709551616 := rfl
  by_cases hfits : baseVersion.toNat + s.version.toNat < UInt64.size
  · rw [Database.version, userVersion_of_lost hlost hfits]
    decide
  · rw [Database.version, userVersion_of_wrapped (Nat.not_lt.mp hfits)]
    omega

theorem place_of_reached (hlatest : schemas.getLast? = some latest)
    (hreached : 1 ≤ db.version → latest.version.toNat ≤ db.version) :
    (openPlace schemas label (.database db)).place = .database db := by
  obtain ⟨result, db', hopen, hopening⟩ := exists_opening schemas label db
  rw [hopen]
  cases hopening with
  | current _ _ _ => rfl
  | raised hlatest' hmatches hbelow _ _ =>
    obtain rfl := Option.some.inj (hlatest.symm.trans hlatest')
    have := hreached hmatches.positive
    omega
  | rejected hrejects =>
    cases hrejects with
    | noVersions _ | invalid _ _ | unknown _ _ _ | mismatched _ _ _ => rfl
    | failed hlatest' hmatches hbelow _ | ended hlatest' hmatches hbelow _ _ =>
      obtain rfl := Option.some.inj (hlatest.symm.trans hlatest')
      have := hreached hmatches.positive
      omega

theorem not_opened_of_invalid (hinvalid : db.version < 1) :
    (openPlace schemas label (.database db)).result ≠ .ok () := by
  obtain ⟨result, db', hopen, hopening⟩ := exists_opening schemas label db
  rw [hopen]
  cases hopening with
  | rejected _ => nofun
  | raised _ hmatches _ _ _ | current _ hmatches _ =>
    have := hmatches.positive
    omega

/-- At the latest version no migration is to be run, so that only the comparison counts. -/
theorem opened_iff_passes (hlatest : schemas.getLast? = some latest)
    (hpositive : 1 ≤ latest.version) (hversion : db.version = latest.version.toNat)
    (hfound : schemas.find? (fun s => s.version = latest.version) = some s) :
    (openPlace schemas label (.database db)).result = .ok () ↔ ∀ t ∈ s.tables, Passes db t := by
  have hfound' : schemas.find? (fun s => (s.version.toNat : Int) = db.version) = some s := by
    simpa only [hversion, Int.natCast_inj, UInt64.toNat_inj] using hfound
  have hleast : 1 ≤ latest.version.toNat := UInt64.le_iff_toNat_le.mp hpositive
  refine ⟨passes_of_opened hfound', fun hpasses => ?_⟩
  obtain ⟨result, db', hopen, hopening⟩ := exists_opening schemas label db
  rw [hopen]
  cases hopening with
  | raised _ _ _ _ _ | current _ _ _ => rfl
  | rejected hrejects =>
    obtain ⟨⟨latest', hlatest', hbelow⟩, -⟩ :=
      exists_migration_of_rejects (by omega) hfound' hpasses hrejects
    obtain rfl := Option.some.inj (hlatest.symm.trans hlatest')
    omega

theorem find?_latest (hlatest : schemas.getLast? = some latest)
    (hsorted : schemas.Pairwise fun s t => s.version < t.version) :
    schemas.find? (fun s => s.version = latest.version) = some latest := by
  obtain ⟨before, rfl⟩ := List.getLast?_eq_some_iff.mp hlatest
  have hbelow : before.find? (fun s => s.version = latest.version) = none := by
    refine List.find?_eq_none.mpr fun s hs => ?_
    have hless := (List.pairwise_append.mp hsorted).2.2 s hs latest (by simp)
    simpa using UInt64.ne_of_lt hless
  simp [List.find?_append, hbelow]

theorem exists_found (hlatest : schemas.getLast? = some latest) :
    ∃ s, schemas.find? (fun s => s.version = latest.version) = some s := by
  refine Option.isSome_iff_exists.mp (List.find?_isSome.mpr ⟨latest, ?_, by simp⟩)
  exact List.mem_of_getLast? hlatest

/-- A number that cannot be kept is no version, and without one no migration is looked for. -/
theorem place_setVersion (hlatest : schemas.getLast? = some latest) (made : Database) :
    (openPlace schemas label (.database (made.setVersion latest.number))).place =
      .database (made.setVersion latest.number) := by
  refine place_of_reached hlatest fun hvalid => ?_
  by_cases hkept : latest.IsKept
  · exact (version_setVersion_of_kept made hkept).ge
  · have := version_setVersion_of_not_kept made hkept
    omega

theorem opened_setVersion_iff (hlatest : schemas.getLast? = some latest)
    (hpositive : 1 ≤ latest.version)
    (hfound : schemas.find? (fun s => s.version = latest.version) = some s) (made : Database) :
    (openPlace schemas label (.database (made.setVersion latest.number))).result = .ok () ↔
      latest.IsKept ∧ ∀ t ∈ s.tables, Passes (made.setVersion latest.number) t := by
  by_cases hkept : latest.IsKept
  · have hversion := version_setVersion_of_kept made hkept
    rw [opened_iff_passes hlatest hpositive hversion hfound, and_iff_right hkept]
  · have hinvalid := version_setVersion_of_not_kept made hkept
    exact iff_of_false (not_opened_of_invalid hinvalid) fun h => hkept h.1

/-- Of plain tables that were made, those pass that are found again. -/
theorem made_passes_iff {made : Database} {t : TableSchema} (hplain : ∀ t ∈ s.tables, t.IsPlain)
    (hcreate : createTables s.tables {} = (.ok (), made)) (ht : t ∈ s.tables) (version : Int) :
    Passes (made.setVersion version) t ↔ t.FoundAgain s.tables :=
  ((made_empty.createTables hplain hcreate).setVersion version).passes_iff ht

end

/-- A database that was made for an absent file is not changed when it is opened again. It is
opened if and only if its version number can be kept and all tables that are declared for the
version pass. Where every name is written as one name and every default as one default, and no two
schemas have one version, that is so if and only if all tables are found again as declared. -/
theorem reopened_iff (schemas : List VersionedSchema) (label : String) (latest : VersionedSchema)
    (db : Database) (hlatest : schemas.getLast? = some latest) (hpositive : 1 ≤ latest.version)
    (hmade : openPlace schemas label .absent = ⟨.ok (), .database db⟩) :
    (openPlace schemas label (.database db)).place = .database db ∧
    (∃ s, schemas.find? (fun s => s.version = latest.version) = some s ∧
      ((openPlace schemas label (.database db)).result = .ok () ↔
        latest.IsKept ∧ ∀ t ∈ s.tables, Passes db t)) ∧
    (schemas.Pairwise (fun s t => s.version < t.version) →
      (∀ t ∈ latest.tables, t.IsPlain) →
      ((openPlace schemas label (.database db)).result = .ok () ↔
        latest.IsKept ∧ ∀ t ∈ latest.tables, t.FoundAgain latest.tables)) := by
  obtain ⟨made, hcreate, rfl⟩ := exists_createTables hlatest hmade
  refine ⟨place_setVersion hlatest made, ?_, fun hsorted hplain => ?_⟩
  · obtain ⟨s, hfound⟩ := exists_found hlatest
    exact ⟨s, hfound, opened_setVersion_iff hlatest hpositive hfound made⟩
  · rw [opened_setVersion_iff hlatest hpositive (find?_latest hlatest hsorted)]
    exact and_congr_right fun _ =>
      forall₂_congr fun t ht => made_passes_iff hplain hcreate ht _

/-- Notes with a key, a number and a time, which have defaults, and an index. -/
def notesTable : TableSchema :=
  { name := "notes"
    columns :=
      [ { name := "key", type := .text, isPrimaryKey := true }
      , { name := "count", type := .integer, nonNull := true, default? := some "0" }
      , { name := "at", type := .text, default? := some "(datetime('now'))" } ]
    indices := [("by_count", "count, at")] }

def notesSchemas : List VersionedSchema :=
  [{ version := 1, tables := [] }, { version := 2, tables := [notesTable] }]

/-- The notes as a database keeps them. -/
def notesDatabase : Database :=
  { userVersion := 100001
    tables := [{ name := "notes"
                 columns :=
                   [ ⟨"key", "TEXT", false, none, 1⟩, ⟨"count", "INTEGER", true, some "0", 0⟩
                   , ⟨"at", "TEXT", false, some "datetime('now')", 0⟩ ] }]
    indices := [ { name := "sqlite_autoindex_notes_1", table := "notes", isAutomatic := true }
               , { name := "by_count", table := "notes" } ] }

theorem names_notes : ∀ name ∈ ["notes", "key", "count", "at", "by_count"], Names name name := by
  simp only [List.forall_mem_cons, List.not_mem_nil, false_implies, implies_true, and_true]
  refine ⟨?_, ?_, ?_, ?_, ?_⟩ <;>
    exact names_word (by decide) (by decide) (by decide) (by decide +kernel)

theorem keeps_zero : Keeps "0" ['0'] :=
  ⟨[⟨.integer, ['0'], []⟩], [], ⟨by decide +kernel, rfl⟩, .value (t := ⟨.integer, ['0'], []⟩) nofun⟩

/-- The pieces of a call, which stands in brackets. -/
def nowPieces : List Token :=
  [ ⟨.word "datetime", "datetime".toList, []⟩, ⟨.symbol "(", ['('], []⟩
  , ⟨.text, "'now'".toList, []⟩, ⟨.symbol ")", [')'], []⟩ ]

theorem keeps_now : Keeps "(datetime('now'))" "datetime('now')".toList := by
  have hkept : Kept (⟨.symbol "(", ['('], []⟩ :: (nowPieces ++ [closing []]))
      (trimmed (written nowPieces ++ [])) := .bracketed (by decide)
  exact ⟨_, [], ⟨by decide +kernel, rfl⟩, hkept⟩

theorem unaltered_now : Unaltered "(datetime('now'))" "datetime('now')" := by
  have htext : "(datetime('now'))" = "(" ++ "datetime('now')" ++ ")" := by decide +kernel
  rw [htext]
  refine .bracketed fun inner h => ?_
  have hhead : "datetime('now')".toList.head? = some '(' := by
    rw [h, bracketed_toList, List.head?_cons]
  exact absurd hhead (by decide)

theorem plain_notesTable : notesTable.IsPlain where
  name := ⟨"notes", names_notes "notes" (by simp)⟩
  columns c hc := by
    simp only [notesTable, List.mem_cons, List.not_mem_nil, or_false] at hc
    rcases hc with rfl | rfl | rfl
    · exact ⟨⟨_, names_notes _ (by simp)⟩, nofun⟩
    · refine ⟨⟨_, names_notes _ (by simp)⟩, ?_⟩
      rintro _ ⟨⟩
      exact ⟨_, keeps_zero⟩
    · refine ⟨⟨_, names_notes _ (by simp)⟩, ?_⟩
      rintro _ ⟨⟩
      exact ⟨_, keeps_now⟩
  indices i hi := by
    obtain rfl := List.mem_singleton.mp hi
    exact ⟨"by_count", names_notes _ (by simp)⟩

theorem foundAgain_notesTable : notesTable.FoundAgain [notesTable] where
  columns c hc := by
    simp only [notesTable, List.mem_cons, List.not_mem_nil, or_false] at hc
    rcases hc with rfl | rfl | rfl
    · exact ⟨names_notes _ (by simp), nofun⟩
    · refine ⟨names_notes _ (by simp), ?_⟩
      rintro _ ⟨⟩
      exact ⟨"0", keeps_zero, .whole⟩
    · refine ⟨names_notes _ (by simp), ?_⟩
      rintro _ ⟨⟩
      exact ⟨"datetime('now')", keeps_now, unaltered_now⟩
  indices i hi := by
    obtain rfl := List.mem_singleton.mp hi
    exact ⟨("notes", "by_count"), by simp [indicesOf, notesTable],
      names_notes "notes" (by simp), names_notes "by_count" (by simp)⟩

theorem notes_are_reopened :
    notesSchemas.getLast? = some { version := 2, tables := [notesTable] } ∧
      openPlace notesSchemas "notes" .absent = ⟨.ok (), .database notesDatabase⟩ ∧
      openPlace notesSchemas "notes" (.database notesDatabase) =
        ⟨.ok (), .database notesDatabase⟩ := by
  have hmade : openPlace notesSchemas "notes" .absent = ⟨.ok (), .database notesDatabase⟩ :=
    opened_eq (by decide +kernel) (by decide +kernel)
  obtain ⟨hkept, -, hreopened⟩ := reopened_iff notesSchemas "notes"
    { version := 2, tables := [notesTable] } notesDatabase rfl (by decide) hmade
  have hopened := (hreopened (by simp [notesSchemas]) (by simpa using plain_notesTable)).mpr
    ⟨by decide, by simpa using foundAgain_notesTable⟩
  exact ⟨rfl, hmade, opened_eq hopened hkept⟩

/-- A table of one column, whose default is a number in two pairs of brackets. -/
def nestedTable : TableSchema :=
  { name := "t", columns := [{ name := "a", type := .integer, default? := some "((0))" }] }

def nestedSchemas : List VersionedSchema := [{ version := 1, tables := [nestedTable] }]

/-- One pair of brackets remains of two. -/
def nestedDatabase : Database :=
  { userVersion := 100000
    tables := [{ name := "t", columns := [⟨"a", "INTEGER", false, some "(0)", 0⟩] }] }

/-- A database is made and not opened again that has a default in two pairs of brackets. -/
theorem nested_default_is_refused :
    ¬ ∀ (schemas : List VersionedSchema) (label : String) (db : Database),
      schemas.Pairwise (fun s t => s.version < t.version) → (∀ s ∈ schemas, 1 ≤ s.version) →
      openPlace schemas label .absent = ⟨.ok (), .database db⟩ →
      openPlace schemas label (.database db) = ⟨.ok (), .database db⟩ := by
  intro h
  have hmade : openPlace nestedSchemas "nested" .absent = ⟨.ok (), .database nestedDatabase⟩ :=
    opened_eq (by decide +kernel) (by decide +kernel)
  have hopened := h nestedSchemas "nested" nestedDatabase (by simp [nestedSchemas])
    (by simp [nestedSchemas]) hmade
  have hrefused :
      (openPlace nestedSchemas "nested" (.database nestedDatabase)).result ≠ .ok () := by
    decide +kernel
  exact hrefused (congrArg Opened.result hopened)

end PackageIndex.Schema
