import Mathlib.Data.List.Forall2
import PackageIndex.Proofs.Schema.Opening
/-!
What a database is compared for. The comparison is told column by column and index by index, and
set beside what the declaration asks for. The two part where a key has more than one column.
-/
namespace PackageIndex.Schema

open PackageIndex.Sql

/-- A text without the pair of brackets around it, or as it is where there is no such pair. -/
inductive Bare : String → String → Prop
  | bracketed {s : String} : Bare ("(" ++ s ++ ")") s
  | plain {s : String} : (∀ inner, s ≠ "(" ++ inner ++ ")") → Bare s s

/-- Two defaults are the same up to one pair of brackets around each. -/
def SameDefault (actual declared : String) : Prop := ∃ bare, Bare actual bare ∧ Bare declared bare

/-- A column is as declared. It belongs to the key where its position in the key says so. -/
structure ColumnFits (inKey : Nat → Prop) (actual : StoredColumn) (declared : Column) : Prop where
  name : actual.name = declared.name
  type : actual.type = declared.type.keyword
  nonNull : actual.nonNull = declared.nonNull
  default : Option.Rel SameDefault actual.default? declared.default?
  key : inKey actual.keyPosition ↔ declared.isPrimaryKey = true

/-- What the declaration of a table asks for: a table of exactly these columns, with every index
of the declared names. -/
structure Fits (db : Database) (t : TableSchema) (stored : StoredTable) : Prop where
  stands : db.table? t.name = some stored
  isTable : stored.isView = false
  noOthers : stored.computed = []
  columns : List.Forall₂ (ColumnFits (0 < ·)) stored.columns t.columns
  indices : ∀ i ∈ t.indices, ∃ j ∈ db.indices, j.name = i.1 ∧ sameName j.table t.name = true

/-- The name of a declared table asks for that table, and the database spells it the same way. -/
structure Named (db : Database) (t : TableSchema) : Prop where
  asks : questionOf? (Database.columnsQuestion t.name) = some t.name
  spelled : ∀ j ∈ db.indices, sameName j.table t.name = true → j.table = t.name

/-- At most one column of a table makes up its key. -/
def StoredTable.HasSingleKey (stored : StoredTable) : Prop :=
  ∀ c ∈ stored.columns, c.keyPosition ≤ 1

/-- What is compared: the columns that the database reports for the name, of which only the first
one of a key counts as a part of it, and the indices that have exactly these names. -/
def Passes (db : Database) (t : TableSchema) : Prop :=
  ∃ columns, db.columnsOf? t.name = some columns ∧
    List.Forall₂ (ColumnFits (· = 1)) columns t.columns ∧
    ∀ i ∈ t.indices, ∃ j ∈ db.indices, j.name = i.1 ∧ j.table = t.name

section

variable {s bare actual declared : String}

theorem bracketed_toList (inner : String) :
    ("(" ++ inner ++ ")").toList = '(' :: (inner.toList ++ [')']) := by
  simp [String.toList_append]

theorem withoutBrackets_bracketed (inner : String) :
    withoutBrackets ("(" ++ inner ++ ")") = inner := by
  simp [withoutBrackets]

theorem withoutBrackets_plain (h : ∀ inner, s ≠ "(" ++ inner ++ ")") : withoutBrackets s = s := by
  unfold withoutBrackets
  split
  · rename_i rest hrest
    split
    · rename_i hlast
      obtain ⟨inner, rfl⟩ := List.getLast?_eq_some_iff.mp hlast
      refine absurd ?_ (h (String.ofList inner))
      rw [← String.toList_inj, hrest, bracketed_toList, String.toList_ofList]
    · rfl
  · rfl

theorem bare_withoutBrackets (s : String) : Bare s (withoutBrackets s) := by
  by_cases h : ∃ inner, s = "(" ++ inner ++ ")"
  · obtain ⟨inner, rfl⟩ := h
    rw [withoutBrackets_bracketed]
    exact .bracketed
  · rw [not_exists] at h
    rw [withoutBrackets_plain h]
    exact .plain h

theorem bare_iff : Bare s bare ↔ withoutBrackets s = bare := by
  refine ⟨fun h => ?_, fun h => h ▸ bare_withoutBrackets s⟩
  cases h with
  | bracketed => exact withoutBrackets_bracketed bare
  | plain h => exact withoutBrackets_plain h

theorem sameDefault_iff :
    SameDefault actual declared ↔ withoutBrackets actual = withoutBrackets declared := by
  simp only [SameDefault, bare_iff]
  exact ⟨fun ⟨_, hactual, hdeclared⟩ => hactual.trans hdeclared.symm, fun h => ⟨_, h, rfl⟩⟩

theorem sameDefaults_iff {actual? declared? : Option String} :
    Option.Rel SameDefault actual? declared? ↔
      actual?.map withoutBrackets = declared?.map withoutBrackets := by
  cases actual? <;> cases declared? <;> simp [sameDefault_iff]

theorem ofKeyword?_eq_some_iff {type : ColumnType} :
    ColumnType.ofKeyword? s = some type ↔ s = type.keyword := by
  refine ⟨fun h => ?_, fun h => h ▸ ColumnType.ofKeyword?_keyword type⟩
  have hkeyword := List.find?_some h
  simpa [eq_comm] using hkeyword

end

section

variable {actual : StoredColumn} {declared : Column} {db : Database}
  {t : TableSchema} {actuals : List StoredColumn} {declareds : List Column}

theorem guard_eq_ok_iff {p : Prop} [Decidable p] {e : Mismatch} {x : Except Mismatch Unit} :
    (if p then .error e else x) = .ok () ↔ ¬ p ∧ x = .ok () := by
  by_cases h : p <;> simp [h]

theorem checkColumn_eq_ok_iff (table : String) :
    checkColumn table actual declared = .ok () ↔ ColumnFits (· = 1) actual declared := by
  have hkey : decide (actual.keyPosition = 1) = declared.isPrimaryKey ↔
      (actual.keyPosition = 1 ↔ declared.isPrimaryKey = true) := by
    rw [Bool.eq_iff_iff, decide_eq_true_eq]
  simp only [checkColumn, guard_eq_ok_iff, ne_eq, not_not, ofKeyword?_eq_some_iff,
    ← sameDefaults_iff, hkey, and_true]
  constructor
  · rintro ⟨hname, htype, hnull, hdefault, hkey⟩
    exact ⟨hname, htype, hnull, hdefault, hkey⟩
  · rintro ⟨hname, htype, hnull, hdefault, hkey⟩
    exact ⟨hname, htype, hnull, hdefault, hkey⟩

theorem checkColumns_eq_ok_iff (table : String) (hlength : actuals.length = declareds.length) :
    checkColumns table actuals declareds = .ok () ↔
      List.Forall₂ (ColumnFits (· = 1)) actuals declareds := by
  induction actuals generalizing declareds with
  | nil =>
      obtain rfl : declareds = [] := List.length_eq_zero_iff.mp hlength.symm
      simp [checkColumns]
  | cons actual actuals ih =>
      cases declareds with
      | nil => cases hlength
      | cons declared declareds =>
          have hrest : checkColumns table actuals declareds = .ok () ↔ _ :=
            ih (by simpa using hlength)
          rw [List.forall₂_cons, ← hrest, ← checkColumn_eq_ok_iff table, checkColumns]
          cases checkColumn table actual declared <;> simp [bind, Except.bind]

theorem hasIndex_iff {table name : String} :
    db.hasIndex table name = true ↔ ∃ j ∈ db.indices, j.name = name ∧ j.table = table := by
  simp [Database.hasIndex]

theorem checkIndices_eq_ok_iff {table : String} {indices : List (String × String)} :
    checkIndices db table indices = .ok () ↔
      ∀ i ∈ indices, ∃ j ∈ db.indices, j.name = i.1 ∧ j.table = table := by
  induction indices with
  | nil => simp [checkIndices]
  | cons i rest ih =>
      rw [List.forall_mem_cons, ← ih, ← hasIndex_iff, checkIndices]
      cases db.hasIndex table i.1 <;> simp

theorem validate_eq_ok_iff : t.validate db = .ok () ↔ Passes db t := by
  unfold TableSchema.validate Passes
  cases hcolumns : db.columnsOf? t.name with
  | none => simp
  | some columns =>
      by_cases hlength : columns.length = t.columns.length
      · simp only [hlength, ne_eq, not_true, ite_false, Option.some.injEq, exists_eq_left']
        rw [← checkColumns_eq_ok_iff t.name hlength, ← checkIndices_eq_ok_iff]
        cases checkColumns t.name columns t.columns <;> simp [bind, Except.bind]
      · simp only [ne_eq, hlength, not_false_eq_true, ite_true, reduceCtorEq, Option.some.injEq,
          exists_eq_left', false_iff]
        rintro ⟨hfits, _⟩
        exact hlength hfits.length_eq

theorem validateTables_eq_ok_iff {tables : List TableSchema} :
    validateTables db tables = .ok () ↔ ∀ t ∈ tables, Passes db t := by
  induction tables with
  | nil => simp [validateTables]
  | cons t rest ih =>
      rw [List.forall_mem_cons, ← ih, ← validate_eq_ok_iff, validateTables]
      cases t.validate db <;> simp [bind, Except.bind]

theorem validate_schema_eq_ok_iff {s : VersionedSchema} :
    s.validate db = .ok () ↔ ∀ t ∈ s.tables, Passes db t := validateTables_eq_ok_iff

end

section

variable {db : Database} {t : TableSchema} {stored : StoredTable} {actual : StoredColumn}
  {declared : Column} {actuals : List StoredColumn} {declareds : List Column}

theorem columnFits_iff_of_le (hsingle : actual.keyPosition ≤ 1) :
    ColumnFits (0 < ·) actual declared ↔ ColumnFits (· = 1) actual declared := by
  have hkey : 0 < actual.keyPosition ↔ actual.keyPosition = 1 := by omega
  constructor
  · rintro ⟨hname, htype, hnull, hdefault, h⟩
    exact ⟨hname, htype, hnull, hdefault, hkey.symm.trans h⟩
  · rintro ⟨hname, htype, hnull, hdefault, h⟩
    exact ⟨hname, htype, hnull, hdefault, hkey.trans h⟩

theorem forall₂_columnFits_iff (hsingle : ∀ c ∈ actuals, c.keyPosition ≤ 1) :
    List.Forall₂ (ColumnFits (0 < ·)) actuals declareds ↔
      List.Forall₂ (ColumnFits (· = 1)) actuals declareds := by
  induction actuals generalizing declareds with
  | nil => simp
  | cons actual rest ih =>
      rw [List.forall_mem_cons] at hsingle
      cases declareds with
      | nil => simp
      | cons declared declareds =>
          rw [List.forall₂_cons, List.forall₂_cons, columnFits_iff_of_le hsingle.1, ih hsingle.2]

/-- A column that is read both ways is no further column of a key. -/
theorem single_of_both (hfits : List.Forall₂ (ColumnFits (0 < ·)) actuals declareds)
    (hpasses : List.Forall₂ (ColumnFits (· = 1)) actuals declareds) :
    ∀ c ∈ actuals, c.keyPosition ≤ 1 := by
  induction hfits with
  | nil => simp
  | cons hcolumn _ ih =>
      obtain ⟨hcolumn', hrest⟩ := List.forall₂_cons.mp hpasses
      have hsame := hcolumn.key.trans hcolumn'.key.symm
      rw [List.forall_mem_cons]
      exact ⟨by omega, ih hrest⟩

theorem columnsOf?_of_stands (hnamed : Named db t) (hstands : db.table? t.name = some stored) :
    db.columnsOf? t.name = some stored.columns := by
  simp [Database.columnsOf?, hnamed.asks, hstands, Database.columnsOf]

theorem columnsOf?_of_missing (hnamed : Named db t) (hmissing : db.table? t.name = none)
    (hsystem : systemColumns? (folded t.name) = none) {columns : List StoredColumn}
    (hreported : db.columnsOf? t.name = some columns) : columns = [] := by
  have hempty := hreported.symm
  simp [Database.columnsOf?, hnamed.asks, hmissing, Database.columnsOf, hsystem] at hempty
  exact hempty.2

theorem passes_iff_of_stands (hnamed : Named db t) (hstands : db.table? t.name = some stored) :
    Passes db t ↔ List.Forall₂ (ColumnFits (· = 1)) stored.columns t.columns ∧
      ∀ i ∈ t.indices, ∃ j ∈ db.indices, j.name = i.1 ∧ j.table = t.name := by
  simp only [Passes, columnsOf?_of_stands hnamed hstands, Option.some.injEq, exists_eq_left']

theorem sameName_self (name : String) : sameName name name = true := by
  simp [sameName]

/-- With a key of one column at most, what is compared is what was asked for. -/
theorem fits_iff_passes (hnamed : Named db t) (hstands : db.table? t.name = some stored)
    (htable : stored.isView = false) (hothers : stored.computed = [])
    (hsingle : stored.HasSingleKey) : Fits db t stored ↔ Passes db t := by
  rw [passes_iff_of_stands hnamed hstands, ← forall₂_columnFits_iff hsingle]
  constructor
  · intro hfits
    refine ⟨hfits.columns, fun i hi => ?_⟩
    obtain ⟨j, hj, hname, hon⟩ := hfits.indices i hi
    exact ⟨j, hj, hname, hnamed.spelled j hj hon⟩
  · rintro ⟨hcolumns, hindices⟩
    refine ⟨hstands, htable, hothers, hcolumns, fun i hi => ?_⟩
    obtain ⟨j, hj, hname, hon⟩ := hindices i hi
    exact ⟨j, hj, hname, hon ▸ sameName_self _⟩

theorem hasSingleKey_of_both (hnamed : Named db t) (hfits : Fits db t stored)
    (hpasses : Passes db t) : stored.HasSingleKey :=
  single_of_both hfits.columns ((passes_iff_of_stands hnamed hfits.stands).mp hpasses).1

/-- What passes stands in the database, unless nothing is asked of its columns. -/
theorem stands_of_passes (hnamed : Named db t) (hcolumns : t.columns ≠ [])
    (hsystem : systemColumns? (folded t.name) = none) (hpasses : Passes db t) :
    ∃ stored, db.table? t.name = some stored := by
  obtain ⟨columns, hreported, hfits, _⟩ := hpasses
  cases hstands : db.table? t.name with
  | some stored => exact ⟨stored, rfl⟩
  | none =>
      rw [columnsOf?_of_missing hnamed hstands hsystem hreported,
        List.forall₂_nil_left_iff] at hfits
      exact absurd hfits hcolumns

end

section

variable {schemas : List VersionedSchema} {s : VersionedSchema} {db db' : Database}
  {e : OpenError}

theorem exists_migration_of_fails {c left : Connection} (hfails : Fails schemas c e left) :
    ∃ s ∈ schemas, s.migration ≠ none := by
  induction hfails with
  | @here s _ _ _ _ _ hs _ => exact ⟨s, List.mem_cons_self, by simp [hs]⟩
  | later _ _ ih =>
      obtain ⟨s, hs, hsome⟩ := ih
      exact ⟨s, List.mem_cons_of_mem _ hs, hsome⟩

/-- Without migrations a transaction stays as it was started. -/
theorem exists_migration_of_ended {c left : Connection} (hran : Ran (migrations schemas) c left)
    (hopen : c.pending? ≠ none) (hended : left.pending? = none) :
    ∃ s ∈ schemas, s.migration ≠ none := by
  by_contra! hnone
  have hempty : migrations schemas = [] := List.filterMap_eq_nil_iff.mpr hnone
  rw [hempty] at hran
  cases hran
  exact hopen hended

theorem passes_of_opened {label : String}
    (hfound : schemas.find? (fun s => (s.version.toNat : Int) = db.version) = some s)
    (hopened : (openPlace schemas label (.database db)).result = .ok ()) :
    ∀ t ∈ s.tables, Passes db t := by
  obtain ⟨result, db', hopen, hopening⟩ := exists_opening schemas label db
  rw [hopen] at hopened
  cases hopening with
  | rejected _ => cases hopened
  | raised _ hmatches _ _ _ | current _ hmatches _ =>
      obtain rfl := Option.some.inj (hfound.symm.trans hmatches.found)
      exact validate_schema_eq_ok_iff.mp hmatches.valid

/-- What is known and passes is rejected only by a migration. -/
theorem exists_migration_of_rejects {label : String} (hpositive : 1 ≤ db.version)
    (hfound : schemas.find? (fun s => (s.version.toNat : Int) = db.version) = some s)
    (hpasses : ∀ t ∈ s.tables, Passes db t) (hrejects : Rejects schemas label db e db') :
    (∃ latest, schemas.getLast? = some latest ∧ db.version < latest.version.toNat) ∧
      ∃ s ∈ above schemas db, s.migration ≠ none := by
  have hmem : s ∈ schemas := List.mem_of_find?_eq_some hfound
  have hversion : (s.version.toNat : Int) = db.version := by simpa using List.find?_some hfound
  cases hrejects with
  | noVersions hempty => simp [hempty] at hmem
  | invalid _ hinvalid => omega
  | unknown _ _ hunknown => exact absurd hversion (hunknown s hmem)
  | mismatched _ hfound' hmismatch =>
      obtain rfl := Option.some.inj (hfound.symm.trans hfound')
      rw [validate_schema_eq_ok_iff.mpr hpasses] at hmismatch
      cases hmismatch
  | failed hlatest _ hbelow hfails =>
      exact ⟨⟨_, hlatest, hbelow⟩, exists_migration_of_fails hfails⟩
  | ended hlatest _ hbelow hran hended =>
      exact ⟨⟨_, hlatest, hbelow⟩, exists_migration_of_ended hran nofun hended⟩

theorem opened_of_passes (label : String) (hpositive : 1 ≤ db.version)
    (hfound : schemas.find? (fun s => (s.version.toNat : Int) = db.version) = some s)
    (hnone : ∀ s ∈ above schemas db, s.migration = none) (hpasses : ∀ t ∈ s.tables, Passes db t) :
    (openPlace schemas label (.database db)).result = .ok () := by
  obtain ⟨result, db', hopen, hopening⟩ := exists_opening schemas label db
  rw [hopen]
  cases hopening with
  | raised _ _ _ _ _ | current _ _ _ => rfl
  | rejected hrejects =>
      obtain ⟨_, s', hs', hsome⟩ :=
        exists_migration_of_rejects hpositive hfound hpasses hrejects
      exact absurd (hnone s' hs') hsome

end

/-- A database of a known version is opened only if every declared table passes, and it is opened
if no migration is to be run. A declared table that stands in the database passes where it fits,
and fits where it passes, exactly if its key has at most one column. -/
theorem opened_as_declared (schemas : List VersionedSchema) (label : String) (db : Database)
    (s : VersionedSchema) (hpositive : 1 ≤ db.version)
    (hfound : schemas.find? (fun s => (s.version.toNat : Int) = db.version) = some s) :
    ((openPlace schemas label (.database db)).result = .ok () → ∀ t ∈ s.tables, Passes db t) ∧
    ((∀ s' ∈ above schemas db, s'.migration = none) → (∀ t ∈ s.tables, Passes db t) →
      (openPlace schemas label (.database db)).result = .ok ()) ∧
    ∀ t, Named db t →
      (t.columns ≠ [] → systemColumns? (folded t.name) = none → Passes db t →
        ∃ stored, db.table? t.name = some stored) ∧
      ∀ stored, db.table? t.name = some stored → stored.isView = false → stored.computed = [] →
        (Passes db t → (Fits db t stored ↔ stored.HasSingleKey)) ∧
        (Fits db t stored → (Passes db t ↔ stored.HasSingleKey)) := by
  refine ⟨passes_of_opened hfound, opened_of_passes label hpositive hfound, ?_⟩
  intro t hnamed
  refine ⟨stands_of_passes hnamed, ?_⟩
  intro stored hstands htable hothers
  constructor
  · intro hpasses
    refine ⟨fun hfits => hasSingleKey_of_both hnamed hfits hpasses, fun hsingle => ?_⟩
    exact (fits_iff_passes hnamed hstands htable hothers hsingle).mpr hpasses
  · intro hfits
    refine ⟨fun hpasses => hasSingleKey_of_both hnamed hfits hpasses, fun hsingle => ?_⟩
    exact (fits_iff_passes hnamed hstands htable hothers hsingle).mp hfits

/-- A table of two columns, the first of which is its key. -/
def pairTable : TableSchema :=
  { name := "t", columns := [{ name := "a", type := .text, isPrimaryKey := true }
                           , { name := "b", type := .text }] }

def pairSchemas : List VersionedSchema := [{ version := 1, tables := [pairTable] }]

/-- A database with that table, where the second column has a place in the key. -/
def pairDatabase (position : Nat) : Database :=
  { userVersion := 100000
    tables := [{ name := "t"
                 columns := [⟨"a", "TEXT", false, none, 1⟩
                           , ⟨"b", "TEXT", false, none, position⟩] }] }

theorem named_pairTable (position : Nat) : Named (pairDatabase position) pairTable := by
  refine ⟨by decide +kernel, fun j hj => ?_⟩
  simp [pairDatabase] at hj

theorem pair_is_opened_as_declared :
    1 ≤ (pairDatabase 0).version ∧
      pairSchemas.find? (fun s => (s.version.toNat : Int) = (pairDatabase 0).version) =
        some { version := 1, tables := [pairTable] } ∧
      (openPlace pairSchemas "pair" (.database (pairDatabase 0))).result = .ok () ∧
      ∀ stored, (pairDatabase 0).table? "t" = some stored →
        Fits (pairDatabase 0) pairTable stored := by
  have hpositive : 1 ≤ (pairDatabase 0).version := by decide
  have hfound : pairSchemas.find? (fun s => (s.version.toNat : Int) = (pairDatabase 0).version) =
      some { version := 1, tables := [pairTable] } := rfl
  have hopened : (openPlace pairSchemas "pair" (.database (pairDatabase 0))).result = .ok () := by
    decide +kernel
  obtain ⟨honly, _, hfits⟩ := opened_as_declared pairSchemas "pair" _ _ hpositive hfound
  refine ⟨hpositive, hfound, hopened, fun stored hstands => ?_⟩
  obtain rfl : (pairDatabase 0).tables.head (by simp [pairDatabase]) = stored :=
    Option.some.inj (Eq.trans (by decide +kernel) hstands)
  have hpasses := honly hopened pairTable (by simp)
  refine ((hfits pairTable (named_pairTable 0)).2 _ hstands rfl rfl).1 hpasses |>.mpr ?_
  simp [StoredTable.HasSingleKey, pairDatabase]

/-- A database is opened whose table has a key of two columns, where one is declared. -/
theorem long_key_passes_for_a_short_one :
    ¬ ∀ (schemas : List VersionedSchema) (label : String) (db : Database) (s : VersionedSchema),
      1 ≤ db.version →
      schemas.find? (fun s => (s.version.toNat : Int) = db.version) = some s →
      (openPlace schemas label (.database db)).result = .ok () →
      ∀ t ∈ s.tables, ∃ stored, Fits db t stored := by
  intro h
  have hopened : (openPlace pairSchemas "pair" (.database (pairDatabase 2))).result = .ok () := by
    decide +kernel
  obtain ⟨stored, hfits⟩ := h pairSchemas "pair" (pairDatabase 2) _ (by decide) rfl hopened
    pairTable (by simp)
  obtain rfl : (pairDatabase 2).tables.head (by simp [pairDatabase]) = stored :=
    Option.some.inj (Eq.trans (by decide +kernel) hfits.stands)
  obtain ⟨_, hrest⟩ := List.forall₂_cons.mp hfits.columns
  obtain ⟨hsecond, _⟩ := List.forall₂_cons.mp hrest
  exact absurd (hsecond.key.mp (by decide)) (by decide)

end PackageIndex.Schema
