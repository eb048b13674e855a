import PackageIndex.Proofs.Schema.Drafting
import PackageIndex.Proofs.Schema.Spelling
/-!
The database that is made of declared tables. Each of its tables is one that is declared, under the
declared name; its indices are those that are declared and those that come with the tables. So it
is known which of the tables are found again as they are declared.
-/
namespace PackageIndex.Schema

open PackageIndex.Sql

section

variable {db db' : Database} {t : TableSchema} {text : List Char} {table name columns : String}

theorem exists_statement (h : db.execute text = .ok db') : ∃ s, statement? text = some s := by
  cases hstatement : statement? text with
  | none =>
    rw [Database.execute, hstatement] at h
    cases h
  | some s => exact ⟨s, rfl⟩

theorem execute_of_table {s : TableStatement} (h : statement? text = some (.table s)) :
    db.execute text = db.createTable s := by
  rw [Database.execute, h]

theorem execute_of_index {s : IndexStatement} (h : statement? text = some (.index s)) :
    db.execute text = db.createIndex s := by
  rw [Database.execute, h]

/-- A new table of the file is one that makes sense, and whose name was free. -/
theorem createTable_eq_ok {s : TableStatement} (hsite : siteOf? s.name = some .file)
    (hguard : s.isGuarded = false) (h : db.createTable s = .ok db') :
    ∃ d, s.drafted? = some d ∧ db.table? s.name.name = none ∧ db' = db.add d := by
  unfold Database.createTable at h
  simp only [hsite, hguard, Bool.false_eq_true, if_false, true_and, if_true] at h
  split at h
  · cases h
  split at h
  · cases h
  next hnew =>
  split at h
  · cases h
  split at h
  · cases h
  next d hdrafted =>
  cases h
  exact ⟨d, hdrafted, by simpa using hnew, rfl⟩

/-- A new index is one of a table that is there, and has no name that the database keeps. -/
theorem createIndex_eq_ok {s : IndexStatement} (hguard : s.isGuarded = false)
    (h : db.createIndex s = .ok db') :
    ∃ stored, db.table? s.table = some stored ∧ isKept s.name.name = false ∧
      db' = { db with
        indices := db.indices ++ [{ name := s.name.name, table := stored.name }] } := by
  unfold Database.createIndex at h
  split at h
  next stored _ hstored =>
    simp only [hguard, Bool.false_eq_true, if_false] at h
    split at h
    · cases h
    next hallowed =>
    split at h
    · cases h
    split at h
    · cases h
    split at h
    · cases h
      simp only [not_or, Bool.not_eq_true] at hallowed
      exact ⟨stored, hstored, hallowed.2.2.2, rfl⟩
    · cases h
  · cases h

/-- A plain definition that is carried out makes the table that is declared. -/
theorem execute_table (hplain : t.IsPlain) (h : db.execute t.definition = .ok db') :
    ∃ d, TableDrafted t d ∧ db.table? d.table.name = none ∧
      db' = { db with tables := db.tables ++ [d.table], indices := db.indices ++ d.indices } := by
  obtain ⟨_, hstatement⟩ := exists_statement h
  obtain ⟨read, rfl, hread⟩ := table_read hplain hstatement
  rw [execute_of_table hstatement] at h
  have hsite : siteOf? read.name = some .file := by rw [hread.others]; rfl
  have hguard : read.isGuarded = false := by rw [hread.others]
  obtain ⟨d, hdrafted, hnew, rfl⟩ := createTable_eq_ok hsite hguard h
  have hd := drafted_of_read hread hdrafted
  refine ⟨d, hd, hread.name.unique hd.name ▸ hnew, ?_⟩
  simp only [Database.add, hd.notCounted, Bool.false_eq_true, if_false]

/-- A plain definition that is carried out makes an index of the table that is asked for. -/
theorem execute_index (htable : ∃ read, Names table read) (hname : ∃ read, Names name read)
    (h : db.execute (indexDefinition table name columns) = .ok db') :
    ∃ asked stored j, Names table asked ∧ db.table? asked = some stored ∧ j.table = stored.name ∧
      Names name j.name ∧ isKept j.name = false ∧
      db' = { db with indices := db.indices ++ [j] } := by
  obtain ⟨_, hstatement⟩ := exists_statement h
  obtain ⟨read, rfl, hread⟩ := index_read htable hname hstatement
  rw [execute_of_index hstatement] at h
  obtain ⟨stored, hstored, hkept, rfl⟩ := createIndex_eq_ok hread.isNew h
  exact ⟨read.table, stored, { name := read.name.name, table := stored.name }, hread.table,
    hstored, rfl, hread.name, hkept, rfl⟩

end

/-- An index has a declared name, and that of its table is a declared one too. -/
structure IndexOf (table name : String) (j : StoredIndex) : Prop where
  name : Names name j.name
  table : Names table j.table

/-- The declared indices of some tables: of each the names of its table and of itself. -/
def indicesOf (tables : List TableSchema) : List (String × String) :=
  tables.flatMap fun t => t.indices.map fun i => (t.name, i.1)

/-- A database has the declared tables and indices, and no indices but these and those that come
with the tables. -/
structure Made (tables : List TableSchema) (indices : List (String × String)) (db : Database) :
    Prop where
  stands : ∀ t ∈ tables, ∃ stored, Names t.name stored.name ∧
    db.table? stored.name = some stored ∧ List.Forall₂ ColumnStored t.columns stored.columns
  indexed : ∀ i ∈ indices, ∃ j ∈ db.indices, IndexOf i.1 i.2 j ∧ isKept j.name = false
  known : ∀ j ∈ db.indices, (∃ table n, j.name = Draft.automaticName table n) ∨
    ∃ i ∈ indices, IndexOf i.1 i.2 j

section

variable {db db' : Database} {tables rest : List TableSchema} {t : TableSchema}
  {indices declared : List (String × String)} {i : String × String} {d : Drafted} {j : StoredIndex}

theorem made_empty : Made [] [] {} := ⟨nofun, nofun, nofun⟩

theorem Made.setVersion (h : Made tables indices db) (version : Int) :
    Made tables indices (db.setVersion version) :=
  ⟨h.stands, h.indexed, h.known⟩

theorem Made.add_table (h : Made tables indices db) (hd : TableDrafted t d)
    (hnew : db.table? d.table.name = none) :
    Made (tables ++ [t]) indices
      { db with tables := db.tables ++ [d.table], indices := db.indices ++ d.indices } where
  stands t' ht' := by
    rcases List.mem_append.mp ht' with ht' | ht'
    · obtain ⟨stored, hname, hstored, hcolumns⟩ := h.stands t' ht'
      refine ⟨stored, hname, ?_, hcolumns⟩
      rw [Database.table?] at hstored ⊢
      rw [List.find?_append, hstored, Option.some_or]
    · obtain rfl := List.mem_singleton.mp ht'
      refine ⟨d.table, hd.name, ?_, hd.columns⟩
      rw [Database.table?] at hnew ⊢
      rw [List.find?_append, hnew, Option.none_or, List.find?_singleton, if_pos (sameName_self _)]
  indexed i hi := by
    obtain ⟨j, hj, hindex⟩ := h.indexed i hi
    exact ⟨j, List.mem_append_left _ hj, hindex⟩
  known j hj := by
    rcases List.mem_append.mp hj with hj | hj
    · exact h.known j hj
    · obtain ⟨n, hname⟩ := hd.indices j hj
      exact .inl ⟨_, n, hname⟩

theorem Made.add_index (h : Made tables indices db) (hindex : IndexOf i.1 i.2 j)
    (hkept : isKept j.name = false) :
    Made tables (indices ++ [i]) { db with indices := db.indices ++ [j] } where
  stands := h.stands
  indexed i' hi' := by
    rcases List.mem_append.mp hi' with hi' | hi'
    · obtain ⟨j', hj', hindex'⟩ := h.indexed i' hi'
      exact ⟨j', List.mem_append_left _ hj', hindex'⟩
    · obtain rfl := List.mem_singleton.mp hi'
      exact ⟨j, List.mem_append_right _ (List.mem_singleton_self j), hindex, hkept⟩
  known j' hj' := by
    rcases List.mem_append.mp hj' with hj' | hj'
    · refine (h.known j' hj').imp_right fun ⟨i', hi', hindex'⟩ => ?_
      exact ⟨i', List.mem_append_left _ hi', hindex'⟩
    · obtain rfl := List.mem_singleton.mp hj'
      exact .inr ⟨i, List.mem_append_right _ (List.mem_singleton_self i), hindex⟩

/-- An index of a table that was made is made on that table. -/
theorem Made.execute_index (h : Made tables indices db) (ht : t ∈ tables)
    (hname : ∃ read, Names i.1 read)
    (hexecute : db.execute (indexDefinition t.name i.1 i.2) = .ok db') :
    Made tables (indices ++ [(t.name, i.1)]) db' := by
  obtain ⟨stored, hstored, hstands, -⟩ := h.stands t ht
  obtain ⟨asked, found, j, hasked, hfound, htable, hindex, hkept, rfl⟩ :=
    Schema.execute_index ⟨_, hstored⟩ hname hexecute
  obtain rfl := hasked.unique hstored
  obtain rfl := Option.some.inj (hfound.symm.trans hstands)
  exact h.add_index ⟨hindex, htable ▸ hstored⟩ hkept

theorem Made.createIndices (h : Made tables indices db) (ht : t ∈ tables)
    (hnames : ∀ i ∈ declared, ∃ read, Names i.1 read)
    (hcreate : createIndices t.name declared db = (.ok (), db')) :
    Made tables (indices ++ declared.map fun i => (t.name, i.1)) db' := by
  induction declared generalizing db indices with
  | nil =>
    cases hcreate
    simpa using h
  | cons i declared ih =>
    rw [Schema.createIndices] at hcreate
    split at hcreate
    next mid hexecute =>
      rw [List.forall_mem_cons] at hnames
      have hmade := ih (h.execute_index ht hnames.1 hexecute) hnames.2 hcreate
      rwa [List.append_assoc, List.singleton_append] at hmade
    · cases hcreate

/-- A plain table is made with all its indices. -/
theorem Made.create (h : Made tables indices db) (hplain : t.IsPlain)
    (hcreate : t.create db = (.ok (), db')) :
    Made (tables ++ [t]) (indices ++ indicesOf [t]) db' := by
  rw [TableSchema.create] at hcreate
  split at hcreate
  · cases hcreate
  next mid hexecute =>
    obtain ⟨d, hd, hnew, rfl⟩ := execute_table hplain hexecute
    have hmade := (h.add_table hd hnew).createIndices (by simp) hplain.indices hcreate
    rwa [indicesOf, List.flatMap_singleton]

/-- Plain tables that are all made stand in the database with all their indices. -/
theorem Made.createTables (h : Made tables indices db) (hplain : ∀ t ∈ rest, t.IsPlain)
    (hcreate : createTables rest db = (.ok (), db')) :
    Made (tables ++ rest) (indices ++ indicesOf rest) db' := by
  induction rest generalizing db tables indices with
  | nil =>
    cases hcreate
    simpa [indicesOf] using h
  | cons t rest ih =>
    rw [Schema.createTables] at hcreate
    split at hcreate
    next mid htable =>
      rw [List.forall_mem_cons] at hplain
      have hmade := ih (h.create hplain.1 htable) hplain.2 hcreate
      rwa [List.append_assoc, List.singleton_append, List.append_assoc, indicesOf, indicesOf,
        ← List.flatMap_append, List.singleton_append] at hmade
    · cases hcreate

end

/-- A column is found again as it is declared: its name is kept as it is written, and its default
too, or without the only pair of brackets around it. -/
structure Column.FoundAgain (c : Column) : Prop where
  name : Names c.name c.name
  default : ∀ text ∈ c.default?, ∃ kept : String, Keeps text kept.toList ∧ Unaltered text kept

/-- A table that is made with others is found again as it is declared: all its columns are, and for
every index one is declared that is kept under these very names. -/
structure TableSchema.FoundAgain (tables : List TableSchema) (t : TableSchema) : Prop where
  columns : ∀ c ∈ t.columns, c.FoundAgain
  indices : ∀ i ∈ t.indices, ∃ j ∈ indicesOf tables, Names j.1 t.name ∧ Names j.2 i.1

section

variable {db : Database} {tables : List TableSchema} {t : TableSchema} {c : Column}
  {stored : StoredColumn} {columns : List Column} {storeds : List StoredColumn}
  {kept? text? : Option String}

theorem sameDefaults_iff_unaltered
    (h : Option.Rel (fun kept text => Keeps text kept.toList) kept? text?) :
    Option.Rel SameDefault kept? text? ↔
      ∀ text ∈ text?, ∃ kept : String, Keeps text kept.toList ∧ Unaltered text kept := by
  cases h with
  | none => exact ⟨fun _ => nofun, fun _ => .none⟩
  | @some kept text hkeeps =>
    rw [Option.rel_some_some, sameDefault_iff_unaltered hkeeps]
    constructor
    · rintro hunaltered _ ⟨⟩
      exact ⟨kept, hkeeps, hunaltered⟩
    · intro hagain
      obtain ⟨kept', hkeeps', hunaltered⟩ := hagain text rfl
      rwa [String.toList_inj.mp (hkeeps.unique hkeeps')]

theorem ColumnStored.fits_iff (h : ColumnStored c stored) :
    ColumnFits (· = 1) stored c ↔ c.FoundAgain := by
  constructor
  · rintro ⟨hname, -, -, hdefault, -⟩
    exact ⟨hname ▸ h.name, (sameDefaults_iff_unaltered h.default).mp hdefault⟩
  · rintro ⟨hname, hdefault⟩
    exact ⟨h.name.unique hname, h.type, h.nonNull,
      (sameDefaults_iff_unaltered h.default).mpr hdefault, h.key⟩

theorem fits_iff_foundAgain (h : List.Forall₂ ColumnStored columns storeds) :
    List.Forall₂ (ColumnFits (· = 1)) storeds columns ↔ ∀ c ∈ columns, c.FoundAgain := by
  induction h with
  | nil => simp
  | cons hcolumn _ ih => rw [List.forall₂_cons, List.forall_mem_cons, hcolumn.fits_iff, ih]

theorem columnsOf?_of_names {stored : StoredTable} {text : String} (hname : Names text stored.name)
    (hstands : db.table? stored.name = some stored) : db.columnsOf? text = some stored.columns := by
  simp [Database.columnsOf?, questionOf?_of_names hname, hstands, Database.columnsOf]

theorem automaticName_eq (table : String) (n : Nat) :
    Draft.automaticName table n =
      "sqlite_" ++ ("autoindex_" ++ table ++ "_" ++ Text.decimal n) := by
  have hsplit : "sqlite_autoindex_" = "sqlite_" ++ "autoindex_" := by decide +kernel
  unfold Draft.automaticName
  rw [hsplit]
  simp only [String.append_assoc]

/-- A plain name of an index that was made is no name that comes with a table. -/
theorem Made.name_ne_automaticName (h : Made tables (indicesOf tables) db) (ht : t ∈ tables)
    {i : String × String} (hi : i ∈ t.indices) (table : String) (n : Nat) :
    i.1 ≠ Draft.automaticName table n := by
  intro heq
  have hmem : (t.name, i.1) ∈ indicesOf tables :=
    List.mem_flatMap.mpr ⟨t, ht, List.mem_map.mpr ⟨i, hi, rfl⟩⟩
  obtain ⟨j, -, hindex, hkept⟩ := h.indexed _ hmem
  have hbegins : i.1 = "sqlite_" ++ ("autoindex_" ++ table ++ "_" ++ Text.decimal n) := by
    rw [heq, automaticName_eq]
  rw [isKept_of_names (hbegins ▸ hindex.name)] at hkept
  cases hkept

theorem Made.hasIndex_iff (h : Made tables (indicesOf tables) db) (ht : t ∈ tables)
    {i : String × String} (hi : i ∈ t.indices) :
    (∃ j ∈ db.indices, j.name = i.1 ∧ j.table = t.name) ↔
      ∃ j ∈ indicesOf tables, Names j.1 t.name ∧ Names j.2 i.1 := by
  constructor
  · rintro ⟨j, hj, hname, htable⟩
    rcases h.known j hj with ⟨table, n, hauto⟩ | ⟨declared, hdeclared, hindex⟩
    · exact absurd (hname.symm.trans hauto) (h.name_ne_automaticName ht hi table n)
    · exact ⟨declared, hdeclared, htable ▸ hindex.table, hname ▸ hindex.name⟩
  · rintro ⟨declared, hdeclared, htable, hname⟩
    obtain ⟨j, hj, hindex, -⟩ := h.indexed declared hdeclared
    exact ⟨j, hj, hindex.name.unique hname, hindex.table.unique htable⟩

/-- Where plain tables were made, what passes is what is found again. -/
theorem Made.passes_iff (h : Made tables (indicesOf tables) db) (ht : t ∈ tables) :
    Passes db t ↔ t.FoundAgain tables := by
  obtain ⟨stored, hname, hstands, hcolumns⟩ := h.stands t ht
  have hindices : (∀ i ∈ t.indices, ∃ j ∈ db.indices, j.name = i.1 ∧ j.table = t.name) ↔
      ∀ i ∈ t.indices, ∃ j ∈ indicesOf tables, Names j.1 t.name ∧ Names j.2 i.1 :=
    forall₂_congr fun i hi => h.hasIndex_iff ht hi
  simp only [Passes, columnsOf?_of_names hname hstands, Option.some.injEq, exists_eq_left']
  rw [fits_iff_foundAgain hcolumns, hindices]
  constructor
  · rintro ⟨hcolumns, hindices⟩
    exact ⟨hcolumns, hindices⟩
  · rintro ⟨hcolumns, hindices⟩
    exact ⟨hcolumns, hindices⟩

end

end PackageIndex.Schema
