import PackageIndex.Schema.Stored
/-!
Tables that every database answers for without keeping them: the list of what it keeps, one
table for each of its settings, and a few that take values apart.
-/
namespace PackageIndex.Schema

/-- Columns without types. -/
def untyped (names : List String) : List StoredColumn :=
  names.map fun name => { name, type := "", nonNull := false, default? := none, keyPosition := 0 }

/-- Columns with their types. -/
def typed (columns : List (String × String)) : List StoredColumn :=
  columns.map fun (name, type) =>
    { name, type, nonNull := false, default? := none, keyPosition := 0 }

/-- The list of tables and indices, under each of its names. -/
def contentsNames : List String :=
  ["sqlite_master", "sqlite_schema", "sqlite_temp_master", "sqlite_temp_schema"]

def contentsColumns : List StoredColumn :=
  typed
    [ ("type", "TEXT"), ("name", "TEXT"), ("tbl_name", "TEXT"), ("rootpage", "INT")
    , ("sql", "TEXT") ]

/-- Settings whose table has one column of the same name. -/
def plainSettings : List String :=
  [ "analysis_limit", "application_id", "auto_vacuum", "automatic_index", "cache_size"
  , "cache_spill", "cell_size_check", "checkpoint_fullfsync", "compile_options", "count_changes"
  , "data_version", "defer_foreign_keys", "empty_result_callbacks", "encoding", "foreign_keys"
  , "freelist_count", "full_column_names", "fullfsync", "hard_heap_limit"
  , "ignore_check_constraints", "integrity_check", "journal_mode", "journal_size_limit"
  , "legacy_alter_table", "locking_mode", "max_page_count", "optimize", "page_count", "page_size"
  , "query_only", "quick_check", "read_uncommitted", "recursive_triggers"
  , "reverse_unordered_selects", "schema_version", "secure_delete", "short_column_names"
  , "soft_heap_limit", "synchronous", "temp_store", "threads", "trusted_schema", "user_version"
  , "writable_schema" ]

/-- Settings whose table has other columns. -/
def otherSettings : List (String × List String) :=
  [ ("busy_timeout", ["timeout"])
  , ("collation_list", ["seq", "name"])
  , ("database_list", ["seq", "name", "file"])
  , ("default_cache_size", ["cache_size"])
  , ("foreign_key_check", ["table", "rowid", "parent", "fkid"])
  , ("foreign_key_list", ["id", "seq", "table", "from", "to", "on_update", "on_delete", "match"])
  , ("function_list", ["name", "builtin", "type", "enc", "narg", "flags"])
  , ("index_info", ["seqno", "cid", "name"])
  , ("index_list", ["seq", "name", "unique", "origin", "partial"])
  , ("index_xinfo", ["seqno", "cid", "name", "desc", "coll", "key"])
  , ("module_list", ["name"])
  , ("pragma_list", ["name"])
  , ("table_info", ["cid", "name", "type", "notnull", "dflt_value", "pk"])
  , ("table_list", ["schema", "name", "type", "ncol", "wr", "strict"])
  , ("table_xinfo", ["cid", "name", "type", "notnull", "dflt_value", "pk", "hidden"]) ]

/-- The pages of the file. -/
def pageColumns : List StoredColumn :=
  typed
    [ ("name", "TEXT"), ("path", "TEXT"), ("pageno", "INTEGER"), ("pagetype", "TEXT")
    , ("ncell", "INTEGER"), ("payload", "INTEGER"), ("unused", "INTEGER")
    , ("mx_payload", "INTEGER"), ("pgoffset", "INTEGER"), ("pgsize", "INTEGER") ]

def documentParts : List String :=
  ["key", "value", "type", "atom", "id", "parent", "fullkey", "path"]

def textParts : List String := ["input", "token", "start", "end", "position"]

/-- A table that cannot be asked about without the table whose words it lists. -/
def unaskable : List String := ["fts4aux"]

def settingColumns? (name : String) : Option (List StoredColumn) :=
  if plainSettings.contains name then some (untyped [name])
  else (otherSettings.lookup name).map untyped

/-- The columns of a table that no database keeps, by its name in small letters. -/
def systemColumns? (name : String) : Option (List StoredColumn) :=
  if contentsNames.contains name then some contentsColumns
  else if name = "dbstat" then some pageColumns
  else if name = "json_each" ∨ name = "json_tree" then some (untyped documentParts)
  else if name = "fts3tokenize" then some (untyped textParts)
  else
    let mark := "pragma_".toList
    let setting := String.ofList (name.toList.drop mark.length)
    if mark.isPrefixOf name.toList then settingColumns? setting else none

end PackageIndex.Schema
