/-!
The functions that expressions may call, and with how many values. Those that gather the
rows of a query or see only part of them have no place in a definition and are left out.
-/
namespace PackageIndex.Sql

structure Callable where
  name : String
  fewest : Nat
  /-- The most values, where there is a bound. -/
  most? : Option Nat
  deriving DecidableEq

/-- Functions whose results depend on their values alone, as far as definitions are asked. -/
def fixedFunctions : List Callable :=
  [ ⟨"->", 2, some 2⟩, ⟨"->>", 2, some 2⟩, ⟨"abs", 1, some 1⟩, ⟨"char", 0, none⟩
  , ⟨"coalesce", 2, none⟩, ⟨"concat", 1, none⟩, ⟨"concat_ws", 2, none⟩, ⟨"date", 0, none⟩
  , ⟨"datetime", 0, none⟩, ⟨"format", 0, none⟩, ⟨"fts5_source_id", 0, some 0⟩, ⟨"glob", 2, some 2⟩
  , ⟨"hex", 1, some 1⟩, ⟨"if", 2, none⟩, ⟨"ifnull", 2, some 2⟩, ⟨"iif", 2, none⟩
  , ⟨"instr", 2, some 2⟩, ⟨"json", 1, some 1⟩, ⟨"json_array", 0, none⟩
  , ⟨"json_array_length", 1, some 2⟩, ⟨"json_error_position", 1, some 1⟩
  , ⟨"json_extract", 0, none⟩, ⟨"json_insert", 0, none⟩, ⟨"json_object", 0, none⟩
  , ⟨"json_patch", 2, some 2⟩, ⟨"json_pretty", 1, some 2⟩, ⟨"json_quote", 1, some 1⟩
  , ⟨"json_remove", 0, none⟩, ⟨"json_replace", 0, none⟩, ⟨"json_set", 0, none⟩
  , ⟨"json_type", 1, some 2⟩, ⟨"json_valid", 1, some 2⟩, ⟨"jsonb", 1, some 1⟩
  , ⟨"jsonb_array", 0, none⟩, ⟨"jsonb_extract", 0, none⟩, ⟨"jsonb_insert", 0, none⟩
  , ⟨"jsonb_object", 0, none⟩, ⟨"jsonb_patch", 2, some 2⟩, ⟨"jsonb_remove", 0, none⟩
  , ⟨"jsonb_replace", 0, none⟩, ⟨"jsonb_set", 0, none⟩, ⟨"julianday", 0, none⟩
  , ⟨"length", 1, some 1⟩, ⟨"like", 2, some 3⟩, ⟨"likelihood", 2, some 2⟩, ⟨"likely", 1, some 1⟩
  , ⟨"lower", 1, some 1⟩, ⟨"ltrim", 1, some 2⟩, ⟨"max", 2, none⟩, ⟨"min", 2, none⟩
  , ⟨"nullif", 2, some 2⟩, ⟨"octet_length", 1, some 1⟩, ⟨"printf", 0, none⟩, ⟨"quote", 1, some 1⟩
  , ⟨"replace", 3, some 3⟩, ⟨"round", 1, some 2⟩, ⟨"rtrim", 1, some 2⟩, ⟨"sign", 1, some 1⟩
  , ⟨"soundex", 1, some 1⟩, ⟨"sqlite_log", 2, some 2⟩, ⟨"strftime", 0, none⟩
  , ⟨"substr", 2, some 3⟩, ⟨"substring", 2, some 3⟩, ⟨"subtype", 1, some 1⟩, ⟨"time", 0, none⟩
  , ⟨"timediff", 2, some 2⟩, ⟨"trim", 1, some 2⟩, ⟨"typeof", 1, some 1⟩, ⟨"unhex", 1, some 2⟩
  , ⟨"unicode", 1, some 1⟩, ⟨"unixepoch", 0, none⟩, ⟨"unlikely", 1, some 1⟩, ⟨"upper", 1, some 1⟩
  , ⟨"zeroblob", 1, some 1⟩ ]

/-- Functions whose results depend on more: on the clock, on chance or on the connection. -/
def varyingFunctions : List Callable :=
  [ ⟨"bm25", 0, none⟩, ⟨"changes", 0, some 0⟩, ⟨"current_date", 0, some 0⟩
  , ⟨"current_time", 0, some 0⟩, ⟨"current_timestamp", 0, some 0⟩, ⟨"fts3_tokenizer", 1, some 2⟩
  , ⟨"fts5", 1, some 1⟩, ⟨"highlight", 0, none⟩, ⟨"last_insert_rowid", 0, some 0⟩
  , ⟨"load_extension", 1, some 2⟩, ⟨"match", 2, some 2⟩, ⟨"matchinfo", 1, some 2⟩
  , ⟨"offsets", 1, some 1⟩, ⟨"optimize", 1, some 1⟩, ⟨"random", 0, some 0⟩
  , ⟨"randomblob", 1, some 1⟩, ⟨"rtreecheck", 0, none⟩, ⟨"rtreedepth", 1, some 1⟩
  , ⟨"rtreenode", 2, some 2⟩, ⟨"snippet", 0, none⟩, ⟨"sqlite_compileoption_get", 1, some 1⟩
  , ⟨"sqlite_compileoption_used", 1, some 1⟩, ⟨"sqlite_source_id", 0, some 0⟩
  , ⟨"sqlite_version", 0, some 0⟩, ⟨"total_changes", 0, some 0⟩ ]

def Callable.accepts (f : Callable) (name : String) (count : Nat) : Bool :=
  f.name = name && f.fewest ≤ count && f.most?.all (count ≤ ·)

/-- A function of a name, in small letters, takes so many values. -/
def isFixedFunction (name : String) (count : Nat) : Bool :=
  fixedFunctions.any (·.accepts name count)

def isFunction (name : String) (count : Nat) : Bool :=
  isFixedFunction name count || varyingFunctions.any (·.accepts name count)

end PackageIndex.Sql
