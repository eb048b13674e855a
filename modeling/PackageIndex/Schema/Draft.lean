import PackageIndex.Schema.Stored
import PackageIndex.Sql.Scope
import PackageIndex.Sql.Statement
/-!
What a definition makes, apart from what is in the database already. Columns and rules are
taken in their order, because a rule of a column may look at those before it; conditions and
computed columns are looked at last, when all columns are known. Whatever does not make
sense makes nothing.
-/
namespace PackageIndex.Schema

open PackageIndex.Sql

/-- Types that are reported in capitals, however they are written. -/
def standardTypes : List String := ["ANY", "BLOB", "INT", "INTEGER", "REAL", "TEXT"]

def standardType? (cs : List Char) : Option String :=
  standardTypes.find? fun t => sameName t (String.ofList cs)

/-- A text without a word at its end and the spaces before it. -/
def withoutEnd? (word : String) (cs : List Char) : Option (List Char) :=
  let rest := cs.take (cs.length - word.length)
  if sameName word (String.ofList (cs.drop rest.length)) then
    some (rest.reverse.dropWhile isSpace).reverse
  else none

/-- With fewer bytes a type keeps the words that announce a computed column. -/
def shortestAnnounced : Nat := 16

/-- A type without the words of a computed column, which are read as a part of it. -/
def withoutAnnouncement (cs : List Char) : List Char :=
  if (String.ofList cs).utf8ByteSize < shortestAnnounced then cs
  else
    match withoutEnd? "always" cs with
    | none => cs
    | some rest => (withoutEnd? "generated" rest).getD rest

/-- The quotes around a text go when no other quote is inside. -/
def withoutPlainQuotes (cs : List Char) : List Char :=
  let isQuote (c : Char) : Bool := ['"', '\'', '[', '\x60'].contains c
  if cs.head?.any isQuote ∧ !(cs.drop 1).dropLast.any isQuote then (cs.drop 1).dropLast else cs

/-- A type as it is reported, and whether it is one of the standard ones. -/
def reportedType (written : List Char) : String × Bool :=
  let cs := withoutAnnouncement written
  let plain := if 3 ≤ cs.length then withoutPlainQuotes cs else cs
  match standardType? plain with
  | some t => (t, true)
  | none => (String.ofList (unquoted plain), false)

/-- A column of a draft. -/
structure DraftColumn where
  name : String
  type : String
  isStandard : Bool
  nonNull : Bool := false
  default? : Option (List Char) := none
  /-- The order of its texts. -/
  order : String := "binary"
  isKey : Bool := false
  /-- The expression of a computed column, and whether it is computed when it is written. -/
  value? : Option (Expr × Bool) := none

/-- An index that a rule of a table makes: positions of columns, with their orders. -/
structure DraftIndex where
  columns : List (Nat × String)
  conflict : Conflict
  isKey : Bool

structure Draft where
  columns : List DraftColumn := []
  indices : List DraftIndex := []
  checks : List Expr := []
  hasKey : Bool := false
  /-- The column that is another name for the numbers of rows. -/
  rowNumber? : Option (Nat × Conflict) := none
  /-- Numbers of rows are never used again. -/
  isCounted : Bool := false

/-- What a table's definition makes. -/
structure Drafted where
  table : StoredTable
  indices : List StoredIndex
  isCounted : Bool
  deriving DecidableEq

/-- The most columns of a table or terms of an index. -/
def mostColumns : Nat := 2000

/-- A text in the place of a column is its name, also inside one order. -/
def asColumn : Expr → Expr
  | .text s => .name s (some '\'')
  | .node (.collate order) [.text s] => .node (.collate order) [.name s (some '\'')]
  | e => e

/-- In the primary key a text is a name inside any number of orders. -/
def asKeyColumn : Expr → Expr
  | .node (.collate order) [e] => .node (.collate order) [asKeyColumn e]
  | e => asColumn e

/-- The column of a key's term, and the order that is named around it. -/
def columnOf? : Expr → Option (String × Option String)
  | .name s _ => some (s, none)
  | .node (.collate order) [e] => (columnOf? e).map fun (s, _) => (s, some order)
  | _ => none

namespace Draft

def names (d : Draft) : List String := d.columns.map (·.name)

def position? (d : Draft) (name : String) : Option Nat := d.names.findIdx? (sameName name)

def modify (d : Draft) (i : Nat) (f : DraftColumn → DraftColumn) : Draft :=
  { d with columns := d.columns.modify i f }

def addColumn (d : Draft) (c : ColumnText) : Option Draft :=
  let (type, isStandard) := reportedType c.type
  if (d.position? c.name).isSome ∨ mostColumns ≤ d.columns.length then none
  else some { d with columns := d.columns ++ [{ name := c.name, type, isStandard }] }

/-- Adds an index. One with the same columns stands for it, unless both say what becomes of
a row that breaks the rule and do not agree. -/
def addIndex (d : Draft) (new : DraftIndex) : Option Draft :=
  let isSame (old : DraftIndex) : Bool :=
    old.columns.map (·.1) = new.columns.map (·.1)
      && (old.columns.zip new.columns).all fun (a, b) => sameName a.2 b.2
  match d.indices.findIdx? isSame, d.indices.find? isSame with
  | some i, some old =>
    if old.conflict.isSome ∧ new.conflict.isSome ∧ old.conflict ≠ new.conflict then none
    else
      let conflict := old.conflict.or new.conflict
      let merged := { old with conflict, isKey := old.isKey || new.isKey }
      some { d with indices := d.indices.set i merged }
  | _, _ => some { d with indices := d.indices ++ [new] }

/-- The positions and orders of a rule's terms, each of which is a column. -/
def places? (d : Draft) (terms : List Term) : Option (List (Nat × String)) :=
  if mostColumns < terms.length then none
  else terms.mapM fun t => do
    let (name, order?) ← columnOf? (asColumn t.expr)
    let i ← d.position? name
    let order ← order?.or ((d.columns[i]?).map (·.order))
    if t.placesNulls ∨ !isOrder order then none else some (i, order)

/-- Makes columns the primary key. A single one with whole numbers is another name for the
numbers of rows, unless it goes down; only then can numbers be counted. -/
def addKey (d : Draft) (positions : List Nat) (places? : Option (List (Nat × String)))
    (isDescending isCounted : Bool) (conflict : Conflict) : Option Draft :=
  let keyed := positions.foldl (fun d i => d.modify i fun c => { c with isKey := true }) d
  let keyed := { keyed with hasKey := true }
  let isComputed (i : Nat) : Bool := (d.columns[i]?).any (·.value?.isSome)
  if d.hasKey ∨ positions.any isComputed then none
  else
    match positions with
    | [i] =>
      if (d.columns[i]?).any (fun c => c.isStandard && c.type = "INTEGER") && !isDescending then
        some { keyed with rowNumber? := some (i, conflict), isCounted }
      else if isCounted then none
      else do keyed.addIndex { columns := ← places?, conflict, isKey := true }
    | _ =>
      if isCounted then none
      else do keyed.addIndex { columns := ← places?, conflict, isKey := true }

/-- Applies a rule of the last column. -/
def applyColumnRule (d : Draft) (rule : ColumnRule) : Option Draft := do
  let i := d.columns.length - 1
  let c ← d.columns[i]?
  match rule with
  | .default written value? =>
    if c.value?.isSome ∨ !value?.all Expr.isConstant then none
    else some (d.modify i fun c => { c with default? := some written })
  | .nonNull => some (d.modify i fun c => { c with nonNull := true })
  | .primaryKey isDescending isCounted conflict =>
    d.addKey [i] (some [(i, c.order)]) isDescending isCounted conflict
  | .unique conflict => d.addIndex { columns := [(i, c.order)], conflict, isKey := false }
  | .check condition => some { d with checks := d.checks ++ [condition] }
  | .references targets? => if targets?.all (· = 1) then some d else none
  | .collate order =>
    if isOrder order then
      let d := d.modify i fun c => { c with order }
      let reordered (x : DraftIndex) : DraftIndex :=
        { x with columns := x.columns.map fun (j, old) => (j, if j = i then order else old) }
      some { d with indices := d.indices.map reordered }
    else none
  | .generated value kind? =>
    let kind := folded (String.ofList (kind?.getD "virtual".toList))
    let isUsed := c.value?.isSome || c.default?.isSome || c.isKey
    if isUsed ∨ (kind ≠ "virtual" ∧ kind ≠ "stored") then none
    else some (d.modify i fun c => { c with value? := some (value, kind = "stored") })
  | .remark => some d

def applyColumn (d : Draft) (c : ColumnText) : Option Draft := do
  c.rules.foldlM applyColumnRule (← d.addColumn c)

def applyTableRule (d : Draft) : TableRule → Option Draft
  | .primaryKey terms isCounted conflict => do
    if terms.any (·.placesNulls) then failure
    let terms := terms.map fun t => { t with expr := asKeyColumn t.expr }
    let positions ← terms.mapM fun t => do d.position? (← columnOf? t.expr).1
    d.addKey positions (d.places? terms) false isCounted conflict
  | .unique terms conflict => do
    d.addIndex { columns := ← d.places? terms, conflict, isKey := false }
  | .check condition => some { d with checks := d.checks ++ [condition] }
  | .foreignKey columns targets? =>
    let areThere := columns.all fun n => (d.position? n).isSome
    if areThere && targets?.all (· = columns.length) then some d else none
  | .remark => some d

/-- Keeps the first of several places with one column and one order. -/
def withoutRepeats : List (Nat × String) → List (Nat × String)
  | [] => []
  | (i, order) :: rest =>
    (i, order) :: (withoutRepeats rest).filter fun (j, other) => !(i = j && sameName order other)

/-- A table without numbers of rows is kept by its key, whose columns are never null. -/
def withoutRowNumbers (d : Draft) : Option Draft := do
  if !d.hasKey ∨ d.isCounted then none
  let d ← match d.rowNumber? with
    | none => some d
    | some (i, conflict) => do
      let c ← d.columns[i]?
      { d with rowNumber? := none }.addIndex { columns := [(i, c.order)], conflict, isKey := true }
  let unrepeated (x : DraftIndex) : DraftIndex :=
    if x.isKey then { x with columns := withoutRepeats x.columns } else x
  let filled (c : DraftColumn) : DraftColumn := { c with nonNull := c.nonNull || c.isKey }
  some { d with columns := d.columns.map filled, indices := d.indices.map unrepeated }

/-- Strict columns have standard types, and those of the key are never null. -/
def withStrictTypes (d : Draft) : Option Draft :=
  let isRowNumber (i : Nat) : Bool := d.rowNumber?.any fun (j, _) => i = j
  let filled (i : Nat) (c : DraftColumn) : DraftColumn :=
    { c with nonNull := c.nonNull || (c.isKey && !isRowNumber i) }
  if d.columns.all (·.isStandard) then some { d with columns := d.columns.mapIdx filled }
  else none

/-- Of columns and those that they are computed from, the ones that lead to one another in
a circle stay, however often the others are taken away. -/
def tangled : Nat → List (String × List String) → List (String × List String)
  | 0, columns => columns
  | rounds + 1, columns =>
    tangled rounds <| columns.filter fun (_, sources) =>
      sources.any fun source => columns.any fun (name, _) => sameName name source

/-- Names that an expression uses. -/
def namesIn (scope : List String) (e : Expr) : List String :=
  scope.filter fun n => !e.all fun
    | .name m _ => !sameName n m
    | _ => true

/-- Columns that are computed when they are read, with the columns they are computed from. -/
def sources (d : Draft) : List (String × List String) :=
  d.columns.filterMap fun c =>
    match c.value? with
    | some (e, false) => some (c.name, namesIn d.names e)
    | _ => none

/-- Conditions and computed columns use what they may, and some column is not computed. -/
def isSound (d : Draft) (s : Scope) : Bool :=
  d.checks.all (s.allows .check)
    && d.columns.all (fun c => c.value?.all fun (e, isStored) =>
      s.allows (if isStored then .storedColumn else .virtualColumn) e)
    && d.columns.any (·.value?.isNone)
    && tangled d.columns.length d.sources = []

/-- The position of a column in the primary key, counted from one. -/
def keyPosition (d : Draft) (i : Nat) (c : DraftColumn) : Nat :=
  if !c.isKey then 0
  else
    match d.indices.find? (·.isKey) with
    | none => 1
    | some key => min ((key.columns.map (·.1)).idxOf i) d.columns.length + 1

def storedColumns (d : Draft) : List StoredColumn :=
  (d.columns.mapIdx fun i c => (c, d.keyPosition i c)).filterMap fun (c, keyPosition) =>
    if c.value?.isSome then none
    else some
      { name := c.name, type := c.type, nonNull := c.nonNull
        default? := c.default?.map String.ofList, keyPosition }

/-- The name of an index that comes with a table. -/
def automaticName (table : String) (n : Nat) : String :=
  "sqlite_autoindex_" ++ table ++ "_" ++ Text.decimal n

end Draft

end PackageIndex.Schema

namespace PackageIndex.Sql.TableStatement

open PackageIndex.Schema

/-- The table that a statement makes, with its indices, when the statement makes sense. -/
def drafted? (s : TableStatement) : Option Drafted := do
  let d ← s.columns.foldlM Draft.applyColumn {}
  let d ← s.rules.foldlM Draft.applyTableRule d
  let d ← if s.isStrict then d.withStrictTypes else some d
  let d ← if s.isRowless then d.withoutRowNumbers else some d
  let scope : Scope := { table := s.name.name, columns := d.names, numbersRows := !s.isRowless }
  if !d.isSound scope then failure
  let indices := d.indices.mapIdx fun i x =>
    let name := Draft.automaticName s.name.name (i + 1)
    (x, { name, table := s.name.name, isAutomatic := true })
  some
    { table :=
        { name := s.name.name, columns := d.storedColumns
          computed := (d.columns.filter (·.value?.isSome)).map (·.name)
          numbersRows := !s.isRowless }
      indices := (indices.filter fun (x, _) => !(s.isRowless && x.isKey)).map (·.2)
      isCounted := d.isCounted }

end PackageIndex.Sql.TableStatement
