import Mathlib.Data.List.Forall2
import PackageIndex.Proofs.Sql.Reading
import PackageIndex.Schema.Declaration
/-!
The definitions of declared tables and indices, and the questions for their columns, as they are
read again. Where every name is written as one name and every default as one default, just what is
declared is read; of a default, the text that is kept of its pieces.
-/
namespace PackageIndex.Schema

open PackageIndex.Sql Reader

/-- A text is one name, perhaps in quotes or with blanks around it. -/
def Names (text name : String) : Prop :=
  ∃ t gap, Closed text.toList [t] gap ∧ t.isObjectName = true ∧ t.name = name

/-- A text is one default, of which another one is kept. -/
def Keeps (text : String) (kept : List Char) : Prop :=
  ∃ pieces gap, Closed text.toList pieces gap ∧ Kept pieces kept

def ColumnType.piece (type : ColumnType) : Token :=
  ⟨.word (folded type.keyword), type.keyword.toList, []⟩

def keyPieces : List Token :=
  [⟨.word "primary", "PRIMARY".toList, []⟩, ⟨.word "key", "KEY".toList, [' ']⟩]

def nonNullPieces : List Token :=
  [⟨.word "not", "NOT".toList, []⟩, ⟨.word "null", "NULL".toList, [' ']⟩]

def defaultPieces : List Token := [⟨.word "default", "DEFAULT".toList, []⟩]

/-- Some pieces where something is so. -/
def partIf (b : Bool) (ts : List Token) : List (List Token) := if b then [ts] else []

/-- A rule where something is so. -/
def ruleIf (b : Bool) (rule : ColumnRule) : List ColumnRule := if b then [rule] else []

/-- The word for a default and the default, where there is one. -/
def defaultParts (b : Bool) (value : List Token) : List (List Token) :=
  if b then [defaultPieces, value] else []

/-- The rules that are read from a column's definition. -/
def Column.rules (c : Column) (kept : List Char) (value? : Option Expr) : List ColumnRule :=
  ruleIf c.isPrimaryKey (.primaryKey false false none) ++
    (ruleIf c.nonNull .nonNull ++ ruleIf c.default?.isSome (.default kept value?))

section

variable {us all mid rest : List Token} {parts : List (List Token)} {t : Token} {ts : List Token}
  {ks : List Kind} {b : Bool} {inner fuel : Nat} {rule : ColumnRule} {rules : List ColumnRule}
  {c : Column} {name : Token} {value : List Token} {kept : List Char}
  {d : Char}

theorem starts_of_parts (ht : t.kind ∈ ks) (h : Parts ((t :: ts) :: parts) us all) :
    Starts ks all := by
  obtain ⟨-, gap, rest, rfl, -⟩ := parts_cons_iff.mp h
  exact ⟨_, _, rfl, ht⟩

theorem starts_partIf (ht : t.kind ∈ ks) (hrest : ∀ {mid}, Parts parts us mid → Starts ks mid)
    (h : Parts (partIf b (t :: ts) ++ parts) us all) : Starts ks all := by
  cases b with
  | false => exact hrest h
  | true => exact starts_of_parts ht h

/-- A rule that stands where something is so is read there. -/
theorem rules_partIf
    (hrule : ∀ gap mid, Starts ruleStarts mid →
      columnRule? inner (behind gap ts ++ mid) = some (some rule, mid))
    (hstarts : ∀ {mid}, Parts parts us mid → Starts ruleStarts mid)
    (h : Parts (partIf b ts ++ parts) us all)
    (hread : many (columnRule? inner) fuel all = some (rules, rest)) :
    ∃ fuel' rules' mid, rules = ruleIf b rule ++ rules' ∧ Parts parts us mid ∧
      many (columnRule? inner) fuel' mid = some (rules', rest) := by
  cases b with
  | false => exact ⟨fuel, rules, all, rfl, h, hread⟩
  | true =>
    obtain ⟨-, gap, mid, rfl, hmid⟩ := parts_cons_iff.mp h
    obtain ⟨fuel', rules', rfl, hread'⟩ := many_cons (hrule gap mid (hstarts hmid)) hread
    exact ⟨fuel', rules', mid, rfl, hmid, hread'⟩

theorem isTypeWord_of_kind {type : ColumnType} (h : t.kind = type.piece.kind) :
    t.isTypeWord = true := by
  rw [Token.isTypeWord, Token.isIdentifier, h]
  cases type <;> decide

/-- The parts of a column's definition, before some others. -/
def Column.ruleParts (c : Column) (value : List Token) (parts : List (List Token)) :
    List (List Token) :=
  partIf c.isPrimaryKey keyPieces ++ (partIf c.nonNull nonNullPieces ++
    (defaultParts c.default?.isSome value ++ parts))

theorem starts_mark (hd : d = ',' ∨ d = ')') (h : Parts ([mark d] :: parts) us all) :
    Starts [.symbol ",", .symbol ")"] all :=
  starts_of_parts (by rcases hd with rfl | rfl <;> decide) h

theorem starts_defaultParts (hd : d = ',' ∨ d = ')')
    (h : Parts (defaultParts b value ++ [mark d] :: parts) us all) : Starts ruleStarts all := by
  cases b with
  | false => exact (starts_mark hd h).mono (by decide)
  | true => exact starts_of_parts (by decide) h

theorem default_read (hvalue : b = true → Kept value kept) (hd : d = ',' ∨ d = ')')
    (h : Parts (defaultParts b value ++ [mark d] :: parts) us all)
    (hread : many (columnRule? inner) fuel all = some (rules, rest)) :
    Parts ([mark d] :: parts) us rest ∧ ∃ value?, rules = ruleIf b (.default kept value?) := by
  have hend {mid : List Token} {fuel : Nat} {rules : List ColumnRule}
      (hmid : Parts ([mark d] :: parts) us mid)
      (hread : many (columnRule? inner) fuel mid = some (rules, rest)) :
      Parts ([mark d] :: parts) us rest ∧ rules = [] := by
    obtain ⟨rfl, rfl⟩ := many_nil (columnRule?_end (starts_mark hd hmid) inner) hread
    exact ⟨hmid, rfl⟩
  cases b with
  | false =>
    obtain ⟨hrest, rfl⟩ := hend h hread
    exact ⟨hrest, none, rfl⟩
  | true =>
    obtain ⟨-, gap, _, rfl, hvalued⟩ := parts_cons_iff.mp h
    obtain ⟨-, gap', mid, rfl, hmid⟩ := parts_cons_iff.mp hvalued
    obtain ⟨rule?, mid', hrule⟩ := exists_of_many hread
    obtain ⟨⟨value?, rfl⟩, rfl⟩ := columnRule?_default rfl (hvalue rfl) gap' hrule
    obtain ⟨fuel', rules', rfl, hread'⟩ := many_cons hrule hread
    obtain ⟨hrest, rfl⟩ := hend hmid hread'
    exact ⟨hrest, value?, rfl⟩

theorem rules_read (hvalue : c.default?.isSome = true → Kept value kept) (hd : d = ',' ∨ d = ')')
    (h : Parts (c.ruleParts value ([mark d] :: parts)) us all)
    (hread : many (columnRule? inner) fuel all = some (rules, rest)) :
    Parts ([mark d] :: parts) us rest ∧ ∃ value?, rules = c.rules kept value? := by
  have hstarts {mid : List Token} (hmid : Parts (partIf c.nonNull nonNullPieces ++
      (defaultParts c.default?.isSome value ++ [mark d] :: parts)) us mid) :
      Starts ruleStarts mid := starts_partIf (by decide) (starts_defaultParts hd) hmid
  obtain ⟨fuel₁, rules₁, mid₁, rfl, hmid₁, hread₁⟩ := rules_partIf
    (fun _ _ hmid => columnRule?_primary rfl rfl hmid inner) hstarts h hread
  obtain ⟨fuel₂, rules₂, mid₂, rfl, hmid₂, hread₂⟩ := rules_partIf
    (fun _ _ hmid => columnRule?_nonNull rfl rfl hmid inner) (starts_defaultParts hd) hmid₁ hread₁
  obtain ⟨hrest, value?, rfl⟩ := default_read hvalue hd hmid₂ hread₂
  exact ⟨hrest, value?, rfl⟩

/-- The name, the type and the rules of a column are read from its definition, up to the comma or
the bracket behind it. -/
theorem column_read {read : ColumnText} (hname : name.isObjectName = true)
    (hvalue : c.default?.isSome = true → Kept value kept) (hd : d = ',' ∨ d = ')')
    (h : Parts ([name] :: [c.type.piece] :: c.ruleParts value ([mark d] :: parts)) us all)
    (hread : column fuel all = some (read, rest)) :
    Parts ([mark d] :: parts) us rest ∧
      ∃ value?, read = ⟨name.name, c.type.keyword.toList, c.rules kept value?⟩ := by
  obtain ⟨name', _, rfl, hkind, htext, htype⟩ := h.exists_head
  obtain ⟨type', mid, rfl, hkind', htext', hrules⟩ := htype.exists_head
  have hstarts : Starts ruleStarts mid :=
    starts_partIf (by decide) (starts_partIf (by decide) (starts_defaultParts hd)) hrules
  have hname' : name'.isObjectName = true := (isObjectName_congr hkind).trans hname
  rw [column, bind_run (objectName_cons hname' _)] at hread
  obtain ⟨⟨⟨⟩, taken⟩, mid', htaken, hbehind⟩ := exists_of_bind hread
  obtain ⟨htypeName, rfl⟩ := withTokens_eq_some htaken
  obtain rfl := typeName_cons (isTypeWord_of_kind hkind') hstarts htypeName
  obtain ⟨rules, rest', hmany, hend⟩ := exists_of_bind hbehind
  obtain ⟨hrest, value?, rfl⟩ := rules_read hvalue hd hrules hmany
  cases hend
  refine ⟨hrest, value?, ?_⟩
  rw [List.length_cons, Nat.add_sub_cancel_left, List.take_succ_cons, List.take_zero, spanned,
    List.flatMap_nil, List.append_nil, htext', Token.name, htext]
  rfl

end

section

variable {c : Column} {cs r s gap : List Char} {parts : List (List Token)} {t name : Token}
  {ts value : List Token} {b : Bool} {text : String}

theorem closed_piece (type : ColumnType) : Closed type.keyword.toList [type.piece] [] := by
  cases type <;> exact ⟨by decide +kernel, rfl⟩

theorem closed_key : Closed "PRIMARY KEY".toList keyPieces [] := ⟨by decide +kernel, rfl⟩

theorem closed_nonNull : Closed "NOT NULL".toList nonNullPieces [] := ⟨by decide +kernel, rfl⟩

theorem closed_default : Closed "DEFAULT".toList defaultPieces [] := ⟨by decide +kernel, rfl⟩

/-- Some words behind a blank, where something is so. -/
theorem leads_partIf (hcs : Closed cs (t :: ts) gap) (hr : Delimited r) (h : Leads r parts s) :
    Delimited ((if b then ' ' :: cs else []) ++ r) ∧
      Leads ((if b then ' ' :: cs else []) ++ r) (partIf b (t :: ts) ++ parts) s := by
  cases b with
  | false => exact ⟨hr, h⟩
  | true => exact ⟨delimited_cons rfl _, .spaced hcs hr h⟩

/-- The text of a default. -/
def defaultText : Option String → List Char
  | none => []
  | some text => " DEFAULT ".toList ++ text.toList

theorem leads_default {default? : Option String}
    (hvalue : ∀ text ∈ default?, ∃ gap, Closed text.toList (t :: ts) gap)
    (hr : Delimited r) (h : Leads r parts s) :
    Delimited (defaultText default? ++ r) ∧
      Leads (defaultText default? ++ r) (defaultParts default?.isSome (t :: ts) ++ parts) s := by
  cases default? with
  | none => exact ⟨hr, h⟩
  | some text =>
    obtain ⟨gap, hclosed⟩ := hvalue text rfl
    have htext : defaultText (some text) ++ r =
        ' ' :: ("DEFAULT".toList ++ ' ' :: (text.toList ++ r)) := by
      have hword : " DEFAULT ".toList = ' ' :: ("DEFAULT".toList ++ [' ']) := rfl
      show (" DEFAULT ".toList ++ text.toList) ++ r = _
      rw [hword, List.append_assoc, List.cons_append, List.append_assoc, List.singleton_append]
    have hword : Delimited (' ' :: (text.toList ++ r)) := delimited_cons rfl _
    have hleads : Leads (' ' :: (text.toList ++ r)) ((t :: ts) :: parts) s := .spaced hclosed hr h
    rw [htext]
    exact ⟨delimited_cons rfl _, .spaced closed_default hword hleads⟩

theorem definition_eq (c : Column) (r : List Char) :
    c.definition ++ r = c.name.toList ++ (' ' :: (c.type.keyword.toList ++
      ((if c.isPrimaryKey then ' ' :: "PRIMARY KEY".toList else []) ++
      ((if c.nonNull then ' ' :: "NOT NULL".toList else []) ++
      (defaultText c.default? ++ r))))) := by
  rw [Column.definition]
  simp only [List.append_assoc, List.cons_append]
  rfl

theorem leads_column (hname : Closed c.name.toList [name] gap)
    (hvalue : ∀ text ∈ c.default?, ∃ gap, Closed text.toList (t :: ts) gap)
    (hr : Delimited r) (h : Leads r parts s) :
    Leads (c.definition ++ r) ([name] :: [c.type.piece] :: c.ruleParts (t :: ts) parts) s := by
  obtain ⟨hr₁, h₁⟩ := leads_default hvalue hr h
  obtain ⟨hr₂, h₂⟩ := leads_partIf (b := c.nonNull) closed_nonNull hr₁ h₁
  obtain ⟨hr₃, h₃⟩ := leads_partIf (b := c.isPrimaryKey) closed_key hr₂ h₂
  rw [definition_eq]
  exact .closed hname (List.cons_ne_nil _ _) (delimited_cons rfl _)
    (.spaced (closed_piece c.type) hr₃ h₃)

end

/-- A column whose name is written as one name, and whose default as one default. -/
structure Column.IsPlain (c : Column) : Prop where
  name : ∃ name, Names c.name name
  default : ∀ text ∈ c.default?, ∃ kept, Keeps text kept

/-- The pieces of a column's name and of its default, and the text that is kept of that. -/
structure Column.Spelled (c : Column) (name : Token) (value : List Token) (kept : List Char) :
    Prop where
  isName : name.isObjectName = true
  isKept : Kept value kept
  closedName : ∃ gap, Closed c.name.toList [name] gap
  closedValue : ∀ text ∈ c.default?, ∃ gap, Closed text.toList value gap

/-- What is read from the definition of a column. -/
structure ColumnRead (c : Column) (read : ColumnText) : Prop where
  name : Names c.name read.name
  type : read.type = c.type.keyword.toList
  rules : ∃ kept value?, read.rules = c.rules kept value? ∧ ∀ text ∈ c.default?, Keeps text kept

/-- The texts of columns between commas. -/
def columnsText (columns : List Column) : List Char :=
  (", ".toList).intercalate (columns.map (·.definition))

/-- Parts from which just some columns are read, up to the bracket at their end. -/
structure ReadAs (columns : List Column) (parts : List (List Token)) : Prop where
  starts {us all : List Token} : Parts parts us all → startsTableRule all = some (false, all)
  elements {us all rest : List Token} {inner fuel : Nat} {read : List ColumnText × List TableRule} :
    Parts parts us all → elements inner fuel all = some (read, rest) →
      Parts [[mark ')']] us rest ∧ List.Forall₂ ColumnRead columns read.1 ∧ read.2 = []

section

variable {c : Column} {name : Token} {value : List Token} {kept : List Char} {d : Char}
  {us all rest : List Token} {parts : List (List Token)} {fuel : Nat}
  {columns : List Column} {r s : List Char}

theorem Column.IsPlain.exists_spelled (hplain : c.IsPlain) :
    ∃ name value kept, c.Spelled name value kept := by
  obtain ⟨⟨_, t, gap, hname, hobject, -⟩, hdefault⟩ := hplain
  cases hvalue : c.default? with
  | none =>
    exact ⟨t, [⟨.integer, [], []⟩], [], hobject, .value (by simp), ⟨gap, hname⟩, by simp [hvalue]⟩
  | some text =>
    obtain ⟨kept, pieces, gap', hclosed, hkept⟩ := hdefault text hvalue
    refine ⟨t, pieces, kept, hobject, hkept, ⟨gap, hname⟩, fun text' htext => ?_⟩
    obtain rfl := Option.some.inj (hvalue.symm.trans htext)
    exact ⟨gap', hclosed⟩

theorem Column.Spelled.columnRead {read : ColumnText} (h : c.Spelled name value kept)
    (hd : d = ',' ∨ d = ')')
    (hparts : Parts ([name] :: [c.type.piece] :: c.ruleParts value ([mark d] :: parts)) us all)
    (hread : column fuel all = some (read, rest)) :
    Parts ([mark d] :: parts) us rest ∧ ColumnRead c read := by
  obtain ⟨gap, hname⟩ := h.closedName
  obtain ⟨hrest, value?, rfl⟩ := column_read h.isName (fun _ => h.isKept) hd hparts hread
  refine ⟨hrest, ⟨name, gap, hname, h.isName, rfl⟩, rfl, kept, value?, rfl, fun text htext => ?_⟩
  obtain ⟨gap', hclosed⟩ := h.closedValue text htext
  exact ⟨value, gap', hclosed, h.isKept⟩

theorem Column.Spelled.leads (h : c.Spelled name value kept) (hr : Delimited r)
    (hleads : Leads r parts s) :
    Leads (c.definition ++ r) ([name] :: [c.type.piece] :: c.ruleParts value parts) s := by
  obtain ⟨gap, hname⟩ := h.closedName
  obtain ⟨t, ts, rfl⟩ := List.exists_cons_of_ne_nil h.isKept.ne_nil
  exact leads_column hname h.closedValue hr hleads

theorem Column.Spelled.head?_ne_tab (h : c.Spelled name value kept) (r : List Char) :
    (c.definition ++ r).head? ≠ some '\x0b' := by
  obtain ⟨gap, hname⟩ := h.closedName
  rw [definition_eq]
  exact hname.head?_ne_tab _

/-- No rule of a table begins with a name. -/
theorem startsTableRule_name (hname : name.isObjectName = true)
    (hparts : Parts ([name] :: parts) us all) : startsTableRule all = some (false, all) := by
  obtain ⟨name', rest, rfl, hkind, -, -⟩ := hparts.exists_head
  have hname' : name'.isObjectName = true := (isObjectName_congr hkind).trans hname
  have hwords : tableRuleWords ⊆ reservedWords := by decide
  have hnone : (tableRuleWords.any fun w => name'.isWord w) = false := by
    rw [List.any_eq_false]
    intro w hw hword
    exact not_reserved hname' (of_decide_eq_true hword) (hwords hw)
  show some ((tableRuleWords.any fun w => name'.isWord w), _) = _
  rw [hnone]

theorem elements_last {inner : Nat} {read : List ColumnText × List TableRule}
    (h : c.Spelled name value kept)
    (hparts : Parts ([name] :: [c.type.piece] :: c.ruleParts value [[mark ')']]) us all)
    (hread : elements inner fuel all = some (read, rest)) :
      Parts [[mark ')']] us rest ∧ List.Forall₂ ColumnRead [c] read.1 ∧ read.2 = [] := by
  cases fuel with
  | zero => cases hread
  | succ fuel =>
    rw [elements] at hread
    obtain ⟨columnText, mid, hcolumn, hbehind⟩ := exists_of_bind hread
    obtain ⟨hmid, hcolumnRead⟩ := h.columnRead (.inr rfl) hparts hcolumn
    have hstarts : Starts [.symbol ")"] mid := starts_of_parts (by decide) hmid
    have hmiss : takesSymbol "," mid = some (false, mid) := hstarts.takesSymbol_eq (by decide)
    rw [bind_run hmiss] at hbehind
    cases hbehind
    exact ⟨hmid, .cons hcolumnRead .nil, rfl⟩

theorem elements_cons {inner : Nat} {read : List ColumnText × List TableRule}
    (h : c.Spelled name value kept) (hrest : ReadAs columns parts)
    (hparts : Parts ([name] :: [c.type.piece] :: c.ruleParts value ([mark ','] :: parts)) us all)
    (hread : elements inner fuel all = some (read, rest)) :
      Parts [[mark ')']] us rest ∧ List.Forall₂ ColumnRead (c :: columns) read.1 ∧ read.2 = [] := by
  cases fuel with
  | zero => cases hread
  | succ fuel =>
    rw [elements] at hread
    obtain ⟨columnText, mid, hcolumn, hbehind⟩ := exists_of_bind hread
    obtain ⟨hmid, hcolumnRead⟩ := h.columnRead (.inl rfl) hparts hcolumn
    obtain ⟨comma, mid', rfl, hkind, -, hmid'⟩ := hmid.exists_head
    rw [bind_run (takesSymbol_cons hkind mid'), if_pos rfl, bind_run (hrest.starts hmid'),
      if_neg Bool.false_ne_true] at hbehind
    obtain ⟨read', rest', helements, hend⟩ := exists_of_bind hbehind
    obtain ⟨hclose, hcolumns, hrules⟩ := hrest.elements hmid' helements
    cases hend
    exact ⟨hclose, .cons hcolumnRead hcolumns, hrules⟩

theorem columnsText_cons (c c' : Column) (columns : List Column) (r : List Char) :
    columnsText (c :: c' :: columns) ++ r =
      c.definition ++ ',' :: ' ' :: (columnsText (c' :: columns) ++ r) := by
  simp [columnsText, List.intercalate]

/-- No column is read from a bracket. -/
theorem readAs_nil : ReadAs [] [[mark ')']] where
  starts h := by
    obtain ⟨close, rest, rfl, hkind, -, -⟩ := h.exists_head
    have hnone : (tableRuleWords.any fun w => close.isWord w) = false := by
      simp [Token.isWord, hkind, mark]
    show some ((tableRuleWords.any fun w => close.isWord w), _) = _
    rw [hnone]
  elements {us all rest inner fuel read} h hread := by
    obtain ⟨close, mid, rfl, hkind, -, -⟩ := h.exists_head
    cases fuel with
    | zero => cases hread
    | succ fuel =>
      rw [Sql.elements] at hread
      obtain ⟨_, _, hcolumn, -⟩ := exists_of_bind hread
      rw [column] at hcolumn
      obtain ⟨_, _, hname, -⟩ := exists_of_bind hcolumn
      obtain ⟨t, _, hnext, -⟩ := exists_of_bind hname
      obtain ⟨heq, hobject⟩ := next_eq_some_iff.mp hnext
      cases heq
      simp [Token.isObjectName, Token.isTermName, Token.isIdentifier, Token.isIndexed,
        Token.isJoining, hkind, mark] at hobject

theorem exists_readAs (hplain : ∀ c ∈ columns, c.IsPlain) (r : List Char) :
    ∃ parts, ReadAs columns parts ∧ Leads (columnsText columns ++ ')' :: r) parts r ∧
      (columnsText columns ++ ')' :: r).head? ≠ some '\x0b' := by
  have hclose : Leads (')' :: r) [[mark ')']] r := .mark (.inr (.inr rfl)) (.refl r)
  induction columns with
  | nil => exact ⟨_, readAs_nil, hclose, by simp [columnsText]⟩
  | cons c columns ih =>
    obtain ⟨name, value, kept, hspelled⟩ := (hplain c List.mem_cons_self).exists_spelled
    cases columns with
    | nil =>
      have htext : columnsText [c] = c.definition := by simp [columnsText]
      rw [htext]
      exact ⟨_, ⟨startsTableRule_name hspelled.isName, elements_last hspelled⟩,
        hspelled.leads (delimited_cons rfl r) hclose, hspelled.head?_ne_tab _⟩
    | cons c' columns =>
      obtain ⟨parts, hreadAs, hleads, htab⟩ :=
        ih fun c hc => hplain c (List.mem_cons_of_mem _ hc)
      have hcomma : Leads (',' :: ' ' :: (columnsText (c' :: columns) ++ ')' :: r))
          ([mark ','] :: parts) r := .mark (.inr (.inl rfl)) (.blank htab hleads)
      rw [columnsText_cons]
      exact ⟨_, ⟨startsTableRule_name hspelled.isName, elements_cons hspelled hreadAs⟩,
        hspelled.leads (delimited_cons rfl _) hcomma, hspelled.head?_ne_tab _⟩

end

/-- A table whose names and defaults are each written as one. -/
structure TableSchema.IsPlain (t : TableSchema) : Prop where
  name : ∃ name, Names t.name name
  columns : ∀ c ∈ t.columns, c.IsPlain
  indices : ∀ i ∈ t.indices, ∃ name, Names i.1 name

/-- What is read from the definition of a table. -/
structure TableRead (t : TableSchema) (read : TableStatement) : Prop where
  name : Names t.name read.name.name
  columns : List.Forall₂ ColumnRead t.columns read.columns
  others : read = ⟨false, ⟨none, read.name.name⟩, read.columns, [], false, false⟩

def createTablePieces : List Token :=
  [⟨.word "create", "CREATE".toList, []⟩, ⟨.word "table", "TABLE".toList, [' ']⟩]

section

variable {t : TableSchema} {name : Token} {us all rest : List Token} {parts : List (List Token)}
  {fuel : Nat} {gap r s : List Char}

theorem closed_createTable : Closed "CREATE TABLE".toList createTablePieces [] :=
  ⟨by decide +kernel, rfl⟩

/-- A table's text up to the semicolon. -/
theorem tableDefinition_eq (t : TableSchema) :
    t.definition = ("CREATE TABLE".toList ++ ' ' :: (t.name.toList ++ ' ' :: '(' ::
      (columnsText t.columns ++ [')']))) ++ [';'] := by
  have hcreate : "CREATE TABLE ".toList = "CREATE TABLE".toList ++ [' '] := rfl
  have hopen : " (".toList = [' ', '('] := rfl
  have hclose : ");".toList = [')', ';'] := rfl
  unfold TableSchema.definition
  rw [hcreate, hopen, hclose]
  simp only [columnsText, List.append_assoc, List.cons_append, List.nil_append]

theorem leads_table (hname : Closed t.name.toList [name] gap)
    (h : Leads (columnsText t.columns ++ ')' :: r) parts r) :
    Leads (("CREATE TABLE".toList ++ ' ' :: (t.name.toList ++ ' ' :: '(' ::
      (columnsText t.columns ++ [')']))) ++ r)
      (createTablePieces :: [name] :: [mark '('] :: parts) r := by
  have hopen : Leads (' ' :: '(' :: (columnsText t.columns ++ ')' :: r)) ([mark '('] :: parts) r :=
    .blank (by simp) (.mark (.inl rfl) h)
  have hnamed := Leads.spaced hname (delimited_cons rfl _) hopen
  simp only [List.append_assoc, List.cons_append, List.nil_append]
  exact .closed closed_createTable (List.cons_ne_nil _ _) (delimited_cons rfl _) hnamed

/-- A name is not taken for the words before one. -/
theorem guard_name {b : Bool} {next : Token} {ts : List Token} (hnext : next.kind ≠ .word "not")
    (h : Sql.guard (name :: next :: ts) = some (b, rest)) :
    b = false ∧ rest = name :: next :: ts := by
  unfold Sql.guard at h
  by_cases hif : name.kind = .word "if"
  · rw [bind_run (takesWord_cons hif _), if_pos rfl] at h
    obtain ⟨_, _, hword, -⟩ := exists_of_bind h
    obtain ⟨_, _, hnot, -⟩ := exists_of_bind hword
    obtain ⟨heq, hkind⟩ := next_eq_some_iff.mp hnot
    cases heq
    exact absurd (of_decide_eq_true hkind) hnext
  · have hmiss : takesWord "if" (name :: next :: ts) = some (false, name :: next :: ts) :=
      (starts_cons [name.kind] (by simp) _).takesWord_eq (by simpa [eq_comm] using hif)
    rw [bind_run hmiss] at h
    cases h
    exact ⟨rfl, rfl⟩

theorem qualifiedName_name {next : Token} {ts : List Token} (hname : name.isObjectName = true)
    (hnext : next.kind ≠ .symbol ".") :
    qualifiedName (name :: next :: ts) = some (⟨none, name.name⟩, next :: ts) := by
  have hmiss : takesSymbol "." (next :: ts) = some (false, next :: ts) :=
    (starts_cons [next.kind] (by simp) ts).takesSymbol_eq (by simpa [eq_comm] using hnext)
  rw [qualifiedName, bind_run (objectName_cons hname _), bind_run hmiss]
  rfl

theorem tableStatement_read {read : TableStatement} (hname : Names t.name name.name)
    (hobject : name.isObjectName = true) (hreadAs : ReadAs t.columns parts)
    (hparts : Parts ([name] :: [mark '('] :: parts) [] all)
    (hread : tableStatement fuel all = some (read, rest)) : TableRead t read := by
  obtain ⟨name', _, rfl, hkind, htext, hopened⟩ := hparts.exists_head
  obtain ⟨next, mid, rfl, hkind', htext', hcolumns⟩ := hopened.exists_head
  have hobject' : name'.isObjectName = true := (isObjectName_congr hkind).trans hobject
  rw [tableStatement] at hread
  obtain ⟨isGuarded, _, hguard, hnamed⟩ := exists_of_bind hread
  obtain ⟨rfl, rfl⟩ := guard_name (by simp [hkind', mark]) hguard
  rw [bind_run (qualifiedName_name hobject' (by simp [hkind', mark])),
    bind_run (symbol_cons hkind' mid)] at hnamed
  obtain ⟨⟨columns, rules⟩, mid', helements, hclosed⟩ := exists_of_bind hnamed
  obtain ⟨hclose, hcolumnsRead, rfl⟩ := hreadAs.elements hcolumns helements
  obtain ⟨close, _, rfl, hkind'', -, hnil⟩ := hclose.exists_head
  obtain ⟨gap, rfl⟩ := parts_nil_iff.mp hnil
  have hoptions : tableOptions fuel (behind gap []) = some ([], []) := rfl
  simp only at hclosed
  rw [bind_run (symbol_cons hkind'' _), bind_run hoptions] at hclosed
  cases hclosed
  exact ⟨name_congr htext ▸ hname, hcolumnsRead, rfl⟩

theorem statement_table {create table : Token} {ts : List Token} {s : Statement}
    (hcreate : create.kind = .word "create") (htable : table.kind = .word "table")
    (h : statement fuel (create :: table :: ts) = some (s, rest)) :
    ∃ read, s = .table read ∧ tableStatement fuel ts = some (read, rest) := by
  rw [statement, bind_run (word_cons hcreate _), bind_run (takesWord_cons htable _), if_pos rfl]
    at h
  obtain ⟨read, _, hread, hend⟩ := exists_of_bind h
  cases hend
  exact ⟨read, rfl, hread⟩

theorem statement_index {create index : Token} {ts : List Token} {s : Statement}
    (hcreate : create.kind = .word "create") (hindex : index.kind = .word "index")
    (h : statement fuel (create :: index :: ts) = some (s, rest)) :
    ∃ read, s = .index read ∧ indexStatement fuel ts = some (read, rest) := by
  have hmiss : takesWord "table" (index :: ts) = some (false, index :: ts) :=
    (starts_cons [.word "index"] (by simp [hindex]) ts).takesWord_eq (by decide)
  rw [statement, bind_run (word_cons hcreate _), bind_run hmiss, if_neg Bool.false_ne_true,
    bind_run (word_cons hindex _)] at h
  obtain ⟨read, _, hread, hend⟩ := exists_of_bind h
  cases hend
  exact ⟨read, rfl, hread⟩

/-- The definition of a plain table is read as the table that is declared. -/
theorem table_read {s : Statement} (hplain : t.IsPlain) (h : statement? t.definition = some s) :
    ∃ read, s = .table read ∧ TableRead t read := by
  obtain ⟨_, name, gap, hclosed, hobject, -⟩ := hplain.name
  obtain ⟨parts, hreadAs, hleads, -⟩ := exists_readAs hplain.columns [';']
  rw [statement?] at h
  obtain ⟨all, htokens, hrun⟩ := Option.bind_eq_some_iff.mp h
  rw [tableDefinition_eq] at htokens
  obtain ⟨us, hus, hparts⟩ := (leads_table hclosed hleads).exists_parts htokens
  obtain rfl : [] = us := Option.some.inj ((pieces?_semicolon []).symm.trans hus)
  obtain ⟨-, gap', mid, rfl, hnamed⟩ := parts_cons_iff.mp hparts
  obtain ⟨read, rfl, hread⟩ := statement_table rfl rfl (run?_eq_some hrun)
  exact ⟨read, rfl,
    tableStatement_read ⟨name, gap, hclosed, hobject, rfl⟩ hobject hreadAs hnamed hread⟩

/-- What is read from the definition of an index. -/
structure IndexRead (table name : String) (read : IndexStatement) : Prop where
  isNew : read.isGuarded = false
  site : read.name.database? = none
  name : Names name read.name.name
  table : Names table read.table

def createIndexPieces : List Token :=
  [⟨.word "create", "CREATE".toList, []⟩, ⟨.word "index", "INDEX".toList, [' ']⟩]

def onPieces : List Token := [⟨.word "on", "ON".toList, []⟩]

theorem closed_createIndex : Closed "CREATE INDEX".toList createIndexPieces [] :=
  ⟨by decide +kernel, rfl⟩

theorem closed_on : Closed "ON".toList onPieces [] := ⟨by decide +kernel, rfl⟩

theorem indexDefinition_eq (table name columns : String) :
    indexDefinition table name columns =
      ("CREATE INDEX".toList ++ ' ' :: (name.toList ++ ' ' :: ("ON".toList ++ ' ' ::
        (table.toList ++ ['('])))) ++ (columns.toList ++ [')', ';']) := by
  have hcreate : "CREATE INDEX ".toList = "CREATE INDEX".toList ++ [' '] := rfl
  have hon : " ON ".toList = ' ' :: ("ON".toList ++ [' ']) := rfl
  have hclose : ");".toList = [')', ';'] := rfl
  unfold indexDefinition
  rw [hcreate, hon, hclose]
  simp only [List.append_assoc, List.cons_append, List.nil_append]

theorem leads_index {table name : String} {m n : Token} {gap' : List Char}
    (hname : Closed name.toList [n] gap) (htable : Closed table.toList [m] gap') (r : List Char) :
    Leads (("CREATE INDEX".toList ++ ' ' :: (name.toList ++ ' ' :: ("ON".toList ++ ' ' ::
        (table.toList ++ ['('])))) ++ r) [createIndexPieces, [n], onPieces, [m], [mark '(']] r := by
  have hopen : Leads ('(' :: r) [[mark '(']] r := .mark (.inl rfl) (.refl r)
  have htabled := Leads.spaced htable (delimited_cons rfl _) hopen
  have hon := Leads.spaced closed_on (delimited_cons rfl _) htabled
  have hnamed := Leads.spaced hname (delimited_cons rfl _) hon
  simp only [List.append_assoc, List.cons_append, List.nil_append]
  exact .closed closed_createIndex (List.cons_ne_nil _ _) (delimited_cons rfl _) hnamed

theorem indexStatement_read {m n : Token} {read : IndexStatement} (hn : n.isObjectName = true)
    (hm : m.isObjectName = true)
    (hparts : Parts [[n], onPieces, [m], [mark '(']] us all)
    (hread : indexStatement fuel all = some (read, rest)) :
    read.isGuarded = false ∧ read.name = ⟨none, n.name⟩ ∧ read.table = m.name := by
  obtain ⟨n', _, rfl, hkind, htext, honed⟩ := hparts.exists_head
  obtain ⟨on, _, rfl, hkind', -, htabled⟩ := honed.exists_head
  obtain ⟨m', mid, rfl, hkind'', htext'', hopened⟩ := htabled.exists_head
  have hn' : n'.isObjectName = true := (isObjectName_congr hkind).trans hn
  have hm' : m'.isObjectName = true := (isObjectName_congr hkind'').trans hm
  rw [indexStatement] at hread
  obtain ⟨isGuarded, _, hguard, hnamed⟩ := exists_of_bind hread
  obtain ⟨rfl, rfl⟩ := guard_name (by simp [hkind']) hguard
  rw [bind_run (qualifiedName_name hn' (by simp [hkind'])), bind_run (word_cons hkind' _),
    bind_run (objectName_cons hm' _)] at hnamed
  obtain ⟨terms, _, -, hconditioned⟩ := exists_of_bind hnamed
  obtain ⟨isConditioned, _, -, hend⟩ := exists_of_bind hconditioned
  have hname : n'.name = n.name := name_congr htext
  have htable : m'.name = m.name := name_congr htext''
  rw [← hname, ← htable]
  cases isConditioned with
  | false =>
    cases hend
    exact ⟨rfl, rfl, rfl⟩
  | true =>
    obtain ⟨condition, _, -, hpure⟩ := exists_of_bind hend
    cases hpure
    exact ⟨rfl, rfl, rfl⟩

/-- The definition of an index with a plain name is read as an index of the declared table. -/
theorem index_read {table name columns : String} {s : Statement}
    (htable : ∃ read, Names table read) (hname : ∃ read, Names name read)
    (h : statement? (indexDefinition table name columns) = some s) :
    ∃ read, s = .index read ∧ IndexRead table name read := by
  obtain ⟨_, m, gap, hclosedTable, hm, -⟩ := htable
  obtain ⟨_, n, gap', hclosedName, hn, -⟩ := hname
  rw [statement?] at h
  obtain ⟨all, htokens, hrun⟩ := Option.bind_eq_some_iff.mp h
  rw [indexDefinition_eq] at htokens
  obtain ⟨us, -, hparts⟩ := (leads_index hclosedName hclosedTable _).exists_parts htokens
  obtain ⟨-, _, mid, rfl, hnamed⟩ := parts_cons_iff.mp hparts
  obtain ⟨read, rfl, hread⟩ := statement_index rfl rfl (run?_eq_some hrun)
  obtain ⟨hguard, hname, htable⟩ := indexStatement_read hn hm hnamed hread
  exact ⟨read, rfl, hguard, congrArg (·.database?) hname,
    ⟨n, gap', hclosedName, hn, (congrArg (·.name) hname).symm⟩,
    ⟨m, gap, hclosedTable, hm, htable.symm⟩⟩

end

section

variable {n : Token} {name : String} {gap : List Char} {all : List Token}

def questionPieces : List Token :=
  [⟨.word "pragma", "PRAGMA".toList, []⟩, ⟨.word "table_info", "table_info".toList, [' ']⟩]

theorem closed_question : Closed "PRAGMA table_info".toList questionPieces [] :=
  ⟨by decide +kernel, rfl⟩

theorem columnsQuestion_eq (table : String) :
    Database.columnsQuestion table =
      ("PRAGMA table_info".toList ++ '(' :: (table.toList ++ [')'])) ++ [';'] := by
  have hopen : "PRAGMA table_info(".toList = "PRAGMA table_info".toList ++ ['('] := rfl
  have hclose : ");".toList = [')', ';'] := rfl
  unfold Database.columnsQuestion
  rw [hopen, hclose]
  simp only [List.append_assoc, List.cons_append, List.nil_append]

theorem leads_question {table : String} (htable : Closed table.toList [n] gap) (r : List Char) :
    Leads (("PRAGMA table_info".toList ++ '(' :: (table.toList ++ [')'])) ++ r)
      [questionPieces, [mark '('], [n], [mark ')']] r := by
  have hclose : Leads (')' :: r) [[mark ')']] r := .mark (.inr (.inr rfl)) (.refl r)
  have hnamed := Leads.closed htable (List.cons_ne_nil _ _) (delimited_cons rfl r) hclose
  simp only [List.append_assoc, List.cons_append, List.nil_append]
  exact .closed closed_question (List.cons_ne_nil _ _) (delimited_cons rfl _)
    (.mark (.inl rfl) hnamed)

theorem question_cons {pragma info t t' : Token} {ts : List Token}
    (hpragma : pragma.kind = .word "pragma") (hinfo : info.kind = .word "table_info")
    (ht : t.kind = .symbol "(") (hn : n.isObjectName = true) (ht' : t'.kind = .symbol ")") :
    question (pragma :: info :: t :: n :: t' :: ts) = some (n.name, ts) := by
  have hname : (n.isNumber || n.isObjectName || n.isWord "on" || n.isWord "delete" ||
      n.isWord "default") = true := by simp [hn]
  rw [question, bind_run (word_cons hpragma _), bind_run (word_cons hinfo _),
    bind_run (symbol_cons ht _), bind_run (takesSymbol_name hn "-" _),
    bind_run (takesSymbol_name hn "+" _), if_neg Bool.false_ne_true, if_neg Bool.false_ne_true,
    bind_run (next_cons hname _), pure_bind]
  exact bind_run (symbol_cons ht' ts) _

theorem question_read (hn : n.isObjectName = true)
    (hparts : Parts [questionPieces, [mark '('], [n], [mark ')']] [] all) :
    question all = some (n.name, []) := by
  obtain ⟨-, _, _, rfl, hopened⟩ := parts_cons_iff.mp hparts
  obtain ⟨t, _, rfl, hkind, -, hnamed⟩ := hopened.exists_head
  obtain ⟨n', _, rfl, hkind', htext, hclosed⟩ := hnamed.exists_head
  obtain ⟨t', _, rfl, hkind'', -, hnil⟩ := hclosed.exists_head
  obtain ⟨_, rfl⟩ := parts_nil_iff.mp hnil
  have hn' : n'.isObjectName = true := (isObjectName_congr hkind').trans hn
  rw [← name_congr htext]
  exact question_cons rfl rfl hkind hn' hkind''

/-- A plain name asks for the table of that name. -/
theorem questionOf?_of_names {text : String} (h : Names text name) :
    questionOf? (Database.columnsQuestion text) = some name := by
  obtain ⟨n, gap, hclosed, hobject, rfl⟩ := h
  obtain ⟨f, htokens, hparts⟩ :=
    (leads_question hclosed ([';'].takeWhile (· ≠ '\x00'))).tokens?_eq
  have hpieces : pieces? ([';'].takeWhile (· ≠ '\x00')) = some [] := pieces?_semicolon []
  rw [hpieces] at htokens
  rw [questionOf?, columnsQuestion_eq, htokens]
  show run? question (f []) = _
  rw [run?, question_read hobject (hparts [])]

end

end PackageIndex.Schema
