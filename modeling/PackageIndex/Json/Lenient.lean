import PackageIndex.Json.Literal
/-!
The lenient reading of JSON: comments, more blanks, trailing commas, single quotes, bare
keys, hexadecimal and abbreviated numbers, infinities and NaNs are accepted besides what
the format allows. Only the texts among the members of the outermost value are asked
for; a nested array or object counts as its own compact text.
-/
namespace PackageIndex.Json.Lenient

open PackageIndex.Text

inductive Node where
  /-- A literal without quotes, as it is shown; a number beyond the machine's has no value. -/
  | bare (shown : List Char) (hasValue : Bool)
  /-- A string literal as it is written between its quotes. -/
  | string (raw : List Char)
  | array (items : List Node)
  | object (members : List (List Char × Node))

def isGap (c : Char) : Bool :=
  let n := c.toNat
  (9 ≤ n && n ≤ 13) || n = 32 || n = 0xA0 || n = 0x1680 || (0x2000 ≤ n && n ≤ 0x200A)
    || n = 0x2028 || n = 0x2029 || n = 0x202F || n = 0x205F || n = 0x3000 || n = 0xFEFF

def isLineEnd (c : Char) : Bool := c = '\n' || c = '\r' || c = '\u2028' || c = '\u2029'

/-- What follows the end of a block comment. -/
def afterBlock : List Char → Option (List Char)
  | '*' :: '/' :: rest => some rest
  | _ :: rest => afterBlock rest
  | [] => none

/-- What follows the end of a line comment. -/
def afterLine : List Char → List Char
  | c :: rest => if isLineEnd c then rest else afterLine rest
  | [] => []

theorem length_afterBlock {cs rest : List Char} (h : afterBlock cs = some rest) :
    rest.length ≤ cs.length := by
  fun_induction afterBlock cs with
  | case1 => simp_all; omega
  | case2 _ _ _ ih => exact Nat.le_succ_of_le (ih h)
  | case3 => cases h

theorem length_afterLine (cs : List Char) : (afterLine cs).length ≤ cs.length := by
  fun_induction afterLine cs <;> simp_all; omega

/-- Skips blanks and comments; a comment that is not closed stays. -/
def skipGap (cs : List Char) : List Char :=
  match cs with
  | '/' :: '*' :: rest =>
    match _h : afterBlock rest with
    | some rest' => skipGap rest'
    | none => '/' :: '*' :: rest
  | '/' :: '/' :: rest => skipGap (afterLine rest)
  | c :: rest => if isGap c then skipGap rest else c :: rest
  | [] => []
  termination_by cs.length
  decreasing_by
    · have := length_afterBlock (by assumption)
      simp only [List.length_cons]
      omega
    · have := length_afterLine rest
      simp only [List.length_cons]
      omega
    · simp

/-- The characters that may follow a backslash in a literal. -/
def isEscaped (c : Char) (rest : List Char) : Bool :=
  if c = 'u' then (rest.take 4).length = 4 && (rest.take 4).all isHexDigit
  else if c = 'x' then (rest.take 2).length = 2 && (rest.take 2).all isHexDigit
  else isLineEnd c || (unescape? c).isSome || c = '\'' || c = '0' || c = 'v'

/-- Reads a literal after its opening quote; the escapes stay as they are. -/
def raw? (quote : Char) : List Char → Option (List Char × List Char)
  | [] => none
  | '\\' :: c :: rest =>
    if isEscaped c rest then (raw? quote rest).map fun (raw, rest) => ('\\' :: c :: raw, rest)
    else none
  | c :: rest =>
    if c = quote then some ([], rest)
    else if c = '\\' then none
    else (raw? quote rest).map fun (raw, rest) => (c :: raw, rest)

/-- The pieces that a literal stands for. A backslash at the end of a line joins it with
the next one, though not two surrogates into a pair; where nothing follows, it stands for a
NUL. -/
def rawPieces : List Char → List Piece
  | '\\' :: 'u' :: a :: b :: c :: d :: rest =>
    .unit ((ofDigits? 16 hexValue? [a, b, c, d]).getD 0) :: rawPieces rest
  | '\\' :: 'x' :: a :: b :: rest =>
    .unit ((ofDigits? 16 hexValue? [a, b]).getD 0) :: rawPieces rest
  | '\\' :: '\r' :: '\n' :: rest =>
    if rest = [] then [.char '\x00'] else .nothing :: rawPieces rest
  | '\\' :: c :: rest =>
    if isLineEnd c then if rest = [] then [.char '\x00'] else .nothing :: rawPieces rest
    else .char (if c = '0' then '\x00' else if c = 'v' then '\x0b' else (unescape? c).getD c)
      :: rawPieces rest
  | c :: rest => .char c :: rawPieces rest
  | [] => []

/-- What stands between the quotes of the compact form of a literal, where a vertical tab
turns into a horizontal one. -/
def shownRaw : List Char → List Char
  | '\\' :: 'x' :: a :: b :: rest => ['\\', 'u', '0', '0', a, b] ++ shownRaw rest
  | '\\' :: '\r' :: '\n' :: rest => shownRaw rest
  | '\\' :: c :: rest =>
    (if isLineEnd c then []
      else if c = '\'' then ['\'']
      else if c = 'v' then "\\u0009".toList
      else if c = '0' then "\\u0000".toList
      else ['\\', c]) ++ shownRaw rest
  | c :: rest => escape c ++ shownRaw rest
  | [] => []

def quoted (raw : List Char) : List Char := '"' :: (shownRaw raw ++ ['"'])

mutual

/-- The compact text of a node. -/
def Node.shown : Node → List Char
  | .bare text _ => text
  | .string raw => quoted raw
  | .array items => '[' :: (List.intercalate [','] (shownItems items) ++ [']'])
  | .object members => '{' :: (List.intercalate [','] (shownMembers members) ++ ['}'])

def shownItems : List Node → List (List Char)
  | [] => []
  | node :: rest => node.shown :: shownItems rest

def shownMembers : List (List Char × Node) → List (List Char)
  | [] => []
  | (key, node) :: rest => (key ++ ':' :: node.shown) :: shownMembers rest

end

/-- The text that a node counts as, if any. -/
def Node.text? : Node → Option (List Char)
  | .bare _ _ => none
  | .string raw => assemble? (rawPieces raw)
  | node => some node.shown

def isAlphanumeric (c : Char) : Bool := c.isAlphanum

/-- What follows a word, in any case of its letters, unless the word goes on. -/
def afterWord (word : List Char) (sameCase : Bool) (cs : List Char) : Option (List Char) :=
  let start := cs.take word.length
  let rest := cs.drop word.length
  if (if sameCase then start else start.map Char.toLower) = word
      ∧ !(rest.head?.any isAlphanumeric) then some rest
  else none

/-- Words that are values, and how they are shown. -/
def words : List (String × Bool × String) :=
  [ ("true", true, "true"), ("false", true, "false"), ("null", true, "null")
  , ("inf", false, "9e999"), ("infinity", false, "9e999")
  , ("nan", false, "null"), ("qnan", false, "null"), ("snan", false, "null") ]

def word? (cs : List Char) : Option (List Char × List Char) :=
  words.findSome? fun (word, sameCase, shown) =>
    (afterWord word.toList sameCase cs).map fun rest => (shown.toList, rest)

/-- Reads an exponent, if a whole one stands there. -/
def exponent (cs : List Char) : List Char × List Char :=
  match cs with
  | c :: rest =>
    if c = 'e' ∨ c = 'E' then
      let (sign, digits) := match rest with
        | '+' :: digits => (['+'], digits)
        | '-' :: digits => (['-'], digits)
        | digits => ([], digits)
      let run := digits.takeWhile isDigit
      if run = [] then ([], cs) else (c :: sign ++ run, digits.dropWhile isDigit)
    else ([], cs)
  | [] => ([], [])

/-- Reads a number without its sign. Digits that are left out beside the point are shown
as zeros; a whole part of several digits does not start with a zero. -/
def magnitude? (cs : List Char) : Option (List Char × List Char) :=
  let whole := cs.takeWhile isDigit
  let rest := cs.dropWhile isDigit
  if whole.head? = some '0' ∧ whole ≠ ['0'] then none else
    match rest with
    | '.' :: rest =>
      let fraction := rest.takeWhile isDigit
      if whole = [] ∧ fraction = [] then none else
        let (exp, rest) := exponent (rest.dropWhile isDigit)
        let shown (run : List Char) := if run = [] then ['0'] else run
        some (shown whole ++ '.' :: shown fraction ++ exp, rest)
    | rest =>
      if whole = [] then none else
        let (exp, rest) := exponent rest
        some (whole ++ exp, rest)

/-- Reads a hexadecimal number; one beyond sixty-four bits is shown as an infinity and has
no value. -/
def hexadecimal? : List Char → Option (List Char × Bool × List Char)
  | '0' :: x :: rest =>
    let run := rest.takeWhile isHexDigit
    if (x = 'x' ∨ x = 'X') ∧ run ≠ [] then
      let n := (ofDigits? 16 hexValue? run).getD 0
      let hasValue : Bool := n < 0x10000000000000000
      some (if hasValue then digits 10 n else "9.0e999".toList, hasValue,
        rest.dropWhile isHexDigit)
    else none
  | _ => none

/-- Reads an infinity after a sign; nothing is asked of what follows it. -/
def infinity? (cs : List Char) : Option (List Char) :=
  let low := cs.map Char.toLower
  if low.take 8 = "infinity".toList then some (cs.drop 8)
  else if low.take 3 = "inf".toList then some (cs.drop 3)
  else none

def unsigned? (cs : List Char) : Option (List Char × Bool × List Char) :=
  match hexadecimal? cs with
  | some result => some result
  | none => (magnitude? cs).map fun (shown, rest) => (shown, true, rest)

def signed? (cs : List Char) : Option (List Char × Bool × List Char) :=
  match infinity? cs with
  | some rest => some ("9e999".toList, true, rest)
  | none => unsigned? cs

def number? : List Char → Option (List Char × Bool × List Char)
  | '+' :: rest => signed? rest
  | '-' :: rest => (signed? rest).map fun (shown, hasValue, rest) => ('-' :: shown, hasValue, rest)
  | cs => unsigned? cs

/-- A word or a number: how it is shown, whether it has a value, and what follows. -/
def bare? (cs : List Char) : Option (List Char × Bool × List Char) :=
  match word? cs with
  | some (shown, rest) => some (shown, true, rest)
  | none => number? cs

def startsKey (c : Char) : Bool := c.isAlpha || c = '_' || c = '$' || (0x80 ≤ c.toNat && !isGap c)

/-- Reads the rest of a bare key. -/
def bareKey : List Char → List Char × List Char
  | '\\' :: 'u' :: rest =>
    if isEscaped 'u' rest then
      let (key, rest) := bareKey rest
      ('\\' :: 'u' :: key, rest)
    else ([], '\\' :: 'u' :: rest)
  | c :: rest =>
    if startsKey c || isDigit c then
      let (key, rest) := bareKey rest
      (c :: key, rest)
    else ([], c :: rest)
  | [] => ([], [])

/-- Reads a key, which may not look like another value. -/
def key? (cs : List Char) : Option (List Char × List Char) :=
  match cs with
  | '"' :: rest => (raw? '"' rest).map fun (raw, rest) => (quoted raw, rest)
  | '\'' :: rest => (raw? '\'' rest).map fun (raw, rest) => (quoted raw, rest)
  | cs =>
    if (bare? cs).isSome then none else
      match bareKey cs with
      | ([], _) => none
      | (c :: key, rest) => if isDigit c then none else some ('"' :: c :: key ++ ['"'], rest)

mutual

/-- Reads one value, with a gap before it; `room` is the nesting still allowed. -/
def node? : Nat → Nat → List Char → Option (Node × List Char)
  | 0, _, _ => none
  | fuel + 1, room, cs =>
    match skipGap cs with
    | '"' :: rest => (raw? '"' rest).map fun (raw, rest) => (.string raw, rest)
    | '\'' :: rest => (raw? '\'' rest).map fun (raw, rest) => (.string raw, rest)
    | '[' :: rest =>
      match room with
      | 0 => none
      | room + 1 => (items? fuel room rest).map fun (items, rest) => (.array items, rest)
    | '{' :: rest =>
      match room with
      | 0 => none
      | room + 1 => (members? fuel room rest).map fun (members, rest) => (.object members, rest)
    | rest => (bare? rest).map fun (shown, hasValue, rest) => (.bare shown hasValue, rest)

/-- Reads items up to the closing bracket; a comma may stand before it. -/
def items? : Nat → Nat → List Char → Option (List Node × List Char)
  | 0, _, _ => none
  | fuel + 1, room, cs =>
    match skipGap cs with
    | ']' :: rest => some ([], rest)
    | rest => do
      let (item, rest) ← node? fuel room rest
      match skipGap rest with
      | ']' :: rest => some ([item], rest)
      | ',' :: rest => (items? fuel room rest).map fun (items, rest) => (item :: items, rest)
      | _ => none

/-- Reads members up to the closing brace; a comma may stand before it. -/
def members? : Nat → Nat → List Char → Option (List (List Char × Node) × List Char)
  | 0, _, _ => none
  | fuel + 1, room, cs =>
    match skipGap cs with
    | '}' :: rest => some ([], rest)
    | rest => do
      let (key, rest) ← key? rest
      match skipGap rest with
      | ':' :: rest =>
        let (value, rest) ← node? fuel room rest
        match skipGap rest with
        | '}' :: rest => some ([(key, value)], rest)
        | ',' :: rest =>
          (members? fuel room rest).map fun (members, rest) => ((key, value) :: members, rest)
        | _ => none
      | _ => none

end

/-- The deepest nesting that is read. -/
def maxDepth : Nat := 1000

/-- The value of a whole text; a NUL ends it. -/
def ofText? (cs : List Char) : Option Node :=
  let cs := cs.takeWhile (· ≠ '\x00')
  match node? (2 * cs.length + 2) maxDepth cs with
  | some (node, rest) => if skipGap rest = [] then some node else none
  | none => none

/-- The values directly below an array or an object; any other value by itself. -/
def Node.members : Node → List Node
  | .array items => items
  | .object members => members.map Prod.snd
  | node => [node]

def Node.hasValue : Node → Bool
  | .bare _ hasValue => hasValue
  | _ => true

/-- The texts among the members of the outermost value, when each member has a value. -/
def texts? (cs : List Char) : Option (List (List Char)) :=
  (ofText? cs).bind fun node =>
    if node.members.all Node.hasValue then some (node.members.filterMap Node.text?) else none

end PackageIndex.Json.Lenient
