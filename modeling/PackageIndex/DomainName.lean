import PackageIndex.DomainName.Composition
import PackageIndex.DomainName.Direction
import PackageIndex.DomainName.Joining
import PackageIndex.DomainName.Punycode
import PackageIndex.DomainName.Replacement
/-!
Domain names. A name in any script has a form in plain letters, digits and hyphens: what
differs only in case or shape is made the same, and a label that is not plain yet is told in
plain characters after a mark of its own. A label may be given in that form as well, if it
tells one that would be told so.
-/
namespace PackageIndex.DomainName

open PackageIndex.Text

/-- The characters of plain text that no name can have. -/
def isForbidden (c : Char) : Bool :=
  c.toNat ≤ 0x20 || c = '\x7f' || "%#/:<>?@[\\]^|".toList.contains c

def isPlain (c : Char) : Bool := c.toNat < 0x80

/-- The start of a label that tells another one. -/
def tellingMark : List Char := ['x', 'n', '-', '-']

/-- The most characters of a label that is told, and of the text that tells one. -/
def longestTold : Nat := 1000

def longestTelling : Nat := 2000

/-- What stands for a character, unless it is refused. -/
def Fate.text? (c : Char) : Fate → Option (List Char)
  | .kept => some [c]
  | .replaced text => some text
  | .refused => none

/-- The characters of a name after their replacement, in composed form. -/
def replaced? (cs : List Char) : Option (List Char) := do
  let texts ← cs.mapM fun c => (fate c).text? c
  some (composed texts.flatten)

/-- A label has no mark at its start, its joiners have a meaning, and it is not too long. -/
def isLabel (label : List Char) : Bool :=
  !label.head?.any isMark && joinersHaveMeaning [] label
    && (label.all isPlain || label.length ≤ longestTold)

/-- The label that a text tells, which is one that stays as it is. -/
def told? (text : List Char) : Option (List Char) := do
  if text = [] ∨ text.getLast? = some '-' ∨ longestTelling < text.length
      ∨ !text.all isPlain then none else
    let label ← Punycode.decode? text
    if label.all (fun c => fate c = .kept && !isForbidden c && c ≠ '.')
        ∧ composed label = label then some label
    else none

/-- The label that stands for a label of a name. -/
def label? (label : List Char) : Option (List Char) :=
  let shown? := if tellingMark.isPrefixOf label then told? (label.drop 4) else some label
  shown?.filter isLabel

/-- The labels of a name. -/
def labels? (cs : List Char) : Option (List (List Char)) := do
  let text ← replaced? cs
  if text.any isForbidden then none else
    let labels ← (splitAt '.' text).mapM label?
    if haveDirection labels then some labels else none

/-- A label in plain characters. -/
def plainLabel (label : List Char) : List Char :=
  if label.all isPlain then label else tellingMark ++ Punycode.encode label

/-- A name in plain characters. -/
def plain? (cs : List Char) : Option (List Char) :=
  (labels? cs).map fun labels => List.intercalate ['.'] (labels.map plainLabel)

end PackageIndex.DomainName
