import Gatehouse.Email.Label
import Gatehouse.Text.Direction
import Gatehouse.Text.Split

/-!
# Domains of mailboxes

The domain as people read it and in ASCII. Each of its forms is made from what a request gives by
folding it and reading every label.
-/

namespace Gatehouse

structure Domain where
  ascii : List Char
  shown : List Char

namespace Domain

/-! ## Folding -/

/-- The small letters that folding would make into others but domains keep apart. -/
def keptApart : List Char := ['ß', 'ς']

/-- The full stops of wide scripts. -/
def stops : List Char := ['\u3002', '\uFF0E', '\uFF61']

/-- Folds a character of a domain. There is no form for a character that stands for several with
a stop among them. -/
def fold? (c : Char) : Option (List Char) :=
  if c.toNat < 128 then some [c.toLower]
  else if keptApart.contains c then some [c]
  else if c == '\u1E9E' then some ['ß']
  else if stops.contains c then some ['.']
  else
    let folded := (Fold.compatible [c]).filter (!Fold.isIgnorable ·)
    if folded.contains '.' then none else some folded

def foldAll? (cs : List Char) : Option (List Char) :=
  (cs.mapM fold?).map fun parts => Normal.canonical parts.flatten

/-! ## The text of a domain -/

/-- The ASCII characters of host names and every visible character beyond ASCII. -/
def isDomainChar (c : Char) : Bool :=
  if c.toNat < 128 then c.isAlphanum || c == '-' || c == '.' else Printable.isPrintable c

/-- A label whose third and fourth characters are hyphens, other than an encoded one. -/
def isForeign (label : List Char) : Bool :=
  label[2]? == some '-' && label[3]? == some '-' &&
    (label.take 2).map Char.toLower != Label.mark.take 2

/-- Labels that are not empty, do not begin or end with a hyphen, and are not foreign. -/
def isOutlined (labels : List (List Char)) : Bool :=
  labels.all fun label =>
    !label.isEmpty && label.head? != some '-' && label.getLast? != some '-' && !isForeign label

/-- The top-level names that never belong to a mailbox. -/
def reserved : List String := ["arpa", "invalid", "local", "localhost", "onion", "test"]

/-- At least two labels, the last of which ends in a letter and is not reserved. -/
def isPublic (labels : List (List Char)) : Bool :=
  let top := labels.getLast?.getD []
  2 ≤ labels.length && (top.getLast?.map Char.isAlpha).getD false &&
    !reserved.contains (String.ofList top)

def maxLength : Nat := 253

def joined (labels : List (List Char)) : List Char :=
  List.intercalate ['.'] labels

def ofText? (cs : List Char) : Option Domain := do
  guard (cs.all isDomainChar && !cs.head?.any Category.isMark)
  let folded ← foldAll? cs
  let labels := Split.on '.' folded
  guard (folded.all isDomainChar && isOutlined labels)
  let ascii ← if folded.all Normal.isAscii then pure labels else labels.mapM Label.encoded?
  guard (ascii.all (·.length ≤ Label.maxLength) && (joined ascii).length ≤ maxLength &&
    isPublic ascii)
  let shown ← ascii.mapM Label.shown?
  guard (Direction.areConsistent (shown.map fun label => label.map Direction.ofChar))
  pure ⟨joined ascii, joined shown⟩

end Domain

end Gatehouse
