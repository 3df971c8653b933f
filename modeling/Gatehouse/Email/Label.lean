import Gatehouse.Codec.Punycode
import Gatehouse.Text.Category
import Gatehouse.Text.Fold
import Gatehouse.Text.Printable
import Gatehouse.Text.Script

/-!
# Labels of domains

The names between the dots of a domain. A label is shown in the letters of its script; in its
encoded form it is ASCII, with a prefix before the letters' positions.
-/

namespace Gatehouse.Label

/-! ## Characters -/

/-- Characters that a label may hold although their category or folding speaks against it. -/
def alwaysFit : List Nat := [0xDF, 0x3C2, 0x6FD, 0x6FE, 0xF0B, 0x3007]

/-- Letters that stretch, repeat or turn others and spell nothing themselves. -/
def neverFit : List Nat :=
  [0x640, 0x7FA, 0x302E, 0x302F, 0x3031, 0x3032, 0x3033, 0x3034, 0x3035, 0x303B]

/-- Marks of symbols and of music, and the letters of which Hangul syllables are made. -/
def isSymbolPart (n : Nat) : Bool :=
  (0x20D0 ≤ n && n ≤ 0x20FF) || (0x1D100 ≤ n && n ≤ 0x1D24F) || (0x1100 ≤ n && n ≤ 0x11FF) ||
    (0xA960 ≤ n && n ≤ 0xA97F) || (0xD7B0 ≤ n && n ≤ 0xD7FF)

/-- Whether a character may stand in a label whatever its neighbours are: it spells names and is
what names are folded to. -/
def isPlain (c : Char) : Bool :=
  if c.toNat < 128 then c.isLower || c.isDigit || c == '-'
  else
    alwaysFit.contains c.toNat ||
      (!neverFit.contains c.toNat && !isSymbolPart c.toNat && Category.isSpelling c &&
        !Fold.isIgnorable c && Fold.compatible [c] == [c])

def isArabicDigit (c : Char) : Bool := 0x660 ≤ c.toNat && c.toNat ≤ 0x669

def isPersianDigit (c : Char) : Bool := 0x6F0 ≤ c.toNat && c.toNat ≤ 0x6F9

/-- Whether a character fits between its neighbours. What stands before it is given from right to
left. -/
def fits (before : List Char) (c : Char) (after : List Char) : Bool :=
  let others := before ++ after
  if c == '\u00B7' then before.head? == some 'l' && after.head? == some 'l'
  else if c == '\u0375' then after.head?.any Script.greek.contains
  else if c == '\u05F3' || c == '\u05F4' then before.head?.any Script.hebrew.contains
  else if c == '\u30FB' then others.any Script.japanese.contains
  else if isArabicDigit c then !others.any isPersianDigit
  else if isPersianDigit c then !others.any isArabicDigit
  else isPlain c

def allFit (before : List Char) : List Char → Bool
  | [] => true
  | c :: rest => fits before c rest && allFit (c :: before) rest

/-! ## Labels -/

/-- Hyphens neither at the ends nor in both the third and the fourth place. -/
def hyphensFit (cs : List Char) : Bool :=
  cs.head? != some '-' && cs.getLast? != some '-' &&
    !(cs[2]? == some '-' && cs[3]? == some '-')

def isLabel (cs : List Char) : Bool :=
  !cs.isEmpty && hyphensFit cs && !(cs.head?.any Category.isMark) && allFit [] cs &&
    Normal.canonical cs == cs

def maxLength : Nat := 63

def mark : List Char := ['x', 'n', '-', '-']

/-- The label that an ASCII label shows. What is encoded has to be the one encoding of what it
shows. -/
def shown? (cs : List Char) : Option (List Char) :=
  let label? :=
    if cs.take mark.length == mark then
      let encoded := cs.drop mark.length
      if encoded.isEmpty || encoded.getLast? == some '-' then none
      else (Punycode.decode? encoded).filter fun label => Punycode.encode label == encoded
    else some cs
  label?.filter isLabel

def encoded? (cs : List Char) : Option (List Char) :=
  let label? :=
    if cs.all Normal.isAscii then (shown? cs).map fun _ => cs
    else if isLabel cs then some (mark ++ Punycode.encode cs)
    else none
  label?.filter (·.length ≤ maxLength)

end Gatehouse.Label
