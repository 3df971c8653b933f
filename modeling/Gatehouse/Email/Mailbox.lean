import Gatehouse.Text.Category
import Gatehouse.Text.Normal
import Gatehouse.Text.Printable
import Gatehouse.Text.Quoted
import Gatehouse.Text.Split

/-!
# Mailboxes

The part of an address before the at sign: words of all scripts with single dots between them, in
the form NFC.
-/

namespace Gatehouse.Mailbox

def isWordChar (c : Char) : Bool :=
  c.isAlphanum || "!#$%&*+-/=?^_`\x7b|\x7d~".toList.contains c || c == Quoted.singleQuote ||
    (128 ≤ c.toNat && Printable.isPrintable c)

/-- Words with single dots between them, the first of which does not begin with a mark. -/
def isMailbox (cs : List Char) : Bool :=
  ((Split.on '.' cs).all fun word => !word.isEmpty && word.all isWordChar) &&
    !cs.head?.any Category.isMark

/-- The mailboxes that are the same in every case. -/
def common : List String :=
  ["info", "marketing", "sales", "support", "abuse", "noc", "security", "postmaster", "hostmaster",
    "usenet", "news", "webmaster", "www", "uucp", "ftp"]

/-- The normal form of a mailbox, which has to be a mailbox too. The common mailboxes are in lower
case. -/
def ofText? (cs : List Char) : Option (List Char) :=
  let normal := Normal.canonical cs
  let low := normal.map Char.toLower
  if isMailbox cs && isMailbox normal then
    some (if common.contains (String.ofList low) then low else normal)
  else none

end Gatehouse.Mailbox
