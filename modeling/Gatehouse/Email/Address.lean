import Gatehouse.Email.Domain
import Gatehouse.Email.Mailbox
import Gatehouse.Shape
import Gatehouse.Text.Blank
import Gatehouse.Text.Utf8

/-!
# Email addresses

Addresses as requests give them, with or without a display name, and their normal form: the normal
forms of the mailbox and of the domain, as people read it.
-/

namespace Gatehouse.Email

def joined (mailbox domain : List Char) : String :=
  String.ofList (mailbox ++ '@' :: domain)

/-- The limit in bytes on an address as it is given, in its normal form, and with its domain in
ASCII. -/
def maxBytes : Nat := 254

def ofAddress? (cs : List Char) : Option String := do
  let given := cs.takeWhile (· != '@')
  let mailbox ← Mailbox.ofText? given
  let domain ← Domain.ofText? (cs.drop (given.length + 1))
  let normal := joined mailbox domain.shown
  guard ([String.ofList cs, normal, joined mailbox domain.ascii].all (·.utf8ByteSize ≤ maxBytes))
  pure normal

/-! ## Display names -/

def isNameChar (c : Char) : Bool :=
  Category.isLetter c || Category.isNumber c || "!#$%&*+-./=?^_`\x7b|\x7d~".toList.contains c ||
    c == Quoted.singleQuote

/-- A display name: nothing, words with blanks between them, or anything between two quotes. -/
def isName (cs : List Char) : Bool :=
  (3 ≤ cs.length && cs.head? == some '"' && cs.getLast? == some '"') ||
    cs.all fun c => isNameChar c || Blank.isBlank c

/-- What stands between angle brackets at the end, after a display name. -/
def bracketed? (cs : List Char) : Option (List Char) :=
  if cs.getLast? == some '>' then
    let inner := (cs.dropLast.reverse.takeWhile (· != '<')).reverse
    let name := cs.take (cs.length - inner.length - 2)
    if inner.length + 2 ≤ cs.length && !inner.isEmpty &&
        isName (Blank.stripBy Blank.isBlank name) then
      some inner
    else none
  else none

/-! ## Texts -/

def maxLength : Nat := 2048

/-- Refuses lines. A lone surrogate is taken for a control character, which fits nowhere but between
the quotes of a display name. -/
def ofText? (s : RawText) : Option String :=
  let cs := s.chars '\x00'
  let bare := Blank.stripBy Blank.isBlank cs
  if maxLength < cs.length || cs.contains '\n' || cs.contains '\r' then none
  else ofAddress? (Blank.stripBy Blank.isBlank ((bracketed? bare).getD bare))

def read (v : Json) : Shape.Checked String :=
  match Shape.rawText v with
  | .error e => .error e
  | .ok s =>
    match ofText? s with
    | some address => .ok address
    | none => Shape.fail .valueError

end Gatehouse.Email
