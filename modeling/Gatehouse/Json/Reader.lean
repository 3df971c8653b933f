import Gatehouse.Json.Basic
import Gatehouse.Text.Digit

/-!
# Reading JSON

One reader for the dialects in use: they differ in the limits they set and in whether they take
escaped surrogates without a partner.
-/

namespace Gatehouse.Json

structure Dialect where
  /-- Longest chain of nested arrays and objects. -/
  depth : Nat
  /-- An empty array or object counts in a chain. -/
  countsEmpty : Bool
  /-- Most digits of an integer. -/
  digits : Nat
  /-- The limit is for what stands before the point of any number, with the sign. -/
  limitsAll : Bool
  /-- A surrogate without its partner makes a torn text instead of being refused. -/
  loneSurrogates : Bool
  /-- Numbers are read as the texts they are written in, and integers then have no limit. -/
  numerals : Bool

inductive ReadFault where
  | malformed
  | tooDeep
  | tooLong
  deriving DecidableEq, Repr

/-! ## Texts -/

def hexDigit? (c : Char) : Option Nat :=
  match Digit.value? c with
  | some d => if c.toNat < 128 ∧ d < 16 then some d else none
  | none => none

def unit? (a b c d : Char) : Option Nat := do
  let a ← hexDigit? a
  let b ← hexDigit? b
  let c ← hexDigit? c
  let d ← hexDigit? d
  some (((a * 16 + b) * 16 + c) * 16 + d)

def escaped? : Char → Option Nat
  | '"' => some 0x22
  | '\\' => some 0x5C
  | '/' => some 0x2F
  | 'b' => some 0x08
  | 'f' => some 0x0C
  | 'n' => some 0x0A
  | 'r' => some 0x0D
  | 't' => some 0x09
  | _ => none

/-- The codes up to the closing quote, each character or escape giving one, and the rest. -/
def codes : List Char → Option (List Nat × List Char)
  | [] => none
  | '"' :: rest => some ([], rest)
  | '\\' :: 'u' :: a :: b :: c :: d :: rest => do
    let n ← unit? a b c d
    let (ns, rest) ← codes rest
    some (n :: ns, rest)
  | '\\' :: c :: rest => do
    let n ← escaped? c
    let (ns, rest) ← codes rest
    some (n :: ns, rest)
  | c :: rest =>
    if c.toNat < 32 then none
    else do
      let (ns, rest) ← codes rest
      some (c.toNat :: ns, rest)

def readText (d : Dialect) (cs : List Char) : Except ReadFault (RawText × List Char) :=
  match codes cs with
  | none => .error .malformed
  | some (ns, rest) =>
    match RawText.ofCodes (RawText.join ns) with
    | .whole s => .ok (.whole s, rest)
    | .torn codes => if d.loneSurrogates then .ok (.torn codes, rest) else .error .malformed

/-! ## Numbers -/

def isDigit (c : Char) : Bool := '0' ≤ c && c ≤ '9'

def digitsValue (cs : List Char) : Nat :=
  cs.foldl (fun n c => n * 10 + (c.toNat - 48)) 0

/-- The digits before the point: a zero stands alone. -/
def wholePart (cs : List Char) : List Char :=
  match cs with
  | '0' :: _ => ['0']
  | _ => cs.takeWhile isDigit

/-- The digits after the point, if a point and a digit come next. -/
def fraction (cs : List Char) : List Char :=
  match cs with
  | '.' :: rest => rest.takeWhile isDigit
  | _ => []

/-- The characters of an exponent, and its value, if one comes next. -/
def exponent (cs : List Char) : Option (List Char × Int) :=
  match cs with
  | mark :: rest =>
    if mark == 'e' || mark == 'E' then
      let sign := match rest with
        | '-' :: _ => ['-']
        | '+' :: _ => ['+']
        | _ => []
      let digits := (rest.drop sign.length).takeWhile isDigit
      let size : Int := digitsValue digits
      if digits.isEmpty then none
      else some (mark :: sign ++ digits, if sign == ['-'] then -size else size)
    else none
  | [] => none

def readNumber (d : Dialect) (negative : Bool) (cs : List Char) :
    Except ReadFault (Json × List Char) :=
  let whole := wholePart cs
  let rest := cs.drop whole.length
  let part := fraction rest
  let point := if part.isEmpty then [] else '.' :: part
  let rest := rest.drop point.length
  let power := exponent rest
  let tail := match power with
    | some (written, _) => written
    | none => []
  let rest := rest.drop tail.length
  let minus := if negative then ['-'] else []
  if whole.isEmpty then .error .malformed
  else if d.limitsAll && d.digits < minus.length + whole.length then .error .tooLong
  else if d.numerals then .ok (text (String.ofList (minus ++ whole ++ point ++ tail)), rest)
  else if part.isEmpty && power.isNone then
    if d.digits < whole.length then .error .tooLong
    else
      let n : Int := digitsValue whole
      .ok (integer (if negative then -n else n), rest)
  else
    let e := match power with
      | some (_, e) => e
      | none => 0
    .ok (real (.ofDecimal negative (digitsValue (whole ++ part)) (e - part.length)), rest)

/-! ## Values -/

def isGap (c : Char) : Bool := c == ' ' || c == '\t' || c == '\n' || c == '\r'

def skip (cs : List Char) : List Char := cs.dropWhile isGap

def words : List (List Char × Json) :=
  [("null".toList, null), ("true".toList, bool true), ("false".toList, bool false),
    ("NaN".toList, real .nan), ("Infinity".toList, real (.infinite false)),
    ("-Infinity".toList, real (.infinite true))]

def word? (cs : List Char) : Option (Json × List Char) :=
  words.findSome? fun (w, v) => if w.isPrefixOf cs then some (v, cs.drop w.length) else none

mutual

/-- One value at the head of the input. `depth` counts the containers that may still open. -/
def readValue (d : Dialect) : (fuel depth : Nat) → List Char → Except ReadFault (Json × List Char)
  | 0, _, _ => .error .malformed
  | fuel + 1, depth, cs =>
    match cs with
    | '"' :: rest => do
      let (s, rest) ← readText d rest
      .ok (ofRaw s, rest)
    | '[' :: rest =>
      match depth, skip rest with
      | 0, ']' :: rest => if d.countsEmpty then .error .tooDeep else .ok (array [], rest)
      | 0, _ => .error .tooDeep
      | depth + 1, rest =>
        match rest with
        | ']' :: rest => .ok (array [], rest)
        | rest => do
          let (items, rest) ← readItems d fuel depth rest
          .ok (array items, rest)
    | '\x7b' :: rest =>
      match depth, skip rest with
      | 0, '\x7d' :: rest => if d.countsEmpty then .error .tooDeep else .ok (object [], rest)
      | 0, _ => .error .tooDeep
      | depth + 1, rest =>
        match rest with
        | '\x7d' :: rest => .ok (object [], rest)
        | rest => do
          let (fields, rest) ← readFields d fuel depth [] rest
          .ok (ofFields fields, rest)
    | _ =>
      match word? cs with
      | some found => .ok found
      | none =>
        match cs with
        | '-' :: rest => readNumber d true rest
        | _ => readNumber d false cs

def readItems (d : Dialect) :
    (fuel depth : Nat) → List Char → Except ReadFault (List Json × List Char)
  | 0, _, _ => .error .malformed
  | fuel + 1, depth, cs => do
    let (v, rest) ← readValue d fuel depth cs
    match skip rest with
    | ',' :: rest => do
      let (vs, rest) ← readItems d fuel depth (skip rest)
      .ok (v :: vs, rest)
    | ']' :: rest => .ok ([v], rest)
    | _ => .error .malformed

/-- The fields of an object up to its closing brace, added to those already read. -/
def readFields (d : Dialect) :
    (fuel depth : Nat) → List (RawText × Json) → List Char →
      Except ReadFault (List (RawText × Json) × List Char)
  | 0, _, _, _ => .error .malformed
  | fuel + 1, depth, known, cs =>
    match cs with
    | '"' :: rest => do
      let (name, rest) ← readText d rest
      match skip rest with
      | ':' :: rest => do
        let (v, rest) ← readValue d fuel depth (skip rest)
        let known := set known name v
        match skip rest with
        | ',' :: rest => readFields d fuel depth known (skip rest)
        | '\x7d' :: rest => .ok (known, rest)
        | _ => .error .malformed
      | _ => .error .malformed
    | _ => .error .malformed

end

/-- Reads one value that fills the whole text but for blanks. Every step takes a character, so the
length of the text is fuel enough. -/
def read (d : Dialect) (s : String) : Except ReadFault Json := do
  let cs := skip s.toList
  let (v, rest) ← readValue d (2 * cs.length + 2) d.depth cs
  if (skip rest).isEmpty then .ok v else .error .malformed

/-- The reader for tokens, requests and inputs. -/
def lenient : Dialect := ⟨980, true, 4300, false, true, false⟩

/-- The reader for cached snapshots. -/
def strict : Dialect := ⟨200, false, 4300, true, false, false⟩

end Gatehouse.Json
