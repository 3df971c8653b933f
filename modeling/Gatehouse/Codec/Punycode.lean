/-!
# Punycode

Texts of all characters as letters, digits and hyphens: the ASCII characters first, then, after a
hyphen, where each other character goes, in ascending order of the characters. The numbers are
written in base 36 with the lowest digit first; a digit below its threshold is the last one.
-/

namespace Gatehouse.Punycode

/-! ## Digits and thresholds -/

def base : Nat := 36

def firstCode : Nat := 128

def firstBias : Nat := 72

def digit (d : Nat) : Char :=
  if d < 26 then Char.ofNat ('a'.toNat + d) else Char.ofNat ('0'.toNat + (d - 26))

def value? (c : Char) : Option Nat :=
  if c.isAlpha then some (c.toLower.toNat - 'a'.toNat)
  else if c.isDigit then some (c.toNat - '0'.toNat + 26)
  else none

/-- The threshold of the digit at `place`, which counts 36, 72, and so on. -/
def threshold (place bias : Nat) : Nat :=
  max 1 (min 26 (place - bias))

theorem threshold_pos (place bias : Nat) : 0 < threshold place bias := by
  unfold threshold
  omega

theorem threshold_lt_base (place bias : Nat) : threshold place bias < base := by
  unfold threshold base
  omega

/-- Divides by 35 until at most 455 is left, and counts 36 for each division. -/
def scaleDown (delta count : Nat) : Nat × Nat :=
  if 455 < delta then scaleDown (delta / 35) (count + base) else (delta, count)
termination_by delta
decreasing_by exact Nat.div_lt_self (by omega) (by omega)

/-- The bias after a number, from which the thresholds of the next one follow. -/
def nextBias (delta length : Nat) (isFirst : Bool) : Nat :=
  let halved := if isFirst then delta / 700 else delta / 2
  let (rest, count) := scaleDown (halved + halved / length) 0
  count + base * rest / (rest + 38)

/-! ## Writing -/

def writeNumber (place bias n : Nat) : List Char :=
  let t := threshold place bias
  if n < t then [digit n]
  else digit (t + (n - t) % (base - t)) :: writeNumber (place + base) bias ((n - t) / (base - t))
termination_by n
decreasing_by
  have := threshold_pos place bias
  have := threshold_lt_base place bias
  exact Nat.lt_of_le_of_lt (Nat.div_le_self _ _) (by omega)

/-- What is written so far, the number under way, and how many characters are placed. -/
structure Written where
  digits : List Char
  delta : Nat
  bias : Nat
  placed : Nat

/-- Passes one character of the text while the occurrences of `code` are placed. -/
def Written.pass (basics code : Nat) (w : Written) (c : Char) : Written :=
  if c.toNat < code then ⟨w.digits, w.delta + 1, w.bias, w.placed⟩
  else if c.toNat == code then
    ⟨w.digits ++ writeNumber base w.bias w.delta, 0,
      nextBias w.delta (w.placed + 1) (w.placed == basics), w.placed + 1⟩
  else w

/-- Places the characters of the ascending list; those below `next` are placed already. -/
def placeAll (text : List Char) (basics : Nat) : Nat → List Nat → Written → Written
  | _, [], w => w
  | next, code :: rest, w =>
    let start := ⟨w.digits, w.delta + (code - next) * (w.placed + 1), w.bias, w.placed⟩
    let w' := text.foldl (Written.pass basics code) start
    placeAll text basics (code + 1) rest ⟨w'.digits, w'.delta + 1, w'.bias, w'.placed⟩

def encode (text : List Char) : List Char :=
  let basics := text.filter fun c => c.toNat < firstCode
  let codes := ((text.map Char.toNat).filter (firstCode ≤ ·)).mergeSort.eraseDups
  let w := placeAll text basics.length firstCode codes ⟨[], 0, firstBias, basics.length⟩
  if basics.isEmpty then w.digits else basics ++ '-' :: w.digits

/-! ## Reading -/

/-- The text read so far, the code and the place of the last character put into it, and the number
under way: its value, the weight and the place of its next digit. -/
structure Reading where
  text : List Char
  code : Nat
  spot : Nat
  bias : Nat
  isFirst : Bool
  value : Nat
  weight : Nat
  place : Nat

/-- Reads a digit. The last digit of a number puts a character into the text. -/
def Reading.step (r : Reading) (c : Char) : Option Reading :=
  (value? c).bind fun d =>
    let value := r.value + d * r.weight
    let t := threshold r.place r.bias
    if t ≤ d then
      some ⟨r.text, r.code, r.spot, r.bias, r.isFirst, value, r.weight * (base - t), r.place + base⟩
    else
      let length := r.text.length + 1
      let code := r.code + (r.spot + value) / length
      let spot := (r.spot + value) % length
      if code.isValidChar then
        some ⟨r.text.take spot ++ Char.ofNat code :: r.text.drop spot, code, spot + 1,
          nextBias value length r.isFirst, false, 0, 1, base⟩
      else none

/-- Splits off what follows the last hyphen. -/
def parts (cs : List Char) : List Char × List Char :=
  let tail := (cs.reverse.takeWhile (· != '-')).reverse
  (cs.take (cs.length - tail.length - 1), tail)

/-- Refuses digits that end within a number and numbers beyond the last character. -/
def decode? (cs : List Char) : Option (List Char) :=
  let (basics, digits) := parts cs
  match digits.foldlM Reading.step ⟨basics, firstCode, 0, firstBias, true, 0, 1, base⟩ with
  | some r => if r.weight == 1 then some r.text else none
  | none => none

end Gatehouse.Punycode
