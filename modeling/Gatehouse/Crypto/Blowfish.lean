/-!
# Blowfish

The block cipher whose key schedule makes password hashing slow on purpose. Its boxes start as the
fractional bits of π, here computed by Machin's formula, and all 1042 words live in one vector.
-/

namespace Gatehouse.Blowfish

/-! ## The initial boxes -/

/-- Adds `scale · arctan (1 / x)` term by term, `term` being the next power over `x` and `k` its odd
denominator. The fuel only has to reach a vanishing term. -/
def arctanLoop (x : Nat) : Nat → Nat → Nat → Bool → Int → Int
  | 0, _, _, _, sum => sum
  | fuel + 1, term, k, plus, sum =>
    if term = 0 then sum
    else
      let part : Int := term / k
      arctanLoop x fuel (term / (x * x)) (k + 2) (!plus) (if plus then sum + part else sum - part)

def arctanInverse (scale x : Nat) : Int :=
  arctanLoop x (scale.log2 + 1) (scale / x) 1 true 0

/-- `⌊π · 2^n⌋`, with 64 guard bits in between. -/
def piBits (n : Nat) : Nat :=
  let scale := Nat.pow 2 (n + 64)
  (16 * arctanInverse scale 5 - 4 * arctanInverse scale 239).toNat >>> 64

/-- The subkeys (words 0 to 17) followed by the four boxes of 256 words each. -/
abbrev Boxes := Vector UInt32 1042

def initialBoxes : Boxes :=
  let digits := piBits (32 * 1042)
  Vector.ofFn fun i => UInt32.ofNat (digits >>> (32 * (1041 - i.val)))

/-! ## The cipher -/

/-- Word `b` of the box that starts at `start`. -/
@[inline] def boxAt (boxes : Boxes) (start : Nat) (b : UInt8) (h : start ≤ 786) : UInt32 :=
  have := b.toNat_lt
  boxes[start + b.toNat]

@[inline] def mix (boxes : Boxes) (x : UInt32) : UInt32 :=
  ((boxAt boxes 18 (x >>> 24).toUInt8 (by omega) + boxAt boxes 274 (x >>> 16).toUInt8 (by omega))
    ^^^ boxAt boxes 530 (x >>> 8).toUInt8 (by omega)) + boxAt boxes 786 x.toUInt8 (by omega)

@[inline] def halves (high low : UInt32) : UInt64 :=
  (high.toUInt64 <<< 32) ||| low.toUInt64

/-- The rounds from number `16 - n` on, ending with the two output subkeys. -/
def rounds (boxes : Boxes) : (n : Nat) → n ≤ 16 → UInt32 → UInt32 → UInt64
  | 0, _, l, r => halves (r ^^^ boxes[17]) (l ^^^ boxes[16])
  | n + 1, h, l, r =>
    let l := l ^^^ boxes[15 - n]
    rounds boxes n (by omega) (r ^^^ mix boxes l) l

def encipher (boxes : Boxes) (x : UInt64) : UInt64 :=
  rounds boxes 16 (by omega) (x >>> 32).toUInt32 x.toUInt32

/-! ## Key schedule -/

/-- A key as the cipher takes it: 18 words. -/
abbrev KeyWords := Vector UInt32 18

def mixKey (key : KeyWords) : (n : Nat) → n ≤ 18 → Boxes → Boxes
  | 0, _, boxes => boxes
  | n + 1, h, boxes => mixKey key n (by omega) (boxes.set n (boxes[n] ^^^ key[n]))

/-- Replaces the words from `2 · (521 - n)` on by the chain of encipherments of `x`, each link first
combined with one of the two salt halves in turn. -/
def refill (even odd : UInt64) : (n : Nat) → n ≤ 521 → UInt64 → Boxes → Boxes
  | 0, _, _, boxes => boxes
  | n + 1, h, x, boxes =>
    let x := encipher boxes (x ^^^ even)
    let boxes := boxes.set (2 * (520 - n)) (x >>> 32).toUInt32
    let boxes := boxes.set (2 * (520 - n) + 1) x.toUInt32
    refill odd even n (by omega) x boxes

/-- One pass of the key schedule with a key and the two halves of a salt. -/
def expand (key : KeyWords) (even odd : UInt64) (boxes : Boxes) : Boxes :=
  refill even odd 521 (by omega) 0 (mixKey key 18 (by omega) boxes)

/-- `n` further pairs of passes, with the key and with the salt in the place of the key. -/
def expandTimes (key salt : KeyWords) : Nat → Boxes → Boxes
  | 0, boxes => boxes
  | n + 1, boxes => expandTimes key salt n (expand salt 0 0 (expand key 0 0 boxes))

def encipherTimes (boxes : Boxes) : Nat → UInt64 → UInt64
  | 0, x => x
  | n + 1, x => encipherTimes boxes n (encipher boxes x)

end Gatehouse.Blowfish
