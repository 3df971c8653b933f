import Gatehouse.Codec.BigEndian

/-!
# SHA-2

The three hash functions of the token algorithms as variants of one scheme on words of 32 or 64
bits. Their constants are the fractional bits of roots of the first primes and are computed here.
-/

namespace Gatehouse.Sha2

/-! ## Constants -/

/-- The largest `r` with `r ^ k ≤ n`, settled bit by bit from `2 ^ bits` down. -/
def rootLoop (k n : Nat) : (bits : Nat) → Nat → Nat
  | 0, r => r
  | bits + 1, r =>
    let next := r + Nat.pow 2 bits
    rootLoop k n bits (if Nat.pow next k ≤ n then next else r)

/-- The first `w` bits behind the point of the `k`-th root of `n`. -/
def rootBits (k w n : Nat) : Nat :=
  rootLoop k (n * Nat.pow 2 (k * w)) (w + 8) 0 % Nat.pow 2 w

def primes : List Nat :=
  (List.range 410).filter fun n => 2 ≤ n && (List.range n).all fun d => d < 2 || n % d != 0

/-! ## Variants -/

structure Variant where
  /-- Bytes of a word; a block has sixteen words. -/
  wordBytes : Nat
  big0 : Nat × Nat × Nat
  big1 : Nat × Nat × Nat
  /-- Two rotations and one shift. -/
  small0 : Nat × Nat × Nat
  small1 : Nat × Nat × Nat
  initial : List Nat
  /-- One constant for each round. -/
  constants : List Nat
  outputWords : Nat

def Variant.wordBits (v : Variant) : Nat := 8 * v.wordBytes

def Variant.blockBytes (v : Variant) : Nat := 16 * v.wordBytes

def Variant.outputBytes (v : Variant) : Nat := v.outputWords * v.wordBytes

def sha256 : Variant :=
  ⟨4, (2, 13, 22), (6, 11, 25), (7, 18, 3), (17, 19, 10),
    (primes.take 8).map (rootBits 2 32), (primes.take 64).map (rootBits 3 32), 8⟩

def sha512 : Variant :=
  ⟨8, (28, 34, 39), (14, 18, 41), (1, 8, 7), (19, 61, 6),
    (primes.take 8).map (rootBits 2 64), (primes.take 80).map (rootBits 3 64), 8⟩

def sha384 : Variant :=
  { sha512 with initial := ((primes.drop 8).take 8).map (rootBits 2 64), outputWords := 6 }

/-! ## Words -/

def rotate (w n x : Nat) : Nat :=
  (x >>> n) ||| ((x <<< (w - n)) % Nat.pow 2 w)

def bigSigma (w : Nat) (n : Nat × Nat × Nat) (x : Nat) : Nat :=
  rotate w n.1 x ^^^ rotate w n.2.1 x ^^^ rotate w n.2.2 x

def smallSigma (w : Nat) (n : Nat × Nat × Nat) (x : Nat) : Nat :=
  rotate w n.1 x ^^^ rotate w n.2.1 x ^^^ (x >>> n.2.2)

/-! ## Compression -/

structure State where
  a : Nat
  b : Nat
  c : Nat
  d : Nat
  e : Nat
  f : Nat
  g : Nat
  h : Nat

def State.ofList (l : List Nat) : State :=
  ⟨l.getD 0 0, l.getD 1 0, l.getD 2 0, l.getD 3 0, l.getD 4 0, l.getD 5 0, l.getD 6 0, l.getD 7 0⟩

def State.toList (s : State) : List Nat :=
  [s.a, s.b, s.c, s.d, s.e, s.f, s.g, s.h]

def round (v : Variant) (s : State) (kw : Nat × Nat) : State :=
  let w := v.wordBits
  let modulus := Nat.pow 2 w
  let choice := (s.e &&& s.f) ^^^ ((modulus - 1 - s.e) &&& s.g)
  let majority := (s.a &&& s.b) ^^^ (s.a &&& s.c) ^^^ (s.b &&& s.c)
  let t1 := s.h + bigSigma w v.big1 s.e + choice + kw.1 + kw.2
  let t2 := bigSigma w v.big0 s.a + majority
  ⟨(t1 + t2) % modulus, s.a, s.b, s.c, (s.d + t1) % modulus, s.e, s.f, s.g⟩

def extend (v : Variant) : (n : Nat) → Array Nat → Array Nat
  | 0, ws => ws
  | n + 1, ws =>
    let i := ws.size
    let at_ (back : Nat) := ws.getD (i - back) 0
    let next := smallSigma v.wordBits v.small1 (at_ 2) + at_ 7 +
      smallSigma v.wordBits v.small0 (at_ 15) + at_ 16
    extend v n (ws.push (next % Nat.pow 2 v.wordBits))

def absorb (v : Variant) (s : State) (block : List Nat) : State :=
  let schedule := (extend v (v.constants.length - 16) block.toArray).toList
  let t := (v.constants.zip schedule).foldl (round v) s
  .ofList ((s.toList.zip t.toList).map fun (x, y) => (x + y) % Nat.pow 2 v.wordBits)

/-! ## Messages -/

/-- Consecutive pieces of `size` items; a shorter rest is dropped. -/
def pieces {α : Type} (size : Nat) : (count : Nat) → List α → List (List α)
  | 0, _ => []
  | count + 1, l => l.take size :: pieces size count (l.drop size)

/-- The message with a one bit, zeros and its length in bits, filling whole blocks. -/
def padded (v : Variant) (message : List UInt8) : List UInt8 :=
  let tail := 2 * v.wordBytes
  let open_ := (message.length + 1 + tail) % v.blockBytes
  let zeros := if open_ = 0 then 0 else v.blockBytes - open_
  message ++ 0x80 :: List.replicate zeros 0 ++ BigEndian.bytes tail (8 * message.length)

def digest (v : Variant) (message : List UInt8) : List UInt8 :=
  let bytes := padded v message
  let blocks := (pieces v.blockBytes (bytes.length / v.blockBytes) bytes).map fun block =>
    (pieces v.wordBytes 16 block).map BigEndian.number
  let final := blocks.foldl (absorb v) (.ofList v.initial)
  (final.toList.take v.outputWords).flatMap (BigEndian.bytes v.wordBytes)

end Gatehouse.Sha2
