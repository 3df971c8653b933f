/-!
# Cache

A map from keys to texts that may expire, and the commands it understands. A scan finds keys by a
pattern with wildcards.
-/

namespace Gatehouse

structure CacheEntry where
  text : String
  /-- The second from which on the entry is gone. -/
  expiry : Option Int
  deriving DecidableEq, Repr

/-- The entries in the order of their last writing, at most one for a key. -/
abbrev Cache := List (String × CacheEntry)

namespace Cache

/-- Lifetimes are counted in whole seconds of the clock. This is an assumption: a server counts from the instant of
the command, and keeps an entry for up to a second longer. -/
def CacheEntry.isLive (now : Int) (e : CacheEntry) : Bool :=
  match e.expiry with
  | none => true
  | some t => now < t

def live (now : Int) (cache : Cache) : Cache :=
  cache.filter fun (_, e) => CacheEntry.isLive now e

def get? (now : Int) (cache : Cache) (key : String) : Option String :=
  ((cache.live now).find? (·.1 == key)).map (·.2.text)

def erase (cache : Cache) (key : String) : Cache :=
  cache.filter (·.1 != key)

def put (cache : Cache) (key text : String) (expiry : Option Int) : Cache :=
  cache.erase key ++ [(key, ⟨text, expiry⟩)]

/-! ## Patterns -/

def someTail (p : List Char → Bool) : List Char → Bool
  | [] => p []
  | c :: rest => p (c :: rest) || someTail p rest

/-- A star stands for any text, a question mark for any character, and a backslash takes the meaning
from the character behind it. Classes in brackets are left out, as no pattern of the service has one. -/
def isMatch : (pattern : List Char) → List Char → Bool
  | '*' :: pattern, cs => someTail (isMatch pattern) cs
  | '?' :: pattern, cs =>
    match cs with
    | _ :: rest => isMatch pattern rest
    | [] => false
  | '\\' :: literal :: pattern, cs =>
    match cs with
    | c :: rest => c == literal && isMatch pattern rest
    | [] => false
  | literal :: pattern, cs =>
    match cs with
    | c :: rest => c == literal && isMatch pattern rest
    | [] => false
  | [], cs => cs.isEmpty

/-- The live keys that fit a pattern, in ascending order. -/
def scan (now : Int) (cache : Cache) (pattern : String) : List String :=
  (((cache.live now).map (·.1)).filter fun key => isMatch pattern.toList key.toList).mergeSort
    fun a b => a ≤ b

def keys (now : Int) (cache : Cache) : List String :=
  ((cache.live now).map (·.1)).mergeSort fun a b => a ≤ b

end Cache

inductive Command where
  | set (key text : String) (lifetime : Int)
  | get (key : String)
  | delete (key : String)
  | ping
  | publish (channel message : String)
  | scan (pattern : String)
  | pipeline (keys : List String)
  | close
  deriving DecidableEq, Repr

end Gatehouse
