import Gatehouse.Service.State

/-!
# Session cache

Cached sessions of users: one entry for each pair of a user and a cache key. Failures of the server
become failures of the cache.
-/

namespace Gatehouse.SessionCache

def key (user cacheKey : String) : String := "auth:token:" ++ user ++ ":" ++ cacheKey

/-! ## Commands to the server -/

/-- Records a command and does its work, unless a fault is armed. Where the reply gets lost, the work was done
and the command fails all the same. -/
def issue {α : Type} (call : Call) (command : Command) (work : Service → Service × α) : Run α := do
  modify fun s => { s with commands := s.commands ++ [command] }
  let done : Run α := modifyGet fun s => let (s, a) := work s; (a, s)
  Run.guarded call (fun _ => done) done

/-- Names the step in which the server could not be reached; other failures pass. -/
def wrap {α : Type} (step : CacheStep) (user : String) (work : Run α) : Run α :=
  tryCatch work fun f =>
    match f with
    | .broken .connection => throw (.cacheStep step user)
    | f => throw f

/-! ## Entries -/

/-- Stores a session for at least a second, from the second of the clock that has begun. -/
def store (user cacheKey payload : String) (lifetime : Int) : Run Unit :=
  let lifetime := max 1 lifetime
  let entry := key user cacheKey
  wrap .store user (issue .cacheSet (.set entry payload lifetime) fun s =>
    ({ s with cache := s.cache.put entry payload (some (s.now.wholeSeconds + lifetime)) }, ()))

def fetch (user cacheKey : String) : Run String := do
  let entry := key user cacheKey
  match ← wrap .fetch user (issue .cacheGet (.get entry) fun s =>
    (s, s.cache.get? s.now.wholeSeconds entry)) with
  | some payload => return payload
  | none => throw (.cacheMiss entry)

def delete (user cacheKey : String) : Run Unit :=
  let entry := key user cacheKey
  wrap .delete user (issue .cacheDelete (.delete entry) fun s =>
    ({ s with cache := s.cache.erase entry }, ()))

/-- Deletes the keys one after the other and counts those that were live. -/
def eraseAll (now : Int) (cache : Cache) : List String → Cache × Nat
  | [] => (cache, 0)
  | entry :: rest =>
    let hit := if (cache.get? now entry).isSome then 1 else 0
    let (cache, removed) := eraseAll now (cache.erase entry) rest
    (cache, hit + removed)

/-- Removes all sessions of a user in one batch and counts them. -/
def invalidateAll (user : String) : Run Nat :=
  let pattern := key user "*"
  wrap .invalidate user do
    let keys ← issue .cacheScan (.scan pattern) fun s =>
      (s, s.cache.scan s.now.wholeSeconds pattern)
    if keys.isEmpty then return 0
    else
      issue .cachePipeline (.pipeline keys) fun s =>
        let (cache, removed) := eraseAll s.now.wholeSeconds s.cache keys
        ({ s with cache }, removed)

def verifyConnection : Run Unit := do
  modify fun s => { s with commands := s.commands ++ [.ping] }
  match ← Run.takeFault .cachePing with
  | none | some (.answers _) => return ()
  | some .hangs => throw .cacheUnreachable
  | some (.breaks how) | some (.breaksAfter how) =>
    match how with
    | .connection | .os => throw .cacheUnreachable
    | how => throw (.broken how)

end Gatehouse.SessionCache
