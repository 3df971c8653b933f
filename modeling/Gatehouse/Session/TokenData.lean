import Gatehouse.Session.Cache
import Gatehouse.Session.Snapshot

/-!
# Token data

Snapshots in the session cache. A snapshot lives as long as it is told, else as long as the service
usually keeps one, else for three days.
-/

namespace Gatehouse.TokenData

def standardTtl : Duration.Span := 72 * 3600 * Duration.second

def positive? (ttl : Option Duration.Span) : Option Duration.Span := ttl.filter (0 < ·)

/-- The first positive one of the given lifetime, the usual one and the standard one. -/
def lifetime (usual given : Option Duration.Span) : Duration.Span :=
  (positive? given).getD ((positive? usual).getD standardTtl)

def store (usual : Option Duration.Span) (user sealed : String) (data : Snapshot)
    (ttl : Option Duration.Span) : Run Unit :=
  SessionCache.store user sealed data.text (Duration.seconds (lifetime usual ttl))

def fetch (user sealed : String) : Run Snapshot := do
  Run.ofChecked (Snapshot.ofText (← SessionCache.fetch user sealed))

/-- Ends one session. It always succeeds; a failing cache is only logged. -/
def logout (user sealed : String) : Run Unit :=
  if sealed.isEmpty then return ()
  else
    tryCatch (SessionCache.delete user sealed) fun _ =>
      Run.log .warning ("Failed to delete token data for user " ++ user)

end Gatehouse.TokenData
