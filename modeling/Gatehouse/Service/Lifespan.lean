import Gatehouse.Config
import Gatehouse.Event.Envelope
import Gatehouse.Event.Pool

/-!
# Lifespan

From the start of the service to its end: the key is checked, the cache must answer, events are
delivered until the end, and whatever happened in between, the connections are closed.
-/

namespace Gatehouse.Lifespan

def tables : List String :=
  ["user_auth_providers", "user_profiles", "user_workspace_memberships", "users",
    "workspace_roles", "workspaces"]

/-- Publishes a job; a failure is the worker's to report. -/
def deliver (job : Job) : Run Verdict :=
  tryCatch (do Event.publish job.topic job.payload; pure .succeeds) fun _ => pure .fails

def report (p : Pool) : Run Pool := do
  p.logs.forM fun line => Run.log line.level line.message
  return { p with logs := [] }

/-- Checks what the service needs and starts the workers. -/
def startup (key : Envelope.Key) (pool : Pool) : Run Pool := do
  let _ ← Run.ofExcept .envelope (Envelope.checkKey key)
  SessionCache.verifyConnection
  Run.log .info "Redis connection verified"
  report pool.start

/-- Hands over events and waits until they are handled. -/
def exchange (pool : Pool) (events : List (String × Json)) : Run Pool := do
  let pool := events.foldl (fun p (topic, payload) => p.dispatch topic payload) pool
  report (← pool.settle deliver)

def shutdown (pool : Pool) : Run Pool := do
  let pool ← report (← pool.stop deliver)
  modify fun s => { s with commands := s.commands ++ [.close] }
  return pool

end Gatehouse.Lifespan
