import Gatehouse.Event.Dispatcher

/-!
# Worker pool

The order in which a single thread lets the workers of a dispatcher move. A worker goes on until the
queue is empty or a publication does not answer; those that can go on do so in the order in which they
became able to.
-/

namespace Gatehouse

inductive Verdict where
  | succeeds
  | fails
  | hangs
  deriving DecidableEq, Repr

structure Pool where
  dispatcher : Dispatcher
  /-- The workers that can go on: new ones, woken ones, and those whose publication was let go. -/
  ready : List Nat
  /-- The workers that wait for an event, the longest wait first. -/
  waiting : List Nat
  /-- The workers whose publications do not answer. -/
  hung : List Nat
  logs : List LogLine

namespace Pool

def create (workers limit : Int) : Pool := ⟨.create workers limit, [], [], [], []⟩

def workers (p : Pool) : Nat := p.dispatcher.workers.length

def move (p : Pool) (m : Dispatcher.Move) : Pool :=
  match p.dispatcher.step m with
  | some (d, lines) => { p with dispatcher := d, logs := p.logs ++ lines }
  | none => p

def start (p : Pool) : Pool :=
  let q := p.move .start
  { q with ready := p.ready ++ (q.dispatcher.workers.drop p.workers).map (·.id) }

/-- Offers an event; an accepted one wakes the worker that has waited longest. -/
def dispatch (p : Pool) (topic : String) (payload : Json) : Pool :=
  let q := p.move (.dispatch topic payload)
  if p.dispatcher.accepted.length < q.dispatcher.accepted.length then
    { q with ready := p.ready ++ p.waiting.take 1, waiting := p.waiting.drop 1 }
  else q

/-- Lets all publications go on that do not answer. -/
def release (p : Pool) : Pool :=
  { p with ready := p.ready ++ p.hung, hung := [] }

/-- A worker takes events as long as there are any; `n` bounds their number. -/
def work {m : Type → Type} [Monad m] (publish : Job → m Verdict) (worker : Nat) :
    (n : Nat) → Pool → m Pool
  | 0, p => pure { p with waiting := p.waiting ++ [worker] }
  | n + 1, p =>
    match p.dispatcher.queue with
    | [] => pure { p with waiting := p.waiting ++ [worker] }
    | job :: _ => do
      let p := p.move (.take worker)
      match ← publish job with
      | .succeeds => work publish worker n (p.move (.succeed worker))
      | .fails => work publish worker n (p.move (.fail worker))
      | .hangs => pure { p with hung := p.hung ++ [worker] }

/-- Lets these workers go on; one whose publication was let go has succeeded with it. -/
def settleFrom {m : Type → Type} [Monad m] (publish : Job → m Verdict) :
    List Nat → Pool → m Pool
  | [], p => pure p
  | worker :: rest, p => do
    let p := p.move (.succeed worker)
    settleFrom publish rest (← work publish worker p.dispatcher.queue.length p)

def settle {m : Type → Type} [Monad m] (publish : Job → m Verdict) (p : Pool) : m Pool :=
  settleFrom publish p.ready { p with ready := [] }

/-- Lets the workers go on and then ends them, whether the queue has drained or not. -/
def stop {m : Type → Type} [Monad m] (publish : Job → m Verdict) (p : Pool) : m Pool := do
  if p.dispatcher.running then
    let call := p.dispatcher.asked
    let p ← settle publish (p.move .stop)
    let p := if p.dispatcher.unfinished = 0 then p.move (.drained call) else p.move (.giveUp call)
    let p := p.dispatcher.tracked.foldl (fun p worker => p.move (.leave worker)) p
    pure { p.move (.finish call) with ready := [], waiting := [], hung := [] }
  else pure p

end Pool

end Gatehouse
