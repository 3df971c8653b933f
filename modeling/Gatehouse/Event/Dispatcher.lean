import Gatehouse.Service.State

/-!
# Event dispatcher

A bounded queue in front of a pool of worker tasks, as a machine that makes one move at a time: the
calls of start, dispatch and stop, and what the workers do in between. What became of every event is on
record, so that nothing can get lost unnoticed.
-/

namespace Gatehouse

/-- An accepted event with its number in the order of acceptance. -/
structure Job where
  number : Nat
  topic : String
  payload : Json

/-- A worker task that has not ended. -/
structure Worker where
  id : Nat
  /-- What it publishes; a worker without a job waits for one. -/
  job : Option Job
  /-- It was told to end, and does so the next time it goes on. -/
  dismissed : Bool

/-- How far a call of stop has got. -/
inductive Halt where
  /-- It waits until nothing is unfinished. -/
  | draining
  /-- Nothing has been unfinished for a moment since. -/
  | drained
  /-- It waits until these workers have ended. -/
  | ending (workers : List Nat)

def Halt.release : Halt → Halt
  | .draining => .drained
  | h => h

structure Dispatcher where
  /-- Most queued events; there is no bound if it is not positive. -/
  limit : Int
  /-- How many workers a start makes. -/
  size : Nat
  running : Bool
  queue : List Job
  /-- What join and stop wait to become zero. -/
  unfinished : Nat
  workers : List Worker
  /-- The workers that a stop will tell to end. -/
  tracked : List Nat
  /-- The calls of stop that have not come back. -/
  stops : List (Nat × Halt)
  /-- How many workers were ever made. -/
  hired : Nat
  /-- How often stop was called while running. -/
  asked : Nat
  accepted : List Job
  /-- Everything that was handed to the publisher, in this order. -/
  handed : List Job
  published : List Job
  failed : List Job
  cancelled : List Job

namespace Dispatcher

def create (workers limit : Int) : Dispatcher where
  limit := limit
  size := (max 1 workers).toNat
  running := false
  queue := []
  unfinished := 0
  workers := []
  tracked := []
  stops := []
  hired := 0
  asked := 0
  accepted := []
  handed := []
  published := []
  failed := []
  cancelled := []

def isFull (d : Dispatcher) : Bool := 0 < d.limit && d.limit ≤ d.queue.length

def publishing (d : Dispatcher) : List Job := d.workers.filterMap (·.job)

def worker? (d : Dispatcher) (id : Nat) : Option Worker := d.workers.find? (·.id == id)

def halt? (d : Dispatcher) (call : Nat) : Option Halt := d.stops.lookup call

/-! ## Moves -/

inductive Move where
  | start
  | dispatch (topic : String) (payload : Json)
  /-- A waiting worker takes the next event and hands it to the publisher. -/
  | take (worker : Nat)
  | succeed (worker : Nat)
  | fail (worker : Nat)
  /-- A dismissed worker ends, and with it what it was publishing. -/
  | leave (worker : Nat)
  | stop
  /-- A call of stop goes on because everything was handled. -/
  | drained (call : Nat)
  /-- A call of stop goes on because its time is over. -/
  | giveUp (call : Nat)
  /-- A call of stop comes back. -/
  | finish (call : Nat)

/-- Makes workers and keeps track of them, and of no others. -/
def hire (d : Dispatcher) : Dispatcher :=
  let ids := List.range' d.hired d.size
  { d with
    running := true
    workers := d.workers ++ ids.map fun id => ⟨id, none, false⟩
    tracked := ids
    hired := d.hired + d.size }

def enqueue (d : Dispatcher) (topic : String) (payload : Json) : Dispatcher :=
  let job : Job := ⟨d.accepted.length, topic, payload⟩
  { d with
    queue := d.queue ++ [job]
    unfinished := d.unfinished + 1
    accepted := d.accepted ++ [job] }

def assign (d : Dispatcher) (id : Nat) (job : Option Job) : List Worker :=
  d.workers.map fun w => if w.id == id then { w with job := job } else w

/-- One event less is unfinished; after the last one, who waits for that may go on. -/
def taskDone (d : Dispatcher) : Dispatcher :=
  { d with
    unfinished := d.unfinished - 1
    stops := if d.unfinished = 1 then d.stops.map fun c => (c.1, c.2.release) else d.stops }

def quit (d : Dispatcher) (id : Nat) : Dispatcher :=
  { d with workers := d.workers.filter (·.id != id) }

/-- A call of stop enters its second half: the tracked workers are told to end. -/
def dismiss (d : Dispatcher) (call : Nat) : Dispatcher :=
  { d with
    running := false
    workers := d.workers.map fun w => { w with dismissed := w.dismissed || d.tracked.contains w.id }
    stops := d.stops.map fun c => if c.1 == call then (c.1, .ending d.tracked) else c }

/-- One move and the lines it logs; a move that cannot be made now has no result. -/
def step (d : Dispatcher) : Move → Option (Dispatcher × List LogLine)
  | .start =>
    if d.running then some (d, [⟨.warning, "Event dispatcher already running"⟩])
    else
      some (d.hire, [⟨.info, "Event dispatcher started with " ++ toString d.size ++ " workers"⟩])
  | .dispatch topic payload =>
    if !d.running then
      some (d, [⟨.warning, "Event dispatcher not running, dropping " ++ topic ++ " event"⟩])
    else if d.isFull then
      some (d, [⟨.warning, "Event queue full, dropping " ++ topic ++ " event"⟩])
    else
      some (d.enqueue topic payload, [])
  | .take id =>
    match d.worker? id, d.queue with
    | some ⟨_, none, false⟩, job :: rest =>
      some ({ d with
        queue := rest
        workers := d.assign id (some job)
        handed := d.handed ++ [job] }, [])
    | _, _ => none
  | .succeed id =>
    match d.worker? id with
    | some ⟨_, some job, false⟩ =>
      some ({ d.taskDone with
        workers := d.assign id none
        published := d.published ++ [job] }, [])
    | _ => none
  | .fail id =>
    match d.worker? id with
    | some ⟨_, some job, false⟩ =>
      some ({ d.taskDone with
        workers := d.assign id none
        failed := d.failed ++ [job] },
        [⟨.error, "Worker * failed to publish " ++ job.topic ++ " event"⟩])
    | _ => none
  | .leave id =>
    match d.worker? id with
    | some ⟨_, none, true⟩ => some (d.quit id, [])
    | some ⟨_, some job, true⟩ =>
      some ({ d.taskDone.quit id with cancelled := d.cancelled ++ [job] }, [])
    | _ => none
  | .stop =>
    if d.running then
      some ({ d with
        stops := d.stops ++ [(d.asked, if d.unfinished = 0 then .drained else .draining)]
        asked := d.asked + 1 }, [])
    else some (d, [])
  | .drained call =>
    match d.halt? call with
    | some .drained => some (d.dismiss call, [])
    | _ => none
  | .giveUp call =>
    match d.halt? call with
    | some .draining | some .drained =>
      some (d.dismiss call, [⟨.warning, "Event dispatcher stopped with " ++
        toString d.queue.length ++ " undelivered events"⟩])
    | _ => none
  | .finish call =>
    match d.halt? call with
    | some (.ending ids) =>
      if d.workers.all fun w => !ids.contains w.id then
        some ({ d with tracked := [], stops := d.stops.filter (·.1 != call) },
          [⟨.info, "Event dispatcher stopped"⟩])
      else none
    | _ => none

/-- Makes moves in a row; those that cannot be made are left out. -/
def run (d : Dispatcher) : List Move → Dispatcher × List LogLine
  | [] => (d, [])
  | move :: rest =>
    match d.step move with
    | none => d.run rest
    | some (d, lines) =>
      let (d, more) := d.run rest
      (d, lines ++ more)

end Dispatcher

end Gatehouse
