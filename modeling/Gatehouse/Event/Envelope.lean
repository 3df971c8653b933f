import Gatehouse.Calendar.Stamp
import Gatehouse.Json.Writer
import Gatehouse.Session.Cache

/-!
# Event envelopes

The form in which an event is published: its identity, topic, source and time around the payload, as
ASCII text.
-/

namespace Gatehouse.Event

def source : String := "iam_service"

def envelope (id : Uuid) (now : Instant) (topic : String) (payload : Json) : Json :=
  .object [("eventId", .text id.text), ("topic", .text topic), ("sourceService", .text source),
    ("timestamp", .text (Stamp.ofInstant now).longText), ("payload", payload)]

def message (id : Uuid) (now : Instant) (topic : String) (payload : Json) : String :=
  (envelope id now topic payload).write Json.spacedAscii

def publish (topic : String) (payload : Json) : Run Unit := do
  let id ← Run.drawId
  let now := (← get).now
  SessionCache.issue .cachePublish (.publish topic (message id now topic payload)) fun s => (s, ())

end Gatehouse.Event
