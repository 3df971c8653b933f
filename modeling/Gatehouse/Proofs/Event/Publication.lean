import Gatehouse.Proofs.Account.Passwords
import Gatehouse.Proofs.Http.Mute
import Gatehouse.Proofs.Json.Ascii
import Gatehouse.Proofs.Session.Cache
import Gatehouse.Service.Lifespan

/-!
# Published events

A published message is ASCII, and whoever reads it finds the envelope that was written. The identities of
the events that are published in a run are drawn on the way, each for one event only.
-/

namespace Gatehouse

open Run Service

namespace Event

/-! ## Messages -/

structure Sent where
  id : Uuid
  time : Instant
  topic : String
  payload : Json

namespace Sent

def envelope (e : Sent) : Json := Event.envelope e.id e.time e.topic e.payload

def message (e : Sent) : String := Event.message e.id e.time e.topic e.payload

def command (e : Sent) : Command := .publish e.topic e.message

end Sent

def texts (fields : List (String × String)) : Json := .object (fields.map fun f => (f.1, .text f.2))

section
variable {d : Json.Dialect} {depth : Nat}

theorem isPlain_texts {fields : List (String × String)} (h : (fields.map (·.1)).Nodup) :
    Json.IsPlain d (depth + 1) (texts fields) := by
  refine .object _ ?_ fun f hf => ?_
  · rwa [List.map_map]
  · obtain ⟨_, -, rfl⟩ := List.mem_map.mp hf
    exact .text _

theorem Sent.isPlain_envelope {e : Sent} (h : Json.IsPlain d depth e.payload) :
    Json.IsPlain d (depth + 1) e.envelope := by
  have hnames : ["eventId", "topic", "sourceService", "timestamp", "payload"].Nodup := by decide
  refine .object _ hnames fun f hf => ?_
  simp only [List.mem_cons, List.not_mem_nil, or_false] at hf
  rcases hf with rfl | rfl | rfl | rfl | rfl
  · exact .text _
  · exact .text _
  · exact .text _
  · exact .text _
  · exact h

/-- Any reader that takes two levels of nesting reads the envelope. -/
theorem Sent.read_message {e : Sent} {fields : List (String × String)} (hpayload : e.payload = texts fields)
    (hnames : (fields.map (·.1)).Nodup) (hnumerals : d.numerals = false) (hdepth : 2 ≤ d.depth) :
    Json.read d e.message = .ok e.envelope := by
  obtain ⟨depth, hdeep⟩ := Nat.exists_eq_add_of_le' hdepth
  have hplain : Json.IsPlain d d.depth e.envelope := by
    rw [hdeep]
    exact isPlain_envelope (hpayload ▸ isPlain_texts hnames)
  exact Json.read_write Json.spacedAscii_lawful hnumerals hplain

theorem Sent.message_printing {e : Sent} {fields : List (String × String)} (hpayload : e.payload = texts fields)
    (hnames : (fields.map (·.1)).Nodup) : Json.AllPrinting e.message.toList := by
  have hplain : Json.IsPlain Json.lenient 2 e.envelope := isPlain_envelope (hpayload ▸ isPlain_texts hnames)
  rw [message, Event.message, Json.write, String.toList_ofList]
  exact hplain.allPrinting Json.spacedAscii_printing

end

end Event

/-! ## Identities -/

def Service.drawn (s t : Service) : List Uuid :=
  (List.range' (s.ids + 1) (t.ids - s.ids)).map .counted

/-- Whatever was published bears an identifier that was drawn on the way, and none bears that of another. -/
structure Service.Publishes (s t : Service) : Prop where
  ids : s.ids ≤ t.ids
  sent : ∃ sent : List Event.Sent, t.publications = s.publications ++ sent.map (·.command) ∧
    (sent.map (·.id)).Sublist (s.drawn t)

namespace Service

variable {s t u : Service}

theorem drawn_append (h : s.ids ≤ t.ids) (k : t.ids ≤ u.ids) : s.drawn t ++ t.drawn u = s.drawn u := by
  have hmiddle : t.ids + 1 = s.ids + 1 + 1 * (t.ids - s.ids) := by omega
  have hlength : u.ids - s.ids = t.ids - s.ids + (u.ids - t.ids) := by omega
  rw [drawn, drawn, drawn, ← List.map_append, hmiddle, List.range'_append, ← hlength]

theorem Mute.publishes (h : Mute s t) : Publishes s t :=
  ⟨h.ids, [], by rw [h.publications, List.map_nil, List.append_nil], List.nil_sublist _⟩

theorem Publishes.trans (h : Publishes s t) (k : Publishes t u) : Publishes s u := by
  obtain ⟨sent, hsent, hdrawn⟩ := h.sent
  obtain ⟨more, hmore, hdrawn'⟩ := k.sent
  refine ⟨Nat.le_trans h.ids k.ids, sent ++ more, ?_, ?_⟩
  · rw [hmore, hsent, List.map_append, List.append_assoc]
  · rw [List.map_append, ← drawn_append h.ids k.ids]
    exact hdrawn.append hdrawn'

instance : Frame Publishes where
  refl s := (Frame.refl (R := Mute) s).publishes
  trans := Publishes.trans
  disarm s call := (Frame.disarm (R := Mute) s call).publishes

end Service

/-! ## Publishing -/

/-- A publication hands over one message, under the next identifier, also if it is going to fail. -/
theorem Event.publish_sends (topic : String) (payload : Json) (s : Service) :
    Gives (publish topic payload) s fun _ t => t.ids = s.ids + 1 ∧
      t.commands = s.commands ++ [(Sent.mk (.counted (s.ids + 1)) s.now topic payload).command] := by
  apply Gives.step (exec_drawId s)
  apply Gives.step exec_get
  exact SessionCache.issue_gives (fun _ _ => ⟨rfl, rfl⟩) (fun _ _ => ⟨rfl, rfl⟩) ⟨rfl, rfl⟩

theorem Event.publish_publishes (topic : String) (payload : Json) : Keeps Publishes (publish topic payload) := by
  intro s
  obtain ⟨hids, hcommands⟩ := publish_sends topic payload s
  refine ⟨by omega, [⟨.counted (s.ids + 1), s.now, topic, payload⟩], ?_, ?_⟩
  · rw [publications, hcommands, List.filter_append]
    rfl
  · rw [drawn, hids, Nat.add_sub_cancel_left]
    exact List.Sublist.refl _

/-! ## Workers -/

theorem Run.publishes_of_mute {α : Type} {m : Run α} (h : Keeps Mute m) : Keeps Publishes m :=
  h.mono Mute.publishes

namespace Lifespan

theorem deliver_publishes (job : Job) : Keeps Publishes (deliver job) :=
  ((Event.publish_publishes job.topic job.payload).bind fun _ => keeps_pure _).tryCatch fun _ => keeps_pure _

theorem work_publishes (worker : Nat) : ∀ n p, Keeps Publishes (Pool.work deliver worker n p)
  | 0, _ => keeps_pure _
  | n + 1, p => by
    unfold Pool.work
    split
    · exact keeps_pure _
    · refine (deliver_publishes _).bind fun verdict => ?_
      cases verdict with
      | succeeds => exact work_publishes worker n _
      | fails => exact work_publishes worker n _
      | hangs => exact keeps_pure _

theorem settleFrom_publishes : ∀ workers p, Keeps Publishes (Pool.settleFrom deliver workers p)
  | [], _ => keeps_pure _
  | worker :: rest, _ => (work_publishes worker _ _).bind fun p => settleFrom_publishes rest p

theorem report_publishes (p : Pool) : Keeps Publishes (report p) := by
  have hlines : ∀ lines : List LogLine,
      Keeps Publishes (lines.forM fun line => Run.log line.level line.message) := by
    intro lines
    induction lines with
    | nil => exact keeps_pure _
    | cons line lines ih => exact (publishes_of_mute (mute_log _ _)).bind fun _ => ih
  exact (hlines p.logs).bind fun _ => keeps_pure _

theorem stop_publishes (p : Pool) : Keeps Publishes (p.stop deliver) := by
  unfold Pool.stop
  split
  · exact (settleFrom_publishes _ _).bind fun _ => keeps_pure _
  · exact keeps_pure _

theorem startup_publishes (key : Envelope.Key) (p : Pool) : Keeps Publishes (startup key p) :=
  (keeps_ofExcept _ _).bind fun _ => (publishes_of_mute SessionCache.verifyConnection_mute).bind fun _ =>
    (publishes_of_mute (mute_log _ _)).bind fun _ => report_publishes _

theorem exchange_publishes (p : Pool) (events : List (String × Json)) : Keeps Publishes (exchange p events) :=
  (settleFrom_publishes _ _).bind fun _ => report_publishes _

theorem shutdown_publishes (p : Pool) : Keeps Publishes (shutdown p) := by
  refine (stop_publishes p).bind fun q => (report_publishes q).bind fun _ => ?_
  exact (publishes_of_mute (keeps_modify fun s => .record s rfl)).bind fun _ => keeps_pure _

end Lifespan

/-! ## Runs -/

/-- What goes on in a run: moves of the service and requests to it, what it does with its workers at its start,
in between and at its end, and single deliveries. -/
inductive Activity where
  | move (m : Move)
  | serve (settings : Settings) (r : Http.Request)
  | start (key : Envelope.Key) (p : Pool)
  | exchange (p : Pool) (events : List (String × Json))
  | stop (p : Pool)
  | deliver (job : Job)

namespace Service

def act (s : Service) : Activity → Service
  | .move m => s.move m
  | .serve settings r => (Http.serve settings r s).2
  | .start key p => ((Lifespan.startup key p).exec s).2
  | .exchange p events => ((Lifespan.exchange p events).exec s).2
  | .stop p => ((Lifespan.shutdown p).exec s).2
  | .deliver job => ((Lifespan.deliver job).exec s).2

def through (s : Service) (run : List Activity) : Service := run.foldl act s

theorem act_publishes (s : Service) (activity : Activity) : Publishes s (s.act activity) := by
  cases activity with
  | move m => exact (s.move_mute m).publishes
  | serve settings r => exact (Http.serve_mute settings r s).publishes
  | start key p => exact Lifespan.startup_publishes key p s
  | exchange p events => exact Lifespan.exchange_publishes p events s
  | stop p => exact Lifespan.shutdown_publishes p s
  | deliver job => exact Lifespan.deliver_publishes job s

theorem through_publishes : ∀ (run : List Activity) (s : Service), Publishes s (s.through run)
  | [], s => Frame.refl s
  | activity :: run, s => (s.act_publishes activity).trans (through_publishes run (s.act activity))

end Service

/-- **Published events can be read back.** A message with a payload of texts is printing ASCII, and whoever reads
it gets the envelope with its identity, topic, time and payload. A publication hands over one such message.
In a run in which no identifier is drawn twice, no two published events have the same identity. -/
theorem published_events_read_back :
    (∀ (id : Uuid) (now : Instant) (topic : String) (fields : List (String × String)),
      (fields.map (·.1)).Nodup →
        (∀ c ∈ (Event.message id now topic (Event.texts fields)).toList, 0x20 ≤ c.toNat ∧ c.toNat < 0x7F) ∧
        ∀ d : Json.Dialect, d.numerals = false → 2 ≤ d.depth →
          Json.read d (Event.message id now topic (Event.texts fields)) =
            .ok (.object [("eventId", .text id.text), ("topic", .text topic),
              ("sourceService", .text "iam_service"), ("timestamp", .text (Stamp.ofInstant now).longText),
              ("payload", .object (fields.map fun f => (f.1, .text f.2)))])) ∧
      (∀ (s : Service) (topic : String) (payload : Json),
        ((Event.publish topic payload).exec s).2.commands =
          s.commands ++ [.publish topic (Event.message (.counted (s.ids + 1)) s.now topic payload)]) ∧
      ∀ (s : Service) (run : List Activity), (s.drawn (s.through run)).Nodup →
        ∃ sent : List Event.Sent,
          (s.through run).publications = s.publications ++ sent.map (fun e => .publish e.topic e.message) ∧
            (sent.map (·.id)).Sublist (s.drawn (s.through run)) ∧ (sent.map (·.id.text)).Nodup := by
  refine ⟨fun id now topic fields hnames => ⟨?_, fun d hnumerals hdepth => ?_⟩, fun s topic payload => ?_,
    fun s run hnodup => ?_⟩
  · exact Event.Sent.message_printing (e := ⟨id, now, topic, Event.texts fields⟩) rfl hnames
  · exact Event.Sent.read_message (e := ⟨id, now, topic, Event.texts fields⟩) rfl hnames hnumerals hdepth
  · exact (Event.publish_sends topic payload s).2
  · obtain ⟨sent, hsent, hdrawn⟩ := (through_publishes run s).sent
    refine ⟨sent, hsent, hdrawn, ?_⟩
    have hids := (hnodup.sublist hdrawn).map (f := Uuid.text) fun _ _ h => Uuid.text_injective h
    rwa [List.map_map] at hids

def oddName : List (String × String) := [("name", "\"Zoë\" \\ \t\x07\x7f 🦆"), ("slug", "zoë")]

def oddRun : List Activity :=
  [.deliver ⟨0, "workspace.created", Event.texts oddName⟩, .move (.perform (.signUp Login.ann true)),
    .deliver ⟨1, "workspace.created", Event.texts oddName⟩]

theorem odd_names_read_back :
    ((Service.start 0).drawn ((Service.start 0).through oddRun)).Nodup ∧
      (∃ first second : Event.Sent, first.id.text ≠ second.id.text ∧
        ((Service.start 0).through oddRun).publications = [first.command, second.command]) ∧
      Json.read Json.lenient (Event.message (.counted 1) 0 "workspace.created" (Event.texts oddName)) =
        .ok (Event.envelope (.counted 1) 0 "workspace.created" (Event.texts oddName)) := by
  obtain ⟨hread, -, hrun⟩ := published_events_read_back
  have hids : ((Service.start 0).through oddRun).ids = 4 := rfl
  have hdrawn : ((Service.start 0).drawn ((Service.start 0).through oddRun)).Nodup := by
    rw [Service.drawn, hids]
    decide +kernel
  obtain ⟨sent, hsent, -, hnodup⟩ := hrun (Service.start 0) oddRun hdrawn
  have htwo : sent.length = 2 := by
    have hlength : ((Service.start 0).through oddRun).publications.length = 2 := rfl
    have hempty : (Service.start 0).publications = [] := rfl
    rw [hsent, hempty, List.nil_append, List.length_map] at hlength
    exact hlength
  obtain ⟨first, second, rfl⟩ := List.length_eq_two.mp htwo
  refine ⟨hdrawn, ⟨first, second, ?_, hsent⟩, (hread _ _ _ oddName (by decide)).2 Json.lenient rfl (by decide)⟩
  exact (List.nodup_cons.mp hnodup).1 ∘ List.mem_singleton.mpr

end Gatehouse
