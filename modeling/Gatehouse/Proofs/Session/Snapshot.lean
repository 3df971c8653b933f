import Gatehouse.Proofs.Json.RoundTrip
import Gatehouse.Proofs.Session.Cache
import Gatehouse.Session.TokenData

/-!
# Snapshots survive the cache

A snapshot reads back from its own text, whatever texts it is made of, so that the cache gives back the
snapshot it was given for as long as it keeps the entry.
-/

namespace Gatehouse

/-! ## Lists of values -/

namespace Shape

variable {α : Type} {read : Json → Checked α} {write : α → Json}

theorem items_map (h : ∀ a, read (write a) = .ok a) (as : List α) (i : Nat) :
    items read i (as.map write) = .ok as := by
  induction as generalizing i with
  | nil => rfl
  | cons a rest ih => rw [List.map_cons, items, h, ih]; rfl

theorem list_map (h : ∀ a, read (write a) = .ok a) (as : List α) :
    list read (.array (as.map write)) = .ok as :=
  items_map h as 0

/-! ## Fields that are there -/

variable {fields : Fields} {name : String} {v : Json} {a : α}

theorem required_found (hfield : Json.find? fields name = some v) (hread : read v = .ok a) :
    required fields name read = .ok a := by
  rw [required, hfield]
  exact congrArg (under name) hread

theorem defaulted_found (hfield : Json.find? fields name = some v) (hread : read v = .ok a) (start : α) :
    defaulted fields name start read = .ok a := by
  rw [defaulted, hfield]
  exact congrArg (under name) hread

end Shape

namespace Snapshot

open Shape

/-! ## Reading what was written -/

theorem readItem_itemJson (i : SnapshotItem) : readItem (itemJson i) = .ok i := by
  have htext : ∀ s, Shape.text (.text s) = .ok s := fun _ => rfl
  unfold readItem itemJson
  simp only [object, Json.fields?]
  rw [required_found rfl (htext i.workspaceId), required_found rfl (htext i.roleName),
    required_found rfl (list_map htext i.permissions), required_found rfl (htext i.status)]
  rfl

theorem ofJson_toJson (s : Snapshot) : ofJson s.toJson = .ok s := by
  have htext : ∀ s, Shape.text (.text s) = .ok s := fun _ => rfl
  unfold ofJson toJson
  simp only [object, Json.fields?]
  rw [required_found rfl (htext s.globalRole), defaulted_found rfl (list_map readItem_itemJson s.memberships)]
  rfl

/-! ## Written text -/

open Json (IsPlain)

variable {d : Json.Dialect} {depth : Nat}

theorem isPlain_itemJson (i : SnapshotItem) : IsPlain d (depth + 2) (itemJson i) := by
  have hpermissions : IsPlain d (depth + 1) (.array (i.permissions.map .text)) := by
    refine .array _ fun v hv => ?_
    obtain ⟨s, -, rfl⟩ := List.mem_map.mp hv
    exact .text s
  refine .object _ (by simp) ?_
  simp only [List.forall_mem_cons]
  exact ⟨.text _, .text _, hpermissions, .text _, fun _ h => absurd h List.not_mem_nil⟩

theorem isPlain_toJson (s : Snapshot) : IsPlain d (depth + 4) s.toJson := by
  have hmemberships : IsPlain d (depth + 3) (.array (s.memberships.map itemJson)) := by
    refine .array _ fun v hv => ?_
    obtain ⟨i, -, rfl⟩ := List.mem_map.mp hv
    exact isPlain_itemJson i
  refine .object _ (by simp) ?_
  simp only [List.forall_mem_cons]
  exact ⟨.text _, hmemberships, fun _ h => absurd h List.not_mem_nil⟩

/-- The strict reader goes two hundred levels deep, and a snapshot has four. -/
theorem ofText_text (s : Snapshot) : ofText s.text = .ok s := by
  have hdepth : Json.strict.depth = 196 + 4 := rfl
  have hplain : IsPlain Json.strict Json.strict.depth s.toJson := hdepth ▸ isPlain_toJson s
  have hread : Json.read Json.strict s.text = .ok s.toJson :=
    Json.read_write Json.compact_lawful rfl hplain
  rw [ofText, hread]
  exact ofJson_toJson s

end Snapshot

/-! ## Through the cache -/

namespace TokenData

open Run SessionCache

/-- **Snapshots survive the cache.** A snapshot is what its text reads as, and it is what the cache gives
back as long as its entry is untouched and has not expired. -/
theorem fetch_stored {s : Service} (hset : Heeds s .cacheSet) (usual given : Option Duration.Span)
    (user sealed : String) (data : Snapshot) :
    Snapshot.ofText data.text = .ok data ∧
    ∃ t, (store usual user sealed data given).exec s = (.ok (), t) ∧ t.now = s.now ∧
      ∀ u : Service, u.cache.held? (key user sealed) = t.cache.held? (key user sealed) →
        u.now.wholeSeconds < s.now.wholeSeconds + max 1 (Duration.seconds (lifetime usual given)) →
        Heeds u .cacheGet → ∃ v, (fetch user sealed).exec u = (.ok data, v) := by
  refine ⟨Snapshot.ofText_text data, _, exec_store hset _ _ _ _, rfl, ?_⟩
  intro u hentry hlive hget
  rw [Cache.held?_put, if_pos rfl] at hentry
  have hpayload : u.cache.get? u.now.wholeSeconds (key user sealed) = some data.text :=
    Cache.get?_of_held? hentry (decide_eq_true hlive)
  have hfetch := exec_fetch hget user sealed
  rw [hpayload] at hfetch
  rw [fetch, exec_bind_ok hfetch, Snapshot.ofText_text]
  exact ⟨_, rfl⟩

/-- In the last of its two seconds, with a quote, a backslash, a line break and letters beyond ASCII. -/
theorem fetch_stored_last_second :
    let data : Snapshot := ⟨"customer", [⟨"w", "a \"b\" \\ c\n\x7f", ["ü", "ü", ""], "active"⟩]⟩
    ∃ t v, (store none "ann" "k" data (some (2 * Duration.second))).exec (.start 0) = (.ok (), t) ∧
      (fetch "ann" "k").exec { Service.start 1999999 with cache := t.cache } = (.ok data, v) := by
  intro data
  obtain ⟨-, t, hstore, -, hfetch⟩ := fetch_stored (s := .start 0) (heeds_unarmed rfl) none
    (some (2 * Duration.second)) "ann" "k" data
  have hearly : Instant.wholeSeconds 1999999 <
      Instant.wholeSeconds 0 + max 1 (Duration.seconds (lifetime none (some (2 * Duration.second)))) := by
    decide
  obtain ⟨v, hv⟩ := hfetch { Service.start 1999999 with cache := t.cache } rfl hearly (heeds_unarmed rfl)
  exact ⟨t, v, hstore, hv⟩

end TokenData

end Gatehouse
