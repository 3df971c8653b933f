import Gatehouse.Directory.Permissions
import Gatehouse.Proofs.Calendar.Stamp

/-!
# Permissions as they are stored

Reading the permissions of a role neither reorders nor drops any: they are the texts of the stored list,
and a role that stores no list has none. What was read is stored in one form, which reads as what was read.
-/

namespace Gatehouse

namespace Shape

variable {α β γ : Type}

theorem both_eq_ok {f : α → β → γ} {a : Checked α} {b : Checked β} {c : γ} (h : both f a b = .ok c) :
    ∃ x y, a = .ok x ∧ b = .ok y ∧ c = f x y := by
  cases a <;> cases b <;> cases h
  exact ⟨_, _, rfl, rfl, rfl⟩

theorem also_eq_ok {f : Checked (α → β)} {a : Checked α} {b : β} (h : also f a = .ok b) :
    ∃ g x, f = .ok g ∧ a = .ok x ∧ b = g x :=
  both_eq_ok h

theorem under_eq_ok {step : String} {a : Checked α} {x : α} (h : under step a = .ok x) : a = .ok x := by
  cases a <;> cases h
  rfl

theorem defaulted_eq_ok {fields : Fields} {name : String} {value a : α} {read : Json → Checked α}
    (h : defaulted fields name value read = .ok a) :
    (∃ v, Json.find? fields name = some v ∧ read v = .ok a) ∨ (Json.find? fields name = none ∧ a = value) := by
  have hfield := under_eq_ok h
  cases hfound : Json.find? fields name with
  | some v =>
    rw [hfound] at hfield
    exact .inl ⟨v, rfl, hfield⟩
  | none =>
    rw [hfound] at hfield
    cases hfield
    exact .inr ⟨rfl, rfl⟩

theorem items_text_eq_ok {vs : List Json} {i : Nat} {texts : List String} (h : items text i vs = .ok texts) :
    vs = texts.map .text := by
  induction vs generalizing i texts with
  | nil =>
    cases h
    rfl
  | cons v rest ih =>
    obtain ⟨first, others, hfirst, hothers, rfl⟩ := both_eq_ok h
    have htext : v = .text first := by
      have hread := under_eq_ok hfirst
      cases v <;> cases hread
      rfl
    rw [htext, ih hothers]
    rfl

theorem list_text_eq_ok {v : Json} {texts : List String} (h : list text v = .ok texts) :
    v = .array (texts.map .text) := by
  cases v with
  | array vs =>
    rw [items_text_eq_ok h]
  | _ => cases h

end Shape

namespace PermissionSet

open Shape

def Lists (stored : Json) (permissions : List String) : Prop :=
  match stored.field? "permissions" with
  | some listed => listed = .array (permissions.map .text)
  | none => permissions = []

/-- Notes that are read are the five fields, each as read or as missing. -/
theorem readNotes_eq_ok {now : Instant} {v : Json} {notes : List String → PermissionSet}
    (h : readNotes now v = .ok notes) :
    ∃ fields version createdBy updatedBy updatedAt description,
      object .modelType v = .ok fields ∧
      defaulted fields "version" "1.0" text = .ok version ∧
      defaulted fields "created_by" "system" text = .ok createdBy ∧
      defaulted fields "updated_by" "system" text = .ok updatedBy ∧
      defaulted fields "updated_at" (.ofInstant now) readStamp = .ok updatedAt ∧
      defaulted fields "description" none optionalText = .ok description ∧
      notes = fun permissions => ⟨permissions, version, createdBy, updatedBy, updatedAt, description⟩ := by
  unfold readNotes at h
  split at h
  · cases h
  · rename_i fields hfields
    obtain ⟨_, description, hdescribed, hdescription, rfl⟩ := also_eq_ok h
    obtain ⟨_, updatedAt, hupdated, hstamp, rfl⟩ := also_eq_ok hdescribed
    obtain ⟨_, updatedBy, hby, hupdater, rfl⟩ := also_eq_ok hupdated
    obtain ⟨_, createdBy, hcreated, hcreator, rfl⟩ := also_eq_ok hby
    obtain ⟨_, version, hstart, hversion, rfl⟩ := also_eq_ok hcreated
    cases hstart
    exact ⟨fields, version, createdBy, updatedBy, updatedAt, description, hfields, hversion, hcreator, hupdater,
      hstamp, hdescription, rfl⟩

theorem readNotes_keeps {now : Instant} {v : Json} {notes : List String → PermissionSet}
    (h : readNotes now v = .ok notes) (permissions : List String) :
    (notes permissions).permissions = permissions := by
  obtain ⟨_, _, _, _, _, _, -, -, -, -, -, -, rfl⟩ := readNotes_eq_ok h
  rfl

/-- What counts as empty has no fields. -/
theorem field?_of_falsy {v : Json} (h : v.isTruthy = false) (name : String) : v.field? name = none := by
  cases v with
  | object fields =>
    have hempty : fields = [] := by simpa [Json.isTruthy] using h
    rw [hempty]
    rfl
  | tornObject fields =>
    have hempty : fields = [] := by simpa [Json.isTruthy] using h
    rw [hempty]
    rfl
  | _ => rfl

theorem read_lists {now : Instant} {stored : Json} {set : PermissionSet} (h : read now stored = .ok set) :
    Lists stored set.permissions := by
  unfold read at h
  split at h
  · cases h
  · rename_i fields hobject
    obtain ⟨permissions, notes, hpermissions, hnotes, rfl⟩ := both_eq_ok h
    have hkept : (notes permissions).permissions = permissions := by
      rcases defaulted_eq_ok hnotes with ⟨v, -, hread⟩ | ⟨-, rfl⟩
      · exact readNotes_keeps hread permissions
      · rfl
    have hfield : stored.field? "permissions" = Json.find? fields "permissions" := by
      by_cases htruthy : stored.isTruthy = true
      · rw [if_pos htruthy] at hobject
        unfold object at hobject
        split at hobject
        · rename_i found hfound
          cases hobject
          rw [Json.field?, hfound]
          rfl
        · cases hobject
      · rw [if_neg htruthy] at hobject
        cases hobject
        exact field?_of_falsy (Bool.not_eq_true _ ▸ htruthy) _
    rw [hkept, Lists, hfield]
    rcases defaulted_eq_ok hpermissions with ⟨v, hfound, hread⟩ | ⟨hmissing, rfl⟩
    · rw [hfound]
      exact list_text_eq_ok hread
    · rw [hmissing]

/-! ## Reading what was stored -/

theorem items_texts (texts : List String) (i : Nat) : items text i (texts.map .text) = .ok texts := by
  induction texts generalizing i with
  | nil => rfl
  | cons s rest ih =>
    rw [List.map_cons, items, ih]
    rfl

theorem optionalText_ofOption (s : Option String) : optionalText (Json.ofOption .text s) = .ok s := by
  cases s <;> rfl

theorem readStamp_text {s : Stamp} (hvalid : s.isValid = true) (hoffset : Stamp.IsWhole s.offset) :
    readStamp (.text s.text) = .ok s := by
  have hwritten : s.isWritten = true := by
    rw [Stamp.isValid, Bool.and_eq_true] at hvalid
    exact hvalid.2
  simp [readStamp, Stamp.text, Stamp.read?_chars hwritten hoffset, hvalid]

/-- A set of permissions is read back as it was stored. -/
theorem read_dump (now : Instant) {p : PermissionSet} (hvalid : p.updatedAt.isValid = true)
    (hoffset : Stamp.IsWhole p.updatedAt.offset) : read now (dump p) = .ok p := by
  have hnotes : readNotes now (.object [("version", .text p.version), ("created_by", .text p.createdBy),
      ("updated_by", .text p.updatedBy), ("updated_at", .text p.updatedAt.text),
      ("description", Json.ofOption .text p.description)]) =
        .ok fun permissions => ⟨permissions, p.version, p.createdBy, p.updatedBy, p.updatedAt, p.description⟩ := by
    simp [readNotes, object, Json.fields?, defaulted, Json.find?, readStamp_text hvalid hoffset,
      optionalText_ofOption, under, also, both, text]
  have hlist := items_texts p.permissions 0
  simp [read, dump, object, Json.fields?, Json.isTruthy, defaulted, Json.find?, list, hnotes, hlist, under, both]

/-! ## What is read can be stored -/

def Writable (s : Stamp) : Prop := s.isValid = true ∧ Stamp.IsWhole s.offset

theorem writable_ofInstant (t : Instant) : Writable (.ofInstant t) :=
  ⟨Stamp.isValid_ofInstant t, Stamp.isWhole_zero⟩

theorem writable_of_countStamp {misfit : Misfit} {count : Count} {s : Stamp}
    (h : countStamp misfit count = .ok s) : Writable s := by
  unfold countStamp stampOf at h
  split at h
  · split at h
    · cases h
      exact writable_ofInstant _
    · cases h
  · cases h

/-- In whichever form a stamp is given, it can be stored. -/
theorem writable_of_readStamp {v : Json} {s : Stamp} (h : readStamp v = .ok s) : Writable s := by
  cases v with
  | text t =>
    rw [readStamp] at h
    cases hread : Rfc3339.read? t.toList with
    | some stamp =>
      rw [hread] at h
      by_cases hvalid : stamp.isValid = true
      · simp only [hvalid, if_true] at h
        cases h
        exact ⟨hvalid, (Stamp.isWritten_of_read? hread).2⟩
      · simp only [hvalid] at h
        cases h
    | none =>
      rw [hread] at h
      cases hcount : Count.ofText? t.toList with
      | some count =>
        rw [hcount] at h
        exact writable_of_countStamp h
      | none =>
        rw [hcount] at h
        cases h
  | integer n =>
    simp only [readStamp] at h
    split at h
    · exact writable_of_countStamp h
    · split at h
      · cases h
      · exact writable_of_countStamp h
  | real x => exact writable_of_countStamp h
  | _ => cases h

theorem writable_of_readNotes {now : Instant} {v : Json} {notes : List String → PermissionSet}
    (h : readNotes now v = .ok notes) (permissions : List String) : Writable (notes permissions).updatedAt := by
  obtain ⟨_, _, _, _, _, _, -, -, -, -, hstamp, -, rfl⟩ := readNotes_eq_ok h
  rcases defaulted_eq_ok hstamp with ⟨w, -, hread⟩ | ⟨-, rfl⟩
  · exact writable_of_readStamp hread
  · exact writable_ofInstant now

theorem writable_of_read {now : Instant} {stored : Json} {set : PermissionSet} (h : read now stored = .ok set) :
    Writable set.updatedAt := by
  unfold read at h
  split at h
  · cases h
  · obtain ⟨permissions, notes, -, hnotes, rfl⟩ := both_eq_ok h
    rcases defaulted_eq_ok hnotes with ⟨v, -, hread⟩ | ⟨-, rfl⟩
    · exact writable_of_readNotes hread permissions
    · exact writable_ofInstant now

/-- **Permissions survive storage.** Whatever a role stores and is read, at whatever time, is stored in a
form that is accepted at any later time, that reads as the same set, and that is stored as itself. -/
theorem read_dumped {now : Instant} (later : Instant) {stored : Json} {set : PermissionSet}
    (h : read now stored = .ok set) :
    ∃ again, read later (dump set) = .ok again ∧ again = set ∧ dump again = dump set := by
  obtain ⟨hvalid, hwhole⟩ := writable_of_read h
  exact ⟨set, read_dump later hvalid hwhole, rfl, rfl⟩

/-- A comma before the fraction, seven digits, half an hour west of UTC and a permission twice. -/
theorem read_dumped_early_year :
    let stored : Json := .object [
      ("permissions", .array [.text "b", .text "a", .text "b"]), ("more", .integer 1),
      ("metadata", .object [("updated_at", .text "0001-02-03 04:05:06,7891234-00:30")])]
    let set : PermissionSet := ⟨["b", "a", "b"], "1.0", "system", "system",
      ⟨1, 2, 3, 4, 5, 6, 789123, some (-1800)⟩, none⟩
    read 0 stored = .ok set ∧
      ∃ again, read Duration.second (dump set) = .ok again ∧ again = set ∧ dump again = dump set := by
  intro stored set
  have hread : read 0 stored = .ok set := by rfl
  exact ⟨hread, read_dumped Duration.second hread⟩

end PermissionSet

end Gatehouse
