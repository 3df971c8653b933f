import Gatehouse.Json.Basic

/-!
# Shapes

Reading typed values out of JSON. Every misfit is reported with its place, in the order of the
fields, and not only the first.
-/

namespace Gatehouse.Shape

inductive Misfit where
  | missing
  | stringType
  | listType
  | modelType
  | attributesType
  | enumeration
  | uuidParsing
  | uuidType
  | jsonInvalid
  | datetimeType
  | datetimeParsing
  | dateParsing
  | tooShort
  | tooLong
  | valueError
  deriving DecidableEq, Repr

def Misfit.word : Misfit → String
  | missing => "missing"
  | stringType => "string_type"
  | listType => "list_type"
  | modelType => "model_type"
  | attributesType => "model_attributes_type"
  | enumeration => "enum"
  | uuidParsing => "uuid_parsing"
  | uuidType => "uuid_type"
  | jsonInvalid => "json_invalid"
  | datetimeType => "datetime_type"
  | datetimeParsing => "datetime_parsing"
  | dateParsing => "datetime_from_date_parsing"
  | tooShort => "string_too_short"
  | tooLong => "string_too_long"
  | valueError => "value_error"

/-- A misfit and the path to it. -/
structure Detail where
  path : List String
  misfit : Misfit
  deriving DecidableEq, Repr

/-- A value, or all that is wrong with it. -/
abbrev Checked (α : Type) := Except (List Detail) α

def fail {α : Type} (misfit : Misfit) : Checked α := .error [⟨[], misfit⟩]

/-- Puts a step in front of every path. -/
def under {α : Type} (step : String) : Checked α → Checked α
  | .ok a => .ok a
  | .error details => .error (details.map fun d => { d with path := step :: d.path })

/-- Combines two checks and keeps the misfits of both. -/
def both {α β γ : Type} (f : α → β → γ) : Checked α → Checked β → Checked γ
  | .ok a, .ok b => .ok (f a b)
  | .error x, .error y => .error (x ++ y)
  | .error x, _ => .error x
  | _, .error y => .error y

def also {α β : Type} (f : Checked (α → β)) (a : Checked α) : Checked β :=
  both (fun f a => f a) f a

/-! ## Values -/

/-- A text of characters. Lone surrogates are refused wherever a length is bounded, and by the reader of cached
snapshots. A field without a bound, as those of stored permissions, would take them; it is assumed that none is
given any. -/
def text : Json → Checked String
  | .text s => .ok s
  | _ => fail .stringType

def rawText (v : Json) : Checked RawText :=
  match v.raw? with
  | some s => .ok s
  | none => fail .stringType

def optionalText : Json → Checked (Option String)
  | .null => .ok none
  | v => (text v).map some

def optionalRawText : Json → Checked (Option RawText)
  | .null => .ok none
  | v => (rawText v).map some

/-- Every item in order, each under its number. -/
def items {α : Type} (item : Json → Checked α) (i : Nat) : List Json → Checked (List α)
  | [] => .ok []
  | v :: rest => both (· :: ·) (under (toString i) (item v)) (items item (i + 1) rest)

def list {α : Type} (item : Json → Checked α) : Json → Checked (List α)
  | .array vs => items item 0 vs
  | _ => fail .listType

/-- A text between two lengths, counted in characters. -/
def sizedText (least most : Nat) (v : Json) : Checked String :=
  match text v with
  | .ok s =>
    if s.length < least then fail .tooShort else if most < s.length then fail .tooLong else .ok s
  | .error e => .error e

/-! ## Fields -/

abbrev Fields := List (String × Json)

def object (misfit : Misfit) (v : Json) : Checked Fields :=
  match v.fields? with
  | some fields => .ok fields
  | none => fail misfit

def required {α : Type} (fields : Fields) (name : String) (read : Json → Checked α) : Checked α :=
  under name (match Json.find? fields name with
    | some v => read v
    | none => fail .missing)

def defaulted {α : Type} (fields : Fields) (name : String) (value : α)
    (read : Json → Checked α) : Checked α :=
  under name (match Json.find? fields name with
    | some v => read v
    | none => .ok value)

end Gatehouse.Shape
