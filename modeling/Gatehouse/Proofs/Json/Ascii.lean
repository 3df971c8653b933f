import Gatehouse.Proofs.Directory.Uuid
import Gatehouse.Proofs.Json.RoundTrip

/-!
# Values written in ASCII

In the styles that escape whatever is beyond ASCII, nothing is written but its printing characters: control
characters and DEL are escaped as well.
-/

namespace Gatehouse.Json

def IsPrinting (c : Char) : Prop := 0x20 ≤ c.toNat ∧ c.toNat < 0x7F

instance : DecidablePred IsPrinting := fun _ => inferInstanceAs (Decidable (_ ∧ _))

def AllPrinting (cs : List Char) : Prop := ∀ c ∈ cs, IsPrinting c

instance (cs : List Char) : Decidable (AllPrinting cs) := List.decidableBAll IsPrinting cs

theorem allPrinting_nil : AllPrinting [] := List.forall_mem_nil _

theorem allPrinting_singleton {c : Char} : AllPrinting [c] ↔ IsPrinting c := List.forall_mem_singleton

theorem allPrinting_cons {c : Char} {cs : List Char} : AllPrinting (c :: cs) ↔ IsPrinting c ∧ AllPrinting cs :=
  List.forall_mem_cons

theorem allPrinting_append {cs ds : List Char} : AllPrinting (cs ++ ds) ↔ AllPrinting cs ∧ AllPrinting ds :=
  List.forall_mem_append

/-- Escapes go as far as ASCII, and nothing but ASCII stands between values. -/
structure Style.IsPrinting (style : Style) : Prop where
  ascii : style.ascii = true
  comma : AllPrinting style.comma
  colon : AllPrinting style.colon

theorem spacedAscii_printing : spacedAscii.IsPrinting := ⟨rfl, by decide, by decide⟩

/-! ## Texts and integers -/

theorem isPrinting_hexDigit : ∀ k < 16, IsPrinting (Quoted.hexDigit k) := by decide

theorem allPrinting_unitEscape (n : Nat) : AllPrinting (unitEscape n) := by
  intro c hc
  rw [unitEscape, List.mem_cons, List.mem_cons] at hc
  rcases hc with rfl | rfl | hc
  · decide
  · decide
  · obtain ⟨k, hk, rfl⟩ := Quoted.mem_hex hc
    exact isPrinting_hexDigit k hk

theorem allPrinting_escapeChar (c : Char) : AllPrinting (escapeChar true c) := by
  -- short escapes first; what is neither escaped by a letter nor by its units is written as it is
  unfold escapeChar
  simp only [Bool.not_true, Bool.false_or, decide_eq_true_eq]
  iterate 7
    refine iteInduction (motive := AllPrinting) (fun _ => by decide) fun _ => ?_
  refine iteInduction (fun _ => allPrinting_unitEscape _) fun hlow => ?_
  refine iteInduction (fun hraw => ?_) fun _ => iteInduction (fun _ => allPrinting_unitEscape _) fun _ => ?_
  · exact allPrinting_singleton.mpr ⟨Nat.not_lt.mp hlow, hraw⟩
  · exact allPrinting_append.mpr ⟨allPrinting_unitEscape _, allPrinting_unitEscape _⟩

theorem allPrinting_framed {first last : Char} {inner : List Char} (hfirst : IsPrinting first)
    (hlast : IsPrinting last) (hinner : AllPrinting inner) : AllPrinting (first :: inner ++ [last]) :=
  allPrinting_append.mpr ⟨allPrinting_cons.mpr ⟨hfirst, hinner⟩, allPrinting_singleton.mpr hlast⟩

theorem allPrinting_writeText (s : String) : AllPrinting (writeText true s) := by
  refine allPrinting_framed (by decide) (by decide) fun c hc => ?_
  obtain ⟨x, -, hx⟩ := List.mem_flatMap.mp hc
  exact allPrinting_escapeChar x c hx

theorem allPrinting_writeInteger (n : Int) : AllPrinting (writeInteger n) := by
  rw [writeInteger_eq, allPrinting_append]
  constructor
  · split
    · decide
    · decide
  · intro c hc
    obtain ⟨hfirst, hlast⟩ := (isDigit_iff c).mp (isDigit_of_mem_digits hc)
    exact ⟨by omega, by omega⟩

/-! ## Values -/

section
variable {d : Dialect} {style : Style} (hstyle : style.IsPrinting)
include hstyle

theorem allPrinting_writeItems :
    ∀ items : List Json, (∀ v ∈ items, AllPrinting (writeValue style v)) → AllPrinting (writeItems style items)
  | [], _ => allPrinting_nil
  | [v], h => h v List.mem_cons_self
  | v :: w :: vs, h => by
    obtain ⟨hv, hvs⟩ := List.forall_mem_cons.mp h
    rw [writeItems_cons, allPrinting_append, allPrinting_append]
    exact ⟨⟨hv, hstyle.comma⟩, allPrinting_writeItems (w :: vs) hvs⟩

theorem allPrinting_writeFields : ∀ fields : List (String × Json),
    (∀ f ∈ fields, AllPrinting (writeValue style f.2)) → AllPrinting (writeFields style fields)
  | [], _ => allPrinting_nil
  | [(name, v)], h => by
    rw [writeFields, hstyle.ascii, allPrinting_append, allPrinting_append]
    exact ⟨⟨allPrinting_writeText name, hstyle.colon⟩, h (name, v) List.mem_cons_self⟩
  | (name, v) :: f :: fs, h => by
    obtain ⟨hv, hfs⟩ := List.forall_mem_cons.mp h
    rw [writeFields_cons, hstyle.ascii]
    simp only [allPrinting_append]
    exact ⟨⟨⟨⟨allPrinting_writeText name, hstyle.colon⟩, hv⟩, hstyle.comma⟩,
      allPrinting_writeFields (f :: fs) hfs⟩

theorem IsPlain.allPrinting {depth : Nat} {v : Json} (h : IsPlain d depth v) :
    AllPrinting (writeValue style v) := by
  induction h with
  | null => exact (by decide : AllPrinting "null".toList)
  | bool b =>
    cases b with
    | false => exact (by decide : AllPrinting "false".toList)
    | true => exact (by decide : AllPrinting "true".toList)
  | integer n => exact allPrinting_writeInteger n
  | text s =>
    rw [writeValue, hstyle.ascii]
    exact allPrinting_writeText s
  | array items _ ih =>
    exact allPrinting_framed (by decide) (by decide) (allPrinting_writeItems hstyle items ih)
  | object fields _ _ ih =>
    exact allPrinting_framed (by decide) (by decide) (allPrinting_writeFields hstyle fields ih)

end

end Gatehouse.Json
