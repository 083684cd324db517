import Stencil.Keys.Basic
import Stencil.Proofs.Outcome

/-!
What goes wrong with values: reading numbers, walking paths and writing texts fail for reasons of their own, and never
for one that templates, configurations or queries have.
-/

namespace Stencil

open Outcome

def Error.OfValues : Error → Prop
  | .refused _ => True
  | .overflow _ => True
  | .wrongType => True
  | .missingAttribute => True
  | _ => False

/-- A value cannot be read or written; that a separator is empty has nothing to do with the value. -/
def Error.OfReading : Error → Prop
  | .refused .emptySeparator => False
  | err => err.OfValues

theorem Error.OfReading.ofValues : ∀ err, Error.OfReading err → Error.OfValues err
  | .refused _, _ => trivial
  | .overflow _, _ => trivial
  | .wrongType, _ => trivial
  | .missingAttribute, _ => trivial

/-! ## Numbers and paths -/

theorem wholeOfText_fails (s : String) : Fails Error.OfReading (wholeOfText? s) := by
  rw [wholeOfText?]
  split
  · exact fails_ok _
  · next fault _ => cases fault <;> exact (fails_error _).2 trivial

theorem writeWhole_fails (n : Int) : Fails Error.OfReading (writeWhole n) := by
  rw [writeWhole]
  split
  · exact (fails_error _).2 trivial
  · exact fails_ok _

namespace Path

theorem stepInto_fails (segment : String) (read : Int → Option Value) :
    Fails Error.OfReading (stepInto segment read) := by
  refine (wholeOfText_fails segment).bind fun index _ => ?_
  cases index <;> exact fails_ok _

theorem step_fails (v : Value) (segment : String) : Fails Error.OfReading (step v segment) := by
  cases v with
  | list items => exact stepInto_fails segment _
  | tuple items => exact stepInto_fails segment _
  | tree kind raw =>
    rw [step]
    split
    · exact stepInto_fails segment _
    · exact fails_ok _
  | _ => exact fails_ok _

theorem walk_fails (v : Value) (segments : List String) : Fails Error.OfReading (walk v segments) := by
  induction segments generalizing v with
  | nil =>
    rw [walk]
    exact fails_ok _
  | cons segment rest ih =>
    cases v with
    | absent => exact fails_ok _
    | _ => exact (step_fails _ segment).bind fun w _ => ih w

theorem navigate_fails (root : Value) (path : String) : Fails Error.OfReading (navigate root path) :=
  walk_fails root _

end Path

namespace Value

theorem toWhole_fails (v : Value) : Fails Error.OfReading v.toWhole? := by
  cases v with
  | text s => exact wholeOfText_fails s
  | _ => exact fails_ok _

theorem hostNumber_fails (v : Value) : Fails Error.OfReading (hostNumber? v) := by
  cases v with
  | int n =>
    rw [hostNumber?]
    split
    · exact fails_ok _
    · exact (fails_error _).2 trivial
  | _ => exact fails_ok _

theorem toNumber_fails (v : Value) : Fails Error.OfReading v.toNumber? := hostNumber_fails v.unwrap

theorem numbersOf_fails (vs : List Value) : Fails Error.OfReading (numbersOf vs) := by
  induction vs with
  | nil => exact fails_ok _
  | cons v vs ih => exact (toNumber_fails v).bind fun x _ => ih.bind fun xs _ => fails_ok _

theorem toLabel_fails (v : Value) : Fails Error.OfReading v.toLabel := by
  cases v with
  | absent => exact fails_ok _
  | bool b => exact fails_ok _
  | int n => exact fails_ok _
  | float x => exact fails_ok _
  | text s => exact fails_ok _
  | _ => exact (fails_error _).2 trivial

end Value

/-! ## Texts -/

namespace Document

theorem keyText_fails (v : Value) : Fails Error.OfReading (keyText v) := by
  cases v with
  | absent => exact fails_ok _
  | bool b => exact fails_ok _
  | int n => exact writeWhole_fails n
  | float x => exact fails_ok _
  | text s => exact fails_ok _
  | _ => exact (fails_error _).2 trivial

mutual

theorem write_fails : ∀ v : Value, Fails Error.OfReading (write v)
  | .absent => fails_ok _
  | .bool _ => fails_ok _
  | .int n => writeWhole_fails n
  | .float _ => fails_ok _
  | .text _ => fails_ok _
  | .list items => (writeItems_fails items).bind fun _ _ => fails_ok _
  | .tuple items => (writeItems_fails items).bind fun _ _ => fails_ok _
  | .map entries => (writeEntries_fails entries).bind fun _ _ => fails_ok _
  | .record .named _ fields => (writeFields_fails fields).bind fun _ _ => fails_ok _
  | .record .data .. => (fails_error _).2 trivial
  | .record .plain .. => (fails_error _).2 trivial
  | .record .slotted .. => (fails_error _).2 trivial
  | .octets _ => (fails_error _).2 trivial
  | .date _ => (fails_error _).2 trivial
  | .moment _ => (fails_error _).2 trivial
  | .keys _ => (fails_error _).2 trivial
  | .tree .. => (fails_error _).2 trivial

theorem writeItems_fails : ∀ vs : List Value, Fails Error.OfReading (writeItems vs)
  | [] => fails_ok _
  | v :: vs => (write_fails v).bind fun _ _ => (writeItems_fails vs).bind fun _ _ => fails_ok _

theorem writeEntries_fails : ∀ entries : List (Value × Value), Fails Error.OfReading (writeEntries entries)
  | [] => fails_ok _
  | (k, v) :: es => (keyText_fails k).bind fun _ _ => (write_fails v).bind fun _ _ =>
    (writeEntries_fails es).bind fun _ _ => fails_ok _

theorem writeFields_fails : ∀ fields : List (String × Value), Fails Error.OfReading (writeFields fields)
  | [] => fails_ok _
  | (_, v) :: fs => (write_fails v).bind fun _ _ => (writeFields_fails fs).bind fun _ _ => fails_ok _

end

end Document

namespace Value

mutual

theorem literal_fails : ∀ v : Value, Fails Error.OfReading v.literal
  | .absent => fails_ok _
  | .bool _ => fails_ok _
  | .int n => writeWhole_fails n
  | .float _ => fails_ok _
  | .text _ => fails_ok _
  | .octets _ => fails_ok _
  | .date _ => fails_ok _
  | .moment _ => fails_ok _
  | .list items => (literalItems_fails items).bind fun _ _ => fails_ok _
  | .tuple [] => (literalItems_fails []).bind fun _ _ => fails_ok _
  | .tuple [item] => (literal_fails item).bind fun _ _ => fails_ok _
  | .tuple (v :: w :: rest) => (literalItems_fails (v :: w :: rest)).bind fun _ _ => fails_ok _
  | .keys items => (literalItems_fails items).bind fun _ _ => fails_ok _
  | .map entries => (literalEntries_fails entries).bind fun _ _ => fails_ok _
  | .tree .document raw => (Document.write_fails raw).bind fun _ _ => fails_ok _
  | .tree (.embedded _) _ => fails_ok _
  | .record .plain .. => fails_ok _
  | .record .slotted .. => fails_ok _
  | .record .data _ fields => (literalFields_fails fields).bind fun _ _ => fails_ok _
  | .record .named _ fields => (literalFields_fails fields).bind fun _ _ => fails_ok _

theorem literalItems_fails : ∀ vs : List Value, Fails Error.OfReading (literalItems vs)
  | [] => fails_ok _
  | v :: vs => (literal_fails v).bind fun _ _ => (literalItems_fails vs).bind fun _ _ => fails_ok _

theorem literalEntries_fails : ∀ entries : List (Value × Value), Fails Error.OfReading (literalEntries entries)
  | [] => fails_ok _
  | (k, v) :: es => (literal_fails k).bind fun _ _ => (literal_fails v).bind fun _ _ =>
    (literalEntries_fails es).bind fun _ _ => fails_ok _

theorem literalFields_fails : ∀ fields : List (String × Value), Fails Error.OfReading (literalFields fields)
  | [] => fails_ok _
  | (_, v) :: fs => (literal_fails v).bind fun _ _ => (literalFields_fails fs).bind fun _ _ => fails_ok _

end

theorem spelled_fails (v : Value) : Fails Error.OfReading v.spelled := by
  cases v with
  | text s => exact fails_ok _
  | _ => exact literal_fails _

theorem branchText_fails (kind : TreeKind) (raw : Value) : Fails Error.OfReading (branchText kind raw) := by
  cases kind with
  | document => exact Document.write_fails raw
  | embedded name => exact fails_ok _

mutual

theorem toText_fails : ∀ v : Value, Fails Error.OfReading v.toText
  | .absent => fails_ok _
  | .bool _ => fails_ok _
  | .int n => writeWhole_fails n
  | .float _ => fails_ok _
  | .text _ => fails_ok _
  | .octets _ => fails_ok _
  | .date _ => fails_ok _
  | .moment _ => fails_ok _
  | .tree kind raw => by
    rw [toText]
    split
    · exact toText_fails raw
    · exact branchText_fails kind raw
  | .map entries => (entryTexts_fails entries).bind fun _ _ => fails_ok _
  | .list items => (itemTexts_fails items).bind fun _ _ => fails_ok _
  | .tuple items => (itemTexts_fails items).bind fun _ _ => fails_ok _
  | .keys items => (itemTexts_fails items).bind fun _ _ => fails_ok _
  | .record kind name fields => literal_fails (.record kind name fields)

theorem itemTexts_fails : ∀ vs : List Value, Fails Error.OfReading (itemTexts vs)
  | [] => fails_ok _
  | v :: vs => (toText_fails v).bind fun _ _ => (itemTexts_fails vs).bind fun _ _ => fails_ok _

theorem entryTexts_fails : ∀ entries : List (Value × Value), Fails Error.OfReading (entryTexts entries)
  | [] => fails_ok _
  | (k, v) :: es => (toText_fails k).bind fun _ _ => (toText_fails v).bind fun _ _ =>
    (entryTexts_fails es).bind fun _ _ => fails_ok _

end

end Value

end Stencil
