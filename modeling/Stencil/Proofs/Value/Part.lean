import Stencil.Proofs.Value.Correspondence

/-!
The parts of a value. Main statement: what a path reads in one step is a part, or nothing is there.
-/

namespace Stencil

open Outcome

theorem Path.exists_of_stepInto {segment : String} {w : Value} {read : Int → Option Value}
    (h : Path.stepInto segment read = .ok w) : w = .absent ∨ ∃ index, read index = some w := by
  obtain ⟨index, -, hread⟩ := bind_eq_ok_iff.1 h
  cases index with
  | none =>
    cases hread
    exact .inl rfl
  | some index =>
    cases he : read index with
    | none => simp_all
    | some found => exact .inr ⟨index, by simp_all⟩

namespace Value

variable {v w : Value} {items : List Value} {segment : String}

/-- A value is a part of another one: an element, the value of an entry, an attribute, or what a node hands out. -/
inductive Holds : Value → Value → Prop
  | list {items : List Value} {v : Value} : v ∈ items → Holds (.list items) v
  | tuple {items : List Value} {v : Value} : v ∈ items → Holds (.tuple items) v
  | keys {items : List Value} {v : Value} : v ∈ items → Holds (.keys items) v
  | map {entries : List (Value × Value)} {entry : Value × Value} : entry ∈ entries → Holds (.map entries) entry.2
  | element {kind : TreeKind} {items : List Value} {v : Value} :
      v ∈ items → Holds (.tree kind (.list items)) (wrapAs kind v)
  | child {kind : TreeKind} {entries : List (Value × Value)} {entry : Value × Value} :
      entry ∈ entries → Holds (.tree kind (.map entries)) (wrapAs kind entry.2)
  | record {kind : RecordKind} {name : String} {fields : List (String × Value)} {field : String × Value} :
      field ∈ fields → Holds (.record kind name fields) field.2

theorem absent_or_of_getD {found : Option Value} {P : Value → Prop} (h : ∀ v, found = some v → P v) :
    found.getD .absent = .absent ∨ P (found.getD .absent) := by
  cases found with
  | none => exact .inl rfl
  | some v => exact .inr (h v rfl)

theorem mem_of_attribute {fields : List (String × Value)} {name : String} (h : attribute? fields name = some v) :
    (name, v) ∈ fields := by
  rw [attribute?] at h
  split at h
  · cases h
  · cases h
  · obtain ⟨before, after, rfl, -⟩ := List.lookup_eq_some_iff.1 h
    simp

theorem holds_of_element {kind : TreeKind} {index : Int} (h : element? kind (.list items) index = some w) :
    Holds (.tree kind (.list items)) w := by
  cases kind with
  | document =>
    obtain ⟨item, hitem, rfl⟩ := Option.map_eq_some_iff.1 h
    exact .element (mem_of_elementAt hitem)
  | embedded name =>
    rw [element?] at h
    split at h
    · exact .element (List.mem_of_getElem? h)
    · cases h

theorem holds_of_step (h : Path.step v segment = .ok w) : w = .absent ∨ Holds v w := by
  cases v with
  | map entries =>
    cases h
    exact absent_or_of_getD fun _ hl => .map (mem_of_lookup hl)
  | tree kind raw =>
    cases raw with
    | list items => exact (Path.exists_of_stepInto h).imp_right fun ⟨_, hi⟩ => holds_of_element hi
    | map entries =>
      cases h
      refine absent_or_of_getD fun found hfound => ?_
      obtain ⟨child, hl, rfl⟩ := Option.map_eq_some_iff.1 hfound
      exact .child (mem_of_lookup hl)
    | _ =>
      cases h
      exact .inl rfl
  | record kind name fields =>
    cases h
    exact absent_or_of_getD fun _ ha => .record (mem_of_attribute ha)
  | list items => exact (Path.exists_of_stepInto h).imp_right fun ⟨_, hi⟩ => .list (mem_of_elementAt hi)
  | tuple items => exact (Path.exists_of_stepInto h).imp_right fun ⟨_, hi⟩ => .tuple (mem_of_elementAt hi)
  | _ =>
    cases h
    exact .inl rfl

end Value

end Stencil
