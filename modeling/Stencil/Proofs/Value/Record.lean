import Stencil.Proofs.Association
import Stencil.Proofs.Value.Part

/-!
Records and what stands for them. Main statements: looking up after a replacement is replacing what a look-up finds, and
outside readers see the public attributes of a record.
-/

namespace Stencil.Value

variable {v w : Value} {fields : List (String × Value)} {segment : String}

/-- Values that hold nothing and are no nodes. -/
def isScalar : Value → Bool
  | .absent => true
  | .bool _ => true
  | .int _ => true
  | .float _ => true
  | .text _ => true
  | .octets _ => true
  | .date _ => true
  | .moment _ => true
  | _ => false

/-- Scalars, and lists, tuples, maps with texts for keys, and records made of them. -/
inductive IsHost : Value → Prop
  | scalar {v : Value} : v.isScalar → IsHost v
  | list {items : List Value} : (∀ v ∈ items, IsHost v) → IsHost (.list items)
  | tuple {items : List Value} : (∀ v ∈ items, IsHost v) → IsHost (.tuple items)
  | map {entries : List (Value × Value)} :
      (∀ entry ∈ entries, ∃ s, entry.1 = .text s) → (∀ entry ∈ entries, IsHost entry.2) → IsHost (.map entries)
  | record {kind : RecordKind} {name : String} {fields : List (String × Value)} :
      (∀ field ∈ fields, field.1 ≠ "") → (∀ field ∈ fields, IsHost field.2) → IsHost (.record kind name fields)

abbrev Replacement := RecordKind → String → List (String × Value) → Value

mutual

/-- Replaces every record, those inside of others first. -/
def replaceRecords (f : Replacement) : Value → Value
  | .list items => .list (replaceItems f items)
  | .tuple items => .tuple (replaceItems f items)
  | .map entries => .map (replaceEntries f entries)
  | .record kind name fields => f kind name (replaceFields f fields)
  | v => v

def replaceItems (f : Replacement) : List Value → List Value
  | [] => []
  | v :: vs => replaceRecords f v :: replaceItems f vs

def replaceEntries (f : Replacement) : List (Value × Value) → List (Value × Value)
  | [] => []
  | (k, v) :: es => (k, replaceRecords f v) :: replaceEntries f es

def replaceFields (f : Replacement) : List (String × Value) → List (String × Value)
  | [] => []
  | (name, v) :: fs => (name, replaceRecords f v) :: replaceFields f fs

end

def isPublic (name : String) : Bool := name.toList.head? ≠ some '_'

def publicFields (fields : List (String × Value)) : List (String × Value) :=
  fields.filter fun field => isPublic field.1

def recordsAsMaps : Value → Value :=
  replaceRecords fun _ _ fields => .map ((publicFields fields).map (Prod.map .text id))

def withoutPrivate : Value → Value := replaceRecords fun kind name fields => .record kind name (publicFields fields)

/-! ## Look-ups after a replacement -/

section Replaced

variable (f : Replacement) (g : Value → Value)

theorem replaceItems_eq_map (items : List Value) : replaceItems f items = items.map (replaceRecords f) := by
  induction items with
  | nil => rfl
  | cons v vs ih => rw [replaceItems, ih, List.map_cons]

theorem replaceEntries_eq_map (entries : List (Value × Value)) :
    replaceEntries f entries = entries.map (Prod.map id (replaceRecords f)) := by
  induction entries with
  | nil => rfl
  | cons entry es ih =>
    rw [replaceEntries, ih]
    rfl

theorem replaceFields_eq_map (fields : List (String × Value)) :
    replaceFields f fields = fields.map (Prod.map id (replaceRecords f)) := by
  induction fields with
  | nil => rfl
  | cons field fs ih =>
    rw [replaceFields, ih]
    rfl

theorem replaceRecords_of_isScalar (h : v.isScalar) : replaceRecords f v = v := by
  cases v with
  | list => cases h
  | tuple => cases h
  | map => cases h
  | record => cases h
  | _ => rfl

theorem elementAt_map (items : List Value) :
    elementAt? (items.map g) = fun index => (elementAt? items index).map g := by
  funext index
  simp only [elementAt?, List.length_map, List.getElem?_map]
  split
  · rfl
  · split <;> rfl

theorem lookup_map (entries : List (Value × Value)) (name : String) :
    lookup? (entries.map (Prod.map id g)) name = (lookup? entries name).map g := by
  induction entries with
  | nil => rfl
  | cons entry rest ih =>
    obtain ⟨key, value⟩ := entry
    cases key with
    | text s =>
      by_cases hs : s = name
      · simp [lookup?, hs]
      · simpa [lookup?, hs] using ih
    | _ => exact ih

theorem attribute_map (fields : List (String × Value)) (name : String) :
    attribute? (fields.map (Prod.map id g)) name = (attribute? fields name).map g := by
  rw [attribute?, attribute?]
  split
  · rfl
  · rfl
  · exact Assoc.lookup_map g fields name

end Replaced

/-! ## Hosts -/

theorem IsHost.of_holds (h : v.IsHost) (hw : Holds v w) : w.IsHost := by
  cases h with
  | list h =>
    cases hw with
    | list hm => exact h _ hm
  | tuple h =>
    cases hw with
    | tuple hm => exact h _ hm
  | map _ h =>
    cases hw with
    | map hm => exact h _ hm
  | record _ h =>
    cases hw with
    | record hm => exact h _ hm
  | scalar hs => cases hw <;> cases hs

theorem IsHost.step (h : v.IsHost) (hw : Path.step v segment = .ok w) : w.IsHost := by
  rcases holds_of_step hw with rfl | hholds
  · exact .scalar rfl
  · exact h.of_holds hholds

theorem IsHost.unwrap_eq (h : v.IsHost) : v.unwrap = v := by
  cases h with
  | @scalar v hs =>
    cases v with
    | tree => cases hs
    | _ => rfl
  | _ => rfl

/-! ## Public attributes -/

theorem attribute_eq_lookup (h : ∀ field ∈ fields, field.1 ≠ "") (name : String) :
    attribute? fields name = (publicFields fields).lookup name := by
  rw [publicFields, Assoc.lookup_filter, attribute?]
  split
  · next he =>
    obtain rfl : name = "" := by simpa using he
    have hnone : fields.lookup "" = none := List.lookup_eq_none_iff.2 fun field hm => by simpa using (h field hm).symm
    rw [hnone, ite_self]
  · next he => simp [isPublic, he]
  · next hempty hprivate =>
    have hpublic : isPublic name := by
      cases hname : name.toList with
      | nil => exact absurd hname hempty
      | cons c cs =>
        have hc : c ≠ '_' := fun hc => hprivate cs (by rw [hname, hc])
        simpa [isPublic, hname] using hc
    rw [if_pos hpublic]

theorem publicFields_publicFields (fields : List (String × Value)) :
    publicFields (publicFields fields) = publicFields fields := by
  rw [publicFields, publicFields, List.filter_filter]
  simp

theorem lookup_textKeys (fields : List (String × Value)) (name : String) :
    lookup? (fields.map (Prod.map .text id)) name = fields.lookup name := by
  induction fields with
  | nil => rfl
  | cons field fields ih =>
    rw [List.map_cons, Prod.map, lookup?, List.lookup_cons, ih]
    by_cases hn : field.1 = name
    · simp [hn]
    · have hne : (name == field.1) = false := beq_eq_false_iff_ne.2 (Ne.symm hn)
      simp [hn, hne]

end Stencil.Value
