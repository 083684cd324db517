import Stencil.Proofs.Value.Record

/-!
Records read as maps. Main statement: a path finds in maps of public attributes what it finds in the records, so no path
tells apart values that differ in private attributes.
-/

namespace Stencil.Path

open Outcome Value

variable {v : Value} {f : Replacement}

structure ReadsAlike (f : Replacement) : Prop where
  unwrap_eq : ∀ kind name fields, (f kind name fields).unwrap = f kind name fields
  step_eq : ∀ kind name fields, (∀ field ∈ fields, field.1 ≠ "") → ∀ segment,
    step (f kind name fields) segment = step (.record kind name fields) segment

theorem readsAlike_asMap :
    ReadsAlike fun _ _ fields => .map ((publicFields fields).map (Prod.map .text id)) where
  unwrap_eq _ _ _ := rfl
  step_eq _ _ fields h segment := by
    rw [step, step, property, lookup_textKeys, attribute_eq_lookup h]

theorem readsAlike_publicFields : ReadsAlike fun kind name fields => .record kind name (publicFields fields) where
  unwrap_eq _ _ _ := rfl
  step_eq _ _ fields h segment := by
    have hpublic : ∀ field ∈ publicFields fields, field.1 ≠ "" := fun field hm => h field (List.mem_of_mem_filter hm)
    rw [step, step, property, property, attribute_eq_lookup hpublic, publicFields_publicFields,
      attribute_eq_lookup h]

theorem stepInto_map (g : Value → Value) (hg : g .absent = .absent) (read : Int → Option Value) (segment : String) :
    stepInto segment (fun index => (read index).map g) = (stepInto segment read).map g := by
  rw [stepInto, stepInto]
  cases wholeOfText? segment with
  | error err => rfl
  | ok index =>
    cases index with
    | none => exact congrArg Except.ok hg.symm
    | some index =>
      simp only [ok_bind, pure_eq_ok, Except.map]
      cases read index with
      | none => exact congrArg Except.ok hg.symm
      | some found => rfl

theorem step_of_isScalar (h : v.isScalar) (segment : String) : step v segment = .ok .absent := by
  cases v with
  | list => cases h
  | tuple => cases h
  | map => cases h
  | tree => cases h
  | record => cases h
  | _ => rfl

theorem getD_map_replaceRecords (f : Replacement) (found : Option Value) :
    (found.map (replaceRecords f)).getD .absent = replaceRecords f (found.getD .absent) := by
  cases found <;> rfl

theorem step_replaceRecords (hf : ReadsAlike f) (h : v.IsHost) (segment : String) :
    step (v.replaceRecords f) segment = (step v segment).map (replaceRecords f) := by
  cases h with
  | list =>
    rw [replaceRecords, replaceItems_eq_map, step, step, elementAt_map]
    exact stepInto_map _ rfl _ _
  | tuple =>
    rw [replaceRecords, replaceItems_eq_map, step, step, elementAt_map]
    exact stepInto_map _ rfl _ _
  | map =>
    rw [replaceRecords, replaceEntries_eq_map, step, step, lookup_map, getD_map_replaceRecords]
    rfl
  | @record kind name fields hnames _ =>
    have hreplaced : ∀ field ∈ fields.map (Prod.map id (replaceRecords f)), field.1 ≠ "" :=
      List.forall_mem_map.2 hnames
    rw [replaceRecords, replaceFields_eq_map, hf.step_eq _ _ _ hreplaced, step, step, property, property, attribute_map,
      getD_map_replaceRecords]
    rfl
  | scalar hs =>
    rw [replaceRecords_of_isScalar f hs, step_of_isScalar hs]
    rfl

theorem unwrap_replaceRecords (hf : ReadsAlike f) (h : v.IsHost) : (v.replaceRecords f).unwrap = v.replaceRecords f := by
  cases h with
  | record => exact hf.unwrap_eq _ _ _
  | scalar hs =>
    rw [replaceRecords_of_isScalar f hs]
    exact (IsHost.scalar hs).unwrap_eq
  | _ => rfl

theorem walk_replaceRecords (hf : ReadsAlike f) (h : v.IsHost) (segments : List String) :
    walk (v.replaceRecords f) segments = (walk v segments).map (replaceRecords f) := by
  induction segments generalizing v with
  | nil =>
    rw [walk, walk, unwrap_replaceRecords hf h, h.unwrap_eq]
    rfl
  | cons segment rest ih =>
    rw [walk_cons, walk_cons, step_replaceRecords hf h]
    cases hs : step v segment with
    | error err => rfl
    | ok found => exact ih (h.step hs)

/-- A path finds in the maps of public attributes what it finds in the records. Where two values differ in private
attributes only, so do what a path finds in them. -/
theorem navigate_records_as_maps (v : Value) (h : v.IsHost) (path : String) :
    navigate v.recordsAsMaps path = (navigate v path).map recordsAsMaps ∧
      ∀ w : Value, w.IsHost → v.withoutPrivate = w.withoutPrivate →
        (navigate v path).map withoutPrivate = (navigate w path).map withoutPrivate := by
  refine ⟨walk_replaceRecords readsAlike_asMap h _, fun w hw hvw => ?_⟩
  have hv : navigate v.withoutPrivate path = (navigate v path).map withoutPrivate :=
    walk_replaceRecords readsAlike_publicFields h _
  rw [← hv, hvw]
  exact walk_replaceRecords readsAlike_publicFields hw _

/-- A user whose session is a private attribute. -/
def user (session : String) : Value :=
  .record .plain "User"
    [("_session", .text session), ("home", .record .named "Place" [("city", .text "Bern")])]

def visitor (session : String) : Value := .map [(.text "users", .list [user session])]

theorem visitor_isHost (session : String) : (visitor session).IsHost := by
  have hhome : (Value.record .named "Place" [("city", .text "Bern")]).IsHost :=
    .record (by simp) (by simpa using .scalar rfl)
  have huser : (user session).IsHost := .record (by simp) (by simpa using ⟨.scalar rfl, hhome⟩)
  exact .map (by simp) (by simpa using .list (by simpa using huser))

theorem navigate_records_as_maps_visitor :
    navigate (visitor "a").recordsAsMaps "users.-1" =
        .ok (.map [(.text "home", .map [(.text "city", .text "Bern")])]) ∧
      (navigate (visitor "a") "users.-1").map withoutPrivate = (navigate (visitor "b") "users.-1").map withoutPrivate ∧
      navigate (visitor "a") "users.0._session" = .ok .absent := by
  obtain ⟨hmaps, hprivate⟩ := navigate_records_as_maps (visitor "a") (visitor_isHost "a") "users.-1"
  have hfound : navigate (visitor "a") "users.-1" = .ok (user "a") := rfl
  refine ⟨?_, hprivate (visitor "b") (visitor_isHost "b") rfl, rfl⟩
  rw [hmaps, hfound]
  rfl

end Stencil.Path
