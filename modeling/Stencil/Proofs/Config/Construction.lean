import Stencil.Proofs.Config.Building
import Stencil.Proofs.Keys.History

/-!
Resolvers are checked for cycles when they are made. Main statement: building names is a run of a workshop, so each
resolver that it makes delegates to earlier ones and passes the check.
-/

namespace Stencil.Config

open Workshop

variable {f : Folder} {building : List Label} {built between after kept : Built} {names : List Value} {label : Label}
  {definition : List (Value × Value)} {d : Draft} {rs builtIns : List Resolver} {r : Resolver}
  {out : Result (Built × List Resolver)}

theorem run_workshopOf_nil : (workshopOf []).Run := by
  rw [workshopOf, List.map_nil, List.reverse_nil, List.append_nil]
  exact .start

theorem workshopOf_cons (label : Label) (r : Resolver) (built : Built) :
    workshopOf ((label, r) :: built) = (workshopOf built).grown r := by
  rw [workshopOf, List.map_cons, List.reverse_cons, ← List.append_assoc]
  rfl

theorem made_of_lookup (h : built.lookup label = some r) : r ∈ (workshopOf built).made := by
  obtain ⟨newer, older, rfl, -⟩ := List.lookup_eq_some_iff.1 h
  exact List.mem_append_right _ (by simp)

theorem eq_numbers_of_builtInsAmong (h : builtInsAmong names = .ok builtIns) : ∀ r ∈ builtIns, r = .numbers := by
  induction names generalizing builtIns with
  | nil =>
    cases h
    simp
  | cons name names ih =>
    obtain ⟨label, -, h⟩ := Outcome.bind_eq_ok_iff.1 h
    obtain ⟨others, ho, h⟩ := Outcome.bind_eq_ok_iff.1 h
    obtain rfl := Except.ok.inj h
    split
    · exact List.forall_mem_cons.2 ⟨rfl, ih ho⟩
    · exact ih ho

theorem made_of_builtInsOf (h : builtInsOf definition = .ok builtIns) : builtIns ⊆ (workshopOf built).made := by
  obtain ⟨names, -, h⟩ := Outcome.bind_eq_ok_iff.1 h
  intro r hr
  rw [eq_numbers_of_builtInsAmong h r hr]
  exact List.mem_append_left _ List.mem_cons_self

/-! ## Completing a draft -/

theorem Draft.exists_make (h : d.complete label between rs = .ok (kept, r)) :
    kept = (label, r) :: between ∧ ∃ builtIns, builtInsOf d.definition = .ok builtIns ∧
      (workshopOf between).make d.bindings (rs ++ builtIns) d.defaultNamespace = .ok (workshopOf kept, r) := by
  obtain ⟨builtIns, hb, h⟩ := Outcome.bind_eq_ok_iff.1 h
  obtain ⟨⟨w, made⟩, hmake, h⟩ := Outcome.bind_eq_ok_iff.1 h
  obtain ⟨rfl, rfl⟩ := Prod.mk.inj (Except.ok.inj h)
  refine ⟨rfl, builtIns, hb, ?_⟩
  obtain ⟨rfl, rfl⟩ := Prod.mk.inj (eq_of_make hmake)
  rw [hmake, workshopOf_cons]

theorem Draft.eq_bound (h : d.complete label between rs = .ok (kept, r)) :
    ∃ builtIns, builtInsOf d.definition = .ok builtIns ∧
      r = .bound (workshopOf between).nextId d.bindings (rs ++ builtIns) d.defaultNamespace := by
  obtain ⟨-, builtIns, hb, hmake⟩ := Draft.exists_make h
  exact ⟨builtIns, hb, (Prod.mk.inj (eq_of_make hmake)).2⟩

theorem operands_made (hr : rs ⊆ (workshopOf built).made) (hb : builtInsOf definition = .ok builtIns) :
    rs ++ builtIns ⊆ (workshopOf built).made :=
  List.append_subset.2 ⟨hr, made_of_builtInsOf hb⟩

/-- Where the delegates were made in a run, the check refuses nothing. -/
theorem Draft.complete_eq (hw : (workshopOf built).Run) (hr : rs ⊆ (workshopOf built).made) (label : Label) :
    d.complete label built rs = (builtInsOf d.definition).map fun builtIns =>
      let r := .bound (workshopOf built).nextId d.bindings (rs ++ builtIns) d.defaultNamespace
      ((label, r) :: built, r) := by
  rw [Draft.complete]
  cases hb : builtInsOf d.definition with
  | error e => rfl
  | ok builtIns =>
    rw [Outcome.ok_bind, hw.make_eq (operands_made hr hb)]
    rfl

theorem Draft.run_complete (hw : (workshopOf between).Run) (hr : rs ⊆ (workshopOf between).made)
    (h : d.complete label between rs = .ok (kept, r)) : (workshopOf kept).Run := by
  obtain ⟨-, builtIns, hb, hmake⟩ := Draft.exists_make h
  exact hw.call (c := .make d.bindings (rs ++ builtIns) d.defaultNamespace) (fun s hs => operands_made hr hb hs) hmake

/-- Building goes on with the workshop's run and gives resolvers that were made in it. -/
theorem Builds.run (h : Builds f building built names out) (ho : out = .ok (after, rs))
    (hw : (workshopOf built).Run) :
    (workshopOf after).Run ∧ (workshopOf built).made ⊆ (workshopOf after).made ∧ rs ⊆ (workshopOf after).made := by
  induction h generalizing after rs with
  | nil =>
    cases ho
    exact ⟨hw, List.Subset.refl _, List.nil_subset _⟩
  | known _ _ hr _ ih =>
    obtain ⟨⟨after', rs'⟩, hlater, hb⟩ := Outcome.map_eq_ok_iff.1 ho
    cases hb
    obtain ⟨ha, hmade, hrs⟩ := ih hlater hw
    exact ⟨ha, hmade, List.cons_subset.2 ⟨hmade (made_of_lookup hr), hrs⟩⟩
  | complete _ _ _ hk _ ih ihl =>
    obtain ⟨⟨after', rs'⟩, hlater, hb⟩ := Outcome.map_eq_ok_iff.1 ho
    cases hb
    obtain ⟨hbetween, hmade, hdelegates⟩ := ih rfl hw
    obtain ⟨ha, hkept, hrs⟩ := ihl hlater (Draft.run_complete hbetween hdelegates hk)
    obtain ⟨rfl, -⟩ := Draft.exists_make hk
    rw [workshopOf_cons] at hkept
    have hgrown := List.append_subset.1 hkept
    exact ⟨ha, List.Subset.trans hmade hgrown.1, List.cons_subset.2 ⟨hgrown.2 List.mem_cons_self, hrs⟩⟩
  | _ => cases ho

end Stencil.Config
