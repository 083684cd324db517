import Stencil.Proofs.Evaluation.DocumentNode
import Stencil.Proofs.Pipe.LeafNode
import Stencil.Proofs.Template.Concatenation

/-!
References that lead to a leaf which holds nothing. Main statement: pipes read a leaf by its host value, and where an
expression without pipes is absent, the same with pipes is absent too, unless the first of them tells such a leaf from
absence.
-/

namespace Stencil

open Outcome

/-- The pipe tells a leaf that holds nothing from absence. -/
def Template.PipeCall.TellsApart (p : PipeCall) : Prop := Registry.TellsApart p.name (p.args.map .text)

namespace Evaluator

open Template Value

variable {today : Calendar.Date} {resolver : Resolver} {context v w : Value} {ps : List PipeCall} {x y : Expression}
  {e : Evaluator} {source : String}

theorem applyAll_absent (hps : ∀ p ∈ ps, (Registry.standard today).has p.name) :
    applyAll (.standard today) ps .absent = .ok .absent := by
  induction ps with
  | nil => rfl
  | cons p ps ih =>
    rw [List.forall_mem_cons] at hps
    rw [applyAll, PipeCall.apply, Registry.apply_absent hps.1, ok_bind]
    exact ih hps.2

/-- The first pipe decides: past it, nothing comes of nothing. -/
theorem applyAll_of_unwrap_absent (hv : v.unwrap = .absent) (hps : ∀ p ∈ ps, (Registry.standard today).has p.name)
    (hfirst : v = .absent ∨ ∀ p ∈ ps.head?, ¬ p.TellsApart) :
    ∃ w, applyAll (.standard today) ps v = .ok w ∧ w.unwrap = .absent := by
  rcases eq_absent_of_unwrap hv with rfl | hleaf
  · exact ⟨.absent, applyAll_absent hps, rfl⟩
  · cases ps with
    | nil => exact ⟨v, rfl, hv⟩
    | cons p ps =>
      rw [List.forall_mem_cons] at hps
      have hp : ¬ p.TellsApart := by
        rcases hfirst with rfl | hfirst
        · cases hleaf
        · exact hfirst p rfl
      have hsame := (Registry.apply_leaf_eq_iff today p.name p.args hleaf).2 fun h => hp h.2
      refine ⟨.absent, ?_, rfl⟩
      rw [applyAll, PipeCall.apply, hsame, Registry.apply_absent hps.1, ok_bind]
      exact applyAll_absent hps.2

def ReadsSingle (e : Evaluator) (source : String) (x : Expression) : Prop :=
  ∃ t, e.parse source = .ok t ∧ t.single? = some x

theorem ReadsSingle.eval_eq (h : e.ReadsSingle source x) (context : Value) :
    e.eval source context = e.evaluate context x := by
  obtain ⟨t, ht, hsingle⟩ := h
  rw [eval, ht, ok_bind, execute, hsingle]

theorem ReadsSingle.has (h : e.ReadsSingle source x) : ∀ p ∈ x.pipes, e.registry.has p.name := by
  obtain ⟨t, ht, hsingle⟩ := h
  have hx : x ∈ t.expressions := by
    rw [mem_expressions, nodes_of_single hsingle]
    simp
  exact fun p hp => ((parse_eq_ok_iff_known e).1 ht).2 _ (mem_pipeNames hx hp)

theorem evaluate_absent_of_plain (hplain : x.pipes = []) (hkey : y.key = x.key)
    (hps : ∀ p ∈ y.pipes, (Registry.standard today).has p.name)
    (h : evaluate ⟨resolver, .standard today⟩ context x = .ok .absent)
    (hfirst : referent ⟨resolver, .standard today⟩ context x.key = .ok .absent ∨ ∀ p ∈ y.pipes.head?, ¬ p.TellsApart) :
    evaluate ⟨resolver, .standard today⟩ context y = .ok .absent := by
  rw [evaluate_eq_referent, hplain] at h
  obtain ⟨v, hv, h⟩ := bind_eq_ok_iff.1 h
  have habsent : v.unwrap = .absent := Except.ok.inj h
  have hfirst : v = .absent ∨ ∀ p ∈ y.pipes.head?, ¬ p.TellsApart :=
    hfirst.imp_left fun hr => Except.ok.inj (hv.symm.trans hr)
  obtain ⟨w, hw, hwabsent⟩ := applyAll_of_unwrap_absent habsent hps hfirst
  rw [evaluate_eq_referent, hkey, hv, ok_bind, hw, ok_bind, hwabsent]
  rfl

/-- Pipes read leaves by their host values, save where one tells a leaf that holds nothing from absence; so nothing comes
of a reference to nothing unless the first pipe does so. -/
theorem leaves_count_as_hosts (today : Calendar.Date) :
    (∀ name (args : List String) v w, StandsFor v w →
      ((Registry.standard today).apply name (args.map .text) v = (Registry.standard today).apply name (args.map .text) w ↔
        ¬ (w = .absent ∧ Registry.TellsApart name (args.map .text)))) ∧
      (∀ name ∈ Registry.blankNames, ∀ (args : List String) v, StandsFor v .absent →
        (Registry.standard today).apply name (args.map .text) v =
          (Registry.standard today).apply name (args.map .text) (.text "")) ∧
      ∀ resolver context plain piped x y, ReadsSingle ⟨resolver, .standard today⟩ plain x →
        ReadsSingle ⟨resolver, .standard today⟩ piped y → x.pipes = [] → y.key = x.key →
        eval ⟨resolver, .standard today⟩ plain context = .ok .absent →
        (referent ⟨resolver, .standard today⟩ context x.key = .ok .absent ∨ ∀ p ∈ y.pipes.head?, ¬ p.TellsApart) →
        eval ⟨resolver, .standard today⟩ piped context = .ok .absent := by
  refine ⟨fun name args v w h => Registry.apply_leaf_eq_iff today name args h,
    fun name hname args v h => Registry.apply_leaf_of_blank today hname h _, ?_⟩
  intro resolver context plain piped x y hx hy hplain hkey h hfirst
  rw [hx.eval_eq] at h
  rw [hy.eval_eq]
  exact evaluate_absent_of_plain hplain hkey hy.has h hfirst

/-- A key whose value is the leaf of a document that holds nothing. -/
def holdingNothing : Resolver := .bound 0 [(.ofText "field" "k", .const (.node .absent))] [] (.text "field")

theorem leaves_count_as_hosts_nothing :
    (Registry.standard ⟨2025, 1, 20⟩).apply "string.upperCase" [] (.node (.bool true)) = .ok (.text "TRUE") ∧
      (Registry.standard ⟨2025, 1, 20⟩).apply "string.upperCase" [] (.node .absent) = .ok (.text "") ∧
      (Registry.standard ⟨2025, 1, 20⟩).apply "string.upperCase" [] (.node .absent) ≠
        (Registry.standard ⟨2025, 1, 20⟩).apply "string.upperCase" [] .absent ∧
      eval ⟨holdingNothing, .standard ⟨2025, 1, 20⟩⟩ "$\x7bk | first | string.upperCase\x7d" .absent = .ok .absent := by
  obtain ⟨hleaf, hblank, hchain⟩ := leaves_count_as_hosts ⟨2025, 1, 20⟩
  refine ⟨?_, ?_, ?_, ?_⟩
  · rw [show ([] : List Value) = ([] : List String).map .text from rfl,
      (hleaf "string.upperCase" [] _ (.bool true) (.leaf rfl rfl)).2 (by simp)]
    cbv
  · rw [show ([] : List Value) = ([] : List String).map .text from rfl,
      hblank "string.upperCase" (by decide) [] _ (.leaf rfl rfl)]
    cbv
  · exact fun he => (hleaf "string.upperCase" [] _ .absent (.leaf rfl rfl)).1 he ⟨rfl, .inl (by decide)⟩
  · refine hchain holdingNothing .absent "$\x7bk\x7d" _ ⟨⟨none, "k", none⟩, [], "k"⟩
      ⟨⟨none, "k", none⟩, [⟨"first", []⟩, ⟨"string.upperCase", []⟩], "k | first | string.upperCase"⟩
      ⟨⟨[.expression _]⟩, by cbv, rfl⟩ ⟨⟨[.expression _]⟩, by cbv, rfl⟩ rfl rfl (by cbv) (.inr ?_)
    rintro p ⟨⟩ h
    exact absurd ((Registry.tellsApart_standard_iff .first).1 h).1 (by decide)

end Evaluator

end Stencil
