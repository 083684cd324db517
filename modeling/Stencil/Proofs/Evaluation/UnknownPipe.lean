import Stencil.Proofs.Pipe.Failure
import Stencil.Proofs.Template.Concatenation

/-!
Pipes that no registry knows. Main statement: a template that names one is refused for the first such name, before
anything of it is evaluated; any other template is read, and evaluating it finds all its pipes.
-/

namespace Stencil

open Template Outcome

variable {P : Error → Prop}

/-! ## Known names -/

namespace Registry

variable {r : Registry} {name : String}

def Knows (r : Registry) (name : String) : Prop :=
  (∃ p : StandardPipe, p.name = name) ∨ ∃ p, (name, p) ∈ r.extensions

theorem has_iff_knows : r.has name ↔ r.Knows name := by
  rw [has, find?, Knows]
  cases h : StandardPipe.ofName? name with
  | some p => simpa using .inl ⟨p, StandardPipe.ofName_eq_some_iff.1 h⟩
  | none =>
    have hnone : ¬ ∃ p : StandardPipe, p.name = name := by
      rintro ⟨p, hp⟩
      rw [StandardPipe.ofName_eq_some_iff.2 hp] at h
      cases h
    rw [or_iff_right hnone]
    simp [List.lookup_isSome_iff]

theorem has_eq_false_iff : r.has name = false ↔ ¬ r.Knows name := by
  rw [← has_iff_knows, Bool.not_eq_true]

theorem FailsWith.find (hr : r.FailsWith P) (hP : ∀ err, Error.OfValues err → P err) {p : Pipe}
    (h : r.find? name = some p) : p.FailsWith P := by
  rw [find?] at h
  split at h
  · next standard _ =>
    cases h
    exact (standard.run_fails.mono Error.OfReading.ofValues).mono hP
  · obtain ⟨before, after, hsplit, -⟩ := List.lookup_eq_some_iff.1 h
    exact hr (name, p) (by simp [hsplit])

theorem FailsWith.apply (hr : r.FailsWith P) (hP : ∀ err, Error.OfValues err → P err) (hk : r.Knows name)
    (args : List Value) (v : Value) : Fails P (r.apply name args v) := by
  obtain ⟨p, hp⟩ := Option.isSome_iff_exists.1 (has_iff_knows.2 hk)
  rw [Registry.apply, hp]
  exact hr.find hP hp args v

end Registry

/-! ## What evaluation fails with -/

def Resolver.FailsWith (P : Error → Prop) (r : Resolver) : Prop :=
  ∀ key run, r.resolve key = some (.function run) → ∀ context, Fails P (run key context)

namespace Evaluator

variable {e : Evaluator} {context : Value}

theorem keyOf_fails (e : Evaluator) (k : KeyRef) : Fails Error.OfReading (e.keyOf k) := by
  rw [keyOf]
  cases k.ns with
  | some ns => exact fails_ok _
  | none => exact (Value.toLabel_fails _).bind fun _ _ => fails_ok _

theorem follow_fails (path : Option String) (v : Value) : Fails Error.OfReading (follow path v) := by
  cases path with
  | none => exact fails_ok _
  | some path => exact Path.navigate_fails v path

theorem applyAll_fails {registry : Registry} {ps : List PipeCall}
    (hp : ∀ p ∈ ps, ∀ v, Fails P (p.apply registry v)) (v : Value) : Fails P (applyAll registry ps v) := by
  induction ps generalizing v with
  | nil => exact fails_ok _
  | cons p ps ih =>
    rw [List.forall_mem_cons] at hp
    exact (hp.1 v).bind fun w _ => ih hp.2 w

section

variable (hP : ∀ err, Error.OfReading err → P err)
  (hr : ∀ key run, e.resolver.resolve key = some (.function run) → Fails P (run key context))

include hP hr

theorem lookUp_fails (key : Key) : Fails P (e.lookUp key context) := by
  rw [lookUp]
  cases h : e.resolver.resolve key with
  | none => exact fails_ok _
  | some handler =>
    cases handler with
    | const v => exact fails_ok _
    | function run => exact hr key run h
    | path =>
      dsimp only [Handler.call]
      cases key.name with
      | text name => exact (Path.navigate_fails context name).mono hP
      | scalar s =>
        dsimp only
        split
        · exact (Path.navigate_fails context "").mono hP
        · exact (fails_error _).2 (hP _ trivial)

theorem evaluate_fails {x : Expression} (hp : ∀ p ∈ x.pipes, ∀ v, Fails P (p.apply e.registry v)) :
    Fails P (e.evaluate context x) := by
  refine ((keyOf_fails e x.key).mono hP).bind fun key _ => ?_
  refine (lookUp_fails hP hr key).bind fun found _ => ?_
  refine ((follow_fails x.key.path found).mono hP).bind fun v _ => ?_
  exact (applyAll_fails hp v).bind fun _ _ => fails_ok _

theorem render_fails {nodes : List Node}
    (hp : ∀ x, .expression x ∈ nodes → ∀ p ∈ x.pipes, ∀ v, Fails P (p.apply e.registry v)) :
    Fails P (e.render context nodes) := by
  induction nodes with
  | nil => exact fails_ok _
  | cons node nodes ih =>
    have hnode : Fails P (e.renderNode context node) := by
      cases node with
      | literal text => exact fails_ok _
      | expression x =>
        exact (evaluate_fails hP hr (hp x (by simp))).bind fun v _ => (Value.toText_fails v).mono hP
    exact hnode.bind fun _ _ => (ih fun x hx => hp x (by simp [hx])).bind fun _ _ => fails_ok _

theorem execute_fails {t : Template}
    (hp : ∀ x ∈ t.expressions, ∀ p ∈ x.pipes, ∀ v, Fails P (p.apply e.registry v)) :
    Fails P (e.execute t context) := by
  rw [execute]
  split
  · next x hx => exact evaluate_fails hP hr (hp x (mem_expressions.2 (by simp [nodes_of_single hx])))
  · exact (render_fails hP hr fun x hx => hp x (mem_expressions.2 hx)).bind fun _ _ => fails_ok _

end

theorem execute_failsWith (hP : ∀ err, Error.OfValues err → P err) (hr : e.resolver.FailsWith P)
    (hp : e.registry.FailsWith P) {t : Template} (hk : ∀ name ∈ t.pipeNames, e.registry.Knows name) :
    Fails P (e.execute t context) := by
  refine execute_fails (fun err h => hP err (Error.OfReading.ofValues err h)) ?_ ?_
  · exact fun key run hrun => hr key run hrun context
  · exact fun x hx p hpipe v => hp.apply hP (hk p.name (mem_pipeNames hx hpipe)) _ v

/-! ## The check before evaluation -/

theorem parse_of_first_unknown {source name : String} {t : Template} {before after : List String}
    (ht : Template.parse source = .ok t) (hsplit : t.pipeNames = before ++ name :: after)
    (hbefore : ∀ other ∈ before, e.registry.Knows other) (hname : ¬ e.registry.Knows name) :
    e.parse source = .error (.unknownPipe name) := by
  have hfind : (t.pipeNames.find? fun name => !e.registry.has name) = some name := by
    rw [List.find?_eq_some_iff_append]
    refine ⟨by simpa using Registry.has_eq_false_iff.2 hname, before, after, hsplit, fun other hother => ?_⟩
    simpa [Registry.has_iff_knows] using hbefore other hother
  rw [Evaluator.parse, ht, ok_bind, hfind]

theorem exists_first_unknown {names : List String} (h : ∃ name ∈ names, ¬ e.registry.Knows name) :
    ∃ before name after, names = before ++ name :: after ∧ (∀ other ∈ before, e.registry.Knows other) ∧
      ¬ e.registry.Knows name := by
  have hsome : (names.find? fun name => !e.registry.has name).isSome := by
    simpa [List.find?_isSome, Registry.has_eq_false_iff] using h
  obtain ⟨name, hname⟩ := Option.isSome_iff_exists.1 hsome
  obtain ⟨hunknown, before, after, hsplit, hbefore⟩ := List.find?_eq_some_iff_append.1 hname
  refine ⟨before, name, after, hsplit, fun other hother => ?_, ?_⟩
  · simpa [Registry.has_iff_knows] using hbefore other hother
  · exact Registry.has_eq_false_iff.1 (by simpa using hunknown)

end Evaluator

def Error.NamesNoPipe (err : Error) : Prop := ∀ name, err ≠ .unknownPipe name

theorem Error.OfValues.namesNoPipe : ∀ err, Error.OfValues err → err.NamesNoPipe := by
  rintro _ h name rfl
  exact h

namespace Evaluator

/-- Where a template names an unknown pipe, it fails for the first one in every context, whatever the handlers do. Where
it names none, it is read, and no unknown pipe is reported unless a handler or an extension itself does so. -/
theorem eval_finds_pipes (e : Evaluator) {source : String} {t : Template} (ht : Template.parse source = .ok t) :
    ((∃ name ∈ t.pipeNames, ¬ e.registry.Knows name) →
      ∃ before name after, t.pipeNames = before ++ name :: after ∧ (∀ other ∈ before, e.registry.Knows other) ∧
        ¬ e.registry.Knows name ∧ ∀ context, e.eval source context = .error (.unknownPipe name)) ∧
      ((∀ name ∈ t.pipeNames, e.registry.Knows name) →
        e.parse source = .ok t ∧
          (e.resolver.FailsWith Error.NamesNoPipe → e.registry.FailsWith Error.NamesNoPipe →
            ∀ context,
              Fails Error.NamesNoPipe (e.execute t context) ∧ Fails Error.NamesNoPipe (e.eval source context))) := by
  constructor
  · intro h
    obtain ⟨before, name, after, hsplit, hbefore, hname⟩ := exists_first_unknown h
    refine ⟨before, name, after, hsplit, hbefore, hname, fun context => ?_⟩
    rw [eval, parse_of_first_unknown ht hsplit hbefore hname, error_bind]
  · intro hk
    have hparse : e.parse source = .ok t :=
      (parse_eq_ok_iff_known e).2 ⟨ht, fun name hname => Registry.has_iff_knows.2 (hk name hname)⟩
    refine ⟨hparse, fun hr hp context => ?_⟩
    have hexecute : Fails Error.NamesNoPipe (e.execute t context) :=
      execute_failsWith Error.OfValues.namesNoPipe hr hp hk
    refine ⟨hexecute, ?_⟩
    rw [eval, hparse, ok_bind]
    exact hexecute

def failing : Evaluator :=
  ⟨.foreign 0 "Failing" (fun _ => some (.function fun _ _ => .error .wrongType)) (.text "field"),
    .standard ⟨2024, 2, 29⟩⟩

theorem failing_finds_pipes :
    (∀ context, failing.eval "$\x7ba|string.trim|nope\x7d$\x7bb|zip\x7d" context = .error (.unknownPipe "nope")) ∧
      ∀ context, Fails Error.NamesNoPipe (failing.eval "$\x7ba|string.trim\x7d" context) := by
  constructor
  · have ht : Template.parse "$\x7ba|string.trim|nope\x7d$\x7bb|zip\x7d" = .ok ⟨[
        .expression ⟨⟨none, "a", none⟩, [⟨"string.trim", []⟩, ⟨"nope", []⟩], "a|string.trim|nope"⟩,
        .expression ⟨⟨none, "b", none⟩, [⟨"zip", []⟩], "b|zip"⟩]⟩ := by cbv
    obtain ⟨before, name, after, -, -, -, h⟩ :=
      (eval_finds_pipes failing ht).1 ⟨"nope", by decide, Registry.has_eq_false_iff.1 (by cbv)⟩
    have hnope : failing.eval "$\x7ba|string.trim|nope\x7d$\x7bb|zip\x7d" .absent = .error (.unknownPipe "nope") := by
      cbv
    rw [h] at hnope
    cases hnope
    exact h
  · have ht : Template.parse "$\x7ba|string.trim\x7d" = .ok ⟨[
        .expression ⟨⟨none, "a", none⟩, [⟨"string.trim", []⟩], "a|string.trim"⟩]⟩ := by cbv
    refine fun context => (((eval_finds_pipes failing ht).2 ?_).2 ?_ ?_ context).2
    · intro name hname
      obtain rfl : name = "string.trim" := by simpa [pipeNames, expressions] using hname
      exact Registry.has_iff_knows.1 (by cbv)
    · rintro key run hrun context
      cases hrun
      exact (fails_error _).2 (Error.OfValues.namesNoPipe _ trivial)
    · exact fun entry hentry args v =>
        (Registry.standard_fails _ entry hentry args v).mono Error.OfValues.namesNoPipe

end Evaluator

end Stencil
