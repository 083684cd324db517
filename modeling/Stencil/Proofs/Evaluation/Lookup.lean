import Stencil.Proofs.Evaluation.Footprint
import Stencil.Proofs.Text.Trimming
import Stencil.Proofs.Value.Leaf

/-!
Looking a path up and evaluating a template that refers to it. Main statement: the template whose only expression is a
dotted reference, in the default namespace or with that namespace written out, has the outcome of the lookup.
-/

namespace Stencil

open Outcome Template

/-- A name without dots, and after a dot a path or nothing; no character in it parts a template or an expression. -/
structure IsDotted (p : String) : Prop where
  nameThenPath : ∃ name : String, name ≠ "" ∧ '.' ∉ name.toList ∧
    (p = name ∨ ∃ path, path ≠ "" ∧ p = name ++ "." ++ path)
  noMark : ∀ c ∈ p.toList, c ≠ ':' ∧ c ≠ '|' ∧ c ≠ '}'
  noOpenMark : ¬ openMark <:+: p.toList
  noBlankFirst : ∀ c ∈ p.toList.head?, Text.isBlank c = false
  noBlankLast : ∀ c ∈ p.toList.getLast?, Text.isBlank c = false
  noDollar : p.toList.head? ≠ some '$'

namespace IsDotted

variable {p : String}

theorem toList_ne_nil (hp : IsDotted p) : p.toList ≠ [] := by
  obtain ⟨name, hname, -, rfl | ⟨path, -, rfl⟩⟩ := hp.nameThenPath
  · simpa using hname
  · simp

theorem trim_eq (hp : IsDotted p) : Text.trim p.toList = p.toList := Text.trim_of_ends hp.noBlankFirst hp.noBlankLast

theorem exists_readsName (hp : IsDotted p) :
    ∃ name path, ReadsName p.toList name path ∧ Path.split name = [name] ∧
      Path.split p = name :: (path.map Path.split).getD [] := by
  obtain ⟨name, hne, hdot, rfl | ⟨path, hpath, rfl⟩⟩ := hp.nameThenPath
  · have hsplit : Path.split p = [p] := Path.split_name hne hdot
    exact ⟨p, none, ⟨p.toList, by simpa using hne, hdot, by simp [textOf], .inl ⟨rfl, rfl⟩⟩, hsplit, hsplit⟩
  · have hlist : (name ++ "." ++ path).toList = name.toList ++ '.' :: path.toList := by simp
    have hread : ReadsName (name ++ "." ++ path).toList name (some path) :=
      ⟨name.toList, by simpa using hne, hdot, by simp [textOf], .inr ⟨path.toList, hlist, by simp [hpath, textOf]⟩⟩
    refine ⟨name, some path, hread, Path.split_name hne hdot, ?_⟩
    have hp' : name ++ "." ++ path ≠ "" := fun he => hp.toList_ne_nil (by rw [he]; rfl)
    rw [Path.split, if_neg hp', hlist, Text.splitChar_append_sep hdot]
    simp [Path.split, hpath]

theorem withNamespace (hp : IsDotted p) :
    (∀ c ∈ Key.defaultNamespace.toList ++ ':' :: p.toList, c ≠ '|' ∧ c ≠ '}') ∧
      (¬ openMark <:+: Key.defaultNamespace.toList ++ ':' :: p.toList) ∧
      Text.trim (Key.defaultNamespace.toList ++ ':' :: p.toList) = Key.defaultNamespace.toList ++ ':' :: p.toList := by
  have hsplit : Key.defaultNamespace.toList ++ ':' :: p.toList =
      (Key.defaultNamespace.toList ++ [':']) ++ p.toList := by
    simp
  have hmark : ∀ c ∈ Key.defaultNamespace.toList ++ [':'], c ≠ '|' ∧ c ≠ '}' := by simp [Key.defaultNamespace]
  have hopen : ¬ openMark <:+: Key.defaultNamespace.toList ++ [':'] := by decide
  have hjoins : Joins (Key.defaultNamespace.toList ++ [':']) p.toList := by simp [Joins]
  rw [hsplit]
  refine ⟨List.forall_mem_append.2 ⟨hmark, fun c hc => (hp.noMark c hc).2⟩, ?_, Text.trim_of_ends ?_ fun c hc => ?_⟩
  · rw [openMark_infix_append hjoins]
    exact not_or.2 ⟨hopen, hp.noOpenMark⟩
  · simp [Key.defaultNamespace]
    decide
  · rw [List.getLast?_append_of_ne_nil _ hp.toList_ne_nil] at hc
    exact hp.noBlankLast c hc

end IsDotted

namespace Evaluator

variable {context : Value}

theorem eval_braced (e : Evaluator) {body : List Char} {x : Expression} (hclose : '}' ∉ body)
    (hopen : ¬ openMark <:+: body) (hx : ReadsBody body x) (hpipes : x.pipes = []) :
    e.eval (braced (textOf body)) context = e.evaluate context x := by
  have hparse : e.parse (braced (textOf body)) = .ok ⟨[.expression x]⟩ :=
    (parse_eq_ok_iff_known e).2 ⟨parse_braced hclose hopen hx, by simp [pipeNames, expressions, hpipes]⟩
  rw [eval, hparse, ok_bind, execute, single?]

theorem evaluate_reference (registry : Registry) (h : context.HasScalarLeaves) {x : Expression} (hpipes : x.pipes = [])
    (hns : x.key.ns = none ∨ x.key.ns = some Key.defaultNamespace) (hname : Path.split x.key.name = [x.key.name]) :
    evaluate ⟨.fromContext, registry⟩ context x =
      Path.walk context (x.key.name :: (x.key.path.map Path.split).getD []) := by
  have hdefault : x.key.ns.getD Key.defaultNamespace = Key.defaultNamespace := by
    rcases hns with hns | hns <;> rw [hns] <;> rfl
  rw [evaluate, keyOf_fromContext, ok_bind, lookUp_fromContext, if_pos hdefault, Path.navigate, hname, hpipes,
    Path.walk_cons, Path.walk_cons]
  cases hs : Path.step context x.key.name with
  | error err => rfl
  | ok found =>
    -- What the name finds is unwrapped before the rest of the path is followed, and once more at the end.
    have hleaves := h.step hs
    rw [ok_bind, ok_bind, Path.walk, ok_bind]
    cases x.key.path with
    | none =>
      simp only [follow, applyAll, ok_bind, Option.map_none, Option.getD_none, Path.walk, pure_eq_ok]
      rw [hleaves.unwrap_unwrap]
    | some path =>
      rw [follow, Path.navigate, hleaves.walk_unwrap, Option.map_some, Option.getD_some]
      cases hw : Path.walk found (Path.split path) with
      | error err => rfl
      | ok w =>
        simp only [applyAll, ok_bind, pure_eq_ok]
        rw [hleaves.unwrap_of_walk hw]

theorem getPath_of_dotted {p : String} (hp : IsDotted p) : getPath p context = Path.walk context (Path.split p) :=
  getPath_of_head hp.noDollar context

theorem eval_of_readsKey (registry : Registry) (h : context.HasScalarLeaves) {body : List Char} {k : KeyRef}
    (hmark : ∀ c ∈ body, c ≠ '|' ∧ c ≠ '}') (hopen : ¬ openMark <:+: body) (hk : ReadsKey body k)
    (hns : k.ns = none ∨ k.ns = some Key.defaultNamespace) (hname : Path.split k.name = [k.name]) :
    eval ⟨.fromContext, registry⟩ (braced (textOf body)) context =
      Path.walk context (k.name :: (k.path.map Path.split).getD []) := by
  have hbar : '|' ∉ body := fun hc => (hmark _ hc).1 rfl
  have hclose : '}' ∉ body := fun hc => (hmark _ hc).2 rfl
  have hbody : ReadsBody body ⟨k, [], textOf body⟩ :=
    ⟨rfl, body, [], Text.splitChar_eq_iff.1 (Text.splitChar_of_notMem hbar), hk, .nil⟩
  rw [eval_braced _ hclose hopen hbody rfl]
  exact evaluate_reference registry h rfl hns hname

/-- A dotted reference means the same in a template, with the default namespace written or not, and in a lookup. -/
theorem eval_eq_getPath (registry : Registry) {p : String} (hp : IsDotted p) {context : Value}
    (h : context.HasScalarLeaves) :
    eval ⟨.fromContext, registry⟩ (braced p) context = getPath p context ∧
      eval ⟨.fromContext, registry⟩ (braced (Key.defaultNamespace ++ ":" ++ p)) context = getPath p context := by
  obtain ⟨name, path, hname, hsplit, hwhole⟩ := hp.exists_readsName
  rw [getPath_of_dotted hp, hwhole]
  constructor
  · have hkey : ReadsKey p.toList ⟨none, name, path⟩ := by
      rw [ReadsKey, hp.trim_eq]
      exact .inl ⟨fun hc => (hp.noMark _ hc).1 rfl, rfl, hname⟩
    have hbody : p = textOf p.toList := by simp [textOf]
    rw [hbody]
    exact eval_of_readsKey registry h (fun c hc => (hp.noMark c hc).2) hp.noOpenMark hkey (.inl rfl) hsplit
  · obtain ⟨hmark, hopen, htrim⟩ := hp.withNamespace
    have hkey : ReadsKey (Key.defaultNamespace.toList ++ ':' :: p.toList) ⟨some Key.defaultNamespace, name, path⟩ := by
      rw [ReadsKey, htrim]
      refine .inr ⟨Key.defaultNamespace.toList, p.toList, rfl, by decide, by decide, by cbv, ?_⟩
      rw [hp.trim_eq]
      exact hname
    have hbody : Key.defaultNamespace ++ ":" ++ p = textOf (Key.defaultNamespace.toList ++ ':' :: p.toList) := by
      simp [textOf, ← String.toList_inj]
    rw [hbody]
    exact eval_of_readsKey registry h hmark hopen hkey (.inr rfl) hsplit

/-- An order with one line, whose name holds a blank. -/
def order : Value := .map [(.text "lines", .map [(.text "line 1", .text "pears")])]

theorem eval_eq_getPath_order :
    eval ⟨.fromContext, .empty⟩ (braced "lines.line 1") (.node order) = .ok (.text "pears") ∧
      eval ⟨.fromContext, .empty⟩ (braced (Key.defaultNamespace ++ ":" ++ "lines.line 1")) (.node order) =
        .ok (.text "pears") := by
  have hdotted : IsDotted "lines.line 1" :=
    ⟨⟨"lines", by decide, by decide, .inr ⟨"line 1", by decide, rfl⟩⟩, by simp, by decide, by simp; decide,
      by simp; decide, by decide⟩
  have hline : (Value.map [(.text "line 1", .text "pears")]).IsDocument := .map (by simp) (by simpa using .text "pears")
  have horder : order.IsDocument := .map (by simp) (by simpa using hline)
  have hget : getPath "lines.line 1" (.node order) = .ok (.text "pears") := by cbv
  rw [← hget]
  exact eval_eq_getPath .empty hdotted (Value.OfDocument.node horder).hasScalarLeaves

end Evaluator

end Stencil
