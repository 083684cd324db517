import Mathlib
import Stencil.Proofs.Config.Construction
import Stencil.Proofs.Outcome
import Stencil.Proofs.Template.Reference
import Stencil.Service.Answer

/-!
Rendering a template set. Main statement: a request to render gives each field what a request to evaluate its template
gives, or fails as the request for the first field that fails.
-/

namespace Stencil

open Outcome

namespace Config

variable {e : Evaluator} {context keys : Value} {templates : List (Value × String)}

def textTemplates (templates : List (Value × String)) : List (Value × Value) :=
  templates.map fun (field, source) => (field, .text source)

def Folder.HoldsTemplates (f : Folder) (set : String) (templates : List (Value × String)) (keys : Value) : Prop :=
  ∃ definition, f.load .templateSet set = .ok definition ∧
    fieldOr .absent definition "templates" = .map (textTemplates templates) ∧ fieldOr .absent definition "keys" = keys

theorem Folder.HoldsTemplates.render_eq {f : Folder} {set : String} (h : f.HoldsTemplates set templates keys) :
    f.render e set context = f.evaluator e keys >>= fun e => renderEach e context (textTemplates templates) := by
  obtain ⟨definition, hload, htemplates, rfl⟩ := h
  simp [render, templateSet, hload, htemplates]

theorem renderEach_cons (field : Value) (source : String) (templates : List (Value × String)) :
    renderEach e context (textTemplates ((field, source) :: templates)) = do
      let v ← e.eval source context
      return (field, v) :: (← renderEach e context (textTemplates templates)) := by
  rw [textTemplates, List.map_cons, renderEach, sourceOf, ok_bind]
  rfl

theorem renderEach_eq_ok_iff {results : List (Value × Value)} :
    renderEach e context (textTemplates templates) = .ok results ↔
      List.Forall₂ (fun p r => r.1 = p.1 ∧ e.eval p.2 context = .ok r.2) templates results := by
  induction templates generalizing results with
  | nil =>
    rw [textTemplates, List.map_nil, renderEach, Except.ok.injEq, List.forall₂_nil_left_iff]
    exact eq_comm
  | cons p templates ih =>
    obtain ⟨field, source⟩ := p
    rw [renderEach_cons]
    simp only [bind_eq_ok_iff, pure_eq_ok, Except.ok.injEq, ih]
    constructor
    · rintro ⟨v, hv, rest, hrest, rfl⟩
      exact .cons ⟨rfl, hv⟩ hrest
    · intro h
      cases h with
      | @cons _ r _ rest hr hrest =>
        obtain ⟨_, v⟩ := r
        obtain ⟨rfl, hv⟩ := hr
        exact ⟨v, hv, rest, hrest, rfl⟩

theorem renderEach_eq_error_iff {err : Error} :
    renderEach e context (textTemplates templates) = .error err ↔
      ∃ before p after, templates = before ++ p :: after ∧ (∀ q ∈ before, ∃ v, e.eval q.2 context = .ok v) ∧
        e.eval p.2 context = .error err := by
  induction templates with
  | nil => simp [textTemplates, renderEach]
  | cons p templates ih =>
    obtain ⟨field, source⟩ := p
    have hstep : renderEach e context (textTemplates ((field, source) :: templates)) = .error err ↔
        e.eval source context = .error err ∨
          (∃ v, e.eval source context = .ok v) ∧ renderEach e context (textTemplates templates) = .error err := by
      rw [renderEach_cons]
      simp [bind_eq_error_iff]
    rw [hstep, ih]
    constructor
    · rintro (herr | ⟨hv, before, p, after, rfl, hbefore, herr⟩)
      · exact ⟨[], (field, source), templates, rfl, by simp, herr⟩
      · exact ⟨(field, source) :: before, p, after, rfl, List.forall_mem_cons.2 ⟨hv, hbefore⟩, herr⟩
    · rintro ⟨before, p, after, heq, hbefore, herr⟩
      cases before with
      | nil =>
        obtain ⟨rfl, rfl⟩ := List.cons.inj heq
        exact .inl herr
      | cons q before =>
        obtain ⟨rfl, rfl⟩ := List.cons.inj heq
        rw [List.forall_mem_cons] at hbefore
        exact .inr ⟨hbefore.1, before, p, after, rfl, hbefore.2, herr⟩

end Config

namespace Service

open Config

variable {s : Service} {request : Request} {set source : String} {context keys : Value}
  {templates : List (Value × String)}

/-! ## What requests compute -/

/-- What a template evaluates to with the resolver of a name, before it is written as an answer. -/
def evaluation (s : Service) (keys : Value) (source : String) (context : Value) : Result Value := do
  let e ← s.folder.evaluator s.evaluator keys
  e.eval source context

/-- What a template set renders to, before it is written as an answer. -/
def rendering (s : Service) (set : String) (context : Value) : Result (List (Value × Value)) :=
  s.folder.render s.evaluator set context

structure Request.Posts (request : Request) (route : Route) (entries : List (Value × Value)) : Prop where
  method_eq : request.method = "POST"
  route_eq : route? request.target = some route
  entries_eq : entriesOf request.body = .ok entries

def Request.Renders (request : Request) (set : String) (context : Value) : Prop :=
  ∃ entries, request.Posts (.render set) entries ∧ contextOf entries = context

def Request.Evaluates (request : Request) (keys : Value) (source : String) (context : Value) : Prop :=
  ∃ entries, request.Posts .eval entries ∧ textField? entries "template" = some source ∧
    contextOf entries = context ∧ fieldOr .absent entries "resolver" = keys

theorem handle_of_renders (h : request.Renders set context) :
    s.handle request = answer ((s.rendering set context).map .map) := by
  obtain ⟨entries, ⟨hmethod, hroute, hentries⟩, rfl⟩ := h
  simp only [handle, hroute, hmethod, Route.method, ne_eq, not_true_eq_false, if_false, handle.onBody, hentries, render,
    rendering]
  cases s.folder.render s.evaluator set (contextOf entries) <;> rfl

def NamesResolver (keys : Value) : Prop := keys = .absent ∨ ∃ name, keys = .text name

theorem handle_of_evaluates (h : request.Evaluates keys source context) (hkeys : NamesResolver keys) :
    s.handle request = answer ((s.evaluation keys source context).map result) := by
  obtain ⟨entries, ⟨hmethod, hroute, hentries⟩, htemplate, rfl, hresolver⟩ := h
  have heval : s.eval entries = answer (eval.run s entries source keys) := by
    rcases hkeys with rfl | ⟨name, rfl⟩ <;> simp only [eval, htemplate, hresolver]
  simp only [handle, hroute, hmethod, Route.method, ne_eq, not_true_eq_false, if_false, handle.onBody, hentries, heval,
    eval.run, evaluation]
  cases he : s.folder.evaluator s.evaluator keys with
  | error err => rfl
  | ok e => cases hv : e.eval source (contextOf entries) <;> simp [hv, Except.map]

theorem handle_of_evaluates_unnamed (h : request.Evaluates keys source context) (hkeys : ¬ NamesResolver keys) :
    s.handle request = bare 422 := by
  obtain ⟨entries, ⟨hmethod, hroute, hentries⟩, htemplate, -, hresolver⟩ := h
  simp only [handle, hroute, hmethod, Route.method, ne_eq, not_true_eq_false, if_false, handle.onBody, hentries, eval,
    htemplate, hresolver]
  split
  · next name _ => exact absurd (.inr ⟨_, rfl⟩) hkeys
  · next => exact absurd (.inl rfl) hkeys
  · rfl

/-! ## Rendering and evaluating -/

theorem rendering_eq_ok_iff (hset : s.folder.HoldsTemplates set templates keys) (hne : templates ≠ [])
    {results : List (Value × Value)} :
    s.rendering set context = .ok results ↔
      List.Forall₂ (fun p r => r.1 = p.1 ∧ s.evaluation keys p.2 context = .ok r.2) templates results := by
  rw [rendering, hset.render_eq]
  cases he : s.folder.evaluator s.evaluator keys with
  | ok e => simp only [evaluation, he, ok_bind, renderEach_eq_ok_iff]
  | error err =>
    simp only [evaluation, he, error_bind]
    constructor
    · intro h
      cases h
    · intro h
      cases h with
      | nil => exact absurd rfl hne
      | cons hp _ => cases hp.2

theorem rendering_eq_error_iff (hset : s.folder.HoldsTemplates set templates keys) (hne : templates ≠ [])
    {err : Error} :
    s.rendering set context = .error err ↔
      ∃ before p after, templates = before ++ p :: after ∧ (∀ q ∈ before, ∃ v, s.evaluation keys q.2 context = .ok v) ∧
        s.evaluation keys p.2 context = .error err := by
  rw [rendering, hset.render_eq]
  cases he : s.folder.evaluator s.evaluator keys with
  | ok e => simp only [evaluation, he, ok_bind, renderEach_eq_error_iff]
  | error fault =>
    -- Without a resolver the first request fails already.
    simp only [evaluation, he, error_bind, Except.error.injEq]
    constructor
    · intro h
      obtain ⟨p, rest, rfl⟩ := List.exists_cons_of_ne_nil hne
      exact ⟨[], p, rest, rfl, by simp, h⟩
    · rintro ⟨-, -, -, -, -, h⟩
      exact h

/-- The resolver that a template set names; what counts as nothing names none. -/
def resolverNamed : Value → Value
  | .text name => .text name
  | _ => .absent

theorem namesResolver_resolverNamed (keys : Value) : NamesResolver (resolverNamed keys) := by
  unfold resolverNamed
  split
  · exact .inr ⟨_, rfl⟩
  · exact .inl rfl

theorem evaluation_resolverNamed (s : Service) (h : (∃ name, keys = .text name) ∨ keys.isFalsy) :
    s.evaluation (resolverNamed keys) = s.evaluation keys := by
  unfold resolverNamed
  split
  · rfl
  · next hno =>
    have hfalsy : keys.isFalsy := h.resolve_left fun ⟨name, hname⟩ => hno name hname
    have hnone : s.folder.evaluator s.evaluator .absent = .ok s.evaluator := rfl
    have hkeys : s.folder.evaluator s.evaluator keys = .ok s.evaluator := if_pos hfalsy
    funext source context
    rw [evaluation, evaluation, hnone, hkeys]

/-- A request to render a set of texts succeeds when every request to evaluate one of them does, and gives each field
what that request gives. Otherwise it fails as the request for the first field that fails, with the same answer. -/
theorem render_pointwise (s : Service) {render : Request} {ask : Value × String → Request}
    (hset : s.folder.HoldsTemplates set templates keys) (hne : templates ≠ [])
    (hkeys : (∃ name, keys = .text name) ∨ keys.isFalsy) (hrender : render.Renders set context)
    (hask : ∀ p ∈ templates, (ask p).Evaluates (resolverNamed keys) p.2 context) :
    s.handle render = answer ((s.rendering set context).map .map) ∧
      (∀ p ∈ templates,
        s.handle (ask p) = answer ((s.evaluation (resolverNamed keys) p.2 context).map result)) ∧
      ((∃ results, s.rendering set context = .ok results) ↔
        ∀ p ∈ templates, ∃ v, s.evaluation (resolverNamed keys) p.2 context = .ok v) ∧
      (∀ results, s.rendering set context = .ok results ↔
        List.Forall₂ (fun p r => r.1 = p.1 ∧ s.evaluation (resolverNamed keys) p.2 context = .ok r.2) templates
          results) ∧
      ∀ err, s.rendering set context = .error err ↔
        ∃ before p after, templates = before ++ p :: after ∧
          (∀ q ∈ before, ∃ v, s.evaluation (resolverNamed keys) q.2 context = .ok v) ∧
          s.evaluation (resolverNamed keys) p.2 context = .error err ∧
          s.handle render = failure err ∧ s.handle (ask p) = failure err := by
  have hhandle : s.handle render = answer ((s.rendering set context).map .map) := handle_of_renders hrender
  have heach : ∀ p ∈ templates,
      s.handle (ask p) = answer ((s.evaluation (resolverNamed keys) p.2 context).map result) := fun p hp =>
    handle_of_evaluates (hask p hp) (namesResolver_resolverNamed keys)
  rw [evaluation_resolverNamed s hkeys] at heach ⊢
  refine ⟨hhandle, heach, ?_, fun results => rendering_eq_ok_iff hset hne, fun err => ?_⟩
  · simp only [rendering_eq_ok_iff hset hne, Template.exists_forall₂_iff]
    exact forall₂_congr fun p _ => ⟨fun ⟨r, _, hr⟩ => ⟨r.2, hr⟩, fun ⟨v, hv⟩ => ⟨(p.1, v), rfl, hv⟩⟩
  · constructor
    · intro herr
      obtain ⟨before, p, after, hsplit, hbefore, hp⟩ := (rendering_eq_error_iff hset hne).1 herr
      have hmem : p ∈ templates := by simp [hsplit]
      refine ⟨before, p, after, hsplit, hbefore, hp, ?_, ?_⟩
      · rw [hhandle, herr]
        rfl
      · rw [heach p hmem, hp]
        rfl
    · rintro ⟨before, p, after, hsplit, hbefore, hp, -, -⟩
      exact (rendering_eq_error_iff hset hne).2 ⟨before, p, after, hsplit, hbefore, hp⟩

def shop : Service :=
  ⟨.standard ⟨2024, 2, 29⟩, ⟨[
    (["templates", "offer.json"], "\x7b\"templates\": \x7b\"title\": \"From $\x7bprice\x7d\", " ++
      "\"price\": \"$\x7bprice\x7d\"\x7d, \"keys\": \"shop\"\x7d"),
    (["keys", "shop.json"], "\x7b\"constants\": \x7b\"price\": \"low\"\x7d\x7d")]⟩⟩

def offer : List (Value × String) :=
  [(.text "title", "From $\x7bprice\x7d"), (.text "price", "$\x7bprice\x7d")]

def askShop (p : Value × String) : Request :=
  ⟨"POST", "/eval", some ("\x7b\"template\": \"" ++ p.2 ++ "\", \"resolver\": \"shop\"\x7d")⟩

def shopDraft : Draft :=
  ⟨[(.text "constants", .map [(.text "price", .text "low")])], [(.ofText "field" "price", .const (.text "low"))], []⟩

theorem build_shop : shop.folder.build (.text "shop") = .ok (.bound 2 shopDraft.bindings [] (.text "field")) := by
  have hload : shop.folder.load .keys "shop" = .ok shopDraft.definition := by cbv
  have hdraft : shop.folder.draft (.text "shop") = .ok shopDraft := draft_text_eq_ok_iff.2 ⟨hload, rfl, rfl⟩
  have hcomplete : shopDraft.complete (.text "shop") [] [] = .ok _ :=
    Draft.complete_eq run_workshopOf_nil (List.nil_subset _) (.text "shop")
  exact ends_iff_build.1 ⟨_, .complete ⟨rfl, by simp, rfl⟩ hdraft .nil hcomplete .nil, rfl⟩

theorem evaluation_shop (source : String) :
    shop.evaluation (.text "shop") source .absent =
      Evaluator.eval ⟨.bound 2 shopDraft.bindings [] (.text "field"), .standard ⟨2024, 2, 29⟩⟩ source .absent := by
  rw [evaluation, Folder.evaluator, build_shop]
  rfl

theorem render_pointwise_offer :
    shop.rendering "offer" .absent = .ok [(.text "title", .text "From low"), (.text "price", .text "low")] := by
  have hset : shop.folder.HoldsTemplates "offer" offer (.text "shop") :=
    ⟨[(.text "templates", .map (textTemplates offer)), (.text "keys", .text "shop")], by cbv, rfl, rfl⟩
  have hrender : (Request.mk "POST" "/render/offer" (some "\x7b\x7d")).Renders "offer" .absent :=
    ⟨[], ⟨rfl, by cbv, by cbv⟩, rfl⟩
  have hask : ∀ p ∈ offer, (askShop p).Evaluates (resolverNamed (.text "shop")) p.2 .absent := by
    rw [offer, List.forall_mem_cons, List.forall_mem_singleton]
    constructor
    · exact ⟨[(.text "template", .text "From $\x7bprice\x7d"), (.text "resolver", .text "shop")],
        ⟨rfl, by cbv, by cbv⟩, rfl, rfl, rfl⟩
    · exact ⟨[(.text "template", .text "$\x7bprice\x7d"), (.text "resolver", .text "shop")],
        ⟨rfl, by cbv, by cbv⟩, rfl, rfl, rfl⟩
  obtain ⟨-, -, -, hresults, -⟩ := render_pointwise shop hset (by simp [offer]) (.inl ⟨_, rfl⟩) hrender hask
  have htitle : shop.evaluation (.text "shop") "From $\x7bprice\x7d" .absent = .ok (.text "From low") := by
    rw [evaluation_shop]
    cbv
  have hprice : shop.evaluation (.text "shop") "$\x7bprice\x7d" .absent = .ok (.text "low") := by
    rw [evaluation_shop]
    cbv
  exact (hresults _).2 (.cons ⟨rfl, htitle⟩ (.cons ⟨rfl, hprice⟩ .nil))

def listKeys : Service :=
  ⟨.standard ⟨2024, 2, 29⟩, ⟨[
    (["templates", "set.json"], "\x7b\"templates\": \x7b\"a\": \"x\"\x7d, \"keys\": []\x7d")]⟩⟩

def renderSet : Request := ⟨"POST", "/render/set", some "\x7b\x7d"⟩

def askByList : Request := ⟨"POST", "/eval", some "\x7b\"template\": \"x\", \"resolver\": []\x7d"⟩

/-- A template set may name no resolver by an empty list, a request to evaluate may not. -/
theorem render_of_empty_list_keys :
    listKeys.folder.HoldsTemplates "set" [(.text "a", "x")] (.list []) ∧ (Value.list []).isFalsy ∧
      renderSet.Renders "set" .absent ∧ askByList.Evaluates (.list []) "x" .absent ∧
      (listKeys.handle renderSet).status = 200 ∧ (listKeys.handle askByList).status = 422 := by
  have hset : listKeys.folder.HoldsTemplates "set" [(.text "a", "x")] (.list []) :=
    ⟨[(.text "templates", .map [(.text "a", .text "x")]), (.text "keys", .list [])], by cbv, rfl, rfl⟩
  have hrender : renderSet.Renders "set" .absent := ⟨[], ⟨rfl, by cbv, by cbv⟩, rfl⟩
  have hask : askByList.Evaluates (.list []) "x" .absent :=
    ⟨[(.text "template", .text "x"), (.text "resolver", .list [])], ⟨rfl, by cbv, by cbv⟩, rfl, rfl, rfl⟩
  refine ⟨hset, rfl, hrender, hask, by cbv, ?_⟩
  rw [handle_of_evaluates_unnamed hask (by simp [NamesResolver])]
  rfl

end Service

end Stencil
