import Stencil.Proofs.Template.Canonical
import Stencil.Proofs.Template.Concatenation
import Stencil.Proofs.Template.Grammar

/-!
Blanks at the borders of an expression's parts. Main statement: put in or taken out there, any number of times, they
change nothing about what a template is read as and evaluates to.
-/

namespace Stencil

open Outcome Relation

namespace Template

variable {blanks cs ds segment other body wide : List Char} {k : KeyRef} {p : PipeCall} {e : Expression}
  {nodes : List Node} {before after : List Piece}

/-! ## Bodies -/

/-- The second body has more blanks than the first at one place: directly after the opening mark, directly before the
closing brace, or on a side of a bar. -/
inductive Widens : List Char → List Char → Prop
  | atFront {blanks : List Char} (body : List Char) : (∀ c ∈ blanks, Text.isBlank c) → Widens body (blanks ++ body)
  | atEnd {blanks : List Char} (body : List Char) : (∀ c ∈ blanks, Text.isBlank c) → Widens body (body ++ blanks)
  | beforeBar {blanks : List Char} (front back : List Char) : (∀ c ∈ blanks, Text.isBlank c) →
      Widens (front ++ '|' :: back) (front ++ blanks ++ '|' :: back)
  | afterBar {blanks : List Char} (front back : List Char) : (∀ c ∈ blanks, Text.isBlank c) →
      Widens (front ++ '|' :: back) (front ++ '|' :: (blanks ++ back))

def SameCore (segment other : List Char) : Prop := Text.trim segment = Text.trim other

abbrev SameCores (body other : List Char) : Prop :=
  List.Forall₂ SameCore (Text.splitChar '|' body) (Text.splitChar '|' other)

theorem sameCores_refl (body : List Char) : SameCores body body := List.forall₂_same.2 fun _ _ => rfl

theorem SameCores.symm (h : SameCores body wide) : SameCores wide body := h.flip.imp fun _ _ => Eq.symm

theorem notMem_blanks (h : ∀ c ∈ blanks, Text.isBlank c) {m : Char} (hm : Text.isBlank m = false) : m ∉ blanks :=
  fun hmem => by simp [h m hmem] at hm

theorem sameCores_blanks_append (h : ∀ c ∈ blanks, Text.isBlank c) (body : List Char) :
    SameCores body (blanks ++ body) := by
  rw [SameCores, Text.splitChar_append_of_notMem (notMem_blanks h (by decide))]
  obtain ⟨p, ps, hp⟩ := List.exists_cons_of_ne_nil (Text.splitChar_ne_nil '|' body)
  rw [hp, List.modifyHead_cons]
  exact .cons (Text.trim_blanks_append h p).symm (List.forall₂_same.2 fun _ _ => rfl)

theorem sameCores_append_blanks (h : ∀ c ∈ blanks, Text.isBlank c) (body : List Char) :
    SameCores body (body ++ blanks) := by
  refine (Text.splitChar_append_last (notMem_blanks h (by decide)) body).imp ?_
  rintro p _ (rfl | rfl)
  · rfl
  · exact (Text.trim_append_blanks h p).symm

theorem Widens.sameCores (h : Widens body wide) : SameCores body wide := by
  cases h with
  | atFront _ hblanks => exact sameCores_blanks_append hblanks body
  | atEnd _ hblanks => exact sameCores_append_blanks hblanks body
  | beforeBar front back hblanks =>
    rw [SameCores, Text.splitChar_append, Text.splitChar_append]
    exact List.rel_append (sameCores_append_blanks hblanks front) (sameCores_refl back)
  | afterBar front back hblanks =>
    rw [SameCores, Text.splitChar_append, Text.splitChar_append]
    exact List.rel_append (sameCores_refl front) (sameCores_blanks_append hblanks back)

theorem avoids_blanks (h : ∀ c ∈ blanks, Text.isBlank c) : Avoids ['}'] blanks := by
  refine ⟨fun c hc => ?_, fun ho => notMem_blanks h (m := '$') (by decide) (ho.subset (by simp [openMark]))⟩
  obtain rfl := List.mem_singleton.1 hc
  exact notMem_blanks h (by decide)

theorem avoids_blanks_append (h : ∀ c ∈ blanks, Text.isBlank c) : Avoids ['}'] (blanks ++ cs) ↔ Avoids ['}'] cs := by
  have hjoins : Joins blanks cs := fun hj => notMem_blanks h (m := '$') (by decide) (List.mem_of_getLast? hj.1)
  rw [avoids_append hjoins, and_iff_right (avoids_blanks h)]

theorem avoids_append_blanks (h : ∀ c ∈ blanks, Text.isBlank c) : Avoids ['}'] (cs ++ blanks) ↔ Avoids ['}'] cs := by
  have hjoins : Joins cs blanks := fun hj => notMem_blanks h (m := '{') (by decide) (List.mem_of_mem_head? hj.2)
  rw [avoids_append hjoins, and_iff_left (avoids_blanks h)]

theorem Widens.avoids_iff (h : Widens body wide) : Avoids ['}'] body ↔ Avoids ['}'] wide := by
  cases h with
  | atFront _ hblanks => exact (avoids_blanks_append hblanks).symm
  | atEnd _ hblanks => exact (avoids_append_blanks hblanks).symm
  | beforeBar front back hblanks =>
    rw [avoids_append_cons (by decide), avoids_append_cons (by decide), avoids_append_blanks hblanks]
  | afterBar front back hblanks =>
    rw [avoids_append_cons (by decide), avoids_append_cons (by decide), avoids_blanks_append hblanks]

theorem ReadsKey.of_sameCore (h : ReadsKey segment k) (hcore : SameCore segment other) : ReadsKey other k := by
  rw [SameCore] at hcore
  rwa [ReadsKey, ← hcore]

theorem ReadsPipe.of_sameCore (h : ReadsPipe segment p) (hcore : SameCore segment other) : ReadsPipe other p := by
  rw [SameCore] at hcore
  rwa [ReadsPipe, ← hcore]

theorem readsPipes_of_sameCore {segments others : List (List Char)} {ps : List PipeCall}
    (h : List.Forall₂ ReadsPipe segments ps) (hcores : List.Forall₂ SameCore segments others) :
    List.Forall₂ ReadsPipe others ps := by
  induction hcores generalizing ps with
  | nil => exact h
  | cons hcore _ ih =>
    obtain _ | ⟨hp, hps⟩ := h
    exact .cons (hp.of_sameCore hcore) (ih hps)

theorem ReadsBody.of_sameCores (h : ReadsBody body e) (hcores : SameCores body wide) :
    ReadsBody wide { e with source := textOf wide } := by
  obtain ⟨-, first, rest, hcut, hkey, hpipes⟩ := h
  rw [SameCores, Text.splitChar_eq_iff.2 hcut] at hcores
  generalize hwide : Text.splitChar '|' wide = segments at hcores
  obtain _ | ⟨hfirst, hrest⟩ := hcores
  exact ⟨rfl, _, _, Text.splitChar_eq_iff.1 hwide, hkey.of_sameCore hfirst, readsPipes_of_sameCore hpipes hrest⟩

/-! ## Rows of pieces -/

/-- The second text has more blanks, or fewer, than the first at one such place of one expression. -/
inductive Repads : List Char → List Char → Prop
  | insert {cs body wide : List Char} {before after : List Piece} :
      Composes (before ++ .expression body :: after) cs → Widens body wide →
      Repads cs ((before ++ .expression wide :: after).map Piece.text).flatten
  | delete {cs body wide : List Char} {before after : List Piece} :
      Composes (before ++ .expression wide :: after) cs → Widens body wide →
      Repads cs ((before ++ .expression body :: after).map Piece.text).flatten

theorem forall₂_append_cons {α β : Type} {R : α → β → Prop} {x : α} {front back : List α} {ys : List β}
    (h : List.Forall₂ R (front ++ x :: back) ys) :
    ∃ y starts ends, ys = starts ++ y :: ends ∧ List.Forall₂ R front starts ∧ R x y ∧ List.Forall₂ R back ends := by
  induction front generalizing ys with
  | nil =>
    obtain _ | ⟨hx, hback⟩ := h
    exact ⟨_, [], _, rfl, .nil, hx, hback⟩
  | cons a front ih =>
    obtain _ | ⟨ha, hrest⟩ := h
    obtain ⟨y, starts, ends, rfl, hfront, hx, hback⟩ := ih hrest
    exact ⟨y, _ :: starts, ends, rfl, .cons ha hfront, hx, hback⟩

theorem Composes.replace (h : Composes (before ++ .expression body :: after) cs)
    (hwide : (Piece.expression wide).WellFormed) :
    Composes (before ++ .expression wide :: after) ((before ++ .expression wide :: after).map Piece.text).flatten where
  wellFormed := by
    have hpieces := h.wellFormed
    simp only [List.forall_mem_append, List.forall_mem_cons] at hpieces ⊢
    exact ⟨hpieces.1, hwide, hpieces.2.2⟩
  apart := by
    -- Only whether a piece is a literal matters here, and this has not changed.
    have hapart := h.apart
    have hmap (ps : List Piece) : ps.IsChain (fun p q => ¬ (p.isLiteral ∧ q.isLiteral)) ↔
        (ps.map Piece.isLiteral).IsChain (fun p q : Bool => ¬ (p = true ∧ q = true)) :=
      (List.isChain_map (R := fun p q : Bool => ¬ (p = true ∧ q = true)) Piece.isLiteral).symm
    rw [hmap] at hapart ⊢
    simpa [Piece.isLiteral] using hapart
  text_eq := rfl

/-! ## Nodes without their sources -/

def Node.bare : Node → Node
  | .literal s => .literal s
  | .expression e => .expression { e with source := "" }

theorem Node.alike_iff (m n : Node) : m.alike n ↔ m.bare = n.bare := by
  cases m <;> cases n <;> simp [Node.alike, Node.bare, Expression.alike]

theorem alikeNodes_iff {ms ns : List Node} : alikeNodes ms ns ↔ ms.map Node.bare = ns.map Node.bare := by
  induction ms generalizing ns with
  | nil => cases ns <;> simp [alikeNodes]
  | cons m ms ih => cases ns <;> simp [alikeNodes, Node.alike_iff, ih]

theorem Composes.avoids (h : Composes (before ++ .expression body :: after) cs) : Avoids ['}'] body := by
  obtain ⟨hclose, hopen, -⟩ := h.wellFormed (.expression body) (by simp)
  exact ⟨by simpa using hclose, hopen⟩

theorem Composes.written_replace (h : Composes (before ++ .expression body :: after) cs) (hwritten : Written cs nodes)
    (hcores : SameCores body wide) (havoids : Avoids ['}'] wide) :
    ∃ others, Written ((before ++ .expression wide :: after).map Piece.text).flatten others ∧
      nodes.map Node.bare = others.map Node.bare := by
  obtain ⟨pieces, hpieces, hreads⟩ := exists_pieces_of_written hwritten
  obtain rfl := composes_unique hpieces h
  obtain ⟨node, starts, ends, rfl, hbefore, hnode, hafter⟩ := forall₂_append_cons hreads
  cases node with
  | literal s => exact hnode.elim
  | expression e =>
    have hbody : ReadsBody wide { e with source := textOf wide } := hnode.of_sameCores hcores
    have hwide : (Piece.expression wide).WellFormed :=
      ⟨havoids.notMem '}' (by simp), havoids.noOpen, bodyForm_iff.2 ⟨_, hbody⟩⟩
    refine ⟨starts ++ .expression { e with source := textOf wide } :: ends, ?_, by simp [Node.bare]⟩
    exact (h.replace hwide).written (List.rel_append hbefore (.cons hbody hafter))

theorem Repads.written (h : Repads cs ds) (hwritten : Written cs nodes) :
    ∃ others, Written ds others ∧ nodes.map Node.bare = others.map Node.bare := by
  cases h with
  | insert hrow hwidens => exact hrow.written_replace hwritten hwidens.sameCores (hwidens.avoids_iff.1 hrow.avoids)
  | delete hrow hwidens => exact hrow.written_replace hwritten hwidens.sameCores.symm (hwidens.avoids_iff.2 hrow.avoids)

theorem written_of_repads (h : ReflTransGen Repads cs ds) (hwritten : Written cs nodes) :
    ∃ others, Written ds others ∧ nodes.map Node.bare = others.map Node.bare := by
  induction h with
  | refl => exact ⟨nodes, hwritten, rfl⟩
  | tail _ hstep ih =>
    obtain ⟨between, hbetween, heq⟩ := ih
    obtain ⟨others, hothers, hothersEq⟩ := hstep.written hbetween
    exact ⟨others, hothers, heq.trans hothersEq⟩

theorem pipeNames_bare (nodes : List Node) :
    (Template.mk (nodes.map Node.bare)).pipeNames = (Template.mk nodes).pipeNames := by
  induction nodes with
  | nil => rfl
  | cons node nodes ih =>
    have hcons (node : Node) (ns : List Node) := pipeNames_append [node] ns
    simp only [List.singleton_append] at hcons
    rw [List.map_cons, hcons node.bare, hcons node, ih]
    cases node <;> rfl

end Template

namespace Evaluator

open Template

variable (e : Evaluator) (context : Value)

theorem render_bare (nodes : List Node) : e.render context (nodes.map Node.bare) = e.render context nodes := by
  induction nodes with
  | nil => rfl
  | cons node nodes ih =>
    have hnode : e.renderNode context node.bare = e.renderNode context node := by cases node <;> rfl
    rw [List.map_cons, render, render, hnode, ih]

theorem execute_bare (nodes : List Node) : e.execute ⟨nodes.map Node.bare⟩ context = e.execute ⟨nodes⟩ context := by
  have hsingle (m n : Node) (rest : List Node) : (Template.mk (m :: n :: rest)).single? = none := by cases m <;> rfl
  match nodes with
  | [] => rfl
  | [.literal s] => rfl
  | [.expression x] => rfl
  | m :: n :: rest =>
    have hrender := render_bare e context (m :: n :: rest)
    rw [List.map_cons, List.map_cons] at hrender ⊢
    rw [execute, execute, hsingle, hsingle]
    dsimp only
    rw [hrender]

theorem parse_of_bare {s t : String} {xs ys : List Node} (hs : Template.parse s = .ok ⟨xs⟩)
    (ht : Template.parse t = .ok ⟨ys⟩) (h : xs.map Node.bare = ys.map Node.bare) :
    e.parse s = .ok ⟨xs⟩ ∧ e.parse t = .ok ⟨ys⟩ ∨
      ∃ name, e.parse s = .error (.unknownPipe name) ∧ e.parse t = .error (.unknownPipe name) := by
  have hnames : (Template.mk xs).pipeNames = (Template.mk ys).pipeNames := by rw [← pipeNames_bare, h, pipeNames_bare]
  rw [Evaluator.parse, Evaluator.parse, hs, ht, ok_bind, ok_bind, hnames]
  split
  · next name _ => exact .inr ⟨name, rfl, rfl⟩
  · exact .inl ⟨rfl, rfl⟩

theorem eval_of_repads {source padded : String} (h : ReflTransGen Repads source.toList padded.toList) {t : Template}
    (ht : Template.parse source = .ok t) :
    (∃ u, Template.parse padded = .ok u ∧ t.alike u) ∧
      ∀ e : Evaluator,
        Agree (fun t u => t.alike u) (e.parse source) (e.parse padded) ∧
          ∀ context, e.eval padded context = e.eval source context := by
  obtain ⟨nodes, hwritten, hbare⟩ := written_of_repads h (parse_eq_ok_iff.1 ht)
  have hu : Template.parse padded = .ok ⟨nodes⟩ := parse_eq_ok_iff.2 hwritten
  have halike : t.alike ⟨nodes⟩ := alikeNodes_iff.2 hbare
  refine ⟨⟨_, hu, halike⟩, fun e => ?_⟩
  rcases parse_of_bare e ht hu hbare with ⟨hs, hp⟩ | ⟨name, hs, hp⟩
  · rw [hs, hp]
    refine ⟨.ok halike, fun context => ?_⟩
    rw [eval, eval, hs, hp, ok_bind, ok_bind, ← execute_bare e context nodes, ← hbare, execute_bare]
  · rw [hs, hp]
    refine ⟨.error, fun context => ?_⟩
    rw [eval, eval, hs, hp]

/-- A blank is taken out before the bar and an em space put in before the brace, while the blank in the argument stays. -/
theorem eval_of_repads_em_space :
    (∃ u, Template.parse "$\x7ba|p: 1\u2003\x7d" = .ok u ∧
        Template.alike ⟨[.expression ⟨⟨none, "a", none⟩, [⟨"p", [" 1"]⟩], "a |p: 1"⟩]⟩ u) ∧
      ∀ e context, eval e "$\x7ba|p: 1\u2003\x7d" context = eval e "$\x7ba |p: 1\x7d" context := by
  have ht : Template.parse "$\x7ba |p: 1\x7d" =
      .ok ⟨[.expression ⟨⟨none, "a", none⟩, [⟨"p", [" 1"]⟩], "a |p: 1"⟩]⟩ := by cbv
  have hnarrow : Template.parse "$\x7ba|p: 1\x7d" =
      .ok ⟨[.expression ⟨⟨none, "a", none⟩, [⟨"p", [" 1"]⟩], "a|p: 1"⟩]⟩ := by cbv
  have hwide : Composes ([] ++ .expression (['a'] ++ [' '] ++ '|' :: ['p', ':', ' ', '1']) :: [])
      "$\x7ba |p: 1\x7d".toList := by
    simpa [Node.piece] using composes_of_parse ht
  have hmiddle : Composes ([] ++ .expression ['a', '|', 'p', ':', ' ', '1'] :: []) "$\x7ba|p: 1\x7d".toList := by
    simpa [Node.piece] using composes_of_parse hnarrow
  have hdelete : Repads "$\x7ba |p: 1\x7d".toList "$\x7ba|p: 1\x7d".toList := by
    simpa [Piece.text] using Repads.delete hwide (.beforeBar _ _ (List.forall_mem_singleton.2 (by decide)))
  have hinsert : Repads "$\x7ba|p: 1\x7d".toList "$\x7ba|p: 1\u2003\x7d".toList := by
    have hspace : ∀ c ∈ ['\u2003'], Text.isBlank c := List.forall_mem_singleton.2 (by decide)
    simpa [Piece.text] using Repads.insert hmiddle (.atEnd _ hspace)
  obtain ⟨hparse, heval⟩ := eval_of_repads (.tail (.single hdelete) hinsert) ht
  exact ⟨hparse, fun e => (heval e).2⟩

end Evaluator

end Stencil
