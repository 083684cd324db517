import Mathlib
import Stencil.Proofs.Template.Written

/-!
The grammar of templates. A template is a row of pieces, literals and expressions, no two literals side by side. Main
statement: the parser accepts the texts of such rows and no others, each text has one row, and the nodes are the pieces
in order.
-/

namespace Stencil.Template

inductive Piece where
  | literal (text : List Char)
  | expression (body : List Char)

namespace Piece

def text : Piece → List Char
  | .literal text => text
  | .expression body => '$' :: '{' :: (body ++ ['}'])

def isLiteral : Piece → Bool
  | .literal _ => true
  | .expression _ => false

def WellFormed : Piece → Prop
  | .literal text => text ≠ [] ∧ ¬ openMark <:+: text
  | .expression body => '}' ∉ body ∧ ¬ openMark <:+: body ∧ BodyForm body

def Reads : Piece → Node → Prop
  | .literal text, .literal s => s = textOf text
  | .expression body, .expression e => ReadsBody body e
  | _, _ => False

end Piece

/-- Well-formed pieces, no two literals side by side, that make up a text. -/
structure Composes (ps : List Piece) (cs : List Char) : Prop where
  wellFormed : ∀ p ∈ ps, p.WellFormed
  apart : ps.IsChain fun p q => ¬ (p.isLiteral ∧ q.isLiteral)
  text_eq : (ps.map Piece.text).flatten = cs

variable {cs : List Char} {ps qs : List Piece} {nodes : List Node}

def literalPieces (text : List Char) : List Piece := if text = [] then [] else [.literal text]

theorem reads_literalNodes (text : List Char) : List.Forall₂ Piece.Reads (literalPieces text) (literalNodes text) := by
  rw [literalPieces, literalNodes]
  split
  · exact .nil
  · exact .cons rfl .nil

theorem composes_literalPieces {text : List Char} (h : ¬ openMark <:+: text) : Composes (literalPieces text) text := by
  rw [literalPieces]
  split
  · next hn =>
    subst hn
    exact ⟨by simp, .nil, rfl⟩
  · next hn => exact ⟨by simpa [Piece.WellFormed] using ⟨hn, h⟩, .singleton _, by simp [Piece.text]⟩

theorem Composes.expression_cons {body : List Char} (hb : (Piece.expression body).WellFormed) (h : Composes ps cs) :
    Composes (.expression body :: ps) ('$' :: '{' :: (body ++ '}' :: cs)) where
  wellFormed := by
    rw [List.forall_mem_cons]
    exact ⟨hb, h.wellFormed⟩
  apart := by
    rw [List.isChain_cons]
    exact ⟨fun q _ => by simp [Piece.isLiteral], h.apart⟩
  text_eq := by simp [Piece.text, h.text_eq]

theorem Composes.literalPieces_append {text : List Char} (ht : ¬ openMark <:+: text)
    (hps : ∀ p ∈ ps.head?, p.isLiteral = false) (h : Composes ps cs) :
    Composes (literalPieces text ++ ps) (text ++ cs) := by
  rw [literalPieces]
  split
  · next hn =>
    subst hn
    exact h
  · next hn =>
    refine ⟨?_, ?_, by simp [Piece.text, h.text_eq]⟩
    · rw [List.singleton_append, List.forall_mem_cons]
      exact ⟨⟨hn, ht⟩, h.wellFormed⟩
    · rw [List.singleton_append, List.isChain_cons]
      exact ⟨fun q hq => by simp [hps q hq], h.apart⟩

theorem exists_pieces_of_written (h : Written cs nodes) : ∃ ps, Composes ps cs ∧ List.Forall₂ Piece.Reads ps nodes := by
  induction h with
  | @plain text ho => exact ⟨_, composes_literalPieces ho, reads_literalNodes text⟩
  | @expression text body after e nodes ht hclose hopen he _ ih =>
    obtain ⟨ps, hps, hr⟩ := ih
    have hb : (Piece.expression body).WellFormed := ⟨hclose, hopen, bodyForm_iff.2 ⟨e, he⟩⟩
    refine ⟨literalPieces text ++ .expression body :: ps, ?_, ?_⟩
    · exact (hps.expression_cons hb).literalPieces_append ht (by simp [Piece.isLiteral])
    · exact List.rel_append (reads_literalNodes text) (.cons he hr)

theorem Composes.tail {p : Piece} (h : Composes (p :: ps) cs) :
    Composes ps (ps.map Piece.text).flatten :=
  ⟨fun q hq => h.wellFormed q (by simp [hq]), (List.isChain_cons.1 h.apart).2, rfl⟩

theorem head_reads_literal {s : String} (hr : List.Forall₂ Piece.Reads ps nodes)
    (hn : nodes.head? = some (.literal s)) : ∃ q ∈ ps.head?, q.isLiteral := by
  cases hr with
  | nil => simp at hn
  | @cons q node ps nodes hq _ =>
    obtain rfl : node = .literal s := by simpa using hn
    cases q with
    | literal text => exact ⟨_, rfl, rfl⟩
    | expression body => exact hq.elim

theorem Composes.head_after_literal {text : List Char} (h : Composes (.literal text :: ps) cs) :
    ∀ q ∈ ps.head?, ∃ body, q = .expression body := by
  intro q hq
  cases q with
  | literal t => exact absurd ⟨rfl, rfl⟩ ((List.isChain_cons.1 h.apart).1 _ hq)
  | expression body => exact ⟨body, rfl⟩

theorem Composes.written (h : Composes ps cs) (hr : List.Forall₂ Piece.Reads ps nodes) : Written cs nodes := by
  have hnil : ¬ openMark <:+: ([] : List Char) := by simp [openMark]
  induction hr generalizing cs with
  | nil =>
    obtain rfl := h.text_eq
    exact .plain hnil
  | @cons p node ps nodes hp hps ih =>
    have hrest := ih h.tail
    have hwell := h.wellFormed p (by simp)
    cases p with
    | literal text =>
      cases node with
      | expression e => exact hp.elim
      | literal s =>
        obtain rfl : s = textOf text := hp
        have hhead := h.head_after_literal
        obtain rfl := h.text_eq
        have hnode : ∀ s, nodes.head? ≠ some (.literal s) := fun s hs => by
          obtain ⟨q, hq, hl⟩ := head_reads_literal hps hs
          obtain ⟨body, rfl⟩ := hhead q hq
          cases hl
        have hj : Joins text (ps.map Piece.text).flatten := by
          cases ps with
          | nil => simp [Joins]
          | cons q qs =>
            obtain ⟨body, rfl⟩ := hhead q rfl
            simp [Joins, Piece.text]
        have hw := hrest.prepend hwell.2 hj
        have hg := glue_literalNodes text [] hnode
        rw [literalNodes, if_pos rfl, List.nil_append, List.append_nil, literalNodes, if_neg hwell.1] at hg
        rwa [hg] at hw
    | expression body =>
      obtain rfl := h.text_eq
      cases node with
      | literal s => exact hp.elim
      | expression e =>
        have hw := Written.expression hnil hwell.1 hwell.2.1 hp hrest
        simpa [Piece.text, literalNodes] using hw

theorem Piece.WellFormed.exists_node {p : Piece} (h : p.WellFormed) : ∃ node, p.Reads node := by
  cases p with
  | literal text => exact ⟨.literal (textOf text), rfl⟩
  | expression body =>
    obtain ⟨e, he⟩ := bodyForm_iff.1 h.2.2
    exact ⟨.expression e, he⟩

theorem Composes.exists_nodes (h : Composes ps cs) : ∃ nodes, List.Forall₂ Piece.Reads ps nodes ∧ Written cs nodes := by
  obtain ⟨nodes, hr⟩ := exists_forall₂_iff.2 fun p hp => (h.wellFormed p hp).exists_node
  exact ⟨nodes, hr, h.written hr⟩

theorem written_unique {ns : List Node} (h : Written cs nodes) (h' : Written cs ns) : nodes = ns := by
  have hp := parseFrom_of_written h 0
  rw [parseFrom_of_written h' 0] at hp
  exact (Except.ok.inj hp).symm

theorem Piece.Reads.piece_eq {p q : Piece} {node : Node} (hp : p.Reads node) (hq : q.Reads node) : p = q := by
  cases node with
  | literal s =>
    cases p with
    | expression b => exact hp.elim
    | literal t =>
      cases q with
      | expression b => exact hq.elim
      | literal u => rw [textOf_injective (hp.symm.trans hq)]
  | expression e =>
    cases p with
    | literal t => exact hp.elim
    | expression b =>
      cases q with
      | literal t => exact hq.elim
      | expression c => rw [textOf_injective (hp.1.symm.trans hq.1)]

theorem pieces_eq_of_reads (hp : List.Forall₂ Piece.Reads ps nodes) (hq : List.Forall₂ Piece.Reads qs nodes) :
    ps = qs := by
  induction hp generalizing qs with
  | nil =>
    cases hq
    rfl
  | cons h _ ih =>
    cases hq with
    | cons h' hqs => rw [h.piece_eq h', ih hqs]

theorem composes_unique (hp : Composes ps cs) (hq : Composes qs cs) : ps = qs := by
  obtain ⟨nodes, hr, hw⟩ := hp.exists_nodes
  obtain ⟨ns, hr', hw'⟩ := hq.exists_nodes
  obtain rfl := written_unique hw hw'
  exact pieces_eq_of_reads hr hr'

def Node.piece : Node → Piece
  | .literal s => .literal s.toList
  | .expression e => .expression e.source.toList

theorem Piece.Reads.eq_piece {p : Piece} {node : Node} (h : p.Reads node) : p = node.piece := by
  cases p with
  | literal text =>
    cases node with
    | literal s =>
      obtain rfl : s = textOf text := h
      simp [Node.piece, textOf]
    | expression e => exact h.elim
  | expression body =>
    cases node with
    | literal s => exact h.elim
    | expression e =>
      have hsource : e.source = textOf body := h.1
      simp [Node.piece, hsource, textOf]

theorem composes_of_parse {source : String} {t : Template} (ht : parse source = .ok t) :
    Composes (t.nodes.map Node.piece) source.toList := by
  obtain ⟨ps, hps, hreads⟩ := exists_pieces_of_written (parse_eq_ok_iff.1 ht)
  have heq : ps = t.nodes.map Node.piece := by
    rw [← List.forall₂_eq_eq_eq, List.forall₂_map_right_iff]
    exact hreads.imp fun _ _ => Piece.Reads.eq_piece
  exact heq ▸ hps

/-- The parser accepts exactly the texts that pieces make up, each text by one row of pieces, and answers a node for each
piece in order. Any other text is malformed. -/
theorem parse_accepts_exactly_pieces (source : String) :
    ((∃ t, parse source = .ok t) ↔ ∃ ps, Composes ps source.toList) ∧
      (∀ ps qs, Composes ps source.toList → Composes qs source.toList → ps = qs) ∧
      (∀ ps, Composes ps source.toList → ∃ t, parse source = .ok t ∧ List.Forall₂ Piece.Reads ps t.nodes) ∧
      ((¬ ∃ ps, Composes ps source.toList) →
        ∃ cause position, parse source = .error (.malformed cause position source)) := by
  have hread (ps : List Piece) (h : Composes ps source.toList) :
      ∃ t, parse source = .ok t ∧ List.Forall₂ Piece.Reads ps t.nodes := by
    obtain ⟨nodes, hr, hw⟩ := h.exists_nodes
    exact ⟨⟨nodes⟩, parse_eq_ok_iff.2 hw, hr⟩
  refine ⟨⟨?_, ?_⟩, fun ps qs hp hq => composes_unique hp hq, hread, ?_⟩
  · rintro ⟨t, ht⟩
    obtain ⟨ps, hps, -⟩ := exists_pieces_of_written (parse_eq_ok_iff.1 ht)
    exact ⟨ps, hps⟩
  · rintro ⟨ps, hps⟩
    obtain ⟨t, ht, -⟩ := hread ps hps
    exact ⟨t, ht⟩
  · intro hno
    refine parse_refused fun nodes hw => hno ?_
    obtain ⟨ps, hps, -⟩ := exists_pieces_of_written hw
    exact ⟨ps, hps⟩

/-- A dollar sign before an opening mark and a brace after the closing one are literals of their own. -/
theorem composes_between_marks : ∃ ps, Composes ps "$$\x7ba:b.c | take:1\x7d\x7b".toList :=
  (parse_accepts_exactly_pieces _).1.1
    ⟨⟨[.literal "$", .expression ⟨⟨some "a", "b", some "c"⟩, [⟨"take", ["1"]⟩], "a:b.c | take:1"⟩, .literal "\x7b"]⟩,
      by cbv⟩

end Stencil.Template
