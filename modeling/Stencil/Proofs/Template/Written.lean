import Stencil.Proofs.Template.Reference

/-!
How the parser scans a text. Main statement: it answers some nodes exactly for the texts that write them, wherever the
text stands.
-/

namespace Stencil.Template

variable {cs text body rest after : List Char} {nodes : List Node} {position : Nat}

def openMark : List Char := ['$', '{']

/-! ## Scanning -/

theorem openMark_infix_cons {c : Char} :
    openMark <:+: c :: cs ↔ (c = '$' ∧ cs.head? = some '{') ∨ openMark <:+: cs := by
  rw [List.infix_cons_iff]
  refine or_congr_left ?_
  cases cs with
  | nil => simp [openMark]
  | cons d ds => simp [openMark, List.cons_prefix_cons, eq_comm]

theorem exists_first_openMark (h : openMark <:+: cs) :
    ∃ text rest, cs = text ++ '$' :: '{' :: rest ∧ ¬ openMark <:+: text := by
  induction cs with
  | nil => simp [openMark] at h
  | cons c cs ih =>
    by_cases hc : c = '$' ∧ cs.head? = some '{'
    · obtain ⟨rfl, hh⟩ := hc
      obtain ⟨ds, rfl⟩ := List.head?_eq_some_iff.1 hh
      exact ⟨[], ds, rfl, by simp [openMark]⟩
    · obtain ⟨text, rest, rfl, ht⟩ := ih ((openMark_infix_cons.1 h).resolve_left hc)
      refine ⟨c :: text, rest, rfl, fun ho => ?_⟩
      rcases openMark_infix_cons.1 ho with ⟨rfl, hh⟩ | ho
      · obtain ⟨ds, rfl⟩ := List.head?_eq_some_iff.1 hh
        exact hc ⟨rfl, rfl⟩
      · exact ht ho

theorem beforeOpen_of_plain (h : ¬ openMark <:+: cs) : beforeOpen cs = (cs, none) := by
  fun_induction beforeOpen cs with
  | case1 => rfl
  | case2 rest => simp [openMark_infix_cons] at h
  | case3 c rest _ t a heq ih =>
    have hr : ¬ openMark <:+: rest := fun hr => h (List.infix_cons hr)
    rw [ih hr] at heq
    cases heq
    rfl

theorem beforeOpen_append (h : ¬ openMark <:+: text) (rest : List Char) :
    beforeOpen (text ++ '$' :: '{' :: rest) = (text, some rest) := by
  induction text with
  | nil => rfl
  | cons c text ih =>
    rw [openMark_infix_cons, not_or] at h
    rw [List.cons_append, beforeOpen, ih h.2]
    rintro r rfl hr
    refine h.1 ⟨rfl, ?_⟩
    cases text with
    | nil => simp at hr
    | cons d ds => simp_all

theorem body_append (hclose : '}' ∉ body) (hopen : ¬ openMark <:+: body) (after : List Char) :
    body? (body ++ '}' :: after) = some (body, after) := by
  induction body with
  | nil => rfl
  | cons c body ih =>
    obtain ⟨hc, hb⟩ : c ≠ '}' ∧ '}' ∉ body := by simpa [eq_comm] using hclose
    rw [openMark_infix_cons, not_or] at hopen
    rw [List.cons_append, body?, ih hb hopen.2]
    · rfl
    · exact hc
    · rintro r rfl hr
      refine hopen.1 ⟨rfl, ?_⟩
      cases body with
      | nil => simp at hr
      | cons d ds => simp_all

theorem eq_of_body (h : body? cs = some (body, after)) :
    cs = body ++ '}' :: after ∧ '}' ∉ body ∧ ¬ openMark <:+: body := by
  fun_induction body? cs generalizing body after with
  | case1 => simp at h
  | case2 rest =>
    cases h
    exact ⟨rfl, by simp, by simp [openMark]⟩
  | case3 => simp at h
  | case4 c rest hc ho ih =>
    obtain ⟨⟨b, a⟩, hb, he⟩ := Option.map_eq_some_iff.1 h
    cases he
    obtain ⟨rfl, hclose, hopen⟩ := ih hb
    refine ⟨rfl, by simpa [eq_comm] using ⟨hc, hclose⟩, ?_⟩
    rw [openMark_infix_cons]
    rintro (⟨rfl, hh⟩ | hi)
    · obtain ⟨ds, rfl⟩ := List.head?_eq_some_iff.1 hh
      exact ho _ rfl rfl
    · exact hopen hi

/-- No opening mark stands across the border between two texts. -/
def Joins (front back : List Char) : Prop := ¬ (front.getLast? = some '$' ∧ back.head? = some '{')

theorem openMark_infix_append {front back : List Char} (hj : Joins front back) :
    openMark <:+: front ++ back ↔ openMark <:+: front ∨ openMark <:+: back := by
  induction front with
  | nil => simp [openMark]
  | cons c front ih =>
    rw [List.cons_append, openMark_infix_cons, openMark_infix_cons]
    cases front with
    | nil =>
      have hb : ¬ (c = '$' ∧ back.head? = some '{') := by simpa [Joins] using hj
      simp [hb, openMark]
    | cons d ds =>
      have hd : Joins (d :: ds) back := by simpa [Joins] using hj
      rw [ih hd, or_assoc]
      simp

/-! ## Texts and their nodes -/

/-- A text and the nodes that it writes, one expression after the other. -/
inductive Written : List Char → List Node → Prop
  | plain {text : List Char} : ¬ openMark <:+: text → Written text (literalNodes text)
  | expression {text body after : List Char} {e : Expression} {nodes : List Node} :
      ¬ openMark <:+: text → '}' ∉ body → ¬ openMark <:+: body → ReadsBody body e → Written after nodes →
      Written (text ++ '$' :: '{' :: (body ++ '}' :: after)) (literalNodes text ++ .expression e :: nodes)

/-- Nodes after a literal text, which a literal at their head takes in. -/
def glue (text : List Char) : List Node → List Node
  | .literal s :: nodes => literalNodes (text ++ s.toList) ++ nodes
  | nodes => literalNodes text ++ nodes

theorem glue_literalNodes (text : List Char) (t : List Char) {nodes : List Node}
    (hn : ∀ s, nodes.head? ≠ some (.literal s)) :
    glue text (literalNodes t ++ nodes) = literalNodes (text ++ t) ++ nodes := by
  by_cases ht : t = []
  · subst ht
    cases nodes with
    | nil => simp [literalNodes, glue]
    | cons node nodes =>
      cases node with
      | literal s => simp at hn
      | expression e => simp [literalNodes, glue]
  · simp [literalNodes, ht, glue, textOf]

theorem Written.prepend (ht : ¬ openMark <:+: text) (hj : Joins text cs) (h : Written cs nodes) :
    Written (text ++ cs) (glue text nodes) := by
  cases h with
  | plain ho =>
    have hg : glue text (literalNodes cs ++ []) = literalNodes (text ++ cs) ++ [] :=
      glue_literalNodes text cs (by simp)
    rw [List.append_nil, List.append_nil] at hg
    rw [hg]
    refine .plain ?_
    rw [openMark_infix_append hj]
    exact not_or.2 ⟨ht, ho⟩
  | @expression t body after e nodes ho hclose hopen he hw =>
    rw [glue_literalNodes text t (by simp), ← List.append_assoc]
    refine .expression ?_ hclose hopen he hw
    have hjt : Joins text t := by
      cases t with
      | nil => simp [Joins]
      | cons d ds => simpa [Joins] using hj
    rw [openMark_infix_append hjt]
    exact not_or.2 ⟨ht, ho⟩

theorem parseFrom_of_plain (h : ¬ openMark <:+: cs) : parseFrom position cs = .ok (literalNodes cs) := by
  rw [parseFrom]
  split
  · next text ho =>
    rw [beforeOpen_of_plain h] at ho
    cases ho
    rfl
  · next text rest ho =>
    rw [beforeOpen_of_plain h] at ho
    cases ho

theorem parseFrom_append (h : ¬ openMark <:+: text) (rest : List Char) :
    parseFrom position (text ++ '$' :: '{' :: rest) =
      match body? rest with
      | none => .error ⟨.unterminated, position + text.length⟩
      | some (body, after) => do
        let e ← parseBody (position + text.length + 2) body
        let nodes ← parseFrom (position + text.length + 2 + body.length + 1) after
        return literalNodes text ++ .expression e :: nodes := by
  rw [parseFrom]
  split
  · next t ho =>
    rw [beforeOpen_append h] at ho
    cases ho
  · next t r ho =>
    rw [beforeOpen_append h] at ho
    cases ho
    split
    · next hb => rw [hb]
    · next b a hb => rw [hb]

theorem parseFrom_of_written (h : Written cs nodes) (position : Nat) : parseFrom position cs = .ok nodes := by
  induction h generalizing position with
  | plain ho => exact parseFrom_of_plain ho
  | expression ht hclose hopen he _ ih =>
    rw [parseFrom_append ht, body_append hclose hopen]
    simp [parseBody_eq_ok_iff.2 he, ih]

theorem written_of_parseFrom (h : parseFrom position cs = .ok nodes) : Written cs nodes := by
  induction hn : cs.length using Nat.strong_induction_on generalizing cs nodes position with
  | _ n ih =>
    subst hn
    by_cases ho : openMark <:+: cs
    · obtain ⟨text, rest, rfl, ht⟩ := exists_first_openMark ho
      rw [parseFrom_append ht] at h
      cases hb : body? rest with
      | none => simp [hb] at h
      | some p =>
        obtain ⟨body, after⟩ := p
        obtain ⟨rfl, hclose, hopen⟩ := eq_of_body hb
        simp only [hb, Outcome.bind_eq_ok_iff, parseBody_eq_ok_iff] at h
        obtain ⟨e, he, more, hm, hr⟩ := h
        cases hr
        have hlen : after.length < (text ++ '$' :: '{' :: (body ++ '}' :: after)).length := by
          simp only [List.length_append, List.length_cons]
          omega
        exact .expression ht hclose hopen he (ih _ hlen hm rfl)
    · rw [parseFrom_of_plain ho] at h
      cases h
      exact .plain ho

theorem Written.exists_body (h : Written cs nodes) {x : Expression} (hx : .expression x ∈ nodes) :
    ∃ body, '}' ∉ body ∧ ¬ openMark <:+: body ∧ ReadsBody body x := by
  have hliteral (text : List Char) : .expression x ∉ literalNodes text := by
    rw [literalNodes]
    split <;> simp
  induction h with
  | plain => exact absurd hx (hliteral _)
  | @expression text body after e nodes _ hclose hopen he _ ih =>
    rcases List.mem_append.1 hx with hx | hx
    · exact absurd hx (hliteral text)
    · rcases List.mem_cons.1 hx with hx | hx
      · cases hx
        exact ⟨body, hclose, hopen, he⟩
      · exact ih hx

/-- Where a text stands does not matter for the nodes that it writes. -/
theorem parseFrom_eq_ok_iff : parseFrom position cs = .ok nodes ↔ Written cs nodes :=
  ⟨written_of_parseFrom, fun h => parseFrom_of_written h position⟩

theorem parse_eq_ok_iff {source : String} {t : Template} :
    parse source = .ok t ↔ Written source.toList t.nodes := by
  have h : parseFrom 0 source.toList = .ok t.nodes ↔ Written source.toList t.nodes := parseFrom_eq_ok_iff
  rw [← h, parse]
  cases parseFrom 0 source.toList with
  | error fault => simp
  | ok nodes =>
    obtain ⟨ns⟩ := t
    simp

theorem parse_braced {e : Expression} (hclose : '}' ∉ body) (hopen : ¬ openMark <:+: body) (he : ReadsBody body e) :
    parse (braced (textOf body)) = .ok ⟨[.expression e]⟩ := by
  have hnil : ¬ openMark <:+: ([] : List Char) := by simp [openMark]
  have hw := Written.expression hnil hclose hopen he (.plain hnil)
  refine parse_eq_ok_iff.2 ?_
  simpa [braced, textOf, literalNodes] using hw

theorem parse_refused {source : String} (h : ∀ nodes, ¬ Written source.toList nodes) :
    ∃ cause position, parse source = .error (.malformed cause position source) := by
  rw [parse]
  cases hp : parseFrom 0 source.toList with
  | error fault => exact ⟨fault.cause, fault.position, rfl⟩
  | ok nodes => exact absurd (written_of_parseFrom hp) (h nodes)

end Stencil.Template
