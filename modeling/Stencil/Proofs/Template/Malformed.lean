import Stencil.Proofs.Template.Written
import Stencil.Proofs.Text.Joining

/-!
Texts that are no templates. Main statement: the error tells of the first malformed expression, what is wrong with it
and where, and what stands after the expression has no part in it.
-/

namespace Stencil

namespace Template

variable {segment body front back rest cs : List Char} {position p offset : Nat} {cause : Malformation}
  {nodes : List Node}

/-! ## Names and key references -/

theorem nameAndPath_eq_error_iff {ns : Option (List Char)} :
    nameAndPath ns position cs = .error ⟨cause, p⟩ ↔ ¬ NameForm cs ∧ cause = .missingName ∧ p = position := by
  have hform : NameForm cs ↔ ∃ k, nameAndPath ns position cs = .ok k := by
    rw [nameForm_iff]
    constructor
    · rintro ⟨name, path, hread⟩
      exact ⟨⟨ns.map textOf, name, path⟩, nameAndPath_eq_ok_iff.2 ⟨rfl, hread⟩⟩
    · rintro ⟨k, hk⟩
      exact ⟨_, _, (nameAndPath_eq_ok_iff.1 hk).2⟩
  rw [hform, nameAndPath]
  generalize (splitAtFirst? '.' cs).getD (cs, []) = parts
  by_cases hname : parts.1 = [] <;> simp [hname, eq_comm]

inductive KeyFault (segment : List Char) : Malformation → Prop
  | missingKey : Text.trim segment = [] → KeyFault segment .missingKey
  | emptyNamespace {before after : List Char} :
      Text.trim segment = before ++ ':' :: after → ':' ∉ before → Text.trim before = [] →
      KeyFault segment .emptyNamespace
  | missingName :
      Text.trim segment ≠ [] → ':' ∉ Text.trim segment → ¬ NameForm (Text.trim segment) → KeyFault segment .missingName
  | missingNameAfter {before after : List Char} :
      Text.trim segment = before ++ ':' :: after → ':' ∉ before → Text.trim before ≠ [] →
      ¬ NameForm (Text.trim after) → KeyFault segment .missingName

theorem parseKey_eq_error_iff :
    parseKey position segment = .error ⟨cause, p⟩ ↔ KeyFault segment cause ∧ p = position := by
  rw [parseKey]
  constructor
  · intro h
    split at h
    · next hnil =>
      cases h
      exact ⟨.missingKey hnil, rfl⟩
    · next hne =>
      split at h
      · next hs =>
        obtain ⟨hform, rfl, rfl⟩ := nameAndPath_eq_error_iff.1 h
        exact ⟨.missingName hne (splitAtFirst_eq_none_iff.1 hs) hform, rfl⟩
      · next before after hs =>
        obtain ⟨heq, hcolon⟩ := splitAtFirst_eq_some_iff.1 hs
        dsimp only at h
        split at h
        · next hns =>
          cases h
          exact ⟨.emptyNamespace heq hcolon hns, rfl⟩
        · next hns =>
          obtain ⟨hform, rfl, rfl⟩ := nameAndPath_eq_error_iff.1 h
          exact ⟨.missingNameAfter heq hcolon hns hform, rfl⟩
  · rintro ⟨hfault, rfl⟩
    cases hfault with
    | missingKey hnil => rw [if_pos hnil]
    | emptyNamespace heq hcolon hns =>
      rw [if_neg (by simp [heq]), heq, splitAtFirst_append hcolon]
      exact if_pos hns
    | missingName hne hcolon hform =>
      rw [if_neg hne, splitAtFirst_of_notMem hcolon]
      exact nameAndPath_eq_error_iff.2 ⟨hform, rfl, rfl⟩
    | missingNameAfter heq hcolon hns hform =>
      rw [if_neg (by simp [heq]), heq, splitAtFirst_append hcolon]
      exact (if_neg hns).trans (nameAndPath_eq_error_iff.2 ⟨hform, rfl, rfl⟩)

/-! ## Pipes -/

def pipeName (segment : List Char) : List Char := Text.trim ((Text.trim segment).takeWhile (· ≠ ':'))

inductive PipeFault (segment : List Char) : Malformation → Prop
  | missingPipe : pipeName segment = [] → PipeFault segment .missingPipe
  | openArguments :
      pipeName segment ≠ [] → (Text.trim segment).getLast? = some ':' →
      PipeFault segment (.openArguments (textOf (pipeName segment)))

theorem parsePipe_eq_error_iff :
    parsePipe position segment = .error ⟨cause, p⟩ ↔ PipeFault segment cause ∧ p = position := by
  obtain ⟨first, args, h⟩ := List.exists_cons_of_ne_nil (Text.splitChar_ne_nil ':' (Text.trim segment))
  have hname : pipeName segment = Text.trim first := by rw [pipeName, Text.takeWhile_of_splitChar h]
  have hlast : args.getLast? = some [] ↔ (Text.trim segment).getLast? = some ':' := Text.getLast_tail_splitChar h
  rw [parsePipe, h]
  dsimp only
  rw [← hname]
  constructor
  · intro he
    split at he
    · next hnil =>
      cases he
      exact ⟨.missingPipe hnil, rfl⟩
    · next hne =>
      split at he
      · next hopen =>
        cases he
        exact ⟨.openArguments hne (hlast.1 hopen), rfl⟩
      · cases he
  · rintro ⟨hfault, rfl⟩
    cases hfault with
    | missingPipe hnil => rw [if_pos hnil]
    | openArguments hne hopen => rw [if_neg hne, if_pos (hlast.2 hopen)]

theorem parsePipes_eq_error_iff {segments : List (List Char)} :
    parsePipes position segments = .error ⟨cause, p⟩ ↔
      ∃ good bad rest, segments = good ++ bad :: rest ∧ (∀ s ∈ good, PipeForm s) ∧ PipeFault bad cause ∧
        p = position + (good.flatMap fun s => s ++ ['|']).length := by
  induction segments generalizing position with
  | nil => simp [parsePipes]
  | cons segment segments ih =>
    have hstep : parsePipes position (segment :: segments) = .error ⟨cause, p⟩ ↔
        (PipeFault segment cause ∧ p = position) ∨
          PipeForm segment ∧ parsePipes (position + segment.length + 1) segments = .error ⟨cause, p⟩ := by
      simp [parsePipes, Outcome.bind_eq_error_iff, parsePipe_eq_error_iff, parsePipe_eq_ok_iff, pipeForm_iff]
    rw [hstep, ih]
    constructor
    · rintro (⟨hfault, rfl⟩ | ⟨hsegment, good, bad, rest, rfl, hgood, hfault, rfl⟩)
      · exact ⟨[], segment, segments, rfl, by simp, hfault, by simp⟩
      · refine ⟨segment :: good, bad, rest, rfl, List.forall_mem_cons.2 ⟨hsegment, hgood⟩, hfault, ?_⟩
        simp only [List.flatMap_cons, List.length_append, List.length_singleton]
        omega
    · rintro ⟨good, bad, rest, heq, hgood, hfault, rfl⟩
      cases good with
      | nil =>
        obtain ⟨rfl, rfl⟩ := List.cons.inj heq
        exact .inl ⟨hfault, by simp⟩
      | cons s good =>
        obtain ⟨rfl, rfl⟩ := List.cons.inj heq
        rw [List.forall_mem_cons] at hgood
        refine .inr ⟨hgood.1, good, bad, rest, rfl, hgood.2, hfault, ?_⟩
        simp only [List.flatMap_cons, List.length_append, List.length_singleton]
        omega

/-! ## Bodies -/

/-- What is wrong with a body, and the place in it: the front for its key reference, and for a pipe the place after the
bar that opens it, where all before this bar is accepted. -/
inductive BodyFault (body : List Char) : Malformation → Nat → Prop
  | key {cause : Malformation} : KeyFault (body.takeWhile (· ≠ '|')) cause → BodyFault body cause 0
  | pipe {front back : List Char} {cause : Malformation} :
      body = front ++ '|' :: back → BodyForm front → PipeFault (back.takeWhile (· ≠ '|')) cause →
      BodyFault body cause (front.length + 1)

theorem parseBody_eq_error_iff :
    parseBody position body = .error ⟨cause, p⟩ ↔ ∃ offset, BodyFault body cause offset ∧ p = position + offset := by
  obtain ⟨first, rest, h⟩ := List.exists_cons_of_ne_nil (Text.splitChar_ne_nil '|' body)
  have hfirst : body.takeWhile (· ≠ '|') = first := Text.takeWhile_of_splitChar h
  have herror : parseBody position body = .error ⟨cause, p⟩ ↔ (KeyFault first cause ∧ p = position) ∨
      KeyForm first ∧ parsePipes (position + first.length + 1) rest = .error ⟨cause, p⟩ := by
    simp [parseBody, h, Outcome.bind_eq_error_iff, parseKey_eq_error_iff, parseKey_eq_ok_iff, keyForm_iff]
  rw [herror]
  constructor
  · rintro (⟨hfault, rfl⟩ | ⟨hkey, hpipes⟩)
    · exact ⟨0, .key (hfirst ▸ hfault), rfl⟩
    · obtain ⟨good, bad, others, rfl, hgood, hfault, rfl⟩ := parsePipes_eq_error_iff.1 hpipes
      obtain ⟨-, hbar, hjoin⟩ := Text.splitChar_eq_iff.1 h
      have hbars : (∀ s ∈ first :: good, '|' ∉ s) ∧ ∀ s ∈ bad :: others, '|' ∉ s := by
        rwa [← List.forall_mem_append, List.cons_append]
      have hsplit : body =
          Text.joinWith ['|'] (first :: good) ++ '|' :: Text.joinWith ['|'] (bad :: others) :=
        hjoin.symm.trans (Text.joinWith_append (List.cons_ne_nil first good) (List.cons_ne_nil bad others))
      have hback : (Text.joinWith ['|'] (bad :: others)).takeWhile (· ≠ '|') = bad :=
        Text.takeWhile_of_splitChar (Text.splitChar_joinWith (by simp) hbars.2)
      refine ⟨_, .pipe hsplit ⟨first, good, ⟨by simp, hbars.1, rfl⟩, hkey, hgood⟩ (by rwa [hback]), ?_⟩
      rw [Text.length_joinWith]
      omega
  · rintro ⟨offset, hfault, rfl⟩
    cases hfault with
    | key hfault => exact .inl ⟨hfirst ▸ hfault, rfl⟩
    | @pipe front back _ hsplit hform hfault =>
      obtain ⟨key, good, hcut, hkey, hgood⟩ := hform
      obtain ⟨bad, others, hback⟩ := List.exists_cons_of_ne_nil (Text.splitChar_ne_nil '|' back)
      have hlength := Text.length_joinWith ['|'] key good
      rw [hcut.2.2] at hlength
      rw [Text.takeWhile_of_splitChar hback] at hfault
      rw [hsplit, Text.splitChar_append, Text.splitChar_eq_iff.2 hcut, hback, List.cons_append] at h
      obtain ⟨rfl, rfl⟩ := List.cons.inj h
      refine .inr ⟨hkey, parsePipes_eq_error_iff.2 ⟨good, bad, others, rfl, hgood, hfault, ?_⟩⟩
      omega

/-! ## Texts -/

/-- No brace closes the expression that has been opened, or another one opens before. -/
def Unterminated (rest : List Char) : Prop :=
  '}' ∉ rest ∨ ∃ body after, rest = body ++ '}' :: after ∧ '}' ∉ body ∧ openMark <:+: body

theorem body_eq_none_iff : body? rest = none ↔ Unterminated rest := by
  constructor
  · intro h
    by_cases hclose : '}' ∈ rest
    · obtain ⟨body, after, rfl, hbody⟩ := List.eq_append_cons_of_mem hclose
      refine .inr ⟨body, after, rfl, hbody, ?_⟩
      by_contra hopen
      rw [body_append hbody hopen] at h
      cases h
    · exact .inl hclose
  · intro h
    cases hb : body? rest with
    | none => rfl
    | some found =>
      obtain ⟨body, after⟩ := found
      obtain ⟨rfl, hclose, hopen⟩ := eq_of_body hb
      rcases h with hno | ⟨body', after', heq, hclose', hopen'⟩
      · simp at hno
      · have hb' := splitAtFirst_append hclose after
        rw [heq, splitAtFirst_append hclose'] at hb'
        cases hb'
        exact absurd hopen' hopen

/-- What is wrong with an expression from its opening mark on, and the place counted from this mark. -/
inductive ExpressionFault : List Char → Malformation → Nat → Prop
  | unterminated {rest : List Char} : Unterminated rest → ExpressionFault rest .unterminated 0
  | body {body after : List Char} {cause : Malformation} {offset : Nat} :
      '}' ∉ body → ¬ openMark <:+: body → BodyFault body cause offset →
      ExpressionFault (body ++ '}' :: after) cause (2 + offset)

/-- After a text that is accepted, the first malformed expression decides. -/
theorem Written.parseFrom_fault (h : Written front nodes) (hfault : ExpressionFault rest cause offset)
    (position : Nat) :
    parseFrom position (front ++ '$' :: '{' :: rest) = .error ⟨cause, position + front.length + offset⟩ := by
  induction h generalizing position with
  | @plain text ho =>
    rw [parseFrom_append ho]
    cases hfault with
    | unterminated hrest =>
      rw [body_eq_none_iff.2 hrest]
      rfl
    | @body body after _ offset hclose hopen hbody =>
      have herror : parseBody (position + text.length + 2) body =
          .error ⟨cause, position + text.length + (2 + offset)⟩ :=
        parseBody_eq_error_iff.2 ⟨offset, hbody, by omega⟩
      rw [body_append hclose hopen]
      simp only [herror, Outcome.error_bind]
  | @expression text body after e nodes ht hclose hopen he _ ih =>
    have hassoc : text ++ '$' :: '{' :: (body ++ '}' :: after) ++ '$' :: '{' :: rest =
        text ++ '$' :: '{' :: (body ++ '}' :: (after ++ '$' :: '{' :: rest)) := by
      simp
    rw [hassoc, parseFrom_append ht, body_append hclose hopen]
    simp only [parseBody_eq_ok_iff.2 he, ih, Outcome.ok_bind, Outcome.error_bind, Except.error.injEq, Fault.mk.injEq,
      true_and, List.length_append, List.length_cons]
    omega

theorem exists_fault_of_parseFrom (h : parseFrom position cs = .error ⟨cause, p⟩) :
    ∃ front rest nodes offset, cs = front ++ '$' :: '{' :: rest ∧ Written front nodes ∧
      ExpressionFault rest cause offset ∧ p = position + front.length + offset := by
  induction hn : cs.length using Nat.strong_induction_on generalizing cs position with
  | _ n ih =>
    subst hn
    by_cases ho : openMark <:+: cs
    · obtain ⟨text, rest, rfl, ht⟩ := exists_first_openMark ho
      rw [parseFrom_append ht] at h
      cases hb : body? rest with
      | none =>
        simp only [hb, Except.error.injEq, Fault.mk.injEq] at h
        obtain ⟨rfl, rfl⟩ := h
        exact ⟨text, rest, _, 0, rfl, .plain ht, .unterminated (body_eq_none_iff.1 hb), rfl⟩
      | some found =>
        obtain ⟨body, after⟩ := found
        obtain ⟨rfl, hclose, hopen⟩ := eq_of_body hb
        simp only [hb, Outcome.bind_eq_error_iff, parseBody_eq_error_iff, Outcome.pure_eq_ok] at h
        rcases h with ⟨offset, hbody, rfl⟩ | ⟨e, he, hafter⟩
        · exact ⟨text, _, _, 2 + offset, rfl, .plain ht, .body hclose hopen hbody, by omega⟩
        · -- The expression is accepted, so the fault is behind it.
          have hlen : after.length < (text ++ '$' :: '{' :: (body ++ '}' :: after)).length := by
            simp only [List.length_append, List.length_cons]
            omega
          have herror := hafter.resolve_right (by simp)
          obtain ⟨front, rest, nodes, offset, rfl, hfront, hfault, rfl⟩ := ih _ hlen herror rfl
          refine ⟨text ++ '$' :: '{' :: (body ++ '}' :: front), rest, _, offset, by simp,
            .expression ht hclose hopen (parseBody_eq_ok_iff.1 he) hfront, hfault, ?_⟩
          simp only [List.length_append, List.length_cons]
          omega
    · rw [parseFrom_of_plain ho] at h
      cases h

theorem parse_of_fault {source : String} (h : Written front nodes) (hfault : ExpressionFault rest cause offset)
    (hs : source.toList = front ++ '$' :: '{' :: rest) :
    parse source = .error (.malformed cause (front.length + offset) source) := by
  rw [parse, hs, h.parseFrom_fault hfault 0, Nat.zero_add]

/-- A text that is refused starts with a text that is accepted, and then the first malformed expression opens. The
position is that of its opening mark where it has no end. Otherwise it is that of the body or of the pipe that is at
fault, and every text that is the same up to the closing brace is refused alike. -/
theorem parse_error_located {source : String} {err : Error} (h : parse source = .error err) :
    ∃ front rest cause position, err = .malformed cause position source ∧
      source.toList = front ++ openMark ++ rest ∧ (∃ t, parse (textOf front) = .ok t) ∧
      (Unterminated rest ∧ cause = .unterminated ∧ position = front.length ∨
        ∃ body after offset, rest = body ++ '}' :: after ∧ '}' ∉ body ∧ ¬ openMark <:+: body ∧
          BodyFault body cause offset ∧ position = front.length + 2 + offset ∧
          ∀ other : String, front ++ openMark ++ body ++ ['}'] <+: other.toList →
            parse other = .error (.malformed cause position other)) := by
  rw [parse] at h
  cases hp : parseFrom 0 source.toList with
  | ok nodes => simp [hp] at h
  | error fault =>
    obtain ⟨cause, position⟩ := fault
    obtain ⟨front, rest, nodes, offset, hsource, hfront, hfault, rfl⟩ := exists_fault_of_parseFrom hp
    have herr : err = .malformed cause (0 + front.length + offset) source := by
      rw [hp] at h
      exact (Except.error.inj h).symm
    have hparse : parse (textOf front) = .ok ⟨nodes⟩ := by
      refine parse_eq_ok_iff.2 ?_
      rwa [textOf, String.toList_ofList]
    refine ⟨front, rest, cause, _, herr, by simpa [openMark] using hsource, ⟨_, hparse⟩, ?_⟩
    cases hfault with
    | unterminated hrest => exact .inl ⟨hrest, rfl, by omega⟩
    | @body body after _ offset hclose hopen hbody =>
      refine .inr ⟨body, after, offset, rfl, hclose, hopen, hbody, by omega, ?_⟩
      rintro other ⟨tail, hother⟩
      have hsplit : other.toList = front ++ '$' :: '{' :: (body ++ '}' :: tail) := by
        rw [← hother]
        simp [openMark]
      rw [parse_of_fault hfront (.body hclose hopen hbody) hsplit, Nat.zero_add]

/-- The second pipe of the second expression has no name, whether or not another expression opens behind it. -/
theorem parse_error_located_pipe :
    parse "a$\x7bx\x7d$\x7bk|p:1| :2\x7d" = .error (.malformed .missingPipe 13 "a$\x7bx\x7d$\x7bk|p:1| :2\x7d") ∧
      parse "a$\x7bx\x7d$\x7bk|p:1| :2\x7d$\x7b" =
        .error (.malformed .missingPipe 13 "a$\x7bx\x7d$\x7bk|p:1| :2\x7d$\x7b") := by
  have h : parse "a$\x7bx\x7d$\x7bk|p:1| :2\x7d" =
      .error (.malformed .missingPipe 13 "a$\x7bx\x7d$\x7bk|p:1| :2\x7d") := by cbv
  refine ⟨h, ?_⟩
  obtain ⟨front, rest, cause, position, herr, hsource, -, hwhere⟩ := parse_error_located h
  rcases hwhere with ⟨-, rfl, -⟩ | ⟨body, after, offset, rfl, -, -, -, -, hother⟩
  · cases herr
  · cases herr
    have hlonger : "a$\x7bx\x7d$\x7bk|p:1| :2\x7d$\x7b".toList = "a$\x7bx\x7d$\x7bk|p:1| :2\x7d".toList ++ openMark := by
      decide
    refine hother _ ⟨after ++ openMark, ?_⟩
    rw [hlonger, hsource]
    simp

end Template

end Stencil
