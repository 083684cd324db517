import Stencil.Proofs.Evaluation.UnknownPipe
import Stencil.Proofs.Template.Canonical
import Stencil.Proofs.Template.Grammar

/-!
Arguments on their way from a template to its pipes. Main statement: rejoined, they are the text that was written, save
for blanks at its end; so no template splits a text at an empty separator.
-/

namespace Stencil

open Outcome

namespace Pipe

theorem rejoin_textOf (pieces : List (List Char)) :
    rejoin ((pieces.map Template.textOf).map Value.text) = .ok (Template.textOf (Text.joinWith [':'] pieces)) := by
  have hpieces : (pieces.map Template.textOf).map String.toList = pieces := by
    simp [Template.textOf, Function.comp_def]
  have hjoin : (String.intercalate ":" (pieces.map Template.textOf)).toList = Text.joinWith [':'] pieces := by
    rw [Text.toList_intercalate, hpieces]
    rfl
  rw [rejoin_texts, Template.textOf, ← hjoin, String.ofList_toList]

end Pipe

namespace Template

variable {segment text body : List Char} {p : PipeCall} {args : List String}

/-- A pipe that takes the arguments as one gets the text without the blanks at its end. -/
def Rejoins (args : List String) (text : List Char) : Prop :=
  Pipe.rejoin (args.map Value.text) = .ok (textOf (Text.trimEnd text)) ∧ Text.trimEnd text ≠ [] ∧
    (Text.trimEnd text).getLast? ≠ some ':'

/-- The arguments are what stands after the first colon of the segment, from the second one on what stands after the
second colon. -/
def AsTyped (segment : List Char) (p : PipeCall) : Prop :=
  (':' ∉ segment → p.args = []) ∧
    ∀ before after, segment = before ++ ':' :: after → ':' ∉ before →
      Rejoins p.args after ∧
        (2 ≤ p.args.length →
          ∃ first rest, after = first ++ ':' :: rest ∧ ':' ∉ first ∧ Rejoins p.args.tail rest)

def Piece.HoldsArguments : Piece → Node → Prop
  | .literal _, .literal _ => True
  | .expression body, .expression e =>
    ∃ first segments, Text.Cut '|' body (first :: segments) ∧ List.Forall₂ AsTyped segments e.pipes
  | _, _ => False

theorem rejoins_splitChar (h : (Text.splitChar ':' (Text.trimEnd text)).getLast? ≠ some []) :
    Rejoins ((Text.splitChar ':' (Text.trimEnd text)).map textOf) text := by
  rw [ne_eq, Text.getLast_splitChar_eq_nil_iff, not_or] at h
  exact ⟨by rw [Pipe.rejoin_textOf, Text.joinWith_splitChar], h⟩

theorem ReadsPipe.asTyped (h : ReadsPipe segment p) : AsTyped segment p := by
  have hmark : Text.isBlank ':' = false := by decide
  obtain ⟨name, args, hcut, -, hlast, -, hargs⟩ := h
  have hsplit : Text.splitChar ':' (Text.trim segment) = name :: args := Text.splitChar_eq_iff.2 hcut
  constructor
  · intro hcolon
    rw [Text.splitChar_of_notMem fun hc => hcolon ((Text.trim_isInfix segment).subset hc)] at hsplit
    obtain ⟨-, rfl⟩ := List.cons.inj hsplit
    exact hargs
  · rintro before after rfl hbefore
    have hstart : ':' ∉ Text.trimStart before := fun hc => hbefore ((Text.trimStart_isSuffix before).subset hc)
    rw [Text.trim_append_cons_eq hmark, Text.splitChar_append_sep hstart] at hsplit
    obtain ⟨-, rfl⟩ := List.cons.inj hsplit
    rw [hargs]
    refine ⟨rejoins_splitChar hlast, fun htwo => ?_⟩
    have hcolon : ':' ∈ after := by
      by_contra hno
      rw [Text.splitChar_of_notMem fun hc => hno ((Text.trimEnd_isPrefix after).subset hc)] at htwo
      simp at htwo
    obtain ⟨first, rest, rfl, hfirst⟩ := List.eq_append_cons_of_mem hcolon
    refine ⟨first, rest, rfl, hfirst, ?_⟩
    have hnext : Text.splitChar ':' (Text.trimEnd (first ++ ':' :: rest)) =
        first :: Text.splitChar ':' (Text.trimEnd rest) := by
      rw [Text.trimEnd_append_cons hmark, Text.splitChar_append_sep hfirst]
    rw [hnext] at hlast ⊢
    refine rejoins_splitChar fun hnil => hlast ?_
    rw [List.getLast?_cons, hnil]
    rfl

theorem Piece.Reads.holdsArguments {piece : Piece} {node : Node} (h : piece.Reads node) : piece.HoldsArguments node := by
  cases piece with
  | literal text =>
    cases node with
    | literal s => trivial
    | expression e => exact h.elim
  | expression body =>
    cases node with
    | literal s => exact h.elim
    | expression e =>
      obtain ⟨-, first, segments, hcut, -, hpipes⟩ := h
      exact ⟨first, segments, hcut, hpipes.imp fun _ _ => ReadsPipe.asTyped⟩

/-! ## Separators -/

theorem ReadsPipe.separator (h : ReadsPipe segment p) :
    ∃ sep, Pipe.separator (p.args.map Value.text) = .ok sep ∧ sep ≠ "" := by
  obtain ⟨hnone, hsome⟩ := h.asTyped
  by_cases hargs : p.args = []
  · exact ⟨",", by rw [hargs]; rfl, by decide⟩
  · have hcolon : ':' ∈ segment := by
      by_contra hno
      exact hargs (hnone hno)
    obtain ⟨before, after, rfl, hbefore⟩ := List.eq_append_cons_of_mem hcolon
    obtain ⟨⟨hrejoin, hne, -⟩, -⟩ := hsome before after rfl hbefore
    refine ⟨textOf (Text.trimEnd after), ?_, by simpa [textOf] using hne⟩
    rw [Pipe.separator, if_neg (by simpa using hargs), hrejoin]

theorem exists_readsPipe {source : String} {t : Template} (ht : parse source = .ok t) {x : Expression}
    (hx : x ∈ t.expressions) (hp : p ∈ x.pipes) : ∃ segment, ReadsPipe segment p := by
  obtain ⟨body, -, -, -, first, rest, -, -, hpipes⟩ := (parse_eq_ok_iff.1 ht).exists_body (mem_expressions.1 hx)
  obtain ⟨segment, -, hread⟩ := exists_mem_of_forall₂ hpipes hp
  exact ⟨segment, hread⟩

end Template

def Error.SparesSeparators (err : Error) : Prop := err ≠ .refused .emptySeparator

theorem Error.OfReading.sparesSeparators : ∀ err, Error.OfReading err → err.SparesSeparators := by
  rintro _ h rfl
  exact h

namespace Registry

theorem apply_standard_fails (today : Calendar.Date) {args : List Value} {sep : String}
    (hsep : Pipe.separator args = .ok sep) (hne : sep ≠ "") (name : String) (v : Value) :
    Fails Error.SparesSeparators ((standard today).apply name args v) := by
  let Spares (p : Pipe) : Prop := ∀ v, Fails Error.SparesSeparators (p args v)
  have hreading (p : Pipe) (h : p.FailsByReading) : Spares p :=
    fun v => (h args v).mono Error.OfReading.sparesSeparators
  have hpass (p : Pipe) (h : Spares p) : Spares p.passingAbsence := by
    intro v
    rw [Pipe.passingAbsence]
    split
    · exact fails_ok _
    · exact h v
  have hsplit : Spares Pipe.split :=
    fun v => (Pipe.split_fails_of_separator hsep hne v).mono Error.OfReading.sparesSeparators
  rw [Registry.apply]
  cases hfind : (standard today).find? name with
  | none => exact (fails_error _).2 (by simp [Error.SparesSeparators])
  | some p =>
    rw [find?] at hfind
    split at hfind
    · next q _ =>
      cases hfind
      exact hreading _ q.run_fails v
    · obtain ⟨before, after, hentries, -⟩ := List.lookup_eq_some_iff.1 hfind
      exact forall_standard hpass hreading hsplit today (name, p) (by simp [hentries]) v

end Registry

namespace Evaluator

open Template

theorem parse_fails (e : Evaluator) (source : String) : Fails Error.SparesSeparators (e.parse source) := by
  rw [Evaluator.parse, Template.parse]
  cases parseFrom 0 source.toList with
  | error fault => exact (fails_error _).2 (by simp [Error.SparesSeparators])
  | ok nodes =>
    dsimp only [ok_bind]
    split
    · exact (fails_error _).2 (by simp [Error.SparesSeparators])
    · exact fails_ok _

theorem arguments_reach_pipes (source : String) :
    (∀ t, Template.parse source = .ok t →
      ∃ pieces, Composes pieces source.toList ∧ List.Forall₂ Piece.HoldsArguments pieces t.nodes) ∧
      ∀ resolver today context,
        eval ⟨resolver, .standard today⟩ source context = .error (.refused .emptySeparator) →
          ∃ key run, resolver.resolve key = some (.function run) ∧
            run key context = .error (.refused .emptySeparator) := by
  constructor
  · intro t ht
    obtain ⟨pieces, hpieces, hreads⟩ := exists_pieces_of_written (parse_eq_ok_iff.1 ht)
    exact ⟨pieces, hpieces, hreads.imp fun _ _ => Piece.Reads.holdsArguments⟩
  · intro resolver today context h
    by_contra hno
    have hhandlers : ∀ key run, resolver.resolve key = some (.function run) →
        Fails Error.SparesSeparators (run key context) := by
      rintro key run hrun err herr rfl
      exact hno ⟨key, run, hrun, herr⟩
    rw [eval, bind_eq_error_iff] at h
    rcases h with hparse | ⟨t, ht, hexecute⟩
    · exact parse_fails _ source _ hparse rfl
    · have hsource : Template.parse source = .ok t := ((parse_eq_ok_iff_known _).1 ht).1
      refine execute_fails Error.OfReading.sparesSeparators hhandlers (fun x hx p hp v => ?_) _ hexecute rfl
      obtain ⟨segment, hread⟩ := exists_readsPipe hsource hx hp
      obtain ⟨sep, hsep, hne⟩ := hread.separator
      exact Registry.apply_standard_fails today hsep hne p.name v

theorem arguments_reach_pipes_colons :
    Rejoins [" x", "", "y"] " x::y ".toList ∧
      (∃ first rest, " x::y ".toList = first ++ ':' :: rest ∧ ':' ∉ first ∧ Rejoins ["", "y"] rest) ∧
      ∀ today context,
        eval ⟨.fromContext, .standard today⟩ "$\x7ba|string.split: :,\x7d" context ≠
          .error (.refused .emptySeparator) := by
  have ht : Template.parse "$\x7ba | p: x::y |q\x7d" = .ok ⟨[
      .expression ⟨⟨none, "a", none⟩, [⟨"p", [" x", "", "y"]⟩, ⟨"q", []⟩], "a | p: x::y |q"⟩]⟩ := by cbv
  obtain ⟨pieces, hpieces, hholds⟩ := (arguments_reach_pipes _).1 _ ht
  obtain rfl := composes_unique hpieces (composes_of_parse ht)
  obtain _ | ⟨⟨first, segments, hcut, hargs⟩, -⟩ := hholds
  obtain ⟨rfl, rfl⟩ : first = "a ".toList ∧ segments = [" p: x::y ".toList, "q".toList] := by
    have hsplit := Text.splitChar_eq_iff.2 hcut
    exact List.cons.inj (hsplit.symm.trans (by decide))
  obtain _ | ⟨hp, -⟩ := hargs
  obtain ⟨hrejoins, htail⟩ := hp.2 " p".toList " x::y ".toList rfl (by decide)
  refine ⟨hrejoins, htail (by decide), fun today context h => ?_⟩
  obtain ⟨key, run, hrun, -⟩ := (arguments_reach_pipes _).2 .fromContext today context h
  rw [Resolver.resolve_fromContext] at hrun
  split at hrun <;> cases hrun

end Evaluator

end Stencil
