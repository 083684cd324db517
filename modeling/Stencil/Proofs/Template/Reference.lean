import Mathlib.Data.List.TakeWhile
import Stencil.Proofs.Outcome
import Stencil.Proofs.Text.Pieces
import Stencil.Template.Parser

/-!
What stands between the braces of an expression: the written form of a key reference and of a pipe, the data that each
one means, and that the parser accepts exactly these forms and answers exactly these data.
-/

namespace Stencil.Template

variable {mark : Char} {cs before after segment body : List Char} {position : Nat}

theorem textOf_injective {a b : List Char} (h : textOf a = textOf b) : a = b := by
  simpa [textOf] using congrArg String.toList h

theorem splitAtFirst_append (h : mark ∉ before) (after : List Char) :
    splitAtFirst? mark (before ++ mark :: after) = some (before, after) := by
  have hall : ∀ c ∈ before, decide (c ≠ mark) = true := fun c hc => by
    have : c ≠ mark := fun he => h (he ▸ hc)
    simpa using this
  rw [splitAtFirst?, List.dropWhile_append_of_pos hall, List.takeWhile_append_of_pos hall]
  simp

theorem splitAtFirst_of_notMem (h : mark ∉ cs) : splitAtFirst? mark cs = none := by
  have hdrop : cs.dropWhile (· ≠ mark) = [] := by
    rw [List.dropWhile_eq_nil_iff]
    intro c hc
    have : c ≠ mark := fun he => h (he ▸ hc)
    simpa using this
  rw [splitAtFirst?, hdrop]

theorem splitAtFirst_eq_none_iff : splitAtFirst? mark cs = none ↔ mark ∉ cs := by
  refine ⟨fun h hm => ?_, splitAtFirst_of_notMem⟩
  obtain ⟨before, after, rfl, hb⟩ := List.eq_append_cons_of_mem hm
  rw [splitAtFirst_append hb] at h
  simp at h

theorem splitAtFirst_eq_some_iff :
    splitAtFirst? mark cs = some (before, after) ↔ cs = before ++ mark :: after ∧ mark ∉ before := by
  constructor
  · intro h
    have hm : mark ∈ cs := by
      by_contra hm
      simp [splitAtFirst_of_notMem hm] at h
    obtain ⟨b, a, rfl, hb⟩ := List.eq_append_cons_of_mem hm
    rw [splitAtFirst_append hb] at h
    cases h
    exact ⟨rfl, hb⟩
  · rintro ⟨rfl, hb⟩
    exact splitAtFirst_append hb after

/-! ## Names and paths -/

def NameForm (cs : List Char) : Prop := cs ≠ [] ∧ cs.head? ≠ some '.'

/-- A name without dots, and after its first dot the path, which counts only when something follows the dot. -/
def ReadsName (cs : List Char) (name : String) (path : Option String) : Prop :=
  ∃ before, before ≠ [] ∧ '.' ∉ before ∧ name = textOf before ∧
    (cs = before ∧ path = none ∨
      ∃ after, cs = before ++ '.' :: after ∧ path = if after = [] then none else some (textOf after))

theorem nameAndPath_eq_ok_iff {ns : Option (List Char)} {k : KeyRef} :
    nameAndPath ns position cs = .ok k ↔ k.ns = ns.map textOf ∧ ReadsName cs k.name k.path := by
  obtain ⟨kns, name, path⟩ := k
  rw [nameAndPath]
  cases h : splitAtFirst? '.' cs with
  | none =>
    have hd := splitAtFirst_eq_none_iff.1 h
    by_cases hcs : cs = []
    · subst hcs
      simp [ReadsName, eq_comm]
    · simp only [Option.getD_none, if_neg hcs, if_true]
      constructor
      · intro he
        cases he
        exact ⟨rfl, cs, hcs, hd, rfl, .inl ⟨rfl, rfl⟩⟩
      · rintro ⟨rfl, b, -, -, rfl, ⟨rfl, rfl⟩ | ⟨a, rfl, -⟩⟩
        · rfl
        · simp at hd
  | some p =>
    obtain ⟨b, a⟩ := p
    obtain ⟨rfl, hb⟩ := splitAtFirst_eq_some_iff.1 h
    simp only [Option.getD_some]
    constructor
    · intro he
      split at he
      · cases he
      · next hne =>
        cases he
        exact ⟨rfl, b, hne, hb, rfl, .inr ⟨a, rfl, rfl⟩⟩
    · rintro ⟨rfl, c, hne, hc, rfl, ⟨rfl, -⟩ | ⟨d, he, rfl⟩⟩
      · simp at hc
      · have hs := splitAtFirst_append hc d
        rw [← he, h] at hs
        cases hs
        simp [hne]

theorem nameForm_iff : NameForm cs ↔ ∃ name path, ReadsName cs name path := by
  constructor
  · rintro ⟨hne, hh⟩
    by_cases hd : '.' ∈ cs
    · obtain ⟨before, after, rfl, hb⟩ := List.eq_append_cons_of_mem hd
      have hbn : before ≠ [] := by
        rintro rfl
        simp at hh
      exact ⟨_, _, before, hbn, hb, rfl, .inr ⟨after, rfl, rfl⟩⟩
    · exact ⟨_, _, cs, hne, hd, rfl, .inl ⟨rfl, rfl⟩⟩
  · rintro ⟨name, path, before, hne, hb, -, ⟨rfl, -⟩ | ⟨after, rfl, -⟩⟩
    · exact ⟨hne, fun hh => hb (List.mem_of_mem_head? hh)⟩
    · refine ⟨by simp, fun hh => hb ?_⟩
      rw [List.head?_append_of_ne_nil _ hne] at hh
      exact List.mem_of_mem_head? hh

theorem ReadsName.name_ne_empty {name : String} {path : Option String} (h : ReadsName cs name path) : name ≠ "" := by
  obtain ⟨before, hne, -, rfl, -⟩ := h
  simpa [textOf] using hne

theorem ReadsName.dot_notMem {name : String} {path : Option String} (h : ReadsName cs name path) : '.' ∉ name.toList := by
  obtain ⟨before, -, hdot, rfl, -⟩ := h
  simpa [textOf] using hdot

/-! ## Key references -/

def KeyForm (segment : List Char) : Prop :=
  let cs := Text.trim segment
  cs ≠ [] ∧
    (∀ before after, cs = before ++ ':' :: after → ':' ∉ before →
      Text.trim before ≠ [] ∧ NameForm (Text.trim after)) ∧
    (':' ∉ cs → cs.head? ≠ some '.')

def ReadsKey (segment : List Char) (k : KeyRef) : Prop :=
  let cs := Text.trim segment
  (':' ∉ cs ∧ k.ns = none ∧ ReadsName cs k.name k.path) ∨
    ∃ before after, cs = before ++ ':' :: after ∧ ':' ∉ before ∧ Text.trim before ≠ [] ∧
      k.ns = some (textOf (Text.trim before)) ∧ ReadsName (Text.trim after) k.name k.path

theorem parseKey_eq_ok_iff {k : KeyRef} : parseKey position segment = .ok k ↔ ReadsKey segment k := by
  simp only [parseKey, ReadsKey]
  generalize Text.trim segment = cs
  cases h : splitAtFirst? ':' cs with
  | none =>
    have hc := splitAtFirst_eq_none_iff.1 h
    have hno : ¬ ∃ before after, cs = before ++ ':' :: after ∧ ':' ∉ before ∧ Text.trim before ≠ [] ∧
        k.ns = some (textOf (Text.trim before)) ∧ ReadsName (Text.trim after) k.name k.path := by
      rintro ⟨before, after, rfl, -⟩
      simp at hc
    rw [or_iff_left hno]
    by_cases hcs : cs = []
    · subst hcs
      simp [ReadsName, eq_comm]
    · simp [hcs, hc, nameAndPath_eq_ok_iff]
  | some p =>
    obtain ⟨b, a⟩ := p
    obtain ⟨rfl, hb⟩ := splitAtFirst_eq_some_iff.1 h
    have hne : b ++ ':' :: a ≠ [] := by simp
    rw [if_neg hne, or_iff_right (by simp)]
    dsimp only
    constructor
    · intro he
      split at he
      · cases he
      · next hns =>
        obtain ⟨hk, hr⟩ := nameAndPath_eq_ok_iff.1 he
        exact ⟨b, a, rfl, hb, hns, by simpa using hk, hr⟩
    · rintro ⟨c, d, he, hc, hns, hk, hr⟩
      have hs := splitAtFirst_append hc d
      rw [← he, h] at hs
      cases hs
      rw [if_neg hns]
      exact nameAndPath_eq_ok_iff.2 ⟨by simpa using hk, hr⟩

theorem ReadsKey.exists_readsName {k : KeyRef} (h : ReadsKey segment k) : ∃ cs, ReadsName cs k.name k.path := by
  obtain ⟨-, -, hname⟩ | ⟨before, after, -, -, -, -, hname⟩ := h
  · exact ⟨_, hname⟩
  · exact ⟨_, hname⟩

theorem keyForm_iff : KeyForm segment ↔ ∃ k, ReadsKey segment k := by
  simp only [KeyForm, ReadsKey]
  generalize Text.trim segment = cs
  constructor
  · rintro ⟨hne, hmark, hplain⟩
    by_cases hc : ':' ∈ cs
    · obtain ⟨before, after, rfl, hb⟩ := List.eq_append_cons_of_mem hc
      obtain ⟨hns, hn⟩ := hmark before after rfl hb
      obtain ⟨name, path, hr⟩ := nameForm_iff.1 hn
      exact ⟨⟨_, name, path⟩, .inr ⟨before, after, rfl, hb, hns, rfl, hr⟩⟩
    · obtain ⟨name, path, hr⟩ := nameForm_iff.1 ⟨hne, hplain hc⟩
      exact ⟨⟨none, name, path⟩, .inl ⟨hc, rfl, hr⟩⟩
  · rintro ⟨k, ⟨hc, -, hr⟩ | ⟨before, after, rfl, hb, hns, -, hr⟩⟩
    · obtain ⟨hne, hh⟩ := nameForm_iff.2 ⟨_, _, hr⟩
      refine ⟨hne, ?_, fun _ => hh⟩
      rintro before after rfl
      simp at hc
    · refine ⟨by simp, ?_, by simp⟩
      intro c d he hc
      have hs := splitAtFirst_append hc d
      rw [← he, splitAtFirst_append hb] at hs
      cases hs
      exact ⟨hns, nameForm_iff.2 ⟨_, _, hr⟩⟩

/-! ## Pipes -/

def PipeForm (segment : List Char) : Prop :=
  let cs := Text.trim segment
  Text.trim (cs.takeWhile (· ≠ ':')) ≠ [] ∧ cs.getLast? ≠ some ':'

def ReadsPipe (segment : List Char) (p : PipeCall) : Prop :=
  ∃ first args, Text.Cut ':' (Text.trim segment) (first :: args) ∧ Text.trim first ≠ [] ∧
    args.getLast? ≠ some [] ∧ p.name = textOf (Text.trim first) ∧ p.args = args.map textOf

theorem parsePipe_eq_ok_iff {p : PipeCall} : parsePipe position segment = .ok p ↔ ReadsPipe segment p := by
  simp only [parsePipe, ReadsPipe, ← Text.splitChar_eq_iff]
  obtain ⟨first, args, h⟩ := List.exists_cons_of_ne_nil (Text.splitChar_ne_nil ':' (Text.trim segment))
  rw [h]
  constructor
  · intro he
    dsimp only at he
    split at he
    · cases he
    · next hname =>
      split at he
      · cases he
      · next hlast =>
        cases he
        exact ⟨first, args, rfl, hname, hlast, rfl, rfl⟩
  · obtain ⟨name, list⟩ := p
    rintro ⟨first', args', he, hname, hlast, rfl, rfl⟩
    cases he
    simp [hname, hlast]

theorem pipeForm_iff : PipeForm segment ↔ ∃ p, ReadsPipe segment p := by
  simp only [PipeForm, ReadsPipe, ← Text.splitChar_eq_iff]
  obtain ⟨first, args, h⟩ := List.exists_cons_of_ne_nil (Text.splitChar_ne_nil ':' (Text.trim segment))
  rw [Text.takeWhile_of_splitChar h, ne_eq, ne_eq, ← Text.getLast_tail_splitChar h, h]
  constructor
  · rintro ⟨hname, hlast⟩
    exact ⟨⟨_, _⟩, first, args, rfl, hname, hlast, rfl, rfl⟩
  · rintro ⟨p, first', args', he, hname, hlast, -, -⟩
    cases he
    exact ⟨hname, hlast⟩

theorem parsePipes_eq_ok_iff {segments : List (List Char)} {ps : List PipeCall} :
    parsePipes position segments = .ok ps ↔ List.Forall₂ ReadsPipe segments ps := by
  induction segments generalizing position ps with
  | nil =>
    rw [parsePipes, Except.ok.injEq]
    exact ⟨fun h => h ▸ .nil, fun h => by cases h; rfl⟩
  | cons segment rest ih =>
    simp only [parsePipes, Outcome.bind_eq_ok_iff, Outcome.pure_eq_ok, Except.ok.injEq, parsePipe_eq_ok_iff, ih]
    constructor
    · rintro ⟨p, hp, ps, hps, rfl⟩
      exact .cons hp hps
    · rintro (_ | ⟨hp, hps⟩)
      exact ⟨_, hp, _, hps, rfl⟩

/-! ## Bodies -/

theorem exists_forall₂_iff {α β : Type} {R : α → β → Prop} {xs : List α} :
    (∃ ys, List.Forall₂ R xs ys) ↔ ∀ x ∈ xs, ∃ y, R x y := by
  induction xs with
  | nil => exact ⟨fun _ => by simp, fun _ => ⟨[], .nil⟩⟩
  | cons x xs ih =>
    rw [List.forall_mem_cons, ← ih]
    constructor
    · rintro ⟨_, hx | ⟨hx, hxs⟩⟩
      exact ⟨⟨_, hx⟩, _, hxs⟩
    · rintro ⟨⟨y, hy⟩, ys, hys⟩
      exact ⟨y :: ys, .cons hy hys⟩

theorem exists_mem_of_forall₂ {α β : Type} {R : α → β → Prop} {xs : List α} {ys : List β}
    (h : List.Forall₂ R xs ys) {y : β} (hy : y ∈ ys) : ∃ x ∈ xs, R x y := by
  induction h with
  | nil => simp at hy
  | cons hxy _ ih =>
    rcases List.mem_cons.1 hy with rfl | hy
    · exact ⟨_, by simp, hxy⟩
    · obtain ⟨x, hx, hr⟩ := ih hy
      exact ⟨x, by simp [hx], hr⟩

def BodyForm (body : List Char) : Prop :=
  ∃ first rest, Text.Cut '|' body (first :: rest) ∧ KeyForm first ∧ ∀ segment ∈ rest, PipeForm segment

def ReadsBody (body : List Char) (e : Expression) : Prop :=
  e.source = textOf body ∧
    ∃ first rest, Text.Cut '|' body (first :: rest) ∧ ReadsKey first e.key ∧ List.Forall₂ ReadsPipe rest e.pipes

theorem parseBody_eq_ok_iff {e : Expression} : parseBody position body = .ok e ↔ ReadsBody body e := by
  obtain ⟨key, pipes, source⟩ := e
  simp only [parseBody, ReadsBody, ← Text.splitChar_eq_iff]
  obtain ⟨first, rest, h⟩ := List.exists_cons_of_ne_nil (Text.splitChar_ne_nil '|' body)
  simp only [h, Outcome.bind_eq_ok_iff, Outcome.pure_eq_ok, Except.ok.injEq, parseKey_eq_ok_iff, parsePipes_eq_ok_iff]
  constructor
  · rintro ⟨k, hk, ps, hps, he⟩
    cases he
    exact ⟨rfl, first, rest, rfl, hk, hps⟩
  · rintro ⟨rfl, first', rest', he, hk, hps⟩
    cases he
    exact ⟨key, hk, pipes, hps, rfl⟩

theorem bodyForm_iff : BodyForm body ↔ ∃ e, ReadsBody body e := by
  constructor
  · rintro ⟨first, rest, hcut, hkey, hrest⟩
    obtain ⟨key, hk⟩ := keyForm_iff.1 hkey
    obtain ⟨ps, hps⟩ := exists_forall₂_iff.2 fun segment hs => pipeForm_iff.1 (hrest segment hs)
    exact ⟨⟨key, ps, textOf body⟩, rfl, first, rest, hcut, hk, hps⟩
  · rintro ⟨e, -, first, rest, hcut, hk, hps⟩
    exact ⟨first, rest, hcut, keyForm_iff.2 ⟨_, hk⟩, fun segment hs =>
      pipeForm_iff.2 (exists_forall₂_iff.1 ⟨_, hps⟩ segment hs)⟩

end Stencil.Template
