import Mathlib.Data.List.Forall2
import Stencil.Proofs.Text.Joining
import Stencil.Proofs.Text.Trimming
import Stencil.Proofs.Template.Written

/-!
The canonical form of an expression. Main statements: it reads back as the expression, save for blanks at the end of a
name that no path follows, and two expressions have one form exactly when they are alike.
-/

namespace Stencil

namespace Template

variable {marks cs as bs segment body : List Char} {m : Char} {ps : List (List Char)} {name : String}
  {path : Option String} {k : KeyRef} {p : PipeCall} {e f : Expression}

/-! ## Texts without marks -/

/-- None of the marks is in the text, and no expression opens in it. -/
structure Avoids (marks cs : List Char) : Prop where
  notMem : ∀ c ∈ marks, c ∉ cs
  noOpen : ¬ openMark <:+: cs

theorem Avoids.of_isInfix (h : Avoids marks cs) (has : as <:+: cs) : Avoids marks as :=
  ⟨fun c hc hmem => h.notMem c hc (has.subset hmem), fun ho => h.noOpen (ho.trans has)⟩

theorem avoids_cons : Avoids (m :: marks) cs ↔ m ∉ cs ∧ Avoids marks cs := by
  constructor
  · intro h
    exact ⟨h.notMem m (by simp), fun c hc => h.notMem c (by simp [hc]), h.noOpen⟩
  · rintro ⟨hmem, h⟩
    exact ⟨List.forall_mem_cons.2 ⟨hmem, h.notMem⟩, h.noOpen⟩

theorem avoids_append (hjoins : Joins as bs) : Avoids marks (as ++ bs) ↔ Avoids marks as ∧ Avoids marks bs := by
  constructor
  · intro h
    exact ⟨h.of_isInfix (List.prefix_append as bs).isInfix, h.of_isInfix (List.suffix_append as bs).isInfix⟩
  · rintro ⟨ha, hb⟩
    refine ⟨fun c hc hmem => (List.mem_append.1 hmem).elim (ha.notMem c hc) (hb.notMem c hc), fun ho => ?_⟩
    exact ((openMark_infix_append hjoins).1 ho).elim ha.noOpen hb.noOpen

theorem avoids_mark_cons (hm : m ∉ '$' :: '{' :: marks) : Avoids marks (m :: bs) ↔ Avoids marks bs := by
  obtain ⟨hdollar, -, hmarks⟩ : m ≠ '$' ∧ m ≠ '{' ∧ m ∉ marks := by simpa using hm
  refine ⟨fun h => h.of_isInfix (List.suffix_cons m bs).isInfix, fun h => ⟨fun c hc hmem => ?_, fun ho => ?_⟩⟩
  · rcases List.mem_cons.1 hmem with rfl | hmem
    · exact hmarks hc
    · exact h.notMem c hc hmem
  · rcases openMark_infix_cons.1 ho with ⟨hm, -⟩ | ho
    · exact hdollar hm
    · exact h.noOpen ho

theorem avoids_append_cons (hm : m ∉ '$' :: '{' :: marks) :
    Avoids marks (as ++ m :: bs) ↔ Avoids marks as ∧ Avoids marks bs := by
  have hjoins : Joins as (m :: bs) := by simp_all [Joins]
  rw [avoids_append hjoins, avoids_mark_cons hm]

theorem avoids_joinWith (hm : m ∉ '$' :: '{' :: marks) :
    Avoids marks (Text.joinWith [m] ps) ↔ ∀ p ∈ ps, Avoids marks p := by
  induction ps with
  | nil => simpa [Text.joinWith] using (⟨by simp, by simp [openMark]⟩ : Avoids marks [])
  | cons p ps ih =>
    by_cases hps : ps = []
    · subst hps
      simp [Text.joinWith]
    · rw [Text.joinWith_cons_ne_nil hps, List.singleton_append, avoids_append_cons hm, ih, List.forall_mem_cons]

/-! ## Names and paths -/

def nameText (name : String) (path : Option String) : List Char :=
  name.toList ++ (path.map fun p => '.' :: p.toList).getD []

/-- What is read of a name: blanks at its end count only where a path follows. -/
def settledName (name : String) : Option String → String
  | none => textOf (Text.trimEnd name.toList)
  | some _ => name

theorem ReadsName.path_ne_empty (h : ReadsName cs name path) : ∀ p ∈ path, p ≠ "" := by
  obtain ⟨before, -, -, -, ⟨-, rfl⟩ | ⟨after, -, rfl⟩⟩ := h
  · simp
  · split
    · simp
    · next hne => simpa [textOf] using hne

/-- A name is written as it is read, or with a bare dot at its end. -/
theorem ReadsName.eq_nameText (h : ReadsName cs name path) :
    cs = nameText name path ∨ path = none ∧ cs = nameText name path ++ ['.'] := by
  obtain ⟨before, -, -, rfl, ⟨rfl, rfl⟩ | ⟨after, rfl, rfl⟩⟩ := h
  · exact .inl (by simp [nameText, textOf])
  · by_cases hafter : after = []
    · exact .inr (by simp [nameText, textOf, hafter])
    · exact .inl (by simp [nameText, textOf, hafter])

theorem ReadsName.nameText_isPrefix (h : ReadsName cs name path) : nameText name path <+: cs := by
  rcases h.eq_nameText with rfl | ⟨-, rfl⟩
  · exact List.prefix_refl _
  · exact List.prefix_append _ _

theorem readsName_nameText (hname : name ≠ "") (hdot : '.' ∉ name.toList) (hpath : ∀ p ∈ path, p ≠ "") :
    ReadsName (nameText name path) name path := by
  refine ⟨name.toList, by simpa using hname, hdot, by simp [textOf], ?_⟩
  cases path with
  | none => exact .inl (by simp [nameText])
  | some p => exact .inr ⟨p.toList, by simp [nameText], by simpa [textOf] using hpath p rfl⟩

theorem ReadsName.head_nameText (h : ReadsName (Text.trim cs) name path) :
    name.toList ≠ [] ∧ (∀ c ∈ name.toList.head?, Text.isBlank c = false) ∧
      ∀ c ∈ (nameText name path).head?, Text.isBlank c = false := by
  have hne : name.toList ≠ [] := by simpa using h.name_ne_empty
  have hhead : (nameText name path).head? = name.toList.head? := List.head?_append_of_ne_nil _ hne
  have hblank : ∀ c ∈ name.toList.head?, Text.isBlank c = false := by
    intro c hc
    obtain ⟨after, hsplit⟩ := h.nameText_isPrefix
    refine Text.head_trim cs c ?_
    rw [← hsplit, List.head?_append, hhead, hc]
    rfl
  exact ⟨hne, hblank, by rwa [hhead]⟩

theorem ReadsName.trim_nameText (h : ReadsName (Text.trim cs) name path) :
    Text.trim (nameText name path) = nameText (settledName name path) path := by
  cases path with
  | none =>
    obtain ⟨-, hhead, -⟩ := h.head_nameText
    simpa [nameText, settledName, textOf] using Text.trim_eq_trimEnd hhead
  | some p =>
    rcases h.eq_nameText with heq | ⟨hnone, -⟩
    · rw [← heq, Text.trim_trim, heq, settledName]
    · cases hnone

theorem ReadsName.settled (h : ReadsName (Text.trim cs) name path) :
    ReadsName (Text.trim (nameText name path)) (settledName name path) path := by
  rw [h.trim_nameText]
  cases path with
  | none =>
    obtain ⟨hne, hhead, -⟩ := h.head_nameText
    refine readsName_nameText (by simpa [settledName, textOf] using Text.trimEnd_ne_nil hne hhead) ?_ (by simp)
    intro hdot
    refine h.dot_notMem ((Text.trimEnd_isPrefix _).subset ?_)
    simpa [settledName, textOf] using hdot
  | some p => exact readsName_nameText h.name_ne_empty h.dot_notMem h.path_ne_empty

/-! ## Key references -/

def KeyRef.settled (k : KeyRef) : KeyRef := { k with name := settledName k.name k.path }

theorem KeyRef.toList_canonical (k : KeyRef) :
    k.canonical.toList = ((k.ns.map fun ns => ns.toList ++ [':']).getD []) ++ nameText k.name k.path := by
  obtain ⟨ns, name, path⟩ := k
  cases ns <;> cases path <;> simp [canonical, nameText]

theorem KeyRef.toList_canonical_of_none (h : k.ns = none) : k.canonical.toList = nameText k.name k.path := by
  simp [toList_canonical, h]

theorem KeyRef.toList_canonical_of_some {ns : List Char} (h : k.ns = some (textOf ns)) :
    k.canonical.toList = ns ++ ':' :: nameText k.name k.path := by
  simp [toList_canonical, h, textOf]

theorem KeyRef.settled_settled (k : KeyRef) : k.settled.settled = k.settled := by
  obtain ⟨ns, name, path⟩ := k
  cases path with
  | none => simp [settled, settledName, textOf, Text.trimEnd_trimEnd]
  | some p => rfl

theorem ReadsKey.canonical (h : ReadsKey segment k) : ReadsKey k.canonical.toList k.settled := by
  rw [ReadsKey]
  obtain ⟨hcolon, hns, hname⟩ | ⟨before, after, heq, hcolon, hne, hns, hname⟩ := h
  · have hin : Text.trim (nameText k.name k.path) <:+: Text.trim segment :=
      (Text.trim_isInfix _).trans hname.nameText_isPrefix.isInfix
    rw [KeyRef.toList_canonical_of_none hns]
    exact .inl ⟨fun hc => hcolon (hin.subset hc), hns, hname.settled⟩
  · obtain ⟨-, -, hhead⟩ := hname.head_nameText
    have hmark : Text.isBlank ':' = false := by decide
    have htrim : Text.trim (Text.trim before ++ ':' :: nameText k.name k.path) =
        Text.trim before ++ ':' :: Text.trim (nameText k.name k.path) := by
      rw [Text.trim_append_cons (Text.head_trim before) hmark, Text.trim_eq_trimEnd hhead]
    rw [KeyRef.toList_canonical_of_some hns, htrim]
    refine .inr ⟨Text.trim before, Text.trim (nameText k.name k.path), rfl, ?_, ?_, ?_, ?_⟩
    · exact fun hc => hcolon ((Text.trim_isInfix before).subset hc)
    · rwa [Text.trim_trim]
    · rw [Text.trim_trim]
      exact hns
    · rw [Text.trim_trim]
      exact hname.settled

theorem ReadsKey.avoids (h : ReadsKey segment k) (hm : ':' ∉ marks) (hs : Avoids marks segment) :
    Avoids marks k.canonical.toList := by
  have htrim : Avoids marks (Text.trim segment) := hs.of_isInfix (Text.trim_isInfix segment)
  obtain ⟨-, hns, hname⟩ | ⟨before, after, heq, -, -, hns, hname⟩ := h
  · rw [KeyRef.toList_canonical_of_none hns]
    exact htrim.of_isInfix hname.nameText_isPrefix.isInfix
  · have hmark : ':' ∉ '$' :: '{' :: marks := by simpa using hm
    rw [heq, avoids_append_cons hmark] at htrim
    rw [KeyRef.toList_canonical_of_some hns, avoids_append_cons hmark]
    exact ⟨htrim.1.of_isInfix (Text.trim_isInfix before),
      htrim.2.of_isInfix (hname.nameText_isPrefix.isInfix.trans (Text.trim_isInfix after))⟩

theorem KeyRef.eq_of_settled {l : KeyRef} (h : k.settled = l.settled)
    (hc : k.canonical.toList = l.canonical.toList) : k = l := by
  obtain ⟨ns, name, path⟩ := k
  obtain ⟨ns', name', path'⟩ := l
  obtain ⟨rfl, -, rfl⟩ : ns = ns' ∧ settledName name path = settledName name' path' ∧ path = path' := by
    simpa [settled] using h
  rw [toList_canonical, toList_canonical] at hc
  have hname : name.toList = name'.toList := List.append_cancel_right (List.append_cancel_left hc)
  rw [String.toList_inj.1 hname]

/-- A name that does not read back as it is stands before a bare dot, with a blank between them. -/
theorem ReadsKey.ends_in_bare_dot (h : ReadsKey segment k) (hne : k.settled.name ≠ k.name) :
    ∃ front blank, Text.isBlank blank ∧ Text.trim segment = front ++ [blank, '.'] := by
  obtain ⟨cs, hsuffix, hname⟩ : ∃ cs, Text.trim cs <:+ Text.trim segment ∧ ReadsName (Text.trim cs) k.name k.path := by
    obtain ⟨-, -, hname⟩ | ⟨before, after, heq, -, -, -, hname⟩ := h
    · exact ⟨segment, List.suffix_refl _, hname⟩
    · refine ⟨after, ?_, hname⟩
      have hafter : ∀ c ∈ after.getLast?, Text.isBlank c = false := by
        intro c hc
        refine Text.last_trim segment c ?_
        rw [heq, List.getLast?_append, List.getLast?_cons, hc]
        rfl
      rw [heq]
      exact (Text.trim_isSuffix hafter).trans ((List.suffix_cons ':' after).trans (List.suffix_append before _))
  obtain ⟨ns, name, path⟩ := k
  cases path with
  | some p => exact absurd rfl hne
  | none =>
    have hblank : ¬ ∀ c ∈ name.toList.getLast?, Text.isBlank c = false := by
      intro hlast
      refine hne ?_
      rw [KeyRef.settled, settledName, Text.trimEnd_of_last hlast]
      simp [textOf]
    rcases hname.eq_nameText with heq | ⟨-, heq⟩
    · rw [nameText, Option.map_none, Option.getD_none, List.append_nil] at heq
      exact absurd (heq ▸ Text.last_trim cs) hblank
    · obtain ⟨before, hbefore⟩ := hsuffix
      push Not at hblank
      obtain ⟨blank, hlast, hb⟩ := hblank
      obtain ⟨front, hfront⟩ := List.getLast?_eq_some_iff.1 hlast
      refine ⟨before ++ front, blank, by simpa using hb, ?_⟩
      rw [← hbefore, heq, nameText, hfront]
      simp

/-! ## Pipes -/

theorem PipeCall.toList_canonical {first : List Char} {args : List (List Char)} (hname : p.name = textOf first)
    (hargs : p.args = args.map textOf) : p.canonical.toList = Text.joinWith [':'] (first :: args) := by
  have hpieces : (p.name :: p.args).map String.toList = first :: args := by
    simp [hname, hargs, textOf, Function.comp_def]
  rw [← hpieces]
  exact Text.toList_intercalate ":" (p.name :: p.args)

theorem ReadsPipe.canonical (h : ReadsPipe segment p) : ReadsPipe p.canonical.toList p := by
  obtain ⟨first, args, ⟨-, hcolon, hjoin⟩, hne, hlast, hname, hargs⟩ := h
  have htrim : Text.trim (Text.joinWith [':'] (Text.trim first :: args)) =
      Text.joinWith [':'] (Text.trim first :: args) := by
    by_cases hargs : args = []
    · subst hargs
      exact Text.trim_trim first
    · have hend := Text.last_trim segment
      rw [← hjoin, Text.joinWith_cons_ne_nil hargs] at hend
      rw [Text.joinWith_cons_ne_nil hargs]
      refine Text.trim_of_ends ?_ (by simpa [List.getLast?_append] using hend)
      rw [List.head?_append_of_ne_nil _ hne]
      exact Text.head_trim first
  rw [ReadsPipe, PipeCall.toList_canonical hname hargs, htrim]
  refine ⟨Text.trim first, args, ⟨by simp, ?_, rfl⟩, by rwa [Text.trim_trim], hlast, by rw [Text.trim_trim, hname],
    hargs⟩
  rw [List.forall_mem_cons] at hcolon ⊢
  exact ⟨fun hc => hcolon.1 ((Text.trim_isInfix first).subset hc), hcolon.2⟩

theorem ReadsPipe.avoids (h : ReadsPipe segment p) (hm : ':' ∉ marks) (hs : Avoids marks segment) :
    Avoids marks p.canonical.toList := by
  obtain ⟨first, args, ⟨-, -, hjoin⟩, -, -, hname, hargs⟩ := h
  have hmark : ':' ∉ '$' :: '{' :: marks := by simpa using hm
  have htrim : Avoids marks (Text.trim segment) := hs.of_isInfix (Text.trim_isInfix segment)
  rw [← hjoin, avoids_joinWith hmark, List.forall_mem_cons] at htrim
  rw [PipeCall.toList_canonical hname hargs, avoids_joinWith hmark, List.forall_mem_cons]
  exact ⟨htrim.1.of_isInfix (Text.trim_isInfix first), htrim.2⟩

/-! ## Expressions -/

def Expression.segments (e : Expression) : List (List Char) :=
  e.key.canonical.toList :: e.pipes.map fun p => p.canonical.toList

def Expression.canonicalBody (e : Expression) : List Char := Text.joinWith ['|'] e.segments

def Expression.settled (e : Expression) : Expression := ⟨e.key.settled, e.pipes, textOf e.canonicalBody⟩

theorem Expression.canonical_eq (e : Expression) : e.canonical = braced (textOf e.canonicalBody) := by
  have hbody := Text.toList_intercalate "|" (e.key.canonical :: e.pipes.map PipeCall.canonical)
  rw [canonical, ← String.ofList_toList (s := String.intercalate "|" _)]
  refine congrArg (fun cs => braced (String.ofList cs)) (hbody.trans ?_)
  simp [canonicalBody, segments, Function.comp_def]

theorem ReadsBody.avoids_segments (h : ReadsBody body e) (hb : Avoids ['}'] body) :
    ∀ s ∈ e.segments, Avoids ['|', '}'] s := by
  obtain ⟨-, first, rest, ⟨-, hbar, rfl⟩, hkey, hpipes⟩ := h
  have hsegment : ∀ s ∈ first :: rest, Avoids ['|', '}'] s := fun s hs =>
    avoids_cons.2 ⟨hbar s hs, (avoids_joinWith (by decide)).1 hb s hs⟩
  rw [Expression.segments, List.forall_mem_cons, List.forall_mem_map]
  refine ⟨hkey.avoids (by decide) (hsegment first (by simp)), fun p hp => ?_⟩
  obtain ⟨s, hs, hread⟩ := exists_mem_of_forall₂ hpipes hp
  exact hread.avoids (by decide) (hsegment s (by simp [hs]))

theorem ReadsBody.canonical (h : ReadsBody body e) (hb : Avoids ['}'] body) :
    Avoids ['}'] e.canonicalBody ∧ ReadsBody e.canonicalBody e.settled := by
  have hsegments := h.avoids_segments hb
  have hbar : ∀ s ∈ e.segments, '|' ∉ s ∧ Avoids ['}'] s := fun s hs => avoids_cons.1 (hsegments s hs)
  have hcut : Text.Cut '|' e.canonicalBody e.segments :=
    ⟨by simp [Expression.segments], fun s hs => (hbar s hs).1, rfl⟩
  obtain ⟨-, first, rest, -, hkey, hpipes⟩ := h
  refine ⟨(avoids_joinWith (by decide)).2 fun s hs => (hbar s hs).2, rfl, _, _, hcut, hkey.canonical, ?_⟩
  refine List.forall₂_map_left_iff.2 (List.forall₂_same.2 fun p hp => ?_)
  obtain ⟨s, -, hread⟩ := exists_mem_of_forall₂ hpipes hp
  exact hread.canonical

theorem parse_canonical_eq_settled {source : String} {t : Template} (ht : parse source = .ok t)
    (he : .expression e ∈ t.nodes) : parse e.canonical = .ok ⟨[.expression e.settled]⟩ := by
  obtain ⟨body, hclose, hopen, hbody⟩ := (parse_eq_ok_iff.1 ht).exists_body he
  obtain ⟨havoids, hread⟩ := hbody.canonical ⟨by simpa using hclose, hopen⟩
  rw [e.canonical_eq]
  exact parse_braced (havoids.notMem '}' (by simp)) havoids.noOpen hread

/-- The canonical form of an expression that was read is one expression, with the same namespace, path and pipes. Its
name has lost the blanks before a bare dot, and from then on nothing changes. -/
theorem canonical_reads_back {source : String} {t : Template} (ht : parse source = .ok t)
    (he : .expression e ∈ t.nodes) :
    ∃ e₂, parse e.canonical = .ok ⟨[.expression e₂]⟩ ∧
      (e₂.key.ns = e.key.ns ∧ e₂.key.path = e.key.path ∧ e₂.pipes = e.pipes) ∧
      (e.key.path ≠ none → e₂.key.name = e.key.name) ∧
      (e.key.path = none → e₂.key.name = textOf (Text.trimEnd e.key.name.toList)) ∧
      (e₂.key.name ≠ e.key.name → ∃ front blank, Text.isBlank blank ∧
        Text.trim (e.source.toList.takeWhile (· ≠ '|')) = front ++ [blank, '.']) ∧
      ∃ e₃, parse e₂.canonical = .ok ⟨[.expression e₃]⟩ ∧ e₃.alike e₂ := by
  have hparse : parse e.canonical = .ok ⟨[.expression e.settled]⟩ := parse_canonical_eq_settled ht he
  have hagain : parse e.settled.canonical = .ok ⟨[.expression e.settled.settled]⟩ :=
    parse_canonical_eq_settled hparse (by simp)
  refine ⟨e.settled, hparse, ⟨rfl, rfl, rfl⟩, fun hpath => ?_, fun hpath => ?_, fun hne => ?_, _, hagain, ?_⟩
  · obtain ⟨path, hsome⟩ := Option.ne_none_iff_exists'.1 hpath
    simp [Expression.settled, KeyRef.settled, hsome, settledName]
  · simp [Expression.settled, KeyRef.settled, hpath, settledName]
  · obtain ⟨body, -, -, hsource, first, rest, hcut, hkey, -⟩ := (parse_eq_ok_iff.1 ht).exists_body he
    have hfirst : e.source.toList.takeWhile (· ≠ '|') = first := by
      rw [hsource, textOf, String.toList_ofList]
      exact Text.takeWhile_of_splitChar (Text.splitChar_eq_iff.2 hcut)
    rw [hfirst]
    exact hkey.ends_in_bare_dot hne
  · simp [Expression.alike, Expression.settled, KeyRef.settled_settled]

/-- The blank before the bare dot is lost, the one within the argument is not. -/
theorem canonical_reads_back_bare_dot :
    ∃ e₂, parse "$\x7ba |p: 1\x7d" = .ok ⟨[.expression e₂]⟩ ∧ e₂.key = ⟨none, "a", none⟩ ∧
      e₂.pipes = [⟨"p", [" 1"]⟩] := by
  have ht : parse "$\x7b a .| p : 1 \x7d" =
      .ok ⟨[.expression ⟨⟨none, "a ", none⟩, [⟨"p", [" 1"]⟩], " a .| p : 1 "⟩]⟩ := by cbv
  obtain ⟨⟨⟨ns, name, path⟩, pipes, source⟩, hparse, ⟨rfl, rfl, rfl⟩, -, hname, -⟩ :=
    canonical_reads_back ht (List.mem_singleton_self _)
  obtain rfl : name = "a" := (hname rfl).trans (by cbv)
  exact ⟨_, hparse, rfl, rfl⟩

/-- Expressions that were read are alike exactly when they have one canonical form. -/
theorem alike_iff_canonical_eq {s₁ s₂ : String} {t₁ t₂ : Template} (ht₁ : parse s₁ = .ok t₁)
    (ht₂ : parse s₂ = .ok t₂) (he : .expression e ∈ t₁.nodes) (hf : .expression f ∈ t₂.nodes) :
    e.alike f ↔ e.canonical = f.canonical := by
  have halike : e.alike f ↔ e.key = f.key ∧ e.pipes = f.pipes := by simp [Expression.alike]
  rw [halike]
  constructor
  · rintro ⟨hkey, hpipes⟩
    rw [Expression.canonical, Expression.canonical, hkey, hpipes]
  · intro hcanonical
    have hparse := parse_canonical_eq_settled ht₁ he
    rw [hcanonical, parse_canonical_eq_settled ht₂ hf] at hparse
    obtain ⟨hkey, hpipes, hsource⟩ : f.key.settled = e.key.settled ∧ f.pipes = e.pipes ∧
        textOf f.canonicalBody = textOf e.canonicalBody := by
      simpa [Expression.settled] using hparse
    have hbody : f.canonicalBody = e.canonicalBody := textOf_injective hsource
    have hsegment : f.key.canonical.toList = e.key.canonical.toList := by
      rw [Expression.canonicalBody, Expression.canonicalBody, Expression.segments, Expression.segments, hpipes]
        at hbody
      exact Text.eq_of_joinWith_cons hbody
    exact ⟨(KeyRef.eq_of_settled hkey hsegment).symm, hpipes.symm⟩

/-- Blanks around the parts of a body make no difference, a blank before a bare dot does. -/
theorem alike_iff_canonical_eq_blanks :
    Expression.alike ⟨⟨none, "a ", some "b"⟩, [⟨"p", []⟩], " a .b|p"⟩
        ⟨⟨none, "a ", some "b"⟩, [⟨"p", []⟩], "a .b | p"⟩ ∧
      ¬ Expression.alike ⟨⟨none, "a", none⟩, [], "a."⟩ ⟨⟨none, "a ", none⟩, [], "a ."⟩ := by
  have hclose : parse "$\x7b a .b|p\x7d" =
      .ok ⟨[.expression ⟨⟨none, "a ", some "b"⟩, [⟨"p", []⟩], " a .b|p"⟩]⟩ := by cbv
  have hwide : parse "$\x7ba .b | p\x7d" =
      .ok ⟨[.expression ⟨⟨none, "a ", some "b"⟩, [⟨"p", []⟩], "a .b | p"⟩]⟩ := by cbv
  have hdot : parse "$\x7ba.\x7d" = .ok ⟨[.expression ⟨⟨none, "a", none⟩, [], "a."⟩]⟩ := by cbv
  have hblank : parse "$\x7ba .\x7d" = .ok ⟨[.expression ⟨⟨none, "a ", none⟩, [], "a ."⟩]⟩ := by cbv
  constructor
  · exact (alike_iff_canonical_eq hclose hwide (List.mem_singleton_self _) (List.mem_singleton_self _)).2 rfl
  · intro h
    have hcanonical := (alike_iff_canonical_eq hdot hblank (List.mem_singleton_self _) (List.mem_singleton_self _)).1 h
    revert hcanonical
    decide

end Template

end Stencil
