import Stencil.Proofs.Association
import Stencil.Proofs.Pipe.Registration

/-!
Pipes over the leaves of documents. Main statement: a pipe gives for a leaf what it gives for the host value of the leaf,
save for the pipes that make something of a leaf that holds nothing, where absence would flow past them.
-/

namespace Stencil

open Outcome

variable {v w : Value} {args : List Value} {name : String}

namespace Value

/-- A node is no list and no map, and the value that it hands out is no such node again. -/
inductive StandsFor : Value → Value → Prop
  | leaf {kind : TreeKind} {raw : Value} : raw.isLeaf → raw.unwrap = raw → StandsFor (.tree kind raw) raw

theorem StandsFor.unwrap_eq (h : v.StandsFor w) : v.unwrap = w.unwrap := by
  obtain ⟨hl, hraw⟩ := h
  rw [unwrap, if_pos hl, hraw]

theorem StandsFor.toText_eq (h : v.StandsFor w) : v.toText = w.toText := by
  obtain ⟨hl, -⟩ := h
  rw [toText, if_pos hl]

theorem StandsFor.isAbsent_eq (h : v.StandsFor w) : v.isAbsent = false := by
  obtain ⟨-, -⟩ := h
  rfl

theorem eq_absent_of_unwrap (h : v.unwrap = .absent) : v = .absent ∨ v.StandsFor .absent := by
  cases v with
  | absent => exact .inl rfl
  | tree kind raw =>
    by_cases hl : raw.isLeaf
    · rw [unwrap, if_pos hl] at h
      subst h
      exact .inr (.leaf rfl rfl)
    · rw [unwrap, if_neg hl] at h
      cases h
  | _ => cases h

end Value

/-! ## Bodies of pipes -/

namespace Pipe

def ReadsHosts (p : Pipe) : Prop := ∀ args v w, Value.StandsFor v w → p args v = p args w

/-- Without its guard the pipe makes nothing of nothing. -/
def KeepsNothing (p : Pipe) : Prop := ∀ args : List String, p (args.map .text) .absent = .ok .absent

/-- Without its guard the pipe takes nothing for an empty text, and makes something of it. -/
def FillsNothing (p : Pipe) : Prop := ∀ args, p args .absent = p args (.text "") ∧ p args .absent ≠ .ok .absent

theorem onText_fillsNothing (f : List Char → List Char) : (onText f).FillsNothing :=
  fun _ => ⟨rfl, fun h => by cases h⟩

theorem split_fillsNothing : split.FillsNothing := by
  refine fun args => ⟨rfl, fun h => ?_⟩
  obtain ⟨sep, -, h⟩ := bind_eq_ok_iff.1 h
  obtain ⟨text, -, h⟩ := bind_eq_ok_iff.1 h
  split at h <;> cases h

theorem join_fillsNothing : join.FillsNothing := by
  refine fun args => ⟨rfl, fun h => ?_⟩
  obtain ⟨sep, -, h⟩ := bind_eq_ok_iff.1 h
  cases h

theorem prepend_fillsNothing : prepend.FillsNothing := by
  refine fun args => ⟨rfl, fun h => ?_⟩
  obtain ⟨start, -, h⟩ := bind_eq_ok_iff.1 h
  cases h

theorem append_fillsNothing : append.FillsNothing := by
  refine fun args => ⟨rfl, fun h => ?_⟩
  obtain ⟨text, -, h⟩ := bind_eq_ok_iff.1 h
  obtain ⟨ending, -, h⟩ := bind_eq_ok_iff.1 h
  cases h

theorem sum_fillsNothing : sum.FillsNothing := fun _ => ⟨rfl, fun h => by cases h⟩

end Pipe

namespace StandardPipe

theorem body_readsHosts (p : StandardPipe) : p.body.ReadsHosts := by
  intro args v w h
  cases p with
  | size => simp only [body, Pipe.size, h.unwrap_eq]
  | first => simp only [body, Pipe.first, h.unwrap_eq]
  | last => simp only [body, Pipe.last, h.unwrap_eq]
  | reversed => simp only [body, Pipe.reversed, h.unwrap_eq]
  | slice => simp only [body, Pipe.slice, h.unwrap_eq]
  | take => simp only [body, Pipe.take, h.unwrap_eq]
  | takeLast => simp only [body, Pipe.takeLast, h.unwrap_eq]
  | filter => simp only [body, Pipe.filter, h.unwrap_eq]
  | map => simp only [body, Pipe.map, h.unwrap_eq]
  | maxNum => simp only [body, Pipe.maxNum, Pipe.picked, Value.collectNumbers, h.unwrap_eq]

/-- The pipes that read a count before they look at the value. -/
def readsCount : StandardPipe → Bool
  | .slice => true
  | .take => true
  | .takeLast => true
  | _ => false

theorem body_absent_of_readsCount {p : StandardPipe} (h : p.readsCount) (args : List Value) :
    p.body args .absent = Pipe.wholeArg? args 0 >>= fun _ => .ok .absent := by
  cases p with
  | slice => rfl
  | take => rfl
  | takeLast => rfl
  | _ => cases h

theorem body_keepsNothing {p : StandardPipe} (h : p.readsCount = false) : p.body.KeepsNothing := by
  intro args
  cases p with
  | slice => cases h
  | take => cases h
  | takeLast => cases h
  | filter => rw [body, Pipe.filter, ← List.map_tail, Pipe.rejoin_texts]; rfl
  | _ => rfl

end StandardPipe

namespace Registry

variable {today : Calendar.Date} {entry : String × Pipe}

/-- The pipes for which a leaf that holds nothing is an empty text. -/
def blankNames : List String := "number.sum" :: textPipes.qualified.map Prod.fst

theorem textPipes_blank : ∀ entry ∈ textPipes.qualified, entry.2.ReadsHosts ∧ entry.2.FillsNothing := by
  have honText (f : List Char → List Char) : (Pipe.onText f).ReadsHosts := fun _ _ _ h => by
    simp only [Pipe.onText, h.toText_eq]
  show ∀ entry ∈ [("string.upperCase", Pipe.upperCase), ("string.lowerCase", Pipe.lowerCase),
    ("string.capitalize", Pipe.capitalize), ("string.trim", Pipe.trim), ("string.split", Pipe.split),
    ("string.join", Pipe.join), ("string.prepend", Pipe.prepend), ("string.append", Pipe.append)], _
  simp only [List.forall_mem_cons]
  refine ⟨⟨honText _, Pipe.onText_fillsNothing _⟩, ⟨honText _, Pipe.onText_fillsNothing _⟩,
    ⟨honText _, Pipe.onText_fillsNothing _⟩, ⟨honText _, Pipe.onText_fillsNothing _⟩,
    ⟨fun _ _ _ h => ?_, Pipe.split_fillsNothing⟩, ⟨fun _ _ _ h => ?_, Pipe.join_fillsNothing⟩,
    ⟨fun _ _ _ h => ?_, Pipe.prepend_fillsNothing⟩, ⟨fun _ _ _ h => ?_, Pipe.append_fillsNothing⟩, by simp⟩
  · simp only [Pipe.split, h.toText_eq]
  · simp only [Pipe.join, h.unwrap_eq, h.toText_eq]
  · simp only [Pipe.prepend, h.toText_eq]
  · simp only [Pipe.append, h.toText_eq]

theorem numberPipes_blank : ∀ entry ∈ numberPipes.qualified, entry.2.ReadsHosts ∧
    ((entry.1 ∈ blankNames ∧ entry.2.FillsNothing) ∨ (entry.1 ∉ blankNames ∧ entry.2.KeepsNothing)) := by
  show ∀ entry ∈ [("number.toNumber", Pipe.toNumber), ("number.round", Pipe.round), ("number.sum", Pipe.sum),
    ("number.minNum", Pipe.minNum), ("number.currency", Pipe.currency)], _
  simp only [List.forall_mem_cons]
  refine ⟨⟨fun _ _ _ h => ?_, .inr ⟨by decide, fun _ => rfl⟩⟩, ⟨fun _ _ _ h => ?_, .inr ⟨by decide, fun _ => rfl⟩⟩,
    ⟨fun _ _ _ h => ?_, .inl ⟨by decide, Pipe.sum_fillsNothing⟩⟩,
    ⟨fun _ _ _ h => ?_, .inr ⟨by decide, fun _ => rfl⟩⟩, ⟨fun _ _ _ h => ?_, .inr ⟨by decide, fun _ => rfl⟩⟩, by simp⟩
  · simp only [Pipe.toNumber, Value.toNumber?, h.unwrap_eq]
  · simp only [Pipe.round, Value.toNumber?, h.unwrap_eq]
  · simp only [Pipe.sum, Value.collectNumbers, h.unwrap_eq]
  · simp only [Pipe.minNum, Pipe.picked, Value.collectNumbers, h.unwrap_eq]
  · simp only [Pipe.currency, h.unwrap_eq]

theorem datePipes_blank (now : Calendar.Moment) : ∀ entry ∈ (datePipes now).qualified,
    entry.2.ReadsHosts ∧ entry.1 ∉ blankNames ∧ entry.2.KeepsNothing := by
  have hmoment {v w : Value} (h : v.StandsFor w) : v.moment? now.date = w.moment? now.date := by
    simp only [Value.moment?, h.unwrap_eq]
  show ∀ entry ∈ [("date.formatDate", Pipe.formatDate now.date), ("date.daysAfter", Pipe.daysAfter now),
    ("date.daysFromNow", Pipe.daysFromNow now)], _
  simp only [List.forall_mem_cons]
  refine ⟨⟨fun _ _ _ h => ?_, by decide, fun _ => rfl⟩, ⟨fun _ _ _ h => ?_, by decide, fun _ => rfl⟩,
    ⟨fun _ _ _ h => ?_, by decide, fun _ => rfl⟩, by simp⟩
  · simp only [Pipe.formatDate, hmoment h]
  · simp only [Pipe.daysAfter, Value.daysUntil?, hmoment h]
  · simp only [Pipe.daysFromNow, Value.daysUntil?, hmoment h]

/-- The extensions that evaluation starts from, without their guards. -/
def startingBodies (today : Calendar.Date) : List (String × Pipe) :=
  numberPipes.qualified ++ textPipes.qualified ++ (datePipes (.midnight today)).qualified

theorem extensions_standard (today : Calendar.Date) :
    (standard today).extensions = (startingBodies today).map (Prod.map id Pipe.passingAbsence) := rfl

theorem startingBodies_blank : ∀ entry ∈ startingBodies today, entry.2.ReadsHosts ∧
    ((entry.1 ∈ blankNames ∧ entry.2.FillsNothing) ∨ (entry.1 ∉ blankNames ∧ entry.2.KeepsNothing)) := by
  intro entry hentry
  rcases List.mem_append.1 hentry with hentry | hentry
  · rcases List.mem_append.1 hentry with hentry | hentry
    · exact numberPipes_blank entry hentry
    · obtain ⟨hreads, hfills⟩ := textPipes_blank entry hentry
      exact ⟨hreads, .inl ⟨List.mem_cons_of_mem _ (List.mem_map_of_mem hentry), hfills⟩⟩
  · obtain ⟨hreads, hkeeps⟩ := datePipes_blank _ entry hentry
    exact ⟨hreads, .inr hkeeps⟩

/-! ## What names lead to -/

theorem exists_body_of_find {p : Pipe} (h : (standard today).find? name = some p) :
    (∃ q : StandardPipe, q.name = name ∧ p = q.body.passingAbsence) ∨
      ∃ b, StandardPipe.ofName? name = none ∧ (name, b) ∈ startingBodies today ∧ p = b.passingAbsence := by
  rw [find?] at h
  split at h
  · next q hq => exact .inl ⟨q, StandardPipe.ofName_eq_some_iff.1 hq, (Option.some.inj h).symm⟩
  · next hnone =>
    rw [extensions_standard, Assoc.lookup_map, Option.map_eq_some_iff] at h
    obtain ⟨b, hb, rfl⟩ := h
    obtain ⟨before, after, hbodies, -⟩ := List.lookup_eq_some_iff.1 hb
    exact .inr ⟨b, hnone, by simp [hbodies], rfl⟩

theorem has_of_mem {b : Pipe} (h : (name, b) ∈ startingBodies today) : (standard today).has name := by
  rw [has, find?]
  split
  · rfl
  · rw [extensions_standard, Assoc.lookup_map, Option.isSome_map, Option.isSome_iff_ne_none]
    intro hnone
    simpa using List.lookup_eq_none_iff.1 hnone _ h

theorem exists_guarded_of_has (h : (standard today).has name) :
    ∃ b : Pipe, (standard today).find? name = some b.passingAbsence := by
  obtain ⟨p, hp⟩ := Option.isSome_iff_exists.1 h
  rcases exists_body_of_find hp with ⟨q, -, rfl⟩ | ⟨b, -, -, rfl⟩
  · exact ⟨_, hp⟩
  · exact ⟨_, hp⟩

theorem apply_absent (h : (standard today).has name) (args : List Value) :
    (standard today).apply name args .absent = .ok .absent := by
  obtain ⟨b, hb⟩ := exists_guarded_of_has h
  rw [apply_of_find hb]
  rfl

/-- A pipe tells a leaf that holds nothing from absence: it makes a text or a sum of it, or it is after a count that
cannot be read. -/
def TellsApart (name : String) (args : List Value) : Prop :=
  name ∈ blankNames ∨
    (∃ p : StandardPipe, p.name = name ∧ p.readsCount) ∧ ∃ err, Pipe.wholeArg? args 0 = .error err

theorem has_of_blank (today : Calendar.Date) (h : name ∈ blankNames) : (standard today).has name := by
  rcases List.mem_cons.1 h with rfl | h
  · exact rfl
  · obtain ⟨entry, hentry, rfl⟩ := List.mem_map.1 h
    exact has_of_mem (b := entry.2) (List.mem_append_left _ (List.mem_append_right _ hentry))

theorem has_of_tellsApart (today : Calendar.Date) (h : TellsApart name args) : (standard today).has name := by
  rcases h with h | ⟨⟨p, rfl, -⟩, -⟩
  · exact has_of_blank today h
  · rw [has, find_standard]
    rfl

theorem standard_not_blank (p : StandardPipe) : p.name ∉ blankNames := by cases p <;> decide

theorem tellsApart_standard_iff (p : StandardPipe) :
    TellsApart p.name args ↔ p.readsCount ∧ ∃ err, Pipe.wholeArg? args 0 = .error err := by
  rw [TellsApart, or_iff_right (standard_not_blank p)]
  refine and_congr_left' ⟨?_, fun h => ⟨p, rfl, h⟩⟩
  rintro ⟨q, hq, h⟩
  have hpq : some p = some q := by
    rw [← StandardPipe.ofName_eq_some_iff.2 hq, StandardPipe.ofName_eq_some_iff.2 rfl]
  rwa [Option.some.inj hpq]

theorem body_absent_iff (p : StandardPipe) (args : List String) :
    p.body (args.map .text) .absent = .ok .absent ↔ ¬ TellsApart p.name (args.map .text) := by
  rw [tellsApart_standard_iff]
  by_cases hp : p.readsCount
  · rw [StandardPipe.body_absent_of_readsCount hp]
    cases Pipe.wholeArg? (args.map .text) 0 with
    | ok count => simp
    | error err => simp [hp]
  · exact iff_of_true (StandardPipe.body_keepsNothing (by simpa using hp) args) fun h => hp h.1

theorem extension_absent_iff {b : Pipe} (hnone : StandardPipe.ofName? name = none) (hb : (name, b) ∈ startingBodies today)
    (args : List String) : b (args.map .text) .absent = .ok .absent ↔ ¬ TellsApart name (args.map .text) := by
  rcases (startingBodies_blank _ hb).2 with ⟨hblank, hfills⟩ | ⟨hblank, hkeeps⟩
  · exact iff_of_false (hfills _).2 fun h => h (.inl hblank)
  · refine iff_of_true (hkeeps args) ?_
    rintro (h | ⟨⟨p, hp, -⟩, -⟩)
    · exact hblank h
    · exact StandardPipe.ofName_eq_none_iff.1 hnone p hp

theorem apply_leaf_of_guarded {b : Pipe} (hfind : (standard today).find? name = some b.passingAbsence)
    (hb : b.ReadsHosts) (h : v.StandsFor w) (args : List Value) : (standard today).apply name args v = b args w := by
  rw [apply_of_find hfind, Pipe.passingAbsence, h.isAbsent_eq]
  exact hb args v w h

/-- A leaf and its host value go through a pipe alike, but for a leaf of nothing and a pipe that tells it apart. -/
theorem apply_leaf_eq_iff (today : Calendar.Date) (name : String) (args : List String) (h : v.StandsFor w) :
    (standard today).apply name (args.map .text) v = (standard today).apply name (args.map .text) w ↔
      ¬ (w = .absent ∧ TellsApart name (args.map .text)) := by
  cases hfind : (standard today).find? name with
  | none =>
    refine iff_of_true (by rw [Registry.apply, Registry.apply, hfind]) fun hno => ?_
    have hhas := has_of_tellsApart today hno.2
    rw [has, hfind] at hhas
    cases hhas
  | some p =>
    obtain ⟨b, rfl, hb, habsent⟩ : ∃ b : Pipe, p = b.passingAbsence ∧ b.ReadsHosts ∧
        (b (args.map .text) .absent = .ok .absent ↔ ¬ TellsApart name (args.map .text)) := by
      rcases exists_body_of_find hfind with ⟨q, rfl, rfl⟩ | ⟨b, hnone, hb, rfl⟩
      · exact ⟨_, rfl, q.body_readsHosts, body_absent_iff q args⟩
      · exact ⟨b, rfl, (startingBodies_blank _ hb).1, extension_absent_iff hnone hb args⟩
    rw [apply_leaf_of_guarded hfind hb h, apply_of_find hfind, Pipe.passingAbsence]
    cases w with
    | absent => simpa [Value.isAbsent] using habsent
    | _ => simp [Value.isAbsent]

theorem apply_leaf_of_blank (today : Calendar.Date) (hname : name ∈ blankNames) (h : v.StandsFor .absent)
    (args : List Value) : (standard today).apply name args v = (standard today).apply name args (.text "") := by
  obtain ⟨p, hfind⟩ := Option.isSome_iff_exists.1 (has_of_blank today hname)
  rcases exists_body_of_find hfind with ⟨q, rfl, -⟩ | ⟨b, -, hb, rfl⟩
  · exact absurd hname (standard_not_blank q)
  · obtain ⟨hreads, ⟨-, hfills⟩ | ⟨hblank, -⟩⟩ := startingBodies_blank _ hb
    · rw [apply_leaf_of_guarded hfind hreads h, apply_of_find hfind]
      exact (hfills args).1
    · exact absurd hname hblank

end Registry

end Stencil
