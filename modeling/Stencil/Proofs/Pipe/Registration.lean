import Stencil.Proofs.Association
import Stencil.Proofs.Pipe.Failure

/-!
Runs of registrations. Main statement: whatever a run registers, standard names keep their pipes, any other name leads
to the pipe that was registered under it last, and absence keeps flowing past what lets it pass.
-/

namespace Stencil

open Outcome

variable {name : String} {p : Pipe} {passes : Bool}

/-! ## Names of standard pipes -/

theorem StandardPipe.ofName_eq_none_iff : ofName? name = none ↔ ∀ p : StandardPipe, p.name ≠ name := by
  constructor
  · rintro h p rfl
    rw [ofName_eq_some_iff.2 rfl] at h
    cases h
  · intro h
    rw [Option.eq_none_iff_forall_ne_some]
    exact fun p hp => h p (ofName_eq_some_iff.1 hp)

theorem StandardPipe.ofName_qualified (ns name : String) : ofName? (ns ++ "." ++ name) = none := by
  have hdot (p : StandardPipe) : '.' ∉ p.name.toList := by cases p <;> decide
  rw [ofName_eq_none_iff]
  intro p hp
  apply hdot p
  rw [hp]
  simp

/-! ## What is registered -/

/-- A pipe under a name, and whether absence flows past it. -/
structure Registration where
  name : String
  pipe : Pipe
  passesAbsence : Bool

namespace Registration

def behaviour (g : Registration) : Pipe := if g.passesAbsence then g.pipe.passingAbsence else g.pipe

def entry (g : Registration) : String × Pipe := (g.name, g.behaviour)

/-- What the maker of a registry is given sees absence. -/
def given (entry : String × Pipe) : Registration := ⟨entry.1, entry.2, false⟩

/-- The first one under a name; of a log that lists the latest first, the latest. -/
def latest? (log : List Registration) (name : String) : Option Registration := log.find? fun g => g.name = name

theorem lookup_entries (log : List Registration) (name : String) :
    (log.map entry).lookup name = (latest? log name).map behaviour := by
  induction log with
  | nil => rfl
  | cons g log ih =>
    rw [latest?] at ih
    by_cases h : g.name = name
    · simp [latest?, entry, h]
    · have hne : (name == g.name) = false := beq_eq_false_iff_ne.2 (Ne.symm h)
      simp [latest?, entry, h, hne, ih, List.lookup_cons]

theorem latest_eq_none_iff {log : List Registration} : latest? log name = none ↔ ∀ g ∈ log, g.name ≠ name := by
  simp [latest?]

theorem behaviour_absent {g : Registration} (h : g.passesAbsence) (args : List Value) :
    g.behaviour args .absent = .ok .absent := by
  rw [behaviour, if_pos h]
  rfl

end Registration

def PipeSet.registrations (s : PipeSet) : List Registration :=
  s.pipes.map fun (name, p) => ⟨s.ns ++ "." ++ name, p, true⟩

namespace Registry

variable {r t first : Registry} {entries : List (String × Pipe)} {log : List Registration}

/-! ## Making a registry -/

theorem ofExtensions_of_unreserved (h : ∀ entry ∈ entries, StandardPipe.ofName? entry.1 = none) :
    ofExtensions entries = .ok ⟨Assoc.ofList entries⟩ := by
  have hfind : (entries.find? fun e => (StandardPipe.ofName? e.1).isSome) = none := by simpa using h
  rw [ofExtensions, hfind]

theorem ofExtensions_of_reserved (hmem : ∃ entry ∈ entries, (StandardPipe.ofName? entry.1).isSome)
    (hname : ∀ entry ∈ entries, (StandardPipe.ofName? entry.1).isSome → entry.1 = name) :
    ofExtensions entries = .error (.refused (.reservedPipe name)) := by
  obtain ⟨found, hfound⟩ := Option.isSome_iff_exists.1 (List.find?_isSome.2 hmem)
  have hsome := List.find?_some hfound
  rw [ofExtensions, hfound, ← hname found (List.mem_of_find?_eq_some hfound) hsome]

theorem unreserved_of_ofExtensions (h : ofExtensions entries = .ok r) :
    ∀ entry ∈ entries, StandardPipe.ofName? entry.1 = none := by
  rw [ofExtensions] at h
  split at h
  · cases h
  · next hfind => simpa using hfind

/-- No name stands twice, and none is a standard pipe's. -/
structure WellFormed (r : Registry) : Prop where
  nodup : r.names.Nodup
  notStandard : ∀ entry ∈ r.extensions, StandardPipe.ofName? entry.1 = none

theorem wellFormed_of_ofExtensions (h : ofExtensions entries = .ok r) : r.WellFormed := by
  have hnone := unreserved_of_ofExtensions h
  rw [ofExtensions_of_unreserved hnone] at h
  cases h
  exact ⟨Assoc.nodup_ofList entries,
    Assoc.forall_ofList (P := fun entry => StandardPipe.ofName? entry.1 = none) hnone⟩

theorem WellFormed.ofExtensions_eq (h : r.WellFormed) : ofExtensions r.extensions = .ok r := by
  rw [ofExtensions_of_unreserved h.notStandard, Assoc.ofList_of_nodup h.nodup]

theorem WellFormed.standard_notMem (h : r.WellFormed) (p : StandardPipe) : p.name ∉ r.names := by
  intro hp
  obtain ⟨entry, hentry, hname⟩ := List.mem_map.1 hp
  exact StandardPipe.ofName_eq_none_iff.1 (h.notStandard entry hentry) p hname.symm

/-! ## One registration -/

theorem WellFormed.withPipe_eq (h : r.WellFormed) (hname : StandardPipe.ofName? name = none) (p : Pipe) (passes : Bool) :
    r.withPipe name p passes = .ok ⟨Assoc.put name (if passes then p.passingAbsence else p) r.extensions⟩ := by
  rw [withPipe, ofExtensions_of_unreserved, Assoc.ofList_of_nodup (Assoc.nodup_put h.nodup _ _)]
  exact Assoc.forall_put (P := fun entry => StandardPipe.ofName? entry.1 = none) h.notStandard hname

theorem WellFormed.withPipe_of_standard (h : r.WellFormed) (q : StandardPipe) (p : Pipe) (passes : Bool) :
    r.withPipe q.name p passes = .error (.refused (.reservedPipe q.name)) := by
  have hq : (StandardPipe.ofName? q.name).isSome := by rw [StandardPipe.ofName_eq_some_iff.2 rfl]; rfl
  rw [withPipe]
  refine ofExtensions_of_reserved ?_ ?_
  · exact ⟨_, Assoc.mem_put q.name _ r.extensions, hq⟩
  · refine Assoc.forall_put (P := fun entry => (StandardPipe.ofName? entry.1).isSome → entry.1 = q.name) ?_ fun _ => rfl
    intro entry hentry hsome
    simp [h.notStandard entry hentry] at hsome

theorem withSet_eq (r : Registry) (s : PipeSet) :
    r.withSet s = ⟨Assoc.putAll r.extensions (Assoc.ofList (s.registrations.map Registration.entry))⟩ := by
  have hinj : Function.Injective (s.ns ++ "." ++ ·) := fun a b hab => by simpa [← String.toList_inj] using hab
  have hentries : s.registrations.map Registration.entry =
      s.pipes.map (Prod.map (s.ns ++ "." ++ ·) Pipe.passingAbsence) := by
    rw [PipeSet.registrations, List.map_map]
    rfl
  rw [withSet, PipeSet.qualified, hentries, ← Assoc.map_ofList hinj, Assoc.putAll, List.foldl_map, List.foldl_map]
  rfl

theorem unreserved_of_withPipe (h : r.withPipe name p passes = .ok t) : StandardPipe.ofName? name = none :=
  unreserved_of_ofExtensions h _ (Assoc.mem_put name _ r.extensions)

theorem WellFormed.withSet (h : r.WellFormed) (s : PipeSet) : (r.withSet s).WellFormed := by
  have hnew : ∀ entry ∈ s.registrations.map Registration.entry, StandardPipe.ofName? entry.1 = none := by
    intro entry hentry
    simp only [PipeSet.registrations, List.map_map, List.mem_map] at hentry
    obtain ⟨plain, -, rfl⟩ := hentry
    exact StandardPipe.ofName_qualified s.ns plain.1
  rw [withSet_eq]
  exact ⟨Assoc.nodup_putAll h.nodup _, Assoc.forall_putAll h.notStandard (Assoc.forall_ofList hnew)⟩

theorem find_standard (r : Registry) (p : StandardPipe) : r.find? p.name = some p.run := by
  rw [find?, StandardPipe.ofName_eq_some_iff.2 rfl]

theorem find_of_unreserved (h : StandardPipe.ofName? name = none) (r : Registry) :
    r.find? name = r.extensions.lookup name := by
  rw [find?, h]

/-! ## Runs of registrations -/

/-- A run leads from one registry to another; its log lists what it registers, the latest first. -/
inductive Runs : Registry → List Registration → Registry → Prop
  | refl (r : Registry) : Runs r [] r
  | withPipe {r s t : Registry} {log : List Registration} {g : Registration} :
      Runs r log s → s.withPipe g.name g.pipe g.passesAbsence = .ok t → Runs r (g :: log) t
  | withSet {r s : Registry} {log : List Registration} (set : PipeSet) :
      Runs r log s → Runs r (set.registrations.reverse ++ log) (s.withSet set)

theorem Runs.wellFormed (h : Runs r log t) (hr : r.WellFormed) : t.WellFormed := by
  induction h with
  | refl => exact hr
  | withPipe _ hmade _ => exact wellFormed_of_ofExtensions hmade
  | withSet set _ ih => exact ih.withSet set

theorem Runs.lookup_eq (h : Runs r log t) (hr : r.WellFormed) (name : String) :
    t.extensions.lookup name = (log.map Registration.entry ++ r.extensions).lookup name := by
  induction h with
  | refl => rfl
  | @withPipe s t log g hrun hmade ih =>
    rw [(hrun.wellFormed hr).withPipe_eq (unreserved_of_withPipe hmade)] at hmade
    obtain rfl := Except.ok.inj hmade
    rw [Assoc.lookup_put, ih, List.map_cons, List.cons_append, Registration.entry, List.lookup_cons]
    by_cases hname : name = g.name
    · simp [hname, Registration.behaviour]
    · rw [if_neg hname, beq_eq_false_iff_ne.2 hname]
  | withSet set _ ih =>
    rw [withSet_eq, Assoc.lookup_putAll_ofList, ih, List.map_append, List.map_reverse, List.append_assoc]
    exact List.lookup_append.symm

theorem Runs.find_eq (h : Runs r log t) (hr : r.WellFormed) (hname : ∀ g ∈ log, g.name ≠ name) :
    t.find? name = r.find? name := by
  have hnone : (log.map Registration.entry).lookup name = none := by
    rw [Registration.lookup_entries, Registration.latest_eq_none_iff.2 hname, Option.map_none]
  rw [find?, find?, h.lookup_eq hr, List.lookup_append, hnone, Option.none_or]

/-- The log of a run that starts from what the maker of a registry is given. -/
def fullLog (log : List Registration) (entries : List (String × Pipe)) : List Registration :=
  log ++ (entries.map Registration.given).reverse

theorem Runs.lookup_latest (hmade : ofExtensions entries = .ok first) (h : Runs first log r) (name : String) :
    r.extensions.lookup name = (Registration.latest? (fullLog log entries) name).map Registration.behaviour := by
  have hgiven : (entries.map Registration.given).map Registration.entry = entries := by
    rw [List.map_map]
    exact List.map_id' entries
  have hfirst : first = ⟨Assoc.ofList entries⟩ := by
    rw [ofExtensions_of_unreserved (unreserved_of_ofExtensions hmade)] at hmade
    exact (Except.ok.inj hmade).symm
  rw [h.lookup_eq (wellFormed_of_ofExtensions hmade), hfirst, List.lookup_append, Assoc.lookup_ofList,
    ← Registration.lookup_entries, fullLog, List.map_append, List.map_reverse, hgiven, List.lookup_append]

theorem Runs.latest_standard (hmade : ofExtensions entries = .ok first) (h : Runs first log r) (p : StandardPipe) :
    Registration.latest? (fullLog log entries) p.name = none := by
  have hr : r.WellFormed := h.wellFormed (wellFormed_of_ofExtensions hmade)
  have hlookup : r.extensions.lookup p.name = none := by
    rw [List.lookup_eq_none_iff]
    intro entry hentry
    rw [bne_iff_ne]
    exact StandardPipe.ofName_eq_none_iff.1 (hr.notStandard entry hentry) p
  rw [h.lookup_latest hmade, Option.map_eq_none_iff] at hlookup
  exact hlookup

theorem Runs.find_latest (hmade : ofExtensions entries = .ok first) (h : Runs first log r) {g : Registration}
    (hg : Registration.latest? (fullLog log entries) name = some g) : r.find? name = some g.behaviour := by
  have hname : StandardPipe.ofName? name = none := by
    rw [StandardPipe.ofName_eq_none_iff]
    rintro p rfl
    rw [h.latest_standard hmade] at hg
    cases hg
  rw [find_of_unreserved hname, h.lookup_latest hmade, hg, Option.map_some]

theorem Runs.find_unregistered (hmade : ofExtensions entries = .ok first) (h : Runs first log r)
    (hname : ∀ p : StandardPipe, p.name ≠ name) (hlog : ∀ g ∈ fullLog log entries, g.name ≠ name) :
    r.find? name = none := by
  rw [find_of_unreserved (StandardPipe.ofName_eq_none_iff.2 hname), h.lookup_latest hmade,
    Registration.latest_eq_none_iff.2 hlog, Option.map_none]

theorem apply_of_find (h : r.find? name = some p) (args : List Value) (v : Value) : r.apply name args v = p args v := by
  rw [Registry.apply, h]

theorem apply_standard (r : Registry) (p : StandardPipe) (args : List Value) (h : p.body args .absent = .ok .absent)
    (v : Value) : r.apply p.name args v = p.body args v := by
  rw [apply_of_find (find_standard r p)]
  cases v with
  | absent => exact h.symm
  | _ => rfl

/-- An unknown name is reported for what nobody registered, and else only where the registered pipe itself does so. -/
theorem Runs.apply_eq_unknown_iff (hmade : ofExtensions entries = .ok first) (h : Runs first log r) (name : String)
    (args : List Value) (v : Value) :
    r.apply name args v = .error (.unknownPipe name) ↔
      ((∀ p : StandardPipe, p.name ≠ name) ∧ ∀ g ∈ fullLog log entries, g.name ≠ name) ∨
        ∃ g, Registration.latest? (fullLog log entries) name = some g ∧
          g.behaviour args v = .error (.unknownPipe name) := by
  cases hg : Registration.latest? (fullLog log entries) name with
  | some g =>
    have hlog : ¬ ∀ g ∈ fullLog log entries, g.name ≠ name := by
      rw [← Registration.latest_eq_none_iff, hg]
      exact Option.some_ne_none g
    rw [apply_of_find (h.find_latest hmade hg), or_iff_right (fun hno => hlog hno.2)]
    simp
  | none =>
    have hlog := Registration.latest_eq_none_iff.1 hg
    rw [or_iff_left (by simp), and_iff_left hlog]
    constructor
    · rintro happly p rfl
      rw [apply_of_find (find_standard r p)] at happly
      exact p.run_fails args v _ happly
    · intro hname
      rw [Registry.apply, h.find_unregistered hmade hname hlog]

/-- Whatever was registered, standard names are refused to others and keep their pipes, sets are always taken, any other
name leads to the pipe registered under it last, and absence flows past a pipe that lets it pass until another one is
registered under its name. -/
theorem runs_dispatch (hmade : ofExtensions entries = .ok first) (hrun : Runs first log r) :
    (∀ p : StandardPipe, p.name ∉ r.names ∧ ∀ args v, r.apply p.name args v = p.run args v) ∧
      (∀ name p passes,
        ((∃ q : StandardPipe, q.name = name) → r.withPipe name p passes = .error (.refused (.reservedPipe name))) ∧
          ((∀ q : StandardPipe, q.name ≠ name) → ∃ t, r.withPipe name p passes = .ok t)) ∧
      (∀ s : PipeSet, ofExtensions (r.withSet s).extensions = .ok (r.withSet s)) ∧
      (∀ name g, Registration.latest? (fullLog log entries) name = some g →
        ∀ args v, r.apply name args v = g.behaviour args v) ∧
      (∀ name args v, r.apply name args v = .error (.unknownPipe name) ↔
        ((∀ p : StandardPipe, p.name ≠ name) ∧ ∀ g ∈ fullLog log entries, g.name ≠ name) ∨
          ∃ g, Registration.latest? (fullLog log entries) name = some g ∧
            g.behaviour args v = .error (.unknownPipe name)) ∧
      ∀ name, ((∃ p : StandardPipe, p.name = name) ∨
          ∃ g, Registration.latest? (fullLog log entries) name = some g ∧ g.passesAbsence) →
        ∀ more later, Runs r more later → (∀ g ∈ more, g.name ≠ name) →
          ∀ args, later.apply name args .absent = .ok .absent := by
  have hr : r.WellFormed := hrun.wellFormed (wellFormed_of_ofExtensions hmade)
  refine ⟨fun p => ⟨hr.standard_notMem p, apply_of_find (find_standard r p)⟩, fun name p passes => ⟨?_, fun hname => ?_⟩,
    fun s => (hr.withSet s).ofExtensions_eq, fun name g hg => apply_of_find (hrun.find_latest hmade hg),
    hrun.apply_eq_unknown_iff hmade, fun name hname more later hmore hother args => ?_⟩
  · rintro ⟨q, rfl⟩
    exact hr.withPipe_of_standard q p passes
  · exact ⟨_, hr.withPipe_eq (StandardPipe.ofName_eq_none_iff.2 hname) p passes⟩
  · rcases hname with ⟨p, rfl⟩ | ⟨g, hg, hpasses⟩
    · rw [apply_of_find (find_standard later p)]
      rfl
    · have hfind : later.find? name = some g.behaviour := by
        rw [hmore.find_eq hr hother, hrun.find_latest hmade hg]
      rw [apply_of_find hfind]
      exact Registration.behaviour_absent hpasses args

def seeing : Pipe := fun _ v => .ok (.bool v.isAbsent)

/-- A pipe that sees absence until it is registered again, and one of a set beside it. -/
theorem runs_dispatch_seeing :
    ∃ first r, ofExtensions [("see", seeing)] = .ok first ∧ first.apply "see" [] .absent = .ok (.bool true) ∧
      Runs first [⟨"x.see", seeing, true⟩, ⟨"see", seeing, true⟩] r ∧ r.apply "see" [] .absent = .ok .absent ∧
      r.withPipe "size" seeing true = .error (.refused (.reservedPipe "size")) ∧
      r.apply "see.x" [] .absent = .error (.unknownPipe "see.x") := by
  have hmade : ofExtensions [("see", seeing)] = .ok ⟨[("see", seeing)]⟩ := rfl
  have hpipe : (Registry.mk [("see", seeing)]).withPipe "see" seeing true = .ok ⟨[("see", seeing.passingAbsence)]⟩ := rfl
  have hrun : Runs ⟨[("see", seeing)]⟩ [⟨"x.see", seeing, true⟩, ⟨"see", seeing, true⟩] _ :=
    .withSet ⟨"x", [("see", seeing)]⟩ (.withPipe (g := ⟨"see", seeing, true⟩) (.refl _) hpipe)
  obtain ⟨-, hwithPipe, -, -, hunknown, habsent⟩ := runs_dispatch hmade hrun
  refine ⟨_, _, hmade, rfl, hrun, ?_, (hwithPipe "size" seeing true).1 ⟨.size, rfl⟩, ?_⟩
  · exact habsent "see" (.inr ⟨⟨"see", seeing, true⟩, rfl, rfl⟩) [] _ (.refl _) (by simp) []
  · exact (hunknown "see.x" [] .absent).2 (.inl ⟨fun p => by cases p <;> decide, by decide⟩)

end Registry

end Stencil
