import Stencil.Proofs.Config.Construction
import Stencil.Proofs.Document.Reading
import Stencil.Proofs.Value.Failure

/-!
What a definition must hold for its resolver to be built, and which errors it can give where it does not: a definition
on its own reports no cycle.
-/

namespace Stencil.Config

open Value (lookup?)

variable {f : Folder} {definition : List (Value × Value)} {d : Draft} {built : Built} {rs : List Resolver}

/-! ## Well-formed definitions -/

def IsTexts (v : Value) : Prop := ∃ names : List String, v = .list (names.map .text)

/-- Each field has its form where it is present. -/
structure WellFormed (definition : List (Value × Value)) : Prop where
  constants : ∀ v, lookup? definition "constants" = some v → ∃ entries, v = .map entries
  namespaceText : ∀ v, lookup? definition "namespace" = some v → ∃ s, v = .text s
  paths : ∀ v, lookup? definition "paths" = some v → IsTexts v
  delegates : ∀ v, lookup? definition "delegates" = some v → IsTexts v
  builtIns : ∀ v, lookup? definition "builtin" = some v → IsTexts v

theorem fieldOr_of_forall {P : Value → Prop} (other : Value) {field : String} (ho : P other)
    (h : ∀ v, lookup? definition field = some v → P v) : P (fieldOr other definition field) := by
  rw [fieldOr]
  cases hv : lookup? definition field with
  | none => exact ho
  | some v => exact h v hv

theorem isTexts_field {field : String} (h : ∀ v, lookup? definition field = some v → IsTexts v) :
    IsTexts (fieldOr (.list []) definition field) :=
  fieldOr_of_forall (.list []) ⟨[], rfl⟩ h

theorem members_of_forall {field : String} (h : ∀ v, lookup? definition field = some v → IsTexts v) :
    ∃ names : List String, members (fieldOr (.list []) definition field) = .ok (names.map .text) := by
  obtain ⟨names, hnames⟩ := isTexts_field h
  exact ⟨names, by rw [hnames, members]⟩

theorem bindAll_of_texts (ns : String) {entries : List (Value × Handler)}
    (h : ∀ entry ∈ entries, ∃ s, entry.1 = .text s) (bindings : Bindings) :
    ∃ bound, bindAll (.text ns) entries bindings = .ok bound := by
  induction entries generalizing bindings with
  | nil => exact ⟨bindings, rfl⟩
  | cons entry rest ih =>
    rw [List.forall_mem_cons] at h
    obtain ⟨name, handler⟩ := entry
    obtain ⟨s, hs⟩ := h.1
    obtain rfl : name = .text s := hs
    exact ih h.2 _

theorem builtInsAmong_of_texts (names : List String) : ∃ rs, builtInsAmong (names.map .text) = .ok rs := by
  induction names with
  | nil => exact ⟨[], rfl⟩
  | cons name names ih =>
    obtain ⟨rs, hrs⟩ := ih
    rw [List.map_cons, builtInsAmong, hrs]
    exact ⟨_, rfl⟩

theorem load_kept {P : Value → Prop} (hP : Document.Kept P) {kind : ConfigKind} {file : String}
    (h : f.load kind file = .ok definition) : P (.map definition) := by
  rw [Folder.load] at h
  split at h
  · cases h
  · obtain ⟨value, hread, hvalue⟩ := Outcome.bind_eq_ok_iff.1 h
    split at hvalue
    · cases hvalue
      exact hP.read hread
    · cases hvalue

theorem constantsOf_of_wellFormed (hd : (Value.map definition).IsDocument) (h : WellFormed definition) :
    ∃ constants, constantsOf definition = .ok constants ∧ ∀ entry ∈ constants, ∃ s, entry.1 = .text s := by
  obtain ⟨⟨entries, he⟩, hentries⟩ :=
    fieldOr_of_forall (P := fun v => (∃ entries, v = .map entries) ∧ v.IsDocument) (.map [])
      ⟨⟨[], rfl⟩, .map (by simp) (by simp)⟩ fun v hv => ⟨h.constants v hv, hd.lookup hv⟩
  rw [he] at hentries
  refine ⟨_, by rw [constantsOf, he], ?_⟩
  intro entry hmem
  obtain ⟨⟨key, value⟩, hkey, rfl⟩ := List.mem_map.1 hmem
  exact (hentries.of_map _ hkey).1

theorem bindingsOf_of_wellFormed (hd : (Value.map definition).IsDocument) (h : WellFormed definition) :
    ∃ bindings, bindingsOf definition = .ok bindings := by
  obtain ⟨ns, hns⟩ := fieldOr_of_forall (P := fun v => ∃ s, v = .text s) (.text Key.defaultNamespace)
    ⟨_, rfl⟩ h.namespaceText
  obtain ⟨constants, hc, htexts⟩ := constantsOf_of_wellFormed hd h
  obtain ⟨paths, hp⟩ := members_of_forall h.paths
  obtain ⟨bound, hb⟩ := bindAll_of_texts ns htexts []
  have hpaths : ∀ entry ∈ (paths.map Value.text).map fun name => (name, Handler.path), ∃ s, entry.1 = .text s := by
    simp
  obtain ⟨all, ha⟩ := bindAll_of_texts ns hpaths bound
  refine ⟨all, ?_⟩
  rw [bindingsOf, hns, hc, hp]
  simp only [Outcome.ok_bind, hb, ha]

theorem draft_of_wellFormed {file : String} (hl : f.load .keys file = .ok definition) (h : WellFormed definition) :
    ∃ (bindings : Bindings) (names : List String),
      f.draft (.text file) = .ok ⟨definition, bindings, names.map .text⟩ := by
  obtain ⟨bindings, hb⟩ := bindingsOf_of_wellFormed (load_kept Document.isDocument_kept hl) h
  obtain ⟨names, hn⟩ := members_of_forall h.delegates
  exact ⟨bindings, names, draft_text_eq_ok_iff.2 ⟨hl, hb, hn⟩⟩

theorem complete_of_wellFormed (h : WellFormed d.definition) (hw : (workshopOf built).Run)
    (hr : rs ⊆ (workshopOf built).made) (label : Label) : ∃ kept, d.complete label built rs = .ok kept := by
  obtain ⟨names, hn⟩ := members_of_forall h.builtIns
  obtain ⟨builtIns, hb⟩ := builtInsAmong_of_texts names
  rw [Draft.complete_eq hw hr, builtInsOf, hn, Outcome.ok_bind, hb]
  exact ⟨_, rfl⟩

/-! ## Errors that are no cycles -/

def ReportsNoCycle {α : Type} (out : Result α) : Prop := ∀ chain, out ≠ .error (.cyclicDelegation chain)

theorem reportsNoCycle_ok {α : Type} (a : α) : ReportsNoCycle (.ok a) := by
  intro chain h
  cases h

theorem ReportsNoCycle.bind {α β : Type} {first : Result α} {next : α → Result β} (h : ReportsNoCycle first)
    (hn : ∀ a, ReportsNoCycle (next a)) : ReportsNoCycle (first >>= next) := by
  cases first with
  | ok a => exact hn a
  | error e => exact fun chain he => h chain (congrArg _ (Except.error.inj he))

theorem toLabel_reportsNoCycle (v : Value) : ReportsNoCycle v.toLabel := by
  intro chain h
  exact Value.toLabel_fails v _ h

theorem spelled_reportsNoCycle (v : Value) : ReportsNoCycle v.spelled := by
  intro chain h
  exact Value.spelled_fails v _ h

theorem members_reportsNoCycle (v : Value) : ReportsNoCycle (members v) := by
  cases v <;> intro chain h <;> cases h

theorem bindAll_reportsNoCycle (ns : Value) (entries : List (Value × Handler)) (bindings : Bindings) :
    ReportsNoCycle (bindAll ns entries bindings) := by
  induction entries generalizing bindings with
  | nil => exact reportsNoCycle_ok _
  | cons entry rest ih =>
    rw [bindAll]
    exact (toLabel_reportsNoCycle ns).bind fun _ => (toLabel_reportsNoCycle entry.1).bind fun _ => ih _

theorem constantsOf_reportsNoCycle (definition : List (Value × Value)) : ReportsNoCycle (constantsOf definition) := by
  intro chain h
  rw [constantsOf] at h
  split at h <;> cases h

theorem builtInsAmong_reportsNoCycle (names : List Value) : ReportsNoCycle (builtInsAmong names) := by
  induction names with
  | nil => exact reportsNoCycle_ok _
  | cons name names ih =>
    rw [builtInsAmong]
    exact (toLabel_reportsNoCycle name).bind fun _ => ih.bind fun _ => reportsNoCycle_ok _

theorem read_reportsNoCycle (text : String) : ReportsNoCycle (Document.read text) := by
  intro chain h
  rw [Document.read] at h
  split at h <;> cases h

theorem load_reportsNoCycle (kind : ConfigKind) (file : String) : ReportsNoCycle (f.load kind file) := by
  rw [Folder.load]
  split
  · intro chain h
    cases h
  · refine (read_reportsNoCycle _).bind fun value => ?_
    split
    · exact reportsNoCycle_ok _
    · intro chain h
      cases h

theorem draft_reportsNoCycle (name : Value) : ReportsNoCycle (f.draft name) := by
  rw [Folder.draft]
  refine (spelled_reportsNoCycle _).bind fun file => (load_reportsNoCycle _ _).bind fun definition => ?_
  refine ReportsNoCycle.bind ?_ fun bindings => (members_reportsNoCycle _).bind fun names => reportsNoCycle_ok _
  rw [bindingsOf]
  exact (constantsOf_reportsNoCycle _).bind fun _ => (bindAll_reportsNoCycle _ _ _).bind fun _ =>
    (members_reportsNoCycle _).bind fun _ => bindAll_reportsNoCycle _ _ _

theorem complete_reportsNoCycle (hw : (workshopOf built).Run) (hr : rs ⊆ (workshopOf built).made) (label : Label) :
    ReportsNoCycle (d.complete label built rs) := by
  intro chain h
  rw [Draft.complete_eq hw hr, Outcome.map_eq_error_iff] at h
  exact ((members_reportsNoCycle _).bind fun _ => builtInsAmong_reportsNoCycle _) chain h

end Stencil.Config
