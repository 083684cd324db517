import Stencil.Proofs.Association
import Stencil.Proofs.Config.Definition

/-!
What a definition says about a key on its own. Main statement: the handler that its bindings give a key is the one that
its entries name, a path before a constant and the key's own entry before the wildcard.
-/

namespace Stencil.Config

open Value (lookup?)

variable {definition : List (Value × Value)} {ns name : String} {bindings bound : Bindings} {key : Key}

def text? : Value → Option String
  | .text s => some s
  | _ => none

def textsIn : Value → List String
  | .list items => items.filterMap text?
  | _ => []

def constant? (definition : List (Value × Value)) (name : String) : Option Value :=
  match fieldOr (.map []) definition "constants" with
  | .map entries => lookup? entries name
  | _ => none

/-- The handler of a name: a path beats a constant. -/
def nameHandler? (definition : List (Value × Value)) (name : String) : Option Handler :=
  if name ∈ textsIn (fieldOr (.list []) definition "paths") then some .path
  else (constant? definition name).map .const

def labelHandler? (definition : List (Value × Value)) : Label → Option Handler
  | .text name => nameHandler? definition name
  | .scalar _ => none

/-- The handler of a key in the definition's namespace: that of its name, else that of the wildcard. -/
def own? (definition : List (Value × Value)) (key : Key) : Option Handler :=
  match fieldOr (.text Key.defaultNamespace) definition "namespace" with
  | .text ns => if key.ns = .text ns then (labelHandler? definition key.name).or (nameHandler? definition "*") else none
  | _ => none

/-! ## Binding the names of a namespace -/

def latest? (label : Label) : List (Value × Handler) → Option Handler
  | [] => none
  | (name, h) :: rest => (latest? label rest).or (if name.toLabel.toOption = some label then some h else none)

theorem lookup_bindAll {entries : List (Value × Handler)} (h : bindAll (.text ns) entries bindings = .ok bound)
    (key : Key) :
    bound.lookup key =
      if key.ns = .text ns then (latest? key.name entries).or (bindings.lookup key) else bindings.lookup key := by
  induction entries generalizing bindings with
  | nil =>
    cases h
    simp [latest?]
  | cons entry rest ih =>
    obtain ⟨name, handler⟩ := entry
    obtain ⟨nsLabel, hns, h⟩ := Outcome.bind_eq_ok_iff.1 h
    cases hns
    obtain ⟨label, hlabel, h⟩ := Outcome.bind_eq_ok_iff.1 h
    have hname : name.toLabel.toOption = some label := by rw [hlabel]; rfl
    rw [ih h, latest?, hname]
    by_cases hk : key = ⟨.text ns, label⟩
    · subst hk
      simp [Assoc.lookup_put_self]
    · rw [Assoc.lookup_put_of_ne hk]
      by_cases hn : key.ns = .text ns
      · have hl : label ≠ key.name := by
          rintro rfl
          exact hk (by rw [← hn])
        simp [hl]
      · simp [hn]

theorem keys_spellAll {ns : Value} {entries : List (Value × Handler)} {known spelled : List (Key × String)}
    (hk : known.map Prod.fst = bindings.map Prod.fst) (hs : spellAll ns (entries.map Prod.fst) known = .ok spelled)
    (h : bindAll ns entries bindings = .ok bound) : spelled.map Prod.fst = bound.map Prod.fst := by
  induction entries generalizing known bindings with
  | nil =>
    cases hs
    cases h
    exact hk
  | cons entry rest ih =>
    obtain ⟨name, handler⟩ := entry
    obtain ⟨nsLabel, hns, h⟩ := Outcome.bind_eq_ok_iff.1 h
    obtain ⟨label, hlabel, h⟩ := Outcome.bind_eq_ok_iff.1 h
    rw [List.map_cons, spellAll, hns, Outcome.ok_bind, hlabel, Outcome.ok_bind] at hs
    dsimp only at hs
    split at hs
    · next hmem =>
      rw [hk] at hmem
      exact ih (hk.trans (Assoc.keys_put_of_mem hmem handler).symm) hs h
    · next hmem =>
      obtain ⟨nsText, -, hs⟩ := Outcome.bind_eq_ok_iff.1 hs
      obtain ⟨text, -, hs⟩ := Outcome.bind_eq_ok_iff.1 hs
      refine ih ?_ hs h
      rw [hk] at hmem
      rw [Assoc.put_of_notMem hmem, List.map_append, List.map_append, hk]
      rfl

/-- Every key that a definition binds has its spelling, in the same place. -/
theorem keys_spellingsOf {spelled : List (Key × String)} (hs : spellingsOf definition = .ok spelled)
    (h : bindingsOf definition = .ok bindings) : spelled.map Prod.fst = bindings.map Prod.fst := by
  obtain ⟨constants, hc, hs⟩ := Outcome.bind_eq_ok_iff.1 hs
  obtain ⟨known, hknown, hs⟩ := Outcome.bind_eq_ok_iff.1 hs
  obtain ⟨paths, hp, hs⟩ := Outcome.bind_eq_ok_iff.1 hs
  rw [bindingsOf, hc, Outcome.ok_bind, hp] at h
  obtain ⟨bound, hbound, h⟩ := Outcome.bind_eq_ok_iff.1 h
  have hpaths : (paths.map fun name => (name, Handler.path)).map Prod.fst = paths := by simp [Function.comp_def]
  rw [← hpaths] at hs
  exact keys_spellAll (keys_spellAll rfl hknown hbound) hs h

theorem latest_paths (names : List String) (label : Label) :
    latest? label ((names.map Value.text).map fun name => (name, .path)) =
      if label ∈ names.map Label.text then some .path else none := by
  induction names with
  | nil => rfl
  | cons name names ih =>
    rw [List.map_cons, List.map_cons, latest?, ih]
    by_cases hn : label ∈ names.map Label.text
    · simp [hn]
    · by_cases he : Label.text name = label <;> simp [Value.toLabel, Except.toOption, hn, he, eq_comm]

theorem lookup_eq_none {entries : List (Value × Value)} (h : .text name ∉ entries.map Prod.fst) :
    lookup? entries name = none := by
  rw [Option.eq_none_iff_forall_ne_some]
  exact fun v hv => h (List.mem_map_of_mem (Value.mem_of_lookup hv))

theorem latest_constants {entries : List (Value × Value)} (hk : (entries.map Prod.fst).Nodup)
    (ht : ∀ entry ∈ entries, ∃ s, entry.1 = .text s) (name : String) :
    latest? (.text name) (entries.map fun (name, v) => (name, .const v)) = (lookup? entries name).map .const := by
  induction entries with
  | nil => rfl
  | cons entry rest ih =>
    obtain ⟨key, v⟩ := entry
    obtain ⟨hkey, hrest⟩ := List.nodup_cons.1 hk
    obtain ⟨⟨s, rfl⟩, htexts⟩ := List.forall_mem_cons.1 ht
    rw [List.map_cons, latest?, ih hrest htexts]
    by_cases he : s = name
    · subst he
      simp [lookup_eq_none hkey, lookup?, Value.toLabel, Except.toOption]
    · simp [lookup?, Value.toLabel, Except.toOption, he]

theorem latest_scalar {entries : List (Value × Handler)} (ht : ∀ entry ∈ entries, ∃ s, entry.1 = .text s)
    (s : Scalar) : latest? (.scalar s) entries = none := by
  induction entries with
  | nil => rfl
  | cons entry rest ih =>
    obtain ⟨key, h⟩ := entry
    obtain ⟨⟨s, rfl⟩, htexts⟩ := List.forall_mem_cons.1 ht
    simp [latest?, ih htexts, Value.toLabel, Except.toOption]

/-! ## Well-formed definitions -/

theorem textsIn_texts (names : List String) : textsIn (.list (names.map .text)) = names := by
  have hsome : text? ∘ Value.text = some := rfl
  rw [textsIn, List.filterMap_map, hsome, List.filterMap_some]

theorem IsTexts.members_eq {v : Value} (h : IsTexts v) : members v = .ok ((textsIn v).map .text) := by
  obtain ⟨names, rfl⟩ := h
  rw [textsIn_texts, members]

theorem exists_constants (hd : (Value.map definition).IsDocument) (hk : (Value.map definition).HasDistinctKeys)
    (hw : WellFormed definition) :
    ∃ entries, fieldOr (.map []) definition "constants" = .map entries ∧ (entries.map Prod.fst).Nodup ∧
      ∀ entry ∈ entries, ∃ s, entry.1 = .text s := by
  refine fieldOr_of_forall (P := fun v => ∃ entries, v = .map entries ∧ (entries.map Prod.fst).Nodup ∧
    ∀ entry ∈ entries, ∃ s, entry.1 = .text s) (.map []) ⟨[], rfl, .nil, by simp⟩ ?_
  intro v hv
  obtain ⟨entries, rfl⟩ := hw.constants v hv
  exact ⟨entries, rfl, (hk.lookup hv).of_map.1, fun entry he => ((hd.lookup hv).of_map entry he).1⟩

theorem lookup_bindingsOf (hd : (Value.map definition).IsDocument) (hk : (Value.map definition).HasDistinctKeys)
    (hw : WellFormed definition) (hb : bindingsOf definition = .ok bindings) :
    ∃ ns, fieldOr (.text Key.defaultNamespace) definition "namespace" = .text ns ∧ ∀ key,
      bindings.lookup key = if key.ns = .text ns then labelHandler? definition key.name else none := by
  obtain ⟨ns, hns⟩ := fieldOr_of_forall (P := fun v => ∃ s, v = .text s) (.text Key.defaultNamespace)
    ⟨_, rfl⟩ hw.namespaceText
  obtain ⟨entries, he, hkeys, htexts⟩ := exists_constants hd hk hw
  rw [bindingsOf, hns, constantsOf, he, (isTexts_field hw.paths).members_eq, Outcome.ok_bind] at hb
  obtain ⟨constants, hc, hb⟩ := Outcome.bind_eq_ok_iff.1 hb
  rw [Outcome.ok_bind] at hb
  refine ⟨ns, hns, fun key => ?_⟩
  rw [lookup_bindAll hb, lookup_bindAll hc, latest_paths]
  by_cases hn : key.ns = .text ns
  · simp only [hn, if_true]
    cases hl : key.name with
    | text name =>
      rw [latest_constants hkeys htexts, labelHandler?, nameHandler?, constant?, he]
      by_cases hp : name ∈ textsIn (fieldOr (.list []) definition "paths") <;> simp [hp]
    | scalar s =>
      have hconst : latest? (.scalar s) (entries.map fun (name, v) => (name, Handler.const v)) = none := by
        refine latest_scalar (fun entry he => ?_) s
        obtain ⟨constant, hc, rfl⟩ := List.mem_map.1 he
        exact htexts constant hc
      simp [hconst, labelHandler?]
  · simp [hn]

theorem local_eq_own (hd : (Value.map definition).IsDocument) (hk : (Value.map definition).HasDistinctKeys)
    (hw : WellFormed definition) (hb : bindingsOf definition = .ok bindings) (key : Key) :
    bindings.local? key = own? definition key := by
  obtain ⟨ns, hns, hl⟩ := lookup_bindingsOf hd hk hw hb
  rw [Bindings.local?, hl, hl, own?, hns]
  by_cases hn : key.ns = .text ns
  · cases labelHandler? definition key.name <;> simp [hn, Key.wildcard, Key.wildcardName, labelHandler?]
  · simp [hn, Key.wildcard]

end Stencil.Config
