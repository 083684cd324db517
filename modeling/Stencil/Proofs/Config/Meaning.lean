import Mathlib
import Stencil.Proofs.Config.Cycle
import Stencil.Proofs.Config.Entry

/-!
What the resolver of a name means. Main statement: it finds what a look-up through the definitions finds, which builds
no resolver and keeps none.
-/

namespace Stencil.Config

open Resolver

variable {f : Folder} {key : Key} {definition : List (Value × Value)} {a name : String} {names rest : List String}
  {out : Option Handler} {building : List Label} {built after : Built} {rs : List Resolver}

def delegatesIn (definition : List (Value × Value)) : List String :=
  textsIn (fieldOr (.list []) definition "delegates")

def builtIn? (name : String) : Option Resolver := if name = "numbers" then some .numbers else none

def inBuiltIns? (definition : List (Value × Value)) (key : Key) : Option Handler :=
  (textsIn (fieldOr (.list []) definition "builtin")).findSome? fun name => (builtIn? name).bind (·.resolve key)

/-- What the definitions of some names, taken in turn, say about a key: of each one its own entry, else what its
delegates say, else its built-in resolvers. -/
inductive Finds (f : Folder) (key : Key) : List String → Option Handler → Prop
  | nil : Finds f key [] none
  | cons {a : String} {rest : List String} {definition : List (Value × Value)} {below later : Option Handler} :
      f.load .keys a = .ok definition → Finds f key (delegatesIn definition) below → Finds f key rest later →
      Finds f key (a :: rest) ((own? definition key).or (below.or ((inBuiltIns? definition key).or later)))

theorem Finds.unique {other : Option Handler} (h : Finds f key names out) (h' : Finds f key names other) :
    out = other := by
  induction h generalizing other with
  | nil =>
    cases h'
    rfl
  | cons hl _ _ ih ihl =>
    cases h' with
    | cons hl' hb hr =>
      obtain rfl := Except.ok.inj (hl.symm.trans hl')
      rw [ih hb, ihl hr]

theorem Finds.eq_of_own {h : Handler} (hf : Finds f key (a :: rest) out) (hl : f.load .keys a = .ok definition)
    (ho : own? definition key = some h) : out = some h := by
  cases hf with
  | cons hl' _ _ =>
    obtain rfl := Except.ok.inj (hl.symm.trans hl')
    rw [ho, Option.some_or]

theorem Finds.append_names {first : Option Handler} (h : Finds f key [a] first) (hr : Finds f key rest out) :
    Finds f key (a :: rest) (first.or out) := by
  cases h with
  | cons hl hb hn =>
    cases hn
    simpa [Option.or_assoc] using Finds.cons hl hb hr

/-! ## Resolvers in turn -/

theorem resolveFirst_builtInsAmong {names : List String} {builtIns : List Resolver}
    (h : builtInsAmong (names.map .text) = .ok builtIns) (key : Key) :
    resolveFirst builtIns key = names.findSome? fun name => (builtIn? name).bind (·.resolve key) := by
  induction names generalizing builtIns with
  | nil =>
    cases h
    rfl
  | cons name names ih =>
    rw [List.map_cons, builtInsAmong, Value.toLabel, Outcome.ok_bind] at h
    obtain ⟨others, ho, h⟩ := Outcome.bind_eq_ok_iff.1 h
    cases h
    rw [List.findSome?_cons, ← ih ho]
    by_cases hn : name = "numbers"
    · simp only [hn, builtIn?, if_true, Option.bind_some, resolveFirst_cons]
      cases Resolver.numbers.resolve key <;> rfl
    · simp [hn, builtIn?]

/-! ## Building keeps the meaning -/

def Means (f : Folder) (a : String) (r : Resolver) : Prop := ∀ key, Finds f key [a] (r.resolve key)

theorem means_complete {label : Label} {d : Draft} {between kept : Built} {r : Resolver} (ha : f.SoundFrom a)
    (hd : f.draft (.text a) = .ok d) (hbelow : ∀ key, Finds f key (delegatesIn d.definition) (resolveFirst rs key))
    (hr : d.complete label between rs = .ok (kept, r)) : Means f a r := by
  intro key
  obtain ⟨hl, hbindings, -⟩ := draft_text_eq_ok_iff.1 hd
  obtain ⟨definition, hl', hw⟩ := ha a .refl
  obtain rfl : d.definition = definition := Except.ok.inj (hl.symm.trans hl')
  obtain ⟨builtIns, hbuiltIns, rfl⟩ := Draft.eq_bound hr
  rw [builtInsOf, (isTexts_field hw.builtIns).members_eq, Outcome.ok_bind] at hbuiltIns
  have hfound := Finds.cons hl (hbelow key) .nil
  rwa [Option.or_none, inBuiltIns?, ← resolveFirst_builtInsAmong hbuiltIns, ← resolveFirst_append,
    ← local_eq_own (load_kept Document.isDocument_kept hl) (load_kept Document.hasDistinctKeys_kept hl) hw hbindings,
    ← resolve_bound] at hfound

theorem delegates_of_draft {d : Draft} (ha : f.SoundFrom a) (hd : f.draft (.text a) = .ok d) :
    d.delegates = (delegatesIn d.definition).map .text ∧ ∀ b ∈ delegatesIn d.definition, f.SoundFrom b := by
  obtain ⟨hl, -, hn⟩ := draft_text_eq_ok_iff.1 hd
  obtain ⟨definition, hl', hw⟩ := ha a .refl
  obtain rfl : d.definition = definition := Except.ok.inj (hl.symm.trans hl')
  rw [delegateNames, (isTexts_field hw.delegates).members_eq] at hn
  have hnames := (Except.ok.inj hn).symm
  refine ⟨hnames, fun b hb => ha.of_delegates ((delegates_iff_draft hd).2 ?_)⟩
  rw [hnames]
  exact List.mem_map_of_mem hb

/-- A run keeps the meaning of every resolver that is built so far, and what it answers means the names. -/
theorem Builds.means {vs : List Value} {run : Result (Built × List Resolver)} (h : Builds f building built vs run)
    (ho : run = .ok (after, rs)) (hn : vs = names.map .text) (hs : ∀ a ∈ names, f.SoundFrom a)
    (hb : ∀ a r, built.lookup (.text a) = some r → Means f a r) :
    (∀ a r, after.lookup (.text a) = some r → Means f a r) ∧ ∀ key, Finds f key names (resolveFirst rs key) := by
  -- On the run: a definition that several names share is completed once and known from then on.
  induction h generalizing after rs names with
  | nil =>
    cases ho
    obtain rfl := List.map_eq_nil_iff.1 hn.symm
    exact ⟨hb, fun key => .nil⟩
  | @known building built v vs label r later hl _ hr _ ih =>
    obtain ⟨⟨after', rs'⟩, hlater, ho⟩ := Outcome.map_eq_ok_iff.1 ho
    cases ho
    obtain ⟨a, rest, rfl, rfl, hrest⟩ := List.map_eq_cons_iff.1 hn.symm
    cases hl
    obtain ⟨hafter, hfinds⟩ := ih hlater hrest.symm (List.forall_mem_cons.1 hs).2 hb
    refine ⟨hafter, fun key => ?_⟩
    rw [resolveFirst_cons]
    exact (hb a r hr key).append_names (hfinds key)
  | @complete building built between kept v vs label d rs r later hu hd _ hk _ ih ihl =>
    obtain ⟨⟨after', rs'⟩, hlater, ho⟩ := Outcome.map_eq_ok_iff.1 ho
    cases ho
    obtain ⟨a, rest, rfl, rfl, hrest⟩ := List.map_eq_cons_iff.1 hn.symm
    cases hu.1
    obtain ⟨ha, hsrest⟩ := List.forall_mem_cons.1 hs
    obtain ⟨hnames, hbelow⟩ := delegates_of_draft ha hd
    obtain ⟨hbetween, hfound⟩ := ih rfl hnames hbelow hb
    have hmeans : Means f a r := means_complete ha hd hfound hk
    have hkept : ∀ b s, kept.lookup (.text b) = some s → Means f b s := by
      rw [(Draft.exists_make hk).1]
      intro b s hl
      by_cases he : b = a
      · subst he
        obtain rfl : r = s := by simpa using hl
        exact hmeans
      · have hne : (Label.text b == Label.text a) = false := by simpa using he
        rw [List.lookup_cons, hne] at hl
        exact hbetween b s hl
    obtain ⟨hafter, hfinds⟩ := ihl hlater hrest.symm hsrest hkept
    refine ⟨hafter, fun key => ?_⟩
    rw [resolveFirst_cons]
    exact (hmeans key).append_names (hfinds key)
  | _ => cases ho

/-- Without a cycle the resolver of a name is built, and it finds for each key what the definitions say. A constant,
even one without a value, hides what the delegates say. -/
theorem build_means_definitions (f : Folder) (name : String) (hs : f.SoundFrom name) (hc : ¬ f.ReachesCycle name) :
    ∃ r, f.build (.text name) = .ok r ∧ (∀ key out, Finds f key [name] out ↔ r.resolve key = out) ∧
      ∀ definition ns n v, f.load .keys name = .ok definition →
        fieldOr (.text Key.defaultNamespace) definition "namespace" = .text ns →
        n ∉ textsIn (fieldOr (.list []) definition "paths") → constant? definition n = some v →
        r.resolve (.ofText ns n) = some (.const v) := by
  obtain ⟨r, hr⟩ := hs.exists_build hc
  obtain ⟨built, hrun⟩ := builds_of_build_eq_ok hr
  have hnone : ∀ a s, ([] : Built).lookup (.text a) = some s → Means f a s := by
    intro a s hl
    cases hl
  have hmeans : ∀ key, Finds f key [name] (r.resolve key) := by
    intro key
    have hnames : [Value.text name] = [name].map .text := rfl
    have hfirst := (hrun.means rfl hnames (by simpa using hs) hnone).2 key
    rwa [resolveFirst_cons, resolveFirst, Option.or_none] at hfirst
  refine ⟨r, hr, fun key out => ⟨fun h => (hmeans key).unique h, fun h => h ▸ hmeans key⟩, ?_⟩
  intro definition ns n v hl hns hn hv
  have hown : own? definition (.ofText ns n) = some (.const v) := by
    simp [own?, hns, Key.ofText, labelHandler?, nameHandler?, hn, hv]
  exact (hmeans (.ofText ns n)).eq_of_own hl hown

def topDefinition : List (Value × Value) :=
  [(.text "constants", .map [(.text "a", .text "x")]), (.text "delegates", .list (["base", "base"].map .text))]

def baseDefinition : List (Value × Value) :=
  [(.text "constants", .map [(.text "a", .text "y"), (.text "b", .text "z")])]

/-- One definition delegates to another twice and hides one of its constants. -/
def twice : Folder :=
  ⟨[(["keys", "top.json"],
      "\x7b\"constants\": \x7b\"a\": \"x\"\x7d, \"delegates\": [\"base\", \"base\"]\x7d"),
    (["keys", "base.json"], "\x7b\"constants\": \x7b\"a\": \"y\", \"b\": \"z\"\x7d\x7d")]⟩

theorem load_top : twice.load .keys "top" = .ok topDefinition := by cbv

theorem load_base : twice.load .keys "base" = .ok baseDefinition := by cbv

theorem delegates_top {b : String} (h : twice.Delegates "top" b) : b = "base" := by
  obtain ⟨definition, names, hl, hn, hb⟩ := h
  cases load_top.symm.trans hl
  cases hn
  simpa using hb

theorem not_delegates_base {b : String} : ¬ twice.Delegates "base" b := by
  rintro ⟨definition, names, hl, hn, hb⟩
  cases load_base.symm.trans hl
  cases hn
  simp at hb

theorem reachable_top {a : String} (h : Relation.ReflTransGen twice.Delegates "top" a) : a = "top" ∨ a = "base" := by
  induction h with
  | refl => exact .inl rfl
  | tail _ hd ih =>
    rcases ih with rfl | rfl
    · exact .inr (delegates_top hd)
    · exact absurd hd not_delegates_base

theorem twice_soundFrom : twice.SoundFrom "top" := by
  intro a h
  rcases reachable_top h with rfl | rfl
  · refine ⟨_, load_top, ?_, ?_, ?_, ?_, ?_⟩ <;> intro v hv <;> simp [topDefinition, Value.lookup?] at hv
    · exact ⟨_, hv.symm⟩
    · exact ⟨["base", "base"], hv.symm⟩
  · refine ⟨_, load_base, ?_, ?_, ?_, ?_, ?_⟩ <;> intro v hv <;> simp [baseDefinition, Value.lookup?] at hv
    exact ⟨_, hv.symm⟩

theorem twice_not_reachesCycle : ¬ twice.ReachesCycle "top" := by
  have hbase : ¬ twice.ReachesCycle "base" := not_reachesCycle_of_next fun b hb => absurd hb not_delegates_base
  exact not_reachesCycle_of_next fun b hb => delegates_top hb ▸ hbase

theorem twice_hides : ∃ r, twice.build (.text "top") = .ok r ∧
    r.resolve (.ofText "field" "a") = some (.const (.text "x")) ∧
    r.resolve (.ofText "field" "b") = some (.const (.text "z")) := by
  obtain ⟨r, hr, hfinds, hconst⟩ := build_means_definitions twice "top" twice_soundFrom twice_not_reachesCycle
  refine ⟨r, hr, ?_, ?_⟩
  · have hpath : "a" ∉ textsIn (fieldOr (.list []) topDefinition "paths") := by
      simp [topDefinition, fieldOr, Value.lookup?, textsIn]
    exact hconst topDefinition "field" "a" (.text "x") load_top rfl hpath rfl
  · have hbase : Finds twice (.ofText "field" "b") ["base"] (some (.const (.text "z"))) :=
      .cons load_base .nil .nil
    have htop : Finds twice (.ofText "field" "b") ["top"] (some (.const (.text "z"))) :=
      .cons load_top (.cons load_base .nil hbase) .nil
    exact (hfinds _ _).1 htop

end Stencil.Config
