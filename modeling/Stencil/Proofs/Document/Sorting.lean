import Mathlib.Data.List.Forall2
import Mathlib.Data.List.Nodup
import Mathlib.Data.List.Perm.Subperm
import Mathlib.Data.String.Basic
import Stencil.Document.Write
import Stencil.Proofs.Outcome
import Stencil.Proofs.Value.Correspondence
import Stencil.Proofs.Value.Document
import Stencil.Value.Same

/-!
Documents with their entries in order. Main statements: sorting succeeds on every document; two documents that compare
equal have the same shape once they are sorted, and are then identical exactly when no two scalars at the same place
differ.
-/

namespace Stencil

open Outcome Value

namespace Document

variable {entry e f : Value × Value} {entries others es fs : List (Value × Value)} {v w v' w' : Value}
  {items items' : List Value}

def Precedes (e f : Value × Value) : Prop := ∃ s t, e.1 = .text s ∧ f.1 = .text t ∧ s < t

theorem Precedes.trans {g : Value × Value} (h : Precedes e f) (h' : Precedes f g) : Precedes e g := by
  obtain ⟨s, t, hs, ht, hst⟩ := h
  obtain ⟨t', u, ht', hu, htu⟩ := h'
  obtain rfl := Value.text.inj (ht ▸ ht')
  exact ⟨s, u, hs, hu, hst.trans htu⟩

theorem Precedes.key_ne (h : Precedes e f) : e.1 ≠ f.1 := by
  obtain ⟨s, t, hs, ht, hst⟩ := h
  rw [hs, ht]
  exact fun hst' => hst.ne (Value.text.inj hst')

theorem Precedes.asymm (h : Precedes e f) : ¬Precedes f e := fun h' => (h.trans h').key_ne rfl

def HasTextKeys (entries : List (Value × Value)) : Prop := ∀ entry ∈ entries, ∃ s, entry.1 = .text s

theorem exists_insertEntry (hkey : ∃ s, entry.1 = .text s) (hkeys : HasTextKeys entries) :
    ∃ out, insertEntry entry entries = some out ∧ out.Perm (entry :: entries) := by
  induction entries with
  | nil => exact ⟨[entry], rfl, .refl _⟩
  | cons other rest ih =>
    obtain ⟨s, hs⟩ := hkey
    obtain ⟨t, ht⟩ := hkeys other List.mem_cons_self
    obtain ⟨out, hout, hperm⟩ := ih fun e he => hkeys e (List.mem_cons_of_mem _ he)
    by_cases hlt : t < s
    · refine ⟨other :: out, ?_, (hperm.cons other).trans (.swap entry other rest)⟩
      simp [insertEntry, hs, ht, keyBelow?, hlt, hout]
    · exact ⟨entry :: other :: rest, by simp [insertEntry, hs, ht, keyBelow?, hlt], .refl _⟩

theorem pairwise_insertEntry {out : List (Value × Value)} (hkey : ∃ s, entry.1 = .text s) (hkeys : HasTextKeys entries)
    (hnew : entry.1 ∉ entries.map Prod.fst) (hp : entries.Pairwise Precedes)
    (hout : insertEntry entry entries = some out) : out.Pairwise Precedes := by
  induction entries generalizing out with
  | nil =>
    obtain rfl : [entry] = out := Option.some.inj hout
    exact List.pairwise_singleton _ _
  | cons other rest ih =>
    obtain ⟨s, hs⟩ := hkey
    obtain ⟨t, ht⟩ := hkeys other List.mem_cons_self
    have hrest : HasTextKeys rest := fun e he => hkeys e (List.mem_cons_of_mem _ he)
    obtain ⟨hother, hnew'⟩ : entry.1 ≠ other.1 ∧ entry.1 ∉ rest.map Prod.fst := by simpa using hnew
    obtain ⟨hfirst, hp'⟩ := List.pairwise_cons.1 hp
    by_cases hlt : t < s
    · obtain ⟨inner, hinner, hperm⟩ := exists_insertEntry ⟨s, hs⟩ hrest
      obtain rfl : other :: inner = out := by simpa [insertEntry, hs, ht, keyBelow?, hlt, hinner] using hout
      refine List.pairwise_cons.2 ⟨fun e he => ?_, ih hrest hnew' hp' hinner⟩
      rcases List.mem_cons.1 (hperm.mem_iff.1 he) with rfl | he
      · exact ⟨t, s, ht, hs, hlt⟩
      · exact hfirst e he
    · obtain rfl : entry :: other :: rest = out := by simpa [insertEntry, hs, ht, keyBelow?, hlt] using hout
      have hst : s < t := lt_of_le_of_ne (not_lt.1 hlt) fun hst => hother (by rw [hs, ht, hst])
      have hhead : Precedes entry other := ⟨s, t, hs, ht, hst⟩
      refine List.pairwise_cons.2 ⟨fun e he => ?_, hp⟩
      rcases List.mem_cons.1 he with rfl | he
      · exact hhead
      · exact hhead.trans (hfirst e he)

theorem sortEntries_cons (entry : Value × Value) (rest : List (Value × Value)) :
    sortEntries (entry :: rest) = sortEntries rest >>= insertEntry entry := by
  cases rest <;> rfl

/-- Text keys have an order, and where each stands once nothing of the order they came in is left. -/
theorem exists_sortEntries (hkeys : HasTextKeys entries) (hnodup : (entries.map Prod.fst).Nodup) :
    ∃ out, sortEntries entries = some out ∧ out.Perm entries ∧ out.Pairwise Precedes := by
  induction entries with
  | nil => exact ⟨[], rfl, .refl _, .nil⟩
  | cons entry rest ih =>
    obtain ⟨hnew, hnodup'⟩ := List.nodup_cons.1 hnodup
    have hkey := hkeys entry List.mem_cons_self
    obtain ⟨sorted, hsorted, hperm, hp⟩ := ih (fun e he => hkeys e (List.mem_cons_of_mem _ he)) hnodup'
    have htexts : HasTextKeys sorted := fun e he => hkeys e (List.mem_cons_of_mem _ (hperm.mem_iff.1 he))
    obtain ⟨out, hout, hperm'⟩ := exists_insertEntry hkey htexts
    have hnew' : entry.1 ∉ sorted.map Prod.fst := fun h => hnew ((hperm.map Prod.fst).mem_iff.1 h)
    refine ⟨out, ?_, hperm'.trans (hperm.cons entry), pairwise_insertEntry hkey htexts hnew' hp hout⟩
    rw [sortEntries_cons, hsorted]
    exact hout

theorem keys_eq_of_pairwise (he : es.Pairwise Precedes) (hf : fs.Pairwise Precedes)
    (hkeys : (es.map Prod.fst).Perm (fs.map Prod.fst)) : es.map Prod.fst = fs.map Prod.fst := by
  have hlift : ∀ {l : List (Value × Value)}, l.Pairwise Precedes →
      (l.map Prod.fst).Pairwise fun k l => Precedes (k, .absent) (l, .absent) :=
    fun h => List.pairwise_map.2 h
  exact hkeys.eq_of_pairwise (fun _ _ _ _ h h' => absurd h' h.asymm) (hlift he) (hlift hf)

theorem nodup_keys_of_pairwise (h : es.Pairwise Precedes) : (es.map Prod.fst).Nodup :=
  List.pairwise_map.2 (h.imp Precedes.key_ne)

theorem sorted_of_isLeaf (hd : v.IsDocument) (hl : v.isLeaf) : sorted v = .ok v := by
  cases hd with
  | list => cases hl
  | map => cases hl
  | _ => rfl

theorem sortedItems_eq_ok_iff :
    sortedItems items = .ok items' ↔ List.Forall₂ (fun v v' => sorted v = .ok v') items items' := by
  induction items generalizing items' with
  | nil => simp [sortedItems, eq_comm]
  | cons v rest ih =>
    rw [sortedItems, List.forall₂_cons_left_iff, bind_eq_ok_iff]
    simp only [bind_eq_ok_iff, pure_eq_ok, Except.ok.injEq, ih]
    grind

structure Carries (entries es : List (Value × Value)) : Prop where
  keys : (es.map Prod.fst).Perm (entries.map Prod.fst)
  source : ∀ {k v'}, (k, v') ∈ es → ∃ v, (k, v) ∈ entries ∧ sorted v = .ok v'
  target : ∀ {k v}, (k, v) ∈ entries → ∃ v', (k, v') ∈ es ∧ sorted v = .ok v'

theorem Carries.perm (h : Carries entries es) (hp : fs.Perm es) : Carries entries fs where
  keys := (hp.map Prod.fst).trans h.keys
  source he := h.source (hp.mem_iff.1 he)
  target he := by
    obtain ⟨v', hv', hs⟩ := h.target he
    exact ⟨v', hp.mem_iff.2 hv', hs⟩

theorem Carries.hasTextKeys (h : Carries entries es) (hkeys : HasTextKeys entries) : HasTextKeys es := by
  intro e he
  obtain ⟨k, v'⟩ := e
  obtain ⟨v, hv, -⟩ := h.source he
  exact hkeys (k, v) hv

theorem carries_sortedEntries (h : sortedEntries entries = .ok es) : Carries entries es := by
  induction entries generalizing es with
  | nil =>
    obtain rfl : [] = es := Except.ok.inj h
    exact ⟨.refl _, fun h => (nomatch h), fun h => (nomatch h)⟩
  | cons entry rest ih =>
    obtain ⟨k, v⟩ := entry
    obtain ⟨v', hv', hrest⟩ := bind_eq_ok_iff.1 h
    obtain ⟨es', hes', heq⟩ := bind_eq_ok_iff.1 hrest
    obtain rfl : (k, v') :: es' = es := Except.ok.inj heq
    have hc := ih hes'
    refine ⟨hc.keys.cons k, fun he => ?_, fun he => ?_⟩
    · rcases List.mem_cons.1 he with he | he
      · cases he
        exact ⟨v, List.mem_cons_self, hv'⟩
      · obtain ⟨w, hw, hs⟩ := hc.source he
        exact ⟨w, List.mem_cons_of_mem _ hw, hs⟩
    · rcases List.mem_cons.1 he with he | he
      · cases he
        exact ⟨v', List.mem_cons_self, hv'⟩
      · obtain ⟨w, hw, hs⟩ := hc.target he
        exact ⟨w, List.mem_cons_of_mem _ hw, hs⟩

theorem exists_sortedEntries (h : ∀ e ∈ entries, ∃ v', sorted e.2 = .ok v') : ∃ es, sortedEntries entries = .ok es := by
  induction entries with
  | nil => exact ⟨[], rfl⟩
  | cons entry rest ih =>
    obtain ⟨v', hv'⟩ := h entry List.mem_cons_self
    obtain ⟨es, hes⟩ := ih fun e he => h e (List.mem_cons_of_mem _ he)
    exact ⟨(entry.1, v') :: es, by simp [sortedEntries, hv', hes]⟩

theorem exists_sortedItems (h : ∀ v ∈ items, ∃ v', sorted v = .ok v') : ∃ items', sortedItems items = .ok items' := by
  induction items with
  | nil => exact ⟨[], rfl⟩
  | cons v rest ih =>
    obtain ⟨v', hv'⟩ := h v List.mem_cons_self
    obtain ⟨items', hitems'⟩ := ih fun v hv => h v (List.mem_cons_of_mem _ hv)
    exact ⟨v' :: items', by simp [sortedItems, hv', hitems']⟩

theorem sorted_list (h : sorted (.list items) = .ok w) :
    ∃ items', w = .list items' ∧ List.Forall₂ (fun v v' => sorted v = .ok v') items items' := by
  obtain ⟨items', hitems, hw⟩ := bind_eq_ok_iff.1 h
  exact ⟨items', (Except.ok.inj hw).symm, sortedItems_eq_ok_iff.1 hitems⟩

theorem sorted_map (hkeys : HasTextKeys entries) (hnodup : (entries.map Prod.fst).Nodup)
    (h : sorted (.map entries) = .ok w) : ∃ es, w = .map es ∧ Carries entries es ∧ es.Pairwise Precedes := by
  obtain ⟨fs, hfs, hw⟩ := bind_eq_ok_iff.1 h
  have hc := carries_sortedEntries hfs
  obtain ⟨es, hes, hperm, hp⟩ := exists_sortEntries (hc.hasTextKeys hkeys) (hc.keys.nodup_iff.2 hnodup)
  rw [hes] at hw
  exact ⟨es, (Except.ok.inj hw).symm, hc.perm hperm, hp⟩

theorem exists_sorted (hd : v.IsDocument) (hk : v.HasDistinctKeys) : ∃ v', sorted v = .ok v' := by
  induction hd with
  | list _ ih =>
    obtain ⟨items', hitems⟩ := exists_sortedItems fun v hv => ih v hv (hk.of_list v hv)
    exact ⟨.list items', by simp [sorted, hitems]⟩
  | map hkeys _ ih =>
    obtain ⟨hnodup, hvalues⟩ := hk.of_map
    obtain ⟨fs, hfs⟩ := exists_sortedEntries fun e he => ih e he (hvalues e he)
    have hc := carries_sortedEntries hfs
    obtain ⟨es, hes, -⟩ := exists_sortEntries (hc.hasTextKeys hkeys) (hc.keys.nodup_iff.2 hnodup)
    exact ⟨.map es, by simp [sorted, hfs, hes]⟩
  | _ => exact ⟨_, rfl⟩

/-- Scalars that differ stand at the same place of two documents. -/
inductive Clashes : Value → Value → Prop
  | scalar {v w : Value} : v.isLeaf → w.isLeaf → v ≠ w → Clashes v w
  | item {items others : List Value} {v w : Value} (i : Nat) : items[i]? = some v → others[i]? = some w →
      Clashes v w → Clashes (.list items) (.list others)
  | entry {entries others : List (Value × Value)} {v w : Value} (k : Value) : (k, v) ∈ entries → (k, w) ∈ others →
      Clashes v w → Clashes (.map entries) (.map others)

theorem clashes_scalar_iff (hl : v.isLeaf) (hl' : w.isLeaf) : Clashes v w ↔ v ≠ w := by
  refine ⟨fun h => ?_, .scalar hl hl'⟩
  cases h with
  | scalar _ _ hne => exact hne
  | item => cases hl
  | entry => cases hl

theorem clashes_map_iff :
    Clashes (.map entries) (.map others) ↔ ∃ k v w, (k, v) ∈ entries ∧ (k, w) ∈ others ∧ Clashes v w := by
  constructor
  · rintro (_ | _ | ⟨k, hv, hw, hvw⟩)
    · contradiction
    · exact ⟨k, _, _, hv, hw, hvw⟩
  · rintro ⟨k, v, w, hv, hw, hvw⟩
    exact .entry k hv hw hvw

/-- Two documents of one shape, with scalars that compare equal and with their keys in the same order. -/
inductive Aligned : Value → Value → Prop
  | scalar {v w : Value} : v.IsDocument → w.IsDocument → v.isLeaf → w.isLeaf → same v w = true → Aligned v w
  | list {items others : List Value} : items.length = others.length →
      (∀ (i : Nat) v w, items[i]? = some v → others[i]? = some w → Aligned v w) → Aligned (.list items) (.list others)
  | map {entries others : List (Value × Value)} : HasTextKeys entries → entries.map Prod.fst = others.map Prod.fst →
      (∀ k v w, (k, v) ∈ entries → (k, w) ∈ others → Aligned v w) → Aligned (.map entries) (.map others)

theorem isLeaf_of_same (hd : v.IsDocument) (hd' : w.IsDocument) (h : same v w = true) (hl : v.isLeaf) : w.isLeaf := by
  cases hd with
  | list => cases hl
  | map => cases hl
  | _ => cases hd' <;> simp_all [same, sameNumber, whole?, isLeaf]

theorem exists_of_same_list (h : same (.list items) w = true) :
    ∃ others, w = .list others ∧ List.Forall₂ (fun v w => same v w = true) items others := by
  cases w with
  | list others =>
    refine ⟨others, rfl, ?_⟩
    rw [same] at h
    induction items generalizing others with
    | nil => cases others <;> simp_all [sameItems]
    | cons v rest ih => cases others <;> simp_all [sameItems]
  | _ => simp [same] at h

theorem exists_of_sameEntries (h : sameEntries entries others = true) (he : e ∈ entries) :
    ∃ f ∈ others, same e.1 f.1 = true ∧ same e.2 f.2 = true := by
  induction entries with
  | nil => cases he
  | cons entry rest ih =>
    obtain ⟨hfirst, hrest⟩ := Bool.and_eq_true_iff.1 (by rwa [sameEntries] at h)
    rcases List.mem_cons.1 he with rfl | he
    · obtain ⟨f, hf, hsame⟩ := List.any_eq_true.1 hfirst
      exact ⟨f, hf, Bool.and_eq_true_iff.1 hsame⟩
    · exact ih hrest he

theorem eq_of_same_text {s : String} {k : Value} (h : same (.text s) k = true) : k = .text s := by
  cases k <;> simp_all [same]

theorem exists_of_same_map (hkeys : HasTextKeys entries) (hnodup : (entries.map Prod.fst).Nodup)
    (h : same (.map entries) w = true) : ∃ others, w = .map others ∧ (entries.map Prod.fst).Perm (others.map Prod.fst) ∧
      ∀ k v, (k, v) ∈ entries → ∃ w, (k, w) ∈ others ∧ same v w = true := by
  cases w with
  | map others =>
    rw [same, Bool.and_eq_true, beq_iff_eq] at h
    have hfound : ∀ k v, (k, v) ∈ entries → ∃ w, (k, w) ∈ others ∧ same v w = true := by
      intro k v hv
      obtain ⟨⟨l, w⟩, hw, hk, hs⟩ := exists_of_sameEntries h.2 hv
      obtain ⟨s, rfl⟩ : ∃ s, k = .text s := hkeys _ hv
      obtain rfl : l = .text s := eq_of_same_text hk
      exact ⟨w, hw, hs⟩
    refine ⟨others, rfl, ?_, hfound⟩
    have hsub : entries.map Prod.fst ⊆ others.map Prod.fst := by
      intro k hk
      obtain ⟨⟨_, v⟩, hv, rfl⟩ := List.mem_map.1 hk
      obtain ⟨w, hw, -⟩ := hfound _ v hv
      exact List.mem_map.2 ⟨_, hw, rfl⟩
    exact (List.subperm_of_subset hnodup hsub).perm_of_length_le (by simp [h.1])
  | _ => simp [same] at h

theorem value_unique (h : (entries.map Prod.fst).Nodup) {k : Value} (hv : (k, v) ∈ entries) (hw : (k, w) ∈ entries) :
    v = w :=
  congrArg Prod.snd (List.inj_on_of_nodup_map h hv hw rfl)

theorem entries_eq_of_keys_eq (hkeys : entries.map Prod.fst = others.map Prod.fst)
    (h : ∀ k v w, (k, v) ∈ entries → (k, w) ∈ others → v = w) : entries = others := by
  induction entries generalizing others with
  | nil => exact (List.map_eq_nil_iff.1 hkeys.symm).symm
  | cons e rest ih =>
    obtain ⟨f, others', rfl, hf, hrest⟩ := List.map_eq_cons_iff.1 hkeys.symm
    have hhead : e = f := Prod.ext hf.symm (h e.1 e.2 f.2 List.mem_cons_self (hf ▸ List.mem_cons_self))
    rw [hhead, ih hrest.symm fun k v w hv hw => h k v w (List.mem_cons_of_mem _ hv) (List.mem_cons_of_mem _ hw)]

def Settles (v w : Value) : Prop :=
  ∀ v' w', sorted v = .ok v' → sorted w = .ok w' → Aligned v' w' ∧ (v' = w' ↔ ¬Clashes v w)

theorem settles_of_isLeaf (hd : v.IsDocument) (hd' : w.IsDocument) (h : same v w = true) (hl : v.isLeaf) :
    Settles v w := by
  intro v' w' hv hw
  have hl' := isLeaf_of_same hd hd' h hl
  obtain rfl : v = v' := Except.ok.inj ((sorted_of_isLeaf hd hl).symm.trans hv)
  obtain rfl : w = w' := Except.ok.inj ((sorted_of_isLeaf hd' hl').symm.trans hw)
  exact ⟨.scalar hd hd' hl hl' h, by rw [clashes_scalar_iff hl hl', not_not]⟩

theorem exists_getElem_of_forall₂ {R : Value → Value → Prop} (h : List.Forall₂ R items items') {i : Nat}
    (hv : items[i]? = some v) : ∃ v', items'[i]? = some v' ∧ R v v' := by
  have hi := forall₂_getElem h i
  rw [hv] at hi
  cases hf : items'[i]? with
  | none => rw [hf] at hi; cases hi
  | some v' =>
    rw [hf] at hi
    cases hi with
    | some hr => exact ⟨v', rfl, hr⟩

theorem settles_list {others : List Value} (hlen : items.length = others.length)
    (h : ∀ (i : Nat) v w, items[i]? = some v → others[i]? = some w → Settles v w) :
    Settles (.list items) (.list others) := by
  intro v' w' hv hw
  obtain ⟨items', rfl, hi⟩ := sorted_list hv
  obtain ⟨others', rfl, ho⟩ := sorted_list hw
  have hlen' : items'.length = others'.length := by rw [← hi.length_eq, ← ho.length_eq, hlen]
  have hplace : ∀ (i : Nat) v w, items[i]? = some v → others[i]? = some w → ∃ v' w', items'[i]? = some v' ∧
      others'[i]? = some w' ∧ Aligned v' w' ∧ (v' = w' ↔ ¬Clashes v w) := by
    intro i v w hv hw
    obtain ⟨v', hv', hs⟩ := exists_getElem_of_forall₂ hi hv
    obtain ⟨w', hw', ht⟩ := exists_getElem_of_forall₂ ho hw
    exact ⟨v', w', hv', hw', h i v w hv hw v' w' hs ht⟩
  have hback : ∀ i : Nat, i < items'.length → ∃ v w, items[i]? = some v ∧ others[i]? = some w := by
    intro i hlt
    have h1 : i < items.length := hi.length_eq ▸ hlt
    have h2 : i < others.length := hlen ▸ h1
    exact ⟨items[i], others[i], List.getElem?_eq_getElem h1, List.getElem?_eq_getElem h2⟩
  refine ⟨.list hlen' fun i v' w' hv' hw' => ?_, fun heq hc => ?_, fun hno => ?_⟩
  · obtain ⟨v, w, hv, hw⟩ := hback i (List.getElem?_eq_some_iff.1 hv').1
    obtain ⟨v'', w'', hv'', hw'', ha, -⟩ := hplace i v w hv hw
    obtain rfl := Option.some.inj (hv'.symm.trans hv'')
    obtain rfl := Option.some.inj (hw'.symm.trans hw'')
    exact ha
  · cases hc with
    | scalar hl => cases hl
    | item i hv hw hc =>
      obtain ⟨v', w', hv', hw', -, hiff⟩ := hplace i _ _ hv hw
      rw [Value.list.inj heq, hw'] at hv'
      exact hiff.1 (Option.some.inj hv').symm hc
  · refine congrArg Value.list (List.ext_getElem hlen' fun i h1 h2 => ?_)
    obtain ⟨v, w, hv, hw⟩ := hback i h1
    obtain ⟨v', w', hv', hw', -, hiff⟩ := hplace i v w hv hw
    have heq : v' = w' := hiff.2 fun hc => hno (.item i hv hw hc)
    rw [List.getElem?_eq_getElem h1] at hv'
    rw [List.getElem?_eq_getElem h2] at hw'
    exact (Option.some.inj hv').trans (heq.trans (Option.some.inj hw').symm)

theorem settles_map (hkeys : HasTextKeys entries) (hkeys' : HasTextKeys others)
    (hnodup : (entries.map Prod.fst).Nodup) (hnodup' : (others.map Prod.fst).Nodup)
    (hperm : (entries.map Prod.fst).Perm (others.map Prod.fst))
    (h : ∀ k v w, (k, v) ∈ entries → (k, w) ∈ others → Settles v w) : Settles (.map entries) (.map others) := by
  intro v' w' hv hw
  obtain ⟨es, rfl, hc, hp⟩ := sorted_map hkeys hnodup hv
  obtain ⟨fs, rfl, hc', hp'⟩ := sorted_map hkeys' hnodup' hw
  have hsame : es.map Prod.fst = fs.map Prod.fst :=
    keys_eq_of_pairwise hp hp' (hc.keys.trans (hperm.trans hc'.keys.symm))
  have hplace : ∀ k v' w', (k, v') ∈ es → (k, w') ∈ fs → ∃ v w, (k, v) ∈ entries ∧ (k, w) ∈ others ∧
      Aligned v' w' ∧ (v' = w' ↔ ¬Clashes v w) := by
    intro k v' w' hv' hw'
    obtain ⟨v, hv, hs⟩ := hc.source hv'
    obtain ⟨w, hw, ht⟩ := hc'.source hw'
    exact ⟨v, w, hv, hw, h k v w hv hw v' w' hs ht⟩
  refine ⟨.map (hc.hasTextKeys hkeys) hsame fun k v' w' hv' hw' => ?_, fun heq hclash => ?_, fun hno => ?_⟩
  · obtain ⟨v, w, -, -, ha, -⟩ := hplace k v' w' hv' hw'
    exact ha
  · obtain ⟨k, v, w, hv, hw, hvw⟩ := clashes_map_iff.1 hclash
    obtain ⟨v', hv', hs⟩ := hc.target hv
    obtain ⟨w', hw', ht⟩ := hc'.target hw
    rw [Value.map.inj heq] at hv'
    have heq' := value_unique (nodup_keys_of_pairwise hp') hv' hw'
    exact (h k v w hv hw v' w' hs ht).2.1 heq' hvw
  · refine congrArg Value.map (entries_eq_of_keys_eq hsame fun k v' w' hv' hw' => ?_)
    obtain ⟨v, w, hv, hw, -, hiff⟩ := hplace k v' w' hv' hw'
    exact hiff.2 fun hclash => hno (.entry k hv hw hclash)

theorem settles_of_same (hd : v.IsDocument) (hd' : w.IsDocument) (hk : v.HasDistinctKeys) (hk' : w.HasDistinctKeys)
    (h : same v w = true) : Settles v w := by
  induction hd generalizing w with
  | list hitems ih =>
    obtain ⟨others, rfl, hsame⟩ := exists_of_same_list h
    refine settles_list hsame.length_eq fun i v w hv hw => ?_
    have hmem := List.mem_of_getElem? hv
    have hmem' := List.mem_of_getElem? hw
    obtain ⟨w', hw', hvw⟩ := exists_getElem_of_forall₂ hsame hv
    obtain rfl := Option.some.inj (hw.symm.trans hw')
    exact ih v hmem (hd'.of_list w hmem') (hk.of_list v hmem) (hk'.of_list w hmem') hvw
  | map hkeys _ ih =>
    obtain ⟨hnodup, hvalues⟩ := hk.of_map
    obtain ⟨others, rfl, hperm, hfound⟩ := exists_of_same_map hkeys hnodup h
    obtain ⟨hnodup', hvalues'⟩ := hk'.of_map
    refine settles_map hkeys (fun e he => (hd'.of_map e he).1) hnodup hnodup' hperm fun k v w hv hw => ?_
    obtain ⟨w', hw', hvw⟩ := hfound k v hv
    obtain rfl := value_unique hnodup' hw hw'
    exact ih _ hv (hd'.of_map _ hw).2 (hvalues _ hv) (hvalues' _ hw) hvw
  | absent => exact settles_of_isLeaf .absent hd' h rfl
  | bool b => exact settles_of_isLeaf (.bool b) hd' h rfl
  | int n => exact settles_of_isLeaf (.int n) hd' h rfl
  | float x => exact settles_of_isLeaf (.float x) hd' h rfl
  | text s => exact settles_of_isLeaf (.text s) hd' h rfl

end Document

end Stencil
