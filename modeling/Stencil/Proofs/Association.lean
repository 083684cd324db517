import Mathlib.Data.List.Basic
import Mathlib.Logic.Function.Basic
import Stencil.Assoc

/-!
Tables of entries. Main statements: setting entries one after the other leaves each key once, with its last value, and
commutes with renaming the keys apart.
-/

namespace Stencil.Assoc

variable {α β γ δ : Type} [DecidableEq α] [DecidableEq γ] {key : α} {value : β} {entries known : List (α × β)}

theorem lookup_put (key : α) (value : β) (entries : List (α × β)) (name : α) :
    (put key value entries).lookup name = if name = key then some value else entries.lookup name := by
  split
  · next h => rw [h, lookup_put_self]
  · next h => exact lookup_put_of_ne h value entries

theorem lookup_map (f : β → δ) (entries : List (α × β)) (name : α) :
    (entries.map (Prod.map id f)).lookup name = (entries.lookup name).map f := by
  induction entries with
  | nil => rfl
  | cons entry rest ih =>
    rw [List.map_cons, Prod.map, id, List.lookup_cons, List.lookup_cons, ih]
    cases name == entry.1 <;> rfl

theorem lookup_filter (f : α → Bool) (entries : List (α × β)) (name : α) :
    (entries.filter fun entry => f entry.1).lookup name = if f name then entries.lookup name else none := by
  induction entries with
  | nil => simp
  | cons entry rest ih =>
    obtain ⟨key, value⟩ := entry
    by_cases hn : name = key
    · subst hn
      by_cases hf : f name
      · simp [hf]
      · rw [List.filter_cons, if_neg hf, ih, if_neg hf, if_neg hf]
    · have hne : (name == key) = false := beq_eq_false_iff_ne.2 hn
      cases hf : f key <;> simp [hf, List.lookup_cons, hne, ih]

theorem mem_put (key : α) (value : β) (entries : List (α × β)) : (key, value) ∈ put key value entries := by
  obtain ⟨before, after, hsplit, -⟩ := List.lookup_eq_some_iff.1 (lookup_put_self key value entries)
  rw [hsplit]
  simp

theorem put_of_notMem (h : key ∉ entries.map Prod.fst) (value : β) :
    put key value entries = entries ++ [(key, value)] := by
  induction entries with
  | nil => rfl
  | cons entry rest ih =>
    obtain ⟨hne, hrest⟩ : key ≠ entry.1 ∧ key ∉ rest.map Prod.fst := by simpa using h
    rw [put, if_neg hne.symm, ih hrest, List.cons_append]

theorem keys_put_of_mem (h : key ∈ entries.map Prod.fst) (value : β) :
    (put key value entries).map Prod.fst = entries.map Prod.fst := by
  induction entries with
  | nil => cases h
  | cons entry rest ih =>
    rw [put]
    split
    · rfl
    · next hne =>
      have hrest : key ∈ rest.map Prod.fst := (List.mem_cons.1 h).resolve_left (Ne.symm hne)
      rw [List.map_cons, ih hrest, List.map_cons]

theorem nodup_put (h : (entries.map Prod.fst).Nodup) (key : α) (value : β) :
    ((put key value entries).map Prod.fst).Nodup := by
  by_cases hk : key ∈ entries.map Prod.fst
  · rw [keys_put_of_mem hk]
    exact h
  · rw [put_of_notMem hk, List.map_append, List.nodup_append]
    refine ⟨h, by simp, fun a ha b hb hab => hk ?_⟩
    obtain rfl : b = key := by simpa using hb
    exact hab ▸ ha

theorem map_put {f : α → γ} (hf : Function.Injective f) (g : β → δ) (key : α) (value : β) (entries : List (α × β)) :
    (put key value entries).map (Prod.map f g) = put (f key) (g value) (entries.map (Prod.map f g)) := by
  induction entries with
  | nil => rfl
  | cons entry rest ih =>
    obtain ⟨other, old⟩ := entry
    by_cases h : other = key
    · simp [put, h]
    · simp [put, h, hf.ne h, ih]

def putAll (known entries : List (α × β)) : List (α × β) :=
  entries.foldl (fun known (key, value) => put key value known) known

theorem putAll_cons (known : List (α × β)) (key : α) (value : β) (entries : List (α × β)) :
    putAll known ((key, value) :: entries) = putAll (put key value known) entries := rfl

theorem lookup_putAll (known entries : List (α × β)) (name : α) :
    (putAll known entries).lookup name = (entries.reverse.lookup name).or (known.lookup name) := by
  induction entries generalizing known with
  | nil => rfl
  | cons entry rest ih =>
    obtain ⟨key, value⟩ := entry
    rw [putAll_cons, ih, lookup_put, List.reverse_cons, List.lookup_append]
    by_cases h : name = key
    · simp [h]
    · have hne : (name == key) = false := beq_eq_false_iff_ne.2 h
      simp [h, hne, List.lookup_cons]

theorem nodup_putAll (h : (known.map Prod.fst).Nodup) (entries : List (α × β)) :
    ((putAll known entries).map Prod.fst).Nodup := by
  induction entries generalizing known with
  | nil => exact h
  | cons entry rest ih => exact ih (nodup_put h entry.1 entry.2)

theorem putAll_of_nodup (h : ((known ++ entries).map Prod.fst).Nodup) : putAll known entries = known ++ entries := by
  induction entries generalizing known with
  | nil => simp [putAll]
  | cons entry rest ih =>
    obtain ⟨key, value⟩ := entry
    have hk : key ∉ known.map Prod.fst := by
      rw [List.map_append, List.nodup_append] at h
      exact fun hm => h.2.2 key hm key (by simp) rfl
    rw [putAll_cons, put_of_notMem hk, ih]
    · simp
    · simpa using h

theorem ofList_of_nodup (h : (entries.map Prod.fst).Nodup) : ofList entries = entries := by
  have hall : putAll [] entries = [] ++ entries := putAll_of_nodup h
  exact hall

theorem nodup_ofList (entries : List (α × β)) : ((ofList entries).map Prod.fst).Nodup :=
  nodup_putAll (by simp) entries

theorem lookup_ofList (entries : List (α × β)) (name : α) :
    (ofList entries).lookup name = entries.reverse.lookup name := by
  have h := lookup_putAll [] entries name
  rw [List.lookup_nil, Option.or_none] at h
  exact h

theorem map_ofList {f : α → γ} (hf : Function.Injective f) (g : β → δ) (entries : List (α × β)) :
    (ofList entries).map (Prod.map f g) = ofList (entries.map (Prod.map f g)) := by
  have hall (known : List (α × β)) :
      (putAll known entries).map (Prod.map f g) = putAll (known.map (Prod.map f g)) (entries.map (Prod.map f g)) := by
    induction entries generalizing known with
    | nil => rfl
    | cons entry rest ih =>
      obtain ⟨key, value⟩ := entry
      rw [putAll_cons, ih, map_put hf]
      rfl
  exact hall []

theorem lookup_putAll_ofList (known entries : List (α × β)) (name : α) :
    (putAll known (ofList entries)).lookup name = (entries.reverse.lookup name).or (known.lookup name) := by
  have hsame := lookup_ofList (ofList entries) name
  rw [ofList_of_nodup (nodup_ofList entries), lookup_ofList] at hsame
  rw [lookup_putAll, hsame]

variable {P : α × β → Prop}

theorem forall_put (h : ∀ entry ∈ entries, P entry) (hnew : P (key, value)) :
    ∀ entry ∈ put key value entries, P entry := by
  induction entries with
  | nil => simpa [put] using hnew
  | cons old rest ih =>
    rw [List.forall_mem_cons] at h
    rw [put]
    split
    · next hkey => exact List.forall_mem_cons.2 ⟨hkey ▸ hnew, h.2⟩
    · exact List.forall_mem_cons.2 ⟨h.1, ih h.2⟩

theorem forall_putAll (hknown : ∀ entry ∈ known, P entry) (h : ∀ entry ∈ entries, P entry) :
    ∀ entry ∈ putAll known entries, P entry := by
  induction entries generalizing known with
  | nil => exact hknown
  | cons entry rest ih =>
    rw [List.forall_mem_cons] at h
    exact ih (forall_put hknown h.1) h.2

theorem forall_ofList (h : ∀ entry ∈ entries, P entry) : ∀ entry ∈ ofList entries, P entry :=
  forall_putAll (by simp) h

end Stencil.Assoc
