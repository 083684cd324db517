import Stencil.Proofs.Path.Refusal
import Stencil.Proofs.Pipe.Selection

/-!
When paths and pipes over collections raise. Main statement: only for a numeral that no whole number is read from, as a
count, as a bound or as a position; other texts in these places give absence.
-/

namespace Stencil

open Outcome

variable {v : Value} {items : List Value} {path : String} {args : List String} {fault : Number.WholeFault} {err : Error}

namespace Pipe

theorem wholeArg_eq_error_iff (i : Nat) : wholeArg? (args.map .text) i = .error err ↔
    ∃ s fault, args[i]? = some s ∧ Number.readWhole s = .error fault ∧ err = .refused fault.refusal := by
  rw [wholeArg_texts]
  cases args[i]? with
  | none => simp
  | some s => simp [wholeOfText_eq_error_iff]

theorem wholeArg_eq_some_iff (i : Nat) (n : Int) : wholeArg? (args.map .text) i = .ok (some n) ↔
    ∃ s, args[i]? = some s ∧ Number.readWhole s = .ok (some n) := by
  rw [wholeArg_texts]
  cases args[i]? with
  | none => simp
  | some s =>
    simp only [wholeOfText?, Option.some.injEq, exists_eq_left']
    cases Number.readWhole s <;> simp

theorem wholeArg_of_readWhole {i : Nat} {s : String} {n : Option Int} (hs : args[i]? = some s)
    (hn : Number.readWhole s = .ok n) : wholeArg? (args.map .text) i = .ok n := by
  rw [wholeArg_texts, hs]
  dsimp only
  rw [wholeOfText?, hn]

theorem counted_eq_error_iff (f : Int → Run → Run) (args : List Value) (v : Value) :
    counted f args v = .error err ↔ wholeArg? args 0 = .error err := by
  rw [counted, bind_eq_error_iff, or_iff_left]
  rintro ⟨count, -, h⟩
  split at h <;> cases h

theorem counted_of_none (f : Int → Run → Run) {args : List Value} (h : wholeArg? args 0 = .ok none) (v : Value) :
    counted f args v = .ok .absent := by
  rw [counted, h, ok_bind]
  cases v.unwrap.run? <;> rfl

theorem slice_eq_error_iff (args : List Value) (v : Value) : slice args v = .error err ↔
    wholeArg? args 0 = .error err ∨
      (∃ run, v.unwrap.run? = some run) ∧ (∃ n, wholeArg? args 0 = .ok (some n)) ∧ wholeArg? args 1 = .error err := by
  rw [slice, bind_eq_error_iff]
  refine or_congr_right ⟨?_, ?_⟩
  · rintro ⟨start, hstart, h⟩
    split at h
    · next run n hrun =>
      dsimp only at h
      split at h
      · cases h
      · rw [bind_eq_error_iff] at h
        rcases h with h | ⟨stop, -, h⟩
        · exact ⟨⟨run, hrun⟩, ⟨n, hstart⟩, h⟩
        · cases stop <;> cases h
    · cases h
  · rintro ⟨⟨run, hrun⟩, ⟨n, hn⟩, h⟩
    -- A second argument that is missing is not read, so one that is refused is there.
    have hlength : ¬args.length ≤ 1 := by
      intro hle
      rw [wholeArg?, List.getElem?_eq_none hle] at h
      cases h
    exact ⟨some n, hn, by simp [hrun, hlength, h]⟩

theorem slice_of_none {args : List Value} (h : wholeArg? args 0 = .ok none) (v : Value) :
    slice args v = .ok .absent := by
  rw [slice, h, ok_bind]
  cases v.unwrap.run? <;> rfl

theorem slice_of_stop_none {args : List Value} {start : Option Int} (hstart : wholeArg? args 0 = .ok start)
    (hlength : 1 < args.length) (hstop : wholeArg? args 1 = .ok none) (v : Value) : slice args v = .ok .absent := by
  rw [slice, hstart, ok_bind]
  split
  · have hle : ¬args.length ≤ 1 := by omega
    simp [hle, hstop]
  · rfl

theorem size_ne_error (args : List Value) (v : Value) : size args v ≠ .error err := by
  intro h
  rw [size] at h
  split at h
  · cases h
  · cases h
  · cases h
  · split at h <;> cases h

theorem reversed_ne_error (args : List Value) (v : Value) : reversed args v ≠ .error err := by
  intro h
  rw [reversed] at h
  split at h <;> cases h

theorem project_eq_error_iff : project (.text path) items = .error err ↔
    ∃ front item back, items = front ++ item :: back ∧ (∀ u ∈ front, ∃ w, Path.navigate u path = .ok w) ∧
      Path.navigate item path = .error err := by
  induction items with
  | nil => simp [project]
  | cons item items ih =>
    have hrest (found : Value) : (do return found :: (← project (.text path) items)) = Except.error err ↔
        project (.text path) items = .error err := by
      rw [bind_eq_error_iff]
      simp
    have hitem : Path.navigateBy item (.text path) = Path.navigate item path := rfl
    rw [project, bind_eq_error_iff, hitem]
    simp only [hrest, ih]
    constructor
    · rintro (h | ⟨w, hw, front, u, back, rfl, hfront, hu⟩)
      · exact ⟨[], item, items, rfl, by simp, h⟩
      · exact ⟨item :: front, u, back, rfl, List.forall_mem_cons.2 ⟨⟨w, hw⟩, hfront⟩, hu⟩
    · rintro ⟨front, u, back, he, hfront, hu⟩
      cases front with
      | nil =>
        cases he
        exact .inl hu
      | cons first front =>
        obtain ⟨rfl, rfl⟩ := List.cons.inj he
        obtain ⟨⟨w, hw⟩, hfront⟩ := List.forall_mem_cons.1 hfront
        exact .inr ⟨w, hw, front, u, back, rfl, hfront, hu⟩

theorem map_eq_error_iff (args : List String) (v : Value) : map (args.map .text) v = .error err ↔
    ∃ items path, v.unwrap.sequence? = some items ∧ args[0]? = some path ∧
      project (.text path) items = .error err := by
  cases args with
  | nil =>
    rw [map]
    cases v.unwrap.sequence? <;> simp [fieldArg?]
  | cons path rest =>
    have hfield : fieldArg? ((path :: rest).map .text) = some (.text path) := rfl
    rw [map, hfield]
    cases v.unwrap.sequence? with
    | none => simp
    | some items => simp [bind_eq_error_iff]

end Pipe

inductive CollectionPipe where
  | size
  | first
  | last
  | reversed
  | slice
  | take
  | takeLast
  | map
deriving DecidableEq

namespace CollectionPipe

def standard : CollectionPipe → StandardPipe
  | .size => .size
  | .first => .first
  | .last => .last
  | .reversed => .reversed
  | .slice => .slice
  | .take => .take
  | .takeLast => .takeLast
  | .map => .map

/-- How many arguments are read as whole numbers. -/
def counts : CollectionPipe → Nat
  | .slice => 2
  | .take => 1
  | .takeLast => 1
  | _ => 0

def path? : CollectionPipe → List String → Option String
  | .map, args => args[0]?
  | _, _ => none

inductive Raises (p : CollectionPipe) (args : List String) (v : Value) : Error → Prop
  | count {s : String} {fault : Number.WholeFault} : v ≠ .absent → 0 < p.counts → args[0]? = some s →
      Number.readWhole s = .error fault → Raises p args v (.refused fault.refusal)
  | stop {run : Run} {start stop : String} {n : Int} {fault : Number.WholeFault} : v.unwrap.Carries run →
      1 < p.counts → args[0]? = some start → Number.readWhole start = .ok (some n) → args[1]? = some stop →
      Number.readWhole stop = .error fault → Raises p args v (.refused fault.refusal)
  | element {front back : List Value} {item : Value} {path : String} {fault : Number.WholeFault} :
      v.unwrap.Carries (.items (front ++ item :: back)) → p.path? args = some path →
      (∀ u ∈ front, ∃ w, Path.navigate u path = .ok w) → Path.Blocked item (Path.split path) fault →
      Raises p args v (.refused fault.refusal)

variable {p : CollectionPipe}

theorem not_raises (hcounts : p.counts = 0) (hpath : p.path? args = none) : ¬p.Raises args v err := by
  rintro (⟨-, hp, -⟩ | ⟨-, hp, -⟩ | ⟨-, hp, -⟩)
  · omega
  · omega
  · cases hpath.symm.trans hp

theorem raises_iff_count (hv : v ≠ .absent) (hcounts : p.counts = 1) (hpath : p.path? args = none) :
    p.Raises args v err ↔ Pipe.wholeArg? (args.map .text) 0 = .error err := by
  rw [Pipe.wholeArg_eq_error_iff]
  constructor
  · rintro (⟨-, -, hs, hfault⟩ | ⟨-, hp, -⟩ | ⟨-, hp, -⟩)
    · exact ⟨_, _, hs, hfault, rfl⟩
    · omega
    · cases hpath.symm.trans hp
  · rintro ⟨s, fault, hs, hfault, rfl⟩
    exact .count hv (by omega) hs hfault

theorem raises_slice_iff (hv : v ≠ .absent) :
    CollectionPipe.slice.Raises args v err ↔ Pipe.slice (args.map .text) v = .error err := by
  rw [Pipe.slice_eq_error_iff, Pipe.wholeArg_eq_error_iff, Pipe.wholeArg_eq_error_iff]
  simp only [Pipe.wholeArg_eq_some_iff, Value.run_eq_some_iff]
  constructor
  · rintro (⟨-, -, hs, hfault⟩ | ⟨hrun, -, hstart, hn, hstop, hfault⟩ | ⟨-, hp, -⟩)
    · exact .inl ⟨_, _, hs, hfault, rfl⟩
    · exact .inr ⟨⟨_, hrun⟩, ⟨_, _, hstart, hn⟩, _, _, hstop, hfault, rfl⟩
    · cases hp
  · rintro (⟨s, fault, hs, hfault, rfl⟩ | ⟨⟨run, hrun⟩, ⟨n, start, hstart, hn⟩, stop, fault, hstop, hfault, rfl⟩)
    · exact .count hv Nat.two_pos hs hfault
    · exact .stop hrun Nat.one_lt_two hstart hn hstop hfault

theorem raises_map_iff : CollectionPipe.map.Raises args v err ↔ Pipe.map (args.map .text) v = .error err := by
  rw [Pipe.map_eq_error_iff]
  simp only [Value.sequence_eq_some_iff, Pipe.project_eq_error_iff, Path.navigate_eq_error_iff]
  constructor
  · rintro (⟨-, hp, -⟩ | ⟨-, hp, -⟩ | ⟨hitems, hpath, hfront, hblocked⟩)
    · cases hp
    · cases hp
    · exact ⟨_, _, hitems, hpath, _, _, _, rfl, hfront, _, hblocked, rfl⟩
  · rintro ⟨items, path, hitems, hpath, front, item, back, rfl, hfront, fault, hblocked, rfl⟩
    exact .element hitems hpath hfront hblocked

theorem body_eq_error_iff (p : CollectionPipe) (args : List String) (hv : v ≠ .absent) :
    p.standard.body (args.map .text) v = .error err ↔ p.Raises args v err := by
  cases p with
  | size => exact iff_of_false (Pipe.size_ne_error (args.map .text) v) (not_raises rfl rfl)
  | first => exact iff_of_false nofun (not_raises rfl rfl)
  | last => exact iff_of_false nofun (not_raises rfl rfl)
  | reversed => exact iff_of_false (Pipe.reversed_ne_error (args.map .text) v) (not_raises rfl rfl)
  | slice => exact (raises_slice_iff hv).symm
  | take =>
    rw [raises_iff_count hv rfl rfl, standard, StandardPipe.body, Pipe.take_eq_counted, Pipe.counted_eq_error_iff]
  | takeLast =>
    rw [raises_iff_count hv rfl rfl, standard, StandardPipe.body, Pipe.takeLast_eq_counted, Pipe.counted_eq_error_iff]
  | map => exact raises_map_iff.symm

theorem run_eq_error_iff (p : CollectionPipe) (args : List String) (v : Value) :
    p.standard.run (args.map .text) v = .error err ↔ p.Raises args v err := by
  by_cases hv : v = .absent
  · subst hv
    refine iff_of_false nofun ?_
    rintro (⟨hv, -⟩ | ⟨hrun, -⟩ | ⟨hitems, -⟩)
    · exact hv rfl
    · cases hrun
    · cases hitems
  · have hrun : p.standard.run (args.map .text) v = p.standard.body (args.map .text) v := by
      cases v with
      | absent => exact absurd rfl hv
      | _ => rfl
    rw [hrun, body_eq_error_iff p args hv]

theorem mem_take_counts {i : Nat} {s : String} (hi : i < p.counts) (hs : args[i]? = some s) : s ∈ args.take p.counts :=
  List.mem_of_getElem? (by rw [List.getElem?_take_of_lt hi, hs])

theorem Raises.exists_unreadable (h : p.Raises args v err) :
    (∃ s ∈ args.take p.counts, Number.IsUnreadable s) ∨
      ∃ path, p.path? args = some path ∧ ∃ s ∈ Path.split path, Number.IsUnreadable s := by
  rcases h with ⟨-, hp, hs, hfault⟩ | ⟨-, hp, -, -, hs, hfault⟩ | ⟨-, hpath, -, hblocked⟩
  · exact .inl ⟨_, mem_take_counts hp hs, (Number.readWhole_error_iff _).1 ⟨_, hfault⟩⟩
  · exact .inl ⟨_, mem_take_counts hp hs, (Number.readWhole_error_iff _).1 ⟨_, hfault⟩⟩
  · exact .inr ⟨_, hpath, hblocked.exists_unreadable⟩

theorem body_of_none {i : Nat} {s : String} (hread : ∀ s ∈ args.take p.counts, ¬Number.IsUnreadable s)
    (hi : i < p.counts) (hs : args[i]? = some s) (hnone : Number.readWhole s = .ok none) (v : Value) :
    p.standard.body (args.map .text) v = .ok .absent := by
  have hwhole := Pipe.wholeArg_of_readWhole hs hnone
  have hfirst (hp : p.counts = 1) : Pipe.wholeArg? (args.map .text) 0 = .ok none := by
    obtain rfl : i = 0 := by omega
    exact hwhole
  cases p with
  | slice =>
    obtain rfl | rfl : i = 0 ∨ i = 1 := Nat.le_one_iff_eq_zero_or_eq_one.1 (Nat.le_of_lt_succ hi)
    · exact Pipe.slice_of_none hwhole v
    · obtain ⟨hlength, -⟩ := List.getElem?_eq_some_iff.1 hs
      have hstart : args[0]? = some args[0] := List.getElem?_eq_getElem (by omega)
      obtain ⟨n, hn⟩ := Number.exists_readWhole (hread _ (mem_take_counts (p := .slice) Nat.two_pos hstart))
      exact Pipe.slice_of_stop_none (Pipe.wholeArg_of_readWhole hstart hn) (by simpa using hlength) hwhole v
  | take => rw [standard, StandardPipe.body, Pipe.take_eq_counted, Pipe.counted_of_none _ (hfirst rfl)]
  | takeLast => rw [standard, StandardPipe.body, Pipe.takeLast_eq_counted, Pipe.counted_of_none _ (hfirst rfl)]
  | _ => cases hi

structure Outcomes (r : Registry) (p : CollectionPipe) (args : List String) (v : Value) : Prop where
  error_iff (err : Error) : r.apply p.standard.name (args.map .text) v = .error err ↔ p.Raises args v err
  readable : (∀ s ∈ args.take p.counts, ¬Number.IsUnreadable s) →
    (∀ path, p.path? args = some path → ∀ s ∈ Path.split path, ¬Number.IsUnreadable s) →
    ∃ w, r.apply p.standard.name (args.map .text) v = .ok w
  noCount (i : Nat) (s : String) : (∀ s ∈ args.take p.counts, ¬Number.IsUnreadable s) → i < p.counts →
    args[i]? = some s → Number.readWhole s = .ok none →
    r.apply p.standard.name (args.map .text) v = .ok .absent

theorem outcomes (r : Registry) (p : CollectionPipe) (args : List String) (v : Value) : p.Outcomes r args v where
  error_iff err := by rw [Registry.apply_of_find (Registry.find_standard r p.standard), run_eq_error_iff]
  readable hcounts hpath := by
    rw [Registry.apply_of_find (Registry.find_standard r p.standard)]
    refine exists_ok_of_ne_error fun err h => ?_
    rcases ((run_eq_error_iff p args v).1 h).exists_unreadable with ⟨s, hs, hno⟩ | ⟨path, hp, s, hs, hno⟩
    · exact hcounts s hs hno
    · exact hpath path hp s hs hno
  noCount i s hread hi hs hnone := by
    have hbody (w : Value) := body_of_none hread hi hs hnone w
    rw [r.apply_standard p.standard (args.map .text) (hbody .absent), hbody]

end CollectionPipe

/-- Paths and pipes over collections raise for a numeral that no whole number is read from, and for nothing else. -/
theorem Registry.raise_only_for_numerals (r : Registry) (v : Value) :
    (∀ path, Path.Outcomes v path) ∧ ∀ (p : CollectionPipe) args, p.Outcomes r args v :=
  ⟨Path.outcomes v, fun p args => p.outcomes r args v⟩

theorem Registry.raise_only_for_numerals_digits :
    let v : Value := .list [.tuple [.int 7]]
    let long := String.ofList (List.replicate 4301 '1')
    (∃ fault, empty.apply "take" [.text long] v = .error (.refused (Number.WholeFault.refusal fault))) ∧
      empty.apply "take" [.text "1x"] v = .ok .absent ∧
      Path.navigate v "\x1c0" = .error (.refused (.notWhole "\x1c0")) ∧
      Path.navigate v "0.9" = .ok .absent := by
  intro v long
  obtain ⟨hpath, hpipe⟩ := raise_only_for_numerals empty v
  have hlong : long.toList = List.replicate 4301 '1' := String.toList_ofList
  have hdigits : Number.Digits long.toList := by
    rw [hlong]
    intro c hc
    obtain ⟨-, rfl⟩ := List.mem_replicate.1 hc
    decide
  have hlength : Number.maxWholeDigits < long.toList.length := by
    rw [hlong, List.length_replicate]
    decide
  have hunreadable : Number.IsUnreadable long := Number.isUnreadable_of_digits hdigits hlength
  have hreadable : ∀ s ∈ ["1x"], ¬Number.IsUnreadable s := by
    rw [List.forall_mem_singleton, ← Number.readWhole_error_iff]
    rintro ⟨fault, hfault⟩
    cases hfault
  obtain ⟨fault, hfault⟩ := (Number.readWhole_error_iff long).2 hunreadable
  refine ⟨⟨fault, ?_⟩, ?_, ?_, ?_⟩
  · exact ((hpipe .take [long]).error_iff _).2 (.count nofun Nat.one_pos rfl hfault)
  · exact (hpipe .take ["1x"]).noCount 0 "1x" hreadable Nat.one_pos rfl rfl
  · exact ((hpath "\x1c0").error_iff _).2 ⟨.notWhole "\x1c0", ⟨v, _, _, .refl _ _, rfl, rfl⟩, rfl⟩
  · exact (hpath "0.9").noElement (.tuple [.int 7]) _ "9" [] (some 9) (.step rfl (.refl _ _)) rfl rfl rfl

end Stencil
