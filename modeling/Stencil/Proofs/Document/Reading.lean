import Mathlib.Logic.Basic
import Stencil.Document.Read
import Stencil.Proofs.Outcome
import Stencil.Proofs.Value.Document

/-!
What reading gives is a document, and no map in it has a key twice. The three readers call one another, so the main
induction is on their fuel, for all three at once and for any property that building a value keeps.
-/

namespace Stencil.Document

open Value (IsDocument HasDistinctKeys)

variable {P : Value → Prop}

/-- A property of words, numbers and texts that passes to lists, and to maps with each entry that is set. -/
structure Kept (P : Value → Prop) : Prop where
  absent : P .absent
  bool (b : Bool) : P (.bool b)
  int (n : Int) : P (.int n)
  float (x : Float) : P (.float x)
  text (s : String) : P (.text s)
  list (items : List Value) : (∀ v ∈ items, P v) → P (.list items)
  noEntries : P (.map [])
  entry (entries : List (Value × Value)) (name : String) (v : Value) :
    P (.map entries) → P v → P (.map (setEntry entries name v))

def Gives (P : Value → Prop) (reading : Except Stop (Value × Cursor)) : Prop :=
  ∀ v c, reading = .ok (v, c) → P v

theorem gives_ok {v : Value} {c : Cursor} : Gives P (.ok (v, c)) ↔ P v :=
  ⟨fun h => h v c rfl, fun h _ _ he => by cases he; exact h⟩

theorem gives_error {stop : Stop} : Gives P (.error stop) := by
  intro v c h
  cases h

theorem gives_fail {cause : DocumentFault} {position : Nat} : Gives P (fail cause position) := gives_error

theorem Gives.bind {α : Type} {first : Except Stop α} {next : α → Except Stop (Value × Cursor)}
    (h : ∀ a, first = .ok a → Gives P (next a)) : Gives P (first >>= next) := by
  cases first with
  | ok a => exact h a rfl
  | error stop => exact gives_error

theorem Kept.readWord (hP : Kept P) {c : Cursor} {reading : Except Stop (Value × Cursor)}
    (h : readWord? c = some reading) : Gives P reading := by
  obtain ⟨⟨word, value⟩, hf, rfl⟩ := Option.map_eq_some_iff.1 h
  rw [gives_ok]
  have hw : (word, value) ∈ words := List.mem_of_find?_eq_some hf
  simp only [words, List.mem_cons, Prod.mk.injEq, List.not_mem_nil, or_false] at hw
  rcases hw with ⟨-, rfl⟩ | ⟨-, rfl⟩ | ⟨-, rfl⟩ | ⟨-, rfl⟩ | ⟨-, rfl⟩ | ⟨-, rfl⟩
  · exact hP.absent
  · exact hP.bool true
  · exact hP.bool false
  all_goals exact hP.float _

theorem Kept.readNumber (hP : Kept P) {c : Cursor} {reading : Except Stop (Value × Cursor)}
    (h : readNumber? c = some reading) : Gives P reading := by
  unfold readNumber? at h
  split at h
  dsimp only at h
  obtain ⟨-, h⟩ := Option.ite_none_left_eq_some.1 h
  rcases ite_eq_iff.1 h with ⟨-, h⟩ | ⟨-, h⟩
  · rcases ite_eq_iff.1 h with ⟨-, h⟩ | ⟨-, h⟩
    · obtain rfl := Option.some.inj h
      exact gives_error
    · obtain rfl := Option.some.inj h
      exact gives_ok.2 (hP.int _)
  · obtain rfl := Option.some.inj h
    exact gives_ok.2 (hP.float _)

theorem Kept.readers (hP : Kept P) (fuel : Nat) :
    (∀ c, Gives P (readValue fuel c)) ∧
      (∀ c seen, P (.map seen) → Gives P (readEntries fuel c seen)) ∧
      (∀ c seen, (∀ v ∈ seen, P v) → Gives P (readItems fuel c seen)) := by
  induction fuel with
  | zero =>
    refine ⟨fun c => ?_, fun c seen _ => ?_, fun c seen _ => ?_⟩
    · rw [readValue]
      exact gives_fail
    · rw [readEntries]
      exact gives_fail
    · rw [readItems]
      exact gives_fail
  | succ fuel ih =>
    obtain ⟨hvalue, hentries, hitems⟩ := ih
    refine ⟨fun c => ?_, fun c seen hseen => ?_, fun c seen hseen => ?_⟩
    · rw [readValue]
      split
      · exact .bind fun _ _ => gives_ok.2 (hP.text _)
      · dsimp only
        split
        · exact gives_ok.2 hP.noEntries
        · exact hentries _ _ hP.noEntries
      · dsimp only
        split
        · exact gives_ok.2 (hP.list [] (by simp))
        · exact hitems _ _ (by simp)
      · split
        · next reading hr => exact hP.readWord hr
        · split
          · next reading hr => exact hP.readNumber hr
          · exact gives_fail
    · rw [readEntries]
      split
      · refine .bind fun name _ => ?_
        dsimp only
        split
        · refine .bind fun value hv => ?_
          have hset := hP.entry seen name.1 value.1 hseen (hvalue _ _ _ hv)
          split
          · exact gives_ok.2 hset
          · exact hentries _ _ hset
          · exact gives_fail
        · exact gives_fail
      · exact gives_fail
    · rw [readItems]
      refine .bind fun value hv => ?_
      have hcons : ∀ v ∈ value.1 :: seen, P v := List.forall_mem_cons.2 ⟨hvalue _ _ _ hv, hseen⟩
      dsimp only
      split
      · exact gives_ok.2 (hP.list _ fun v h => hcons v (List.mem_reverse.1 h))
      · exact hitems _ _ hcons
      · exact gives_fail

theorem Kept.read (hP : Kept P) {text : String} {v : Value} (h : read text = .ok v) : P v := by
  rw [Document.read] at h
  split at h
  · next value hr =>
    cases h
    rw [readChars] at hr
    split at hr
    · cases hr
    obtain ⟨⟨value, c⟩, hv, hr⟩ := Outcome.bind_eq_ok_iff.1 hr
    dsimp only at hr
    split at hr
    · cases hr
      exact (hP.readers _).1 _ _ _ hv
    · cases hr
  · cases h
  · cases h

/-! ## Documents -/

theorem mem_setEntry {entries : List (Value × Value)} {name : String} {value : Value} {entry : Value × Value}
    (h : entry ∈ setEntry entries name value) : entry ∈ entries ∨ entry = (.text name, value) := by
  fun_induction setEntry entries name value with
  | case1 => simpa using h
  | case2 value key old rest =>
    rcases List.mem_cons.1 h with rfl | h
    · exact .inr rfl
    · exact .inl (List.mem_cons_of_mem _ h)
  | case3 name value key old rest _ ih =>
    rcases List.mem_cons.1 h with rfl | h
    · exact .inl List.mem_cons_self
    · exact (ih h).imp_left (List.mem_cons_of_mem _)
  | case4 other rest name value _ ih =>
    rcases List.mem_cons.1 h with rfl | h
    · exact .inl List.mem_cons_self
    · exact (ih h).imp_left (List.mem_cons_of_mem _)

theorem setEntry_isDocument {entries : List (Value × Value)} {value : Value} (he : (Value.map entries).IsDocument)
    (name : String) (hv : value.IsDocument) : (Value.map (setEntry entries name value)).IsDocument := by
  rw [Value.isDocument_map_iff] at he ⊢
  intro entry h
  rcases mem_setEntry h with h | rfl
  · exact he entry h
  · exact ⟨⟨name, rfl⟩, hv⟩

theorem isDocument_kept : Kept IsDocument where
  absent := .absent
  bool := .bool
  int := .int
  float := .float
  text := .text
  list _ := .list
  noEntries := .map (by simp) (by simp)
  entry _ name _ := fun he hv => setEntry_isDocument he name hv

/-! ## Distinct keys -/

theorem mem_keys_setEntry {entries : List (Value × Value)} {name : String} {value key : Value}
    (h : key ∈ (setEntry entries name value).map Prod.fst) : key ∈ entries.map Prod.fst ∨ key = .text name := by
  obtain ⟨entry, he, rfl⟩ := List.mem_map.1 h
  rcases mem_setEntry he with he | rfl
  · exact .inl (List.mem_map_of_mem he)
  · exact .inr rfl

theorem nodup_keys_setEntry {entries : List (Value × Value)} (name : String) (value : Value)
    (h : (entries.map Prod.fst).Nodup) : ((setEntry entries name value).map Prod.fst).Nodup := by
  fun_induction setEntry entries name value with
  | case1 => simp
  | case2 => exact h
  | case3 name value key old rest hk ih =>
    obtain ⟨hkey, hrest⟩ := List.nodup_cons.1 h
    refine List.nodup_cons.2 ⟨fun hm => ?_, ih hrest⟩
    rcases mem_keys_setEntry hm with hm | he
    · exact hkey hm
    · exact hk (Value.text.inj he)
  | case4 entry rest name value hno ih =>
    obtain ⟨hentry, hrest⟩ := List.nodup_cons.1 h
    refine List.nodup_cons.2 ⟨fun hm => ?_, ih hrest⟩
    rcases mem_keys_setEntry hm with hm | he
    · exact hentry hm
    · exact hno name entry.2 (Prod.ext he rfl)

theorem setEntry_hasDistinctKeys {entries : List (Value × Value)} {value : Value}
    (he : (Value.map entries).HasDistinctKeys) (name : String) (hv : value.HasDistinctKeys) :
    (Value.map (setEntry entries name value)).HasDistinctKeys := by
  obtain ⟨hkeys, hvalues⟩ := he.of_map
  refine .map (nodup_keys_setEntry name value hkeys) fun entry h => ?_
  rcases mem_setEntry h with h | rfl
  · exact hvalues entry h
  · exact hv

theorem hasDistinctKeys_kept : Kept HasDistinctKeys where
  absent := .leaf rfl
  bool _ := .leaf rfl
  int _ := .leaf rfl
  float _ := .leaf rfl
  text _ := .leaf rfl
  list _ := .list
  noEntries := .map (by simp) (by simp)
  entry _ name _ := fun he hv => setEntry_hasDistinctKeys he name hv

end Stencil.Document
