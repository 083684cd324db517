import Mathlib
import Stencil.Proofs.Document.Sorting
import Stencil.Proofs.Number.Notation

/-!
When documents that compare equal have the same fingerprint. Main statement: exactly when no two scalars at the same
place differ, such as 1 beside a truth value or beside 1.0, and no whole number is too long to be written.
-/

namespace Stencil

open Outcome Value

namespace Document

variable {v w : Value} {s t : String} {items others : List Value} {entries fs : List (Value × Value)}

/-- What ends an item of a list or a value of a map. -/
def stops : List Char := [',', ']', '\x7d']

def Closes (cs : List Char) : Prop := ∀ c ∈ cs.head?, c ∈ stops

/-- Neither text is the beginning of the other with the item going on. -/
def Cancels (cs ds : List Char) : Prop :=
  ∀ rest rest', Closes rest → Closes rest' → cs ++ rest = ds ++ rest' → cs = ds ∧ rest = rest'

theorem cancels_self (cs : List Char) : Cancels cs cs := fun _ _ _ _ h => ⟨rfl, List.append_cancel_left h⟩

theorem takeWhile_closes {cs rest : List Char} (hcs : ∀ c ∈ cs, c ∉ stops) (hrest : Closes rest) :
    (cs ++ rest).takeWhile (· ∉ stops) = cs := by
  rw [List.takeWhile_append_of_pos (by simpa using hcs)]
  cases rest with
  | nil => simp
  | cons c rest => simp [hrest c rfl]

theorem cancels_of_plain {cs ds : List Char} (hcs : ∀ c ∈ cs, c ∉ stops) (hds : ∀ c ∈ ds, c ∉ stops) :
    Cancels cs ds := by
  intro rest rest' hrest hrest' h
  have heq : cs = ds := by rw [← takeWhile_closes hcs hrest, h, takeWhile_closes hds hrest']
  exact ⟨heq, List.append_cancel_left (heq ▸ h)⟩

theorem Cancels.append_left {cs ds : List Char} (h : Cancels cs ds) (front : List Char) :
    Cancels (front ++ cs) (front ++ ds) := by
  intro rest rest' hrest hrest' heq
  rw [List.append_assoc, List.append_assoc] at heq
  obtain ⟨hcs, hrests⟩ := h rest rest' hrest hrest' (List.append_cancel_left heq)
  exact ⟨congrArg (front ++ ·) hcs, hrests⟩

theorem intercalate_cancel {ps qs : List (List Char)} (h : List.Forall₂ Cancels ps qs) {rest rest' : List Char}
    (hrest : Closes rest) (hrest' : Closes rest')
    (heq : [',', ' '].intercalate ps ++ rest = [',', ' '].intercalate qs ++ rest') : ps = qs ∧ rest = rest' := by
  induction h with
  | nil => exact ⟨rfl, by simpa using heq⟩
  | @cons p q ps qs hpq hps ih =>
    cases hps with
    | nil =>
      rw [List.intercalate_singleton, List.intercalate_singleton] at heq
      obtain ⟨rfl, rfl⟩ := hpq rest rest' hrest hrest' heq
      exact ⟨rfl, rfl⟩
    | @cons p' q' ps qs hpq' hps =>
      rw [List.intercalate_cons_cons, List.intercalate_cons_cons, List.append_assoc, List.append_assoc] at heq
      have hcomma : ∀ tail, Closes ([',', ' '] ++ tail) := fun tail c hc => by
        obtain rfl : ',' = c := Option.some.inj hc
        simp [stops]
      rw [List.append_assoc, List.append_assoc] at heq
      obtain ⟨rfl, htails⟩ := hpq _ _ (hcomma _) (hcomma _) heq
      obtain ⟨htail, hrests⟩ := ih (List.append_cancel_left htails)
      exact ⟨congrArg (p :: ·) htail, hrests⟩

theorem notMem_stops {c : Char} (h : Number.IsMark c) : c ∉ stops := by
  rcases h with h | h
  · intro hc
    fin_cases hc <;> cases h
  · fin_cases h <;> decide

theorem writeWhole_toList {n : Int} (h : writeWhole n = .ok s) :
    s.toList = Number.signOf (n < 0) ++ Number.digitsOf n.natAbs := by
  rw [writeWhole] at h
  split at h
  · cases h
  · rw [← Except.ok.inj h, String.toList_ofList]

theorem writeWhole_marks {n : Int} (h : writeWhole n = .ok s) : ∀ c ∈ s.toList, c = '-' ∨ c.isDigit := by
  intro c hc
  rw [writeWhole_toList h] at hc
  exact (List.mem_append.1 hc).imp Number.mem_signOf Number.isDigit_of_mem_digitsOf

theorem writeFloat_marks {x : Float} (h : (Number.Binary.ofFloat x).isFinite) :
    (∀ c ∈ (writeFloat x).toList, Number.IsMark c) ∧
      ('.' ∈ (writeFloat x).toList ∨ 'e' ∈ (writeFloat x).toList) := by
  rw [writeFloat, String.toList_ofList]
  exact Number.write_marks _ h

theorem writeFloat_plain (x : Float) : ∀ c ∈ (writeFloat x).toList, c ∉ stops := by
  intro c hc
  cases hx : Number.Binary.ofFloat x with
  | undefined =>
    rw [writeFloat, String.toList_ofList, Number.Notation.write, hx] at hc
    revert c
    simp [Number.documentNotation, stops]
  | infinite negative =>
    rw [writeFloat, String.toList_ofList, Number.Notation.write, hx] at hc
    revert c
    cases negative <;> simp [Number.documentNotation, Number.signOf, stops]
  | finite => exact notMem_stops ((writeFloat_marks (by rw [hx]; rfl)).1 c hc)

theorem writeBool_plain (b : Bool) : ∀ c ∈ (writeBool b).toList, c ∉ stops := by
  cases b <;> simp [writeBool, stops]

theorem writeBool_letter (b : Bool) : ∃ c ∈ (writeBool b).toList, ¬Number.IsMark c := by
  have ht : ¬Number.IsMark 'u' := by unfold Number.IsMark; decide
  have hf : ¬Number.IsMark 'l' := by unfold Number.IsMark; decide
  cases b
  · exact ⟨'l', by simp [writeBool], hf⟩
  · exact ⟨'u', by simp [writeBool], ht⟩

theorem writeBool_ne_writeWhole {b : Bool} {n : Int} (h : writeWhole n = .ok s) : writeBool b ≠ s := by
  rintro rfl
  obtain ⟨c, hc, hno⟩ := writeBool_letter b
  exact hno ((writeWhole_marks h c hc).elim (fun hc => hc ▸ Number.isMark_sign true) .inl)

theorem writeBool_ne_writeFloat {b : Bool} {x : Float} (h : (Number.Binary.ofFloat x).isFinite) :
    writeBool b ≠ writeFloat x := by
  intro heq
  obtain ⟨c, hc, hno⟩ := writeBool_letter b
  exact hno ((writeFloat_marks h).1 c (heq ▸ hc))

theorem writeWhole_ne_writeFloat {n : Int} {x : Float} (h : writeWhole n = .ok s)
    (hx : (Number.Binary.ofFloat x).isFinite) : s ≠ writeFloat x := by
  rintro rfl
  rcases (writeFloat_marks hx).2 with hc | hc
  · exact absurd (writeWhole_marks h _ hc) (by decide)
  · exact absurd (writeWhole_marks h _ hc) (by decide)

theorem isFinite_of_equalsWhole {x : Float} {n : Int} (h : Number.equalsWhole x n = true) :
    (Number.Binary.ofFloat x).isFinite := by
  rw [Number.equalsWhole, Number.ratio?] at h
  cases hx : Number.Binary.ofFloat x with
  | finite => rfl
  | _ => rw [hx] at h; cases h

/-- Zeros of both signs compare equal, but only one is written with a sign. -/
theorem eq_of_writeFloat_eq {x y : Float} (h : (x == y) = true) (heq : writeFloat x = writeFloat y) : x = y := by
  obtain ⟨-, -, rfl | ⟨rfl, rfl⟩ | ⟨rfl, rfl⟩⟩ := Float.beq_iff_ne_nan_and_eq.1 h
  · rfl
  · exact absurd heq (by decide)
  · exact absurd heq (by decide)

inductive IsNumber : Value → Prop
  | bool (b : Bool) : IsNumber (.bool b)
  | int (n : Int) : IsNumber (.int n)
  | float (x : Float) : IsNumber (.float x)

theorem IsNumber.plain (hn : IsNumber v) (h : write v = .ok s) : ∀ c ∈ s.toList, c ∉ stops := by
  cases hn with
  | bool b =>
    cases h
    exact writeBool_plain b
  | int n => exact fun c hc => notMem_stops ((writeWhole_marks h c hc).elim (fun hc => hc ▸ Number.isMark_sign true) .inl)
  | float x =>
    cases h
    exact writeFloat_plain x

theorem IsNumber.of_same (hn : IsNumber v) (hd : w.IsDocument) (h : same v w = true) : IsNumber w := by
  cases hd with
  | bool b => exact .bool b
  | int n => exact .int n
  | float x => exact .float x
  | _ => cases hn <;> simp [same, sameNumber, whole?] at h

theorem eq_or_isNumber_of_same (hd : v.IsDocument) (hd' : w.IsDocument) (hl : v.isLeaf) (h : same v w = true) :
    v = w ∨ IsNumber v ∧ IsNumber w := by
  have hnumbers (hn : IsNumber v) : v = w ∨ IsNumber v ∧ IsNumber w := .inr ⟨hn, hn.of_same hd' h⟩
  cases hd with
  | list => cases hl
  | map => cases hl
  | absent => cases hd' <;> simp [same] at h; exact .inl rfl
  | text s => exact .inl (eq_of_same_text h).symm
  | bool b => exact hnumbers (.bool b)
  | int n => exact hnumbers (.int n)
  | float x => exact hnumbers (.float x)

theorem IsNumber.eq_of_write (hn : IsNumber v) (hn' : IsNumber w) (h : same v w = true) (hv : write v = .ok s)
    (hw : write w = .ok s) : v = w := by
  cases hn with
  | bool a =>
    cases hv
    cases hn' with
    | bool b =>
      revert h
      cases a <;> cases b <;> simp [same, sameNumber, whole?]
    | int n => exact absurd rfl (writeBool_ne_writeWhole hw)
    | float x =>
      have hx := isFinite_of_equalsWhole (by simpa [same, sameNumber, whole?] using h)
      exact absurd (Except.ok.inj hw).symm (writeBool_ne_writeFloat hx)
  | int m =>
    cases hn' with
    | bool b => exact absurd (Except.ok.inj hw) (writeBool_ne_writeWhole hv)
    | int n => exact congrArg Value.int (by simpa [same, sameNumber, whole?] using h)
    | float x =>
      have hx := isFinite_of_equalsWhole (by simpa [same, sameNumber, whole?] using h)
      exact absurd (Except.ok.inj hw).symm (writeWhole_ne_writeFloat hv hx)
  | float x =>
    cases hv
    cases hn' with
    | bool b =>
      have hx := isFinite_of_equalsWhole (by simpa [same, sameNumber, whole?] using h)
      exact absurd (Except.ok.inj hw) (writeBool_ne_writeFloat hx)
    | int n =>
      have hx := isFinite_of_equalsWhole (by simpa [same, sameNumber, whole?] using h)
      exact absurd rfl (writeWhole_ne_writeFloat hw hx)
    | float y =>
      have hxy : (x == y) = true := by simpa [same, sameNumber] using h
      exact congrArg Value.float (eq_of_writeFloat_eq hxy (Except.ok.inj hw).symm)

def Distinguishes (v w : Value) : Prop :=
  ∀ s t, write v = .ok s → write w = .ok t → Cancels s.toList t.toList ∧ (s = t → v = w)

theorem distinguishes_scalar (hd : v.IsDocument) (hd' : w.IsDocument) (hl : v.isLeaf) (h : same v w = true) :
    Distinguishes v w := by
  intro s t hv hw
  rcases eq_or_isNumber_of_same hd hd' hl h with rfl | ⟨hn, hn'⟩
  · obtain rfl := Except.ok.inj (hv.symm.trans hw)
    exact ⟨cancels_self _, fun _ => rfl⟩
  · refine ⟨cancels_of_plain (hn.plain hv) (hn'.plain hw), ?_⟩
    rintro rfl
    exact hn.eq_of_write hn' h hv hw

def enclose (a b : String) (ss : List String) : String := a ++ String.intercalate ", " ss ++ b

theorem enclose_cancel {a b : String} {c : Char} {ss ts : List String} (hb : b.toList = [c]) (hc : c ∈ stops)
    (h : List.Forall₂ Cancels (ss.map String.toList) (ts.map String.toList)) {rest rest' : List Char}
    (heq : (enclose a b ss).toList ++ rest = (enclose a b ts).toList ++ rest') : ss = ts ∧ rest = rest' := by
  have hclose : ∀ tail, Closes ([c] ++ tail) := fun tail d hd => Option.some.inj hd ▸ hc
  have hseparator : ", ".toList = [',', ' '] := rfl
  simp only [enclose, String.toList_append, String.toList_intercalate, hb, hseparator, List.append_assoc] at heq
  obtain ⟨hitems, htail⟩ := intercalate_cancel h (hclose _) (hclose _) (List.append_cancel_left heq)
  exact ⟨List.map_injective_iff.2 (fun _ _ => String.toList_inj.1) hitems, List.append_cancel_left htail⟩

theorem writeItems_cancel {ss ts : List String} (hlen : items.length = others.length)
    (h : ∀ (i : Nat) v w, items[i]? = some v → others[i]? = some w → Distinguishes v w)
    (hs : writeItems items = .ok ss) (ht : writeItems others = .ok ts) :
    List.Forall₂ Cancels (ss.map String.toList) (ts.map String.toList) ∧ (ss = ts → items = others) := by
  induction items generalizing others ss ts with
  | nil =>
    obtain rfl : others = [] := List.length_eq_zero_iff.1 hlen.symm
    cases hs; cases ht
    exact ⟨.nil, fun _ => rfl⟩
  | cons v rest ih =>
    obtain ⟨w, rest', rfl⟩ := List.exists_cons_of_length_eq_add_one hlen.symm
    obtain ⟨s, hv, hs⟩ := bind_eq_ok_iff.1 hs
    obtain ⟨ss', hrest, hs⟩ := bind_eq_ok_iff.1 hs
    obtain ⟨t, hw, ht⟩ := bind_eq_ok_iff.1 ht
    obtain ⟨ts', hrest', ht⟩ := bind_eq_ok_iff.1 ht
    obtain rfl : s :: ss' = ss := Except.ok.inj hs
    obtain rfl : t :: ts' = ts := Except.ok.inj ht
    obtain ⟨hcancel, heq⟩ := h 0 v w rfl rfl s t hv hw
    obtain ⟨hcancels, heqs⟩ := ih (Nat.succ.inj hlen) (fun i v w hv hw => h (i + 1) v w hv hw) hrest hrest'
    refine ⟨.cons hcancel hcancels, fun hst => ?_⟩
    rw [heq (List.cons.inj hst).1, heqs (List.cons.inj hst).2]

theorem writeEntries_cancel {ss ts : List String} (hkeys : HasTextKeys entries)
    (hsame : entries.map Prod.fst = fs.map Prod.fst)
    (h : ∀ k v w, (k, v) ∈ entries → (k, w) ∈ fs → Distinguishes v w)
    (hs : writeEntries entries = .ok ss) (ht : writeEntries fs = .ok ts) :
    List.Forall₂ Cancels (ss.map String.toList) (ts.map String.toList) ∧ (ss = ts → entries = fs) := by
  induction entries generalizing fs ss ts with
  | nil =>
    obtain rfl : fs = [] := List.map_eq_nil_iff.1 hsame.symm
    cases hs; cases ht
    exact ⟨.nil, fun _ => rfl⟩
  | cons e rest ih =>
    obtain ⟨⟨k, w⟩, rest', rfl, hk, hrestkeys⟩ := List.map_eq_cons_iff.1 hsame.symm
    obtain ⟨k', v⟩ := e
    obtain rfl : k = k' := hk
    obtain ⟨key, rfl⟩ : ∃ key, k = .text key := hkeys (k, v) List.mem_cons_self
    simp only [writeEntries, keyText, bind_eq_ok_iff, Except.ok.injEq, exists_eq_left', pure_eq_ok] at hs ht
    obtain ⟨s, hv, ss', hrest, rfl⟩ := hs
    obtain ⟨t, hw, ts', hrest', rfl⟩ := ht
    obtain ⟨hcancel, heq⟩ := h _ v w List.mem_cons_self List.mem_cons_self s t hv hw
    obtain ⟨hcancels, heqs⟩ := ih (fun e he => hkeys e (List.mem_cons_of_mem _ he)) hrestkeys.symm
      (fun k v w hv hw => h k v w (List.mem_cons_of_mem _ hv) (List.mem_cons_of_mem _ hw)) hrest hrest'
    -- The key in front is the same on both sides.
    generalize writeText key ++ ": " = front
    refine ⟨.cons ?_ hcancels, fun hst => ?_⟩
    · rw [String.toList_append, String.toList_append]
      exact hcancel.append_left _
    · have htexts := congrArg String.toList (List.cons.inj hst).1
      rw [String.toList_append, String.toList_append] at htexts
      rw [heq (String.toList_inj.1 (List.append_cancel_left htexts)), heqs (List.cons.inj hst).2]

theorem distinguishes_of_enclose {a b : String} {c : Char} (hb : b.toList = [c]) (hc : c ∈ stops)
    (h : ∀ s t, write v = .ok s → write w = .ok t → ∃ ss ts, s = enclose a b ss ∧ t = enclose a b ts ∧
      List.Forall₂ Cancels (ss.map String.toList) (ts.map String.toList) ∧ (ss = ts → v = w)) : Distinguishes v w := by
  intro s t hv hw
  obtain ⟨ss, ts, rfl, rfl, hcancels, heq⟩ := h s t hv hw
  refine ⟨fun rest rest' _ _ htexts => ?_, fun htexts => heq ?_⟩
  · obtain ⟨rfl, hrests⟩ := enclose_cancel hb hc hcancels htexts
    exact ⟨rfl, hrests⟩
  · exact (enclose_cancel hb hc hcancels (congrArg (String.toList · ++ []) htexts)).1

theorem Aligned.distinguishes (h : Aligned v w) : Distinguishes v w := by
  induction h with
  | scalar hd hd' hl _ h => exact distinguishes_scalar hd hd' hl h
  | @list items others hlen _ ih =>
    refine distinguishes_of_enclose (a := "[") (b := "]") rfl (by decide) fun s t hv hw => ?_
    obtain ⟨ss, hs, hv⟩ := bind_eq_ok_iff.1 hv
    obtain ⟨ts, ht, hw⟩ := bind_eq_ok_iff.1 hw
    obtain ⟨hcancels, heq⟩ := writeItems_cancel hlen ih hs ht
    exact ⟨ss, ts, (Except.ok.inj hv).symm, (Except.ok.inj hw).symm, hcancels, fun h => congrArg Value.list (heq h)⟩
  | @map entries others hkeys hsame _ ih =>
    refine distinguishes_of_enclose (a := "\x7b") (b := "\x7d") rfl (by decide) fun s t hv hw => ?_
    obtain ⟨ss, hs, hv⟩ := bind_eq_ok_iff.1 hv
    obtain ⟨ts, ht, hw⟩ := bind_eq_ok_iff.1 hw
    obtain ⟨hcancels, heq⟩ := writeEntries_cancel hkeys hsame ih hs ht
    exact ⟨ss, ts, (Except.ok.inj hv).symm, (Except.ok.inj hw).symm, hcancels, fun h => congrArg Value.map (heq h)⟩

/-- Every whole number has at most 4300 digits. -/
inductive HasShortNumerals : Value → Prop
  | leaf {v : Value} : v.isLeaf → (∀ n, v = .int n → n.natAbs < 10 ^ Number.maxWholeDigits) → HasShortNumerals v
  | list {items : List Value} : (∀ v ∈ items, HasShortNumerals v) → HasShortNumerals (.list items)
  | map {entries : List (Value × Value)} : (∀ entry ∈ entries, HasShortNumerals entry.2) →
      HasShortNumerals (.map entries)

theorem writeWhole_ok_iff {n : Int} : (∃ s, writeWhole n = .ok s) ↔ n.natAbs < 10 ^ Number.maxWholeDigits := by
  have hlength : (Number.digitsOf n.natAbs).length ≤ Number.maxWholeDigits ↔ n.natAbs < 10 ^ Number.maxWholeDigits :=
    Nat.length_toDigits_le_iff (by decide) (by decide)
  rw [← hlength, writeWhole]
  split
  · next h => exact ⟨fun ⟨_, hs⟩ => (nomatch hs), fun hle => absurd hle (not_le.2 h)⟩
  · next h => exact ⟨fun _ => not_lt.1 h, fun _ => ⟨_, rfl⟩⟩

theorem writeItems_ok_iff : (∃ ss, writeItems items = .ok ss) ↔ ∀ v ∈ items, ∃ s, write v = .ok s := by
  induction items with
  | nil => simp [writeItems]
  | cons v rest ih =>
    rw [List.forall_mem_cons, ← ih]
    simp only [writeItems, bind_eq_ok_iff, pure_eq_ok]
    grind

theorem writeEntries_ok_iff (hkeys : HasTextKeys entries) :
    (∃ ss, writeEntries entries = .ok ss) ↔ ∀ e ∈ entries, ∃ s, write e.2 = .ok s := by
  induction entries with
  | nil => simp [writeEntries]
  | cons e rest ih =>
    obtain ⟨key, hkey⟩ := hkeys e List.mem_cons_self
    rw [List.forall_mem_cons, ← ih fun e he => hkeys e (List.mem_cons_of_mem _ he)]
    simp only [writeEntries, hkey, keyText, bind_eq_ok_iff, pure_eq_ok]
    grind

theorem sorted_write_ok_iff (hd : v.IsDocument) (hk : v.HasDistinctKeys) (hs : sorted v = .ok w) :
    (∃ s, write w = .ok s) ↔ HasShortNumerals v := by
  induction hd generalizing w with
  | @list items _ ih =>
    obtain ⟨items', rfl, hitems⟩ := sorted_list hs
    have hwrite : (∃ s, write (.list items') = .ok s) ↔ ∀ v ∈ items', ∃ s, write v = .ok s := by
      rw [← writeItems_ok_iff]
      simp [write, bind_eq_ok_iff]
    have hshort : HasShortNumerals (.list items) ↔ ∀ v ∈ items, HasShortNumerals v :=
      ⟨fun h => by cases h with | leaf hl => cases hl | list h => exact h, .list⟩
    rw [hwrite, hshort]
    constructor
    · intro h v hv
      obtain ⟨i, hi⟩ := List.getElem?_of_mem hv
      obtain ⟨v', hv', hsort⟩ := exists_getElem_of_forall₂ hitems hi
      exact (ih v hv (hk.of_list v hv) hsort).1 (h v' (List.mem_of_getElem? hv'))
    · intro h v' hv'
      obtain ⟨i, hi⟩ := List.getElem?_of_mem hv'
      obtain ⟨v, hv, hsort⟩ := exists_getElem_of_forall₂ hitems.flip hi
      have hmem := List.mem_of_getElem? hv
      exact (ih v hmem (hk.of_list v hmem) hsort).2 (h v hmem)
  | @map entries hkeys _ ih =>
    obtain ⟨hnodup, hvalues⟩ := hk.of_map
    obtain ⟨es, rfl, hc, -⟩ := sorted_map hkeys hnodup hs
    have hwrite : (∃ s, write (.map es) = .ok s) ↔ ∀ e ∈ es, ∃ s, write e.2 = .ok s := by
      rw [← writeEntries_ok_iff (hc.hasTextKeys hkeys)]
      simp [write, bind_eq_ok_iff]
    have hshort : HasShortNumerals (.map entries) ↔ ∀ e ∈ entries, HasShortNumerals e.2 :=
      ⟨fun h => by cases h with | leaf hl => cases hl | map h => exact h, .map⟩
    rw [hwrite, hshort]
    constructor
    · intro h e he
      obtain ⟨v', hv', hsort⟩ := hc.target he
      exact (ih e he (hvalues e he) hsort).1 (h _ hv')
    · intro h e' he'
      obtain ⟨v, hv, hsort⟩ := hc.source he'
      exact (ih _ hv (hvalues _ hv) hsort).2 (h _ hv)
  | int n =>
    obtain rfl := Except.ok.inj hs
    exact writeWhole_ok_iff.trans ⟨fun h => .leaf rfl fun m hm => Value.int.inj hm ▸ h,
      fun h => by cases h with | leaf _ h => exact h n rfl⟩
  | _ =>
    obtain rfl := Except.ok.inj hs
    exact ⟨fun _ => .leaf rfl (by simp), fun _ => ⟨_, rfl⟩⟩

theorem fingerprint_ok_iff (hd : v.IsDocument) (hk : v.HasDistinctKeys) :
    (∃ s, fingerprint v = .ok s) ↔ HasShortNumerals v := by
  obtain ⟨v', hv'⟩ := exists_sorted hd hk
  rw [← sorted_write_ok_iff hd hk hv', fingerprint, hv', ok_bind]

/-- Nodes that compare equal have one fingerprint unless scalars at the same place differ, as 1 does from a truth value
and from 1.0, and 0.0 from -0.0. -/
theorem same_fingerprint_iff {a b : Value} (ha : a.IsDocument) (hb : b.IsDocument) (hka : a.HasDistinctKeys)
    (hkb : b.HasDistinctKeys) (h : same (.node a) (.node b) = true) :
    (∃ s, fingerprint a = .ok s ∧ fingerprint b = .ok s) ↔ ¬Clashes a b ∧ HasShortNumerals a := by
  have hsame : same a b = true := by rwa [same] at h
  obtain ⟨a', ha'⟩ := exists_sorted ha hka
  obtain ⟨b', hb'⟩ := exists_sorted hb hkb
  obtain ⟨haligned, hiff⟩ := settles_of_same ha hb hka hkb hsame a' b' ha' hb'
  rw [← hiff, ← fingerprint_ok_iff ha hka, fingerprint, fingerprint, ha', hb', ok_bind, ok_bind]
  constructor
  · rintro ⟨s, hs, ht⟩
    exact ⟨(haligned.distinguishes s s hs ht).2 rfl, s, hs⟩
  · rintro ⟨rfl, s, hs⟩
    exact ⟨s, hs, hs⟩

/-- The order of keys does not count, but a truth value in place of a number does. -/
theorem same_fingerprint_reordered :
    let a := Value.map [(.text "b", .int 1), (.text "a", .absent)]
    let b := Value.map [(.text "a", .absent), (.text "b", .int 1)]
    let c := Value.map [(.text "a", .absent), (.text "b", .bool true)]
    same (.node a) (.node b) = true ∧ same (.node a) (.node c) = true ∧
      (∃ s, fingerprint a = .ok s ∧ fingerprint b = .ok s) ∧ ¬∃ s, fingerprint a = .ok s ∧ fingerprint c = .ok s := by
  intro a b c
  have ha : a.IsDocument := .map (by simp) (by simp [IsDocument.int, IsDocument.absent])
  have hb : b.IsDocument := .map (by simp) (by simp [IsDocument.int, IsDocument.absent])
  have hc : c.IsDocument := .map (by simp) (by simp [IsDocument.bool, IsDocument.absent])
  have hone : (Value.int 1).HasDistinctKeys := .leaf rfl
  have htrue : (Value.bool true).HasDistinctKeys := .leaf rfl
  have habsent : Value.absent.HasDistinctKeys := .leaf rfl
  have hka : a.HasDistinctKeys := .map (by simp) (by simp [hone, habsent])
  have hkb : b.HasDistinctKeys := .map (by simp) (by simp [hone, habsent])
  have hkc : c.HasDistinctKeys := .map (by simp) (by simp [htrue, habsent])
  have hab : same (.node a) (.node b) = true := by simp [a, b, same, sameEntries, sameNumber, whole?]
  have hac : same (.node a) (.node c) = true := by simp [a, c, same, sameEntries, sameNumber, whole?]
  have hno : ¬Clashes a b := by
    intro hclash
    obtain ⟨k, v, w, hv, hw, hvw⟩ := clashes_map_iff.1 hclash
    simp only [List.mem_cons, List.not_mem_nil, or_false, Prod.mk.injEq] at hv hw
    rcases hv with ⟨rfl, rfl⟩ | ⟨rfl, rfl⟩ <;> rcases hw with ⟨h, rfl⟩ | ⟨h, rfl⟩
    · simp at h
    · exact (clashes_scalar_iff rfl rfl).1 hvw rfl
    · exact (clashes_scalar_iff rfl rfl).1 hvw rfl
    · simp at h
  have hshort : HasShortNumerals a := by
    refine .map (List.forall_mem_cons.2 ⟨.leaf rfl fun n hn => ?_, List.forall_mem_singleton.2 (.leaf rfl fun n hn => ?_)⟩)
    · obtain rfl : 1 = n := Value.int.inj hn
      exact Nat.one_lt_pow (by decide) (by decide)
    · cases hn
  refine ⟨hab, hac, (same_fingerprint_iff ha hb hka hkb hab).2 ⟨hno, hshort⟩, fun h => ?_⟩
  refine ((same_fingerprint_iff ha hc hka hkc hac).1 h).1 ?_
  exact .entry (.text "b") List.mem_cons_self (List.mem_cons_of_mem _ List.mem_cons_self)
    ((clashes_scalar_iff rfl rfl).2 (by simp))

end Document

end Stencil
