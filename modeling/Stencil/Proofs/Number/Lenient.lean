import Stencil.Proofs.Text.Classes
import Stencil.Proofs.Text.Trimming
import Stencil.Value.Number

/-!
The numerals that the lenient reading accepts: an optional sign and decimal digits with at most one point. Main
statement: once blanks around a text and its commas are gone, the text is read exactly where it spells a numeral, or a
numeral and a line feed after it, which takes a comma at its end.
-/

namespace Stencil

namespace Number

variable {cs text rest ds fs : List Char} {n : Numeral} {negative : Bool}

def Digits (cs : List Char) : Prop := ∀ c ∈ cs, Text.isDecimal c

instance (cs : List Char) : Decidable (Digits cs) := List.decidableBAll _ cs

/-- A text spells digits before and after its point. -/
inductive SpellsParts : List Char → List Char → List Char → Prop
  | whole {ds : List Char} : ds ≠ [] → Digits ds → SpellsParts ds ds []
  | pointed {ds fs : List Char} : ds ≠ [] → Digits ds → Digits fs → SpellsParts (ds ++ '.' :: fs) ds fs
  | fraction {fs : List Char} : fs ≠ [] → Digits fs → SpellsParts ('.' :: fs) [] fs

inductive Spells : List Char → Numeral → Prop
  | bare {cs ds fs : List Char} : SpellsParts cs ds fs → Spells cs ⟨false, ds, fs⟩
  | plus {cs ds fs : List Char} : SpellsParts cs ds fs → Spells ('+' :: cs) ⟨false, ds, fs⟩
  | minus {cs ds fs : List Char} : SpellsParts cs ds fs → Spells ('-' :: cs) ⟨true, ds, fs⟩

def LineEnd (cs : List Char) : Prop := cs = [] ∨ cs = ['\n']

theorem LineEnd.head (h : LineEnd rest) : ∀ c ∈ rest.head?, Text.isDecimal c = false ∧ c ≠ '.' := by
  rcases h with rfl | rfl <;> simp
  decide

theorem digits_takeWhile (cs : List Char) : Digits (cs.takeWhile Text.isDecimal) := fun _ => List.mem_takeWhile_imp

/-! ## Reading -/

theorem readNumeral_of_pointed (hs : signed cs = (negative, ds ++ '.' :: (fs ++ rest))) (hds : Digits ds) (hfs : Digits fs)
    (hne : ds ≠ [] ∨ fs ≠ []) (hrest : LineEnd rest) : readNumeral? cs = some ⟨negative, ds, fs⟩ := by
  have hpoint : ∀ c ∈ ('.' :: (fs ++ rest)).head?, Text.isDecimal c = false := by
    simp only [List.head?_cons, Option.mem_some_iff, forall_eq']
    decide
  have hhead : ∀ c ∈ rest.head?, Text.isDecimal c = false := fun c hc => (hrest.head c hc).1
  simp only [readNumeral?, hs, Text.takeWhile_append_eq hds hpoint, Text.dropWhile_append_eq hds hpoint,
    Text.takeWhile_append_eq hfs hhead, Text.dropWhile_append_eq hfs hhead]
  exact if_pos ⟨hne, hrest⟩

theorem readNumeral_of_parts (hs : signed cs = (negative, text ++ rest)) (h : SpellsParts text ds fs)
    (hrest : LineEnd rest) : readNumeral? cs = some ⟨negative, ds, fs⟩ := by
  cases h with
  | whole hne hds =>
    have hhead : ∀ c ∈ rest.head?, Text.isDecimal c = false := fun c hc => (hrest.head c hc).1
    simp only [readNumeral?, hs, Text.takeWhile_append_eq hds hhead, Text.dropWhile_append_eq hds hhead]
    rcases hrest with rfl | rfl
    · exact if_pos ⟨.inl hne, .inl rfl⟩
    · exact if_pos ⟨.inl hne, .inr rfl⟩
  | pointed hne hds hfs =>
    rw [List.append_assoc, List.cons_append] at hs
    exact readNumeral_of_pointed hs hds hfs (.inl hne) hrest
  | fraction hne hfs => exact readNumeral_of_pointed hs (by simp [Digits]) hfs (.inr hne) hrest

theorem exists_parts_of_readNumeral (h : readNumeral? cs = some n) :
    ∃ text rest, signed cs = (n.negative, text ++ rest) ∧ SpellsParts text n.whole n.fraction ∧ LineEnd rest := by
  rcases hs : signed cs with ⟨negative, body⟩
  have hbody := List.takeWhile_append_dropWhile (p := Text.isDecimal) (l := body)
  have hds := digits_takeWhile body
  simp only [readNumeral?, hs] at h
  generalize body.takeWhile Text.isDecimal = ds, body.dropWhile Text.isDecimal = after at h hbody hds
  subst hbody
  split at h
  next tail =>
    have htail := List.takeWhile_append_dropWhile (p := Text.isDecimal) (l := tail)
    have hfs := digits_takeWhile tail
    generalize tail.takeWhile Text.isDecimal = fs, tail.dropWhile Text.isDecimal = rest at h htail hfs
    subst htail
    obtain ⟨⟨hne, hrest⟩, hn⟩ := Option.ite_none_right_eq_some.1 h
    obtain rfl := Option.some.inj hn
    by_cases hwhole : ds = []
    · subst hwhole
      exact ⟨'.' :: fs, rest, by simp, .fraction (hne.resolve_left (by simp)) hfs, hrest⟩
    · exact ⟨ds ++ '.' :: fs, rest, by simp, .pointed hwhole hds hfs, hrest⟩
  next =>
    obtain ⟨⟨hne, hrest⟩, hn⟩ := Option.ite_none_right_eq_some.1 h
    obtain rfl := Option.some.inj hn
    exact ⟨ds, after, rfl, .whole (hne.resolve_right (by simp)) hds, hrest⟩

theorem signed_of_ne {c : Char} (hplus : c ≠ '+') (hminus : c ≠ '-') (cs : List Char) :
    signed (c :: cs) = (false, c :: cs) := by
  rw [signed]
  · exact fun _ he => hplus (List.cons.inj he).1
  · exact fun _ he => hminus (List.cons.inj he).1

theorem ne_sign_of_isDecimal {c : Char} (h : Text.isDecimal c) : c ≠ '+' ∧ c ≠ '-' := by
  constructor
  · rintro rfl
    revert h
    decide
  · rintro rfl
    revert h
    decide

theorem SpellsParts.head (h : SpellsParts text ds fs) : ∃ c cs, text = c :: cs ∧ c ≠ '+' ∧ c ≠ '-' := by
  cases h with
  | whole hne hds =>
    obtain ⟨c, cs, rfl⟩ := List.exists_cons_of_ne_nil hne
    exact ⟨c, cs, rfl, ne_sign_of_isDecimal (hds c (by simp))⟩
  | @pointed ds fs hne hds hfs =>
    obtain ⟨c, cs, rfl⟩ := List.exists_cons_of_ne_nil hne
    exact ⟨c, cs ++ '.' :: fs, rfl, ne_sign_of_isDecimal (hds c (by simp))⟩
  | @fraction fs hne hfs => exact ⟨'.', fs, rfl, by decide, by decide⟩

theorem SpellsParts.signed_append (h : SpellsParts text ds fs) (rest : List Char) :
    signed (text ++ rest) = (false, text ++ rest) := by
  obtain ⟨c, cs, rfl, hplus, hminus⟩ := h.head
  rw [List.cons_append, signed_of_ne hplus hminus]

theorem readNumeral_eq_some_iff :
    readNumeral? cs = some n ↔ ∃ text rest, cs = text ++ rest ∧ Spells text n ∧ LineEnd rest := by
  constructor
  · intro h
    obtain ⟨text, rest, hs, hparts, hrest⟩ := exists_parts_of_readNumeral h
    obtain ⟨negative, ds, fs⟩ := n
    unfold signed at hs
    split at hs
    · cases hs
      exact ⟨'+' :: text, rest, rfl, .plus hparts, hrest⟩
    · cases hs
      exact ⟨'-' :: text, rest, rfl, .minus hparts, hrest⟩
    · cases hs
      exact ⟨text, rest, rfl, .bare hparts, hrest⟩
  · rintro ⟨text, rest, rfl, h, hrest⟩
    cases h with
    | bare h => exact readNumeral_of_parts (h.signed_append rest) h hrest
    | plus h => exact readNumeral_of_parts rfl h hrest
    | minus h => exact readNumeral_of_parts rfl h hrest

/-- What the lenient reading looks at: the text without the blanks around it and without its commas. -/
def cleaned (s : String) : List Char := (Text.trim s.toList).filter (· ≠ ',')

/-- A line feed comes to the end only where the commas after it go. -/
theorem last_cleaned {s : String} (h : (Text.trim s.toList).getLast? ≠ some ',') : (cleaned s).getLast? ≠ some '\n' := by
  have hblank := Text.last_trim s.toList
  rw [cleaned]
  rcases List.eq_nil_or_concat (Text.trim s.toList) with ht | ⟨front, c, ht⟩
  · simp [ht]
  · rw [ht, List.concat_eq_append, List.getLast?_concat] at h hblank
    have hc : c ≠ ',' := fun he => h (he ▸ rfl)
    rw [ht, List.concat_eq_append, List.filter_append, List.filter_cons_of_pos (by simpa using hc), List.filter_nil,
      List.getLast?_concat]
    rintro ⟨⟩
    exact absurd (hblank '\n' rfl) (by decide)

theorem exists_readNumeral_iff (h : cs.getLast? ≠ some '\n') : (readNumeral? cs).isSome ↔ ∃ n, Spells cs n := by
  simp only [Option.isSome_iff_exists, readNumeral_eq_some_iff]
  constructor
  · rintro ⟨n, text, rest, rfl, hspells, rfl | rfl⟩
    · exact ⟨n, by simpa using hspells⟩
    · simp at h
  · rintro ⟨n, hspells⟩
    exact ⟨n, cs, [], by simp, hspells, .inl rfl⟩

end Number

namespace Value

open Number

/-- Numerals are read, those with a line feed behind them too, and no other text. -/
theorem parseNumber_reads_numerals (s : String) :
    (∀ x, parseNumber? (.text s) = some x ↔
      ∃ text rest n, cleaned s = text ++ rest ∧ Spells text n ∧ LineEnd rest ∧ n.toFloat = x) ∧
      ((Text.trim s.toList).getLast? ≠ some ',' →
        ((parseNumber? (.text s)).isSome ↔ ∃ n, Spells (cleaned s) n)) := by
  have hread : parseNumber? (.text s) = (readNumeral? (cleaned s)).map Numeral.toFloat := rfl
  refine ⟨fun x => ?_, fun h => ?_⟩
  · rw [hread, Option.map_eq_some_iff]
    simp only [readNumeral_eq_some_iff]
    constructor
    · rintro ⟨n, ⟨text, rest, htext, hspells, hrest⟩, hx⟩
      exact ⟨text, rest, n, htext, hspells, hrest, hx⟩
    · rintro ⟨text, rest, n, htext, hspells, hrest, hx⟩
      exact ⟨n, ⟨text, rest, htext, hspells, hrest⟩, hx⟩
  · rw [hread, Option.isSome_map]
    exact exists_readNumeral_iff (last_cleaned h)

theorem parseNumber_reads_numerals_line_feed :
    (Text.trim " +1,0٣.5 ".toList).getLast? ≠ some ',' ∧ (parseNumber? (.text " +1,0٣.5 ")).isSome ∧
      (Text.trim "1\n,".toList).getLast? = some ',' ∧
      parseNumber? (.text "1\n,") = some (Numeral.toFloat ⟨false, ['1'], []⟩) := by
  have hlast : (Text.trim " +1,0٣.5 ".toList).getLast? ≠ some ',' := by decide
  have hparts : SpellsParts (['1', '0', '٣'] ++ '.' :: ['5']) ['1', '0', '٣'] ['5'] :=
    .pointed (by simp) (by decide) (by decide)
  have hspells : Spells (cleaned " +1,0٣.5 ") ⟨false, ['1', '0', '٣'], ['5']⟩ := .plus hparts
  have hone : Spells ['1'] ⟨false, ['1'], []⟩ := .bare (.whole (by simp) (by decide))
  exact ⟨hlast, ((parseNumber_reads_numerals _).2 hlast).2 ⟨_, hspells⟩, by decide,
    ((parseNumber_reads_numerals _).1 _).2 ⟨['1'], ['\n'], _, by decide, hone, .inr rfl, rfl⟩⟩

end Value

end Stencil
