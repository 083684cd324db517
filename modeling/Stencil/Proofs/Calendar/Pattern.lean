import Mathlib.Data.List.Infix
import Mathlib.Data.List.SplitBy
import Stencil.Calendar.Pattern

/-!
Date patterns and the formats that they mean. Main statements: patterns that meet at different characters are translated
apart, a run of one letter is cut from its left into the longest parts, and a pattern without percent signs can be told
from its format.
-/

namespace Stencil.Calendar

variable {cs front back rest : List Char} {c : Char} {p q : Part} {ps qs : List Piece} {n k : Nat}

/-- No run of one character goes over the border. -/
def Parted (front back : List Char) : Prop := ∀ c ∈ front.getLast?, c ∉ back.head?

theorem Parted.of_append (h : Parted (front ++ rest) back) : Parted rest back :=
  fun c hc => h c (by simp_all [List.getLast?_append])

theorem replicate_isPrefix_append_iff (hne : front ≠ []) (h : Parted front back) :
    List.replicate k c <+: front ++ back ↔ List.replicate k c <+: front := by
  refine ⟨fun hprefix => ?_, fun hprefix => hprefix.trans (List.prefix_append front back)⟩
  by_cases hk : k ≤ front.length
  · exact List.prefix_of_prefix_length_le hprefix (List.prefix_append front back) (by simpa using hk)
  · -- A longer run would show the same character on both sides of the border.
    obtain ⟨tail, htail⟩ := hprefix
    have hat (i : Nat) (hi : i < k) : (front ++ back)[i]? = some c := by
      rw [← htail, List.getElem?_append_left (by simpa using hi), List.getElem?_replicate_of_lt hi]
    have hpos : 0 < front.length := List.length_pos_of_ne_nil hne
    have hlast : front.getLast? = some c := by
      rw [List.getLast?_eq_getElem?, ← hat (front.length - 1) (by omega), List.getElem?_append_left (by omega)]
    have hhead : back.head? = some c := by
      rw [List.head?_eq_getElem?, ← hat front.length (by omega), List.getElem?_append_right (Nat.le_refl _),
        Nat.sub_self]
    exact absurd hhead (h c hlast)

/-! ## Parts -/

namespace Part

theorem mem_all (p : Part) : p ∈ all := by
  cases p <;> decide

theorem all_descends : all.Pairwise fun p q => q.letters.length ≤ p.letters.length := by
  decide

theorem exists_letters (p : Part) : ∃ k c, p.letters = List.replicate (k + 1) c := by
  refine ⟨p.letters.length - 1, p.letters.headD ' ', ?_⟩
  cases p <;> rfl

theorem pos_of_letters (h : p.letters = List.replicate k c) : 0 < k := by
  obtain ⟨j, d, hp⟩ := p.exists_letters
  have hlength := congrArg List.length (h.symm.trans hp)
  simp only [List.length_replicate] at hlength
  omega

theorem isPrefix_of_leading (h : leading? cs = some p) : p.letters <+: cs :=
  List.isPrefixOf_iff_prefix.1 (by simpa using List.find?_some h)

theorem length_le_of_leading (h : leading? cs = some p) (hq : q.letters <+: cs) :
    q.letters.length ≤ p.letters.length := by
  obtain ⟨-, before, after, hall, hbefore⟩ := List.find?_eq_some_iff_append.1 h
  have hmem : q ∈ before ++ p :: after := hall ▸ q.mem_all
  have hdescends : (before ++ p :: after).Pairwise fun p q => q.letters.length ≤ p.letters.length := hall ▸ all_descends
  rcases List.mem_append.1 hmem with hq' | hq'
  · have hno : q.letters.isPrefixOf cs = false := by simpa using hbefore q hq'
    rw [List.isPrefixOf_iff_prefix.2 hq] at hno
    cases hno
  · rcases List.mem_cons.1 hq' with rfl | hq'
    · exact Nat.le_refl _
    · exact (List.pairwise_cons.1 (List.pairwise_append.1 hdescends).2.1).1 q hq'

theorem not_isPrefix_of_leading (h : leading? cs = none) (q : Part) : ¬ q.letters <+: cs := by
  have hno := List.find?_eq_none.1 h q q.mem_all
  simpa using hno

theorem leading_append (hne : front ≠ []) (h : Parted front back) : leading? (front ++ back) = leading? front := by
  rw [leading?, leading?]
  congr 1
  funext q
  obtain ⟨k, c, hq⟩ := q.exists_letters
  rw [Bool.eq_iff_iff, List.isPrefixOf_iff_prefix, List.isPrefixOf_iff_prefix, hq,
    replicate_isPrefix_append_iff hne h]

def ofCode? (c : Char) : Option Part := all.find? fun p => p.code = c

theorem ofCode_code (p : Part) : ofCode? p.code = some p := by
  cases p <;> decide

end Part

/-! ## Pieces -/

/-- What the scan does: a part wherever one fits, the longest of those that do. -/
inductive Cuts : List Char → List Piece → Prop
  | nil : Cuts [] []
  | part {p : Part} {rest : List Char} {ps : List Piece} :
      Part.leading? (p.letters ++ rest) = some p → Cuts rest ps → Cuts (p.letters ++ rest) (.part p :: ps)
  | plain {c : Char} {rest : List Char} {ps : List Piece} :
      Part.leading? (c :: rest) = none → Cuts rest ps → Cuts (c :: rest) (.plain c :: ps)

theorem cuts_pieces (cs : List Char) : Cuts cs (pieces cs) := by
  fun_induction pieces cs with
  | case1 => exact .nil
  | case2 c cs p hp ih =>
    obtain ⟨rest, hrest⟩ := Part.isPrefix_of_leading hp
    obtain ⟨k, d, hletters⟩ := p.exists_letters
    have hdrop : cs.drop (p.letters.length - 1) = rest := by
      rw [hletters, List.replicate_succ, List.cons_append] at hrest
      obtain ⟨-, rfl⟩ := List.cons.inj hrest
      simp [hletters]
    rw [hdrop] at ih ⊢
    rw [← hrest] at hp ⊢
    exact .part hp ih
  | case3 c cs hp ih => exact .plain hp ih

theorem Cuts.eq_pieces (h : Cuts cs ps) : ps = pieces cs := by
  induction h with
  | nil => rw [pieces]
  | @part p rest ps hp _ ih =>
    obtain ⟨k, d, hletters⟩ := p.exists_letters
    rw [hletters, List.replicate_succ, List.cons_append] at hp ⊢
    rw [pieces, hp]
    simp [hletters, ih]
  | plain hp _ ih => rw [pieces, hp, ih]

theorem Cuts.source_eq (h : Cuts cs ps) : ps.flatMap Piece.source = cs := by
  induction h with
  | nil => rfl
  | part _ _ ih => rw [List.flatMap_cons, ih, Piece.source]
  | plain _ _ ih => rw [List.flatMap_cons, ih, Piece.source, List.singleton_append]

theorem Cuts.append (hfront : Cuts front ps) (hback : Cuts back qs) (h : Parted front back) :
    Cuts (front ++ back) (ps ++ qs) := by
  induction hfront with
  | nil => exact hback
  | @part p rest ps hp _ ih =>
    have hne : p.letters ++ rest ≠ [] := by
      obtain ⟨k, d, hletters⟩ := p.exists_letters
      simp [hletters]
    rw [← Part.leading_append hne h, List.append_assoc] at hp
    rw [List.append_assoc, List.cons_append]
    exact .part hp (ih h.of_append)
  | @plain c rest ps hp _ ih =>
    have hrest : Parted ([c] ++ rest) back := h
    rw [← Part.leading_append (List.cons_ne_nil c rest) h, List.cons_append] at hp
    exact .plain hp (ih hrest.of_append)

theorem pieces_append (h : Parted front back) : pieces (front ++ back) = pieces front ++ pieces back :=
  ((cuts_pieces front).append (cuts_pieces back) h).eq_pieces.symm

theorem source_pieces (cs : List Char) : (pieces cs).flatMap Piece.source = cs := (cuts_pieces cs).source_eq

/-! ## Runs of one letter -/

/-- How `n` times the letter `c` are cut: the longest part that fits comes first, and once none fits, the rest is
copied. -/
inductive CutsRun (c : Char) : Nat → List Piece → Prop
  | part {p : Part} {k n : Nat} {ps : List Piece} : p.letters = List.replicate k c →
      (∀ (q : Part) (j : Nat), q.letters = List.replicate j c → j ≤ k + n → j ≤ k) → CutsRun c n ps →
      CutsRun c (k + n) (.part p :: ps)
  | rest {n : Nat} : (∀ (q : Part) (j : Nat), q.letters = List.replicate j c → n < j) →
      CutsRun c n (List.replicate n (.plain c))

theorem isPrefix_replicate (h : k ≤ n) (c : Char) : List.replicate k c <+: List.replicate n c :=
  ⟨List.replicate (n - k) c, by rw [List.replicate_append_replicate, Nat.add_sub_cancel' h]⟩

theorem Cuts.cutsRun (h : Cuts cs ps) (hcs : cs = List.replicate n c) : CutsRun c n ps := by
  induction h generalizing n with
  | nil =>
    obtain rfl : n = 0 := by simpa using hcs.symm
    exact .rest fun q j hq => Part.pos_of_letters hq
  | @part p rest ps hp _ ih =>
    obtain ⟨rfl, hletters, hrest⟩ := List.append_eq_replicate_iff.1 hcs
    refine .part hletters (fun q j hq hj => ?_) (ih hrest)
    have hfits : q.letters <+: p.letters ++ rest := by
      rw [hcs, hq]
      exact isPrefix_replicate hj c
    simpa [hq] using Part.length_le_of_leading hp hfits
  | @plain d rest ps hp _ ih =>
    cases n with
    | zero => cases hcs
    | succ n =>
      obtain ⟨rfl, hrest⟩ := List.cons.inj hcs
      have hno (q : Part) (j : Nat) (hq : q.letters = List.replicate j d) : n + 1 < j := by
        by_contra hj
        refine Part.not_isPrefix_of_leading hp q ?_
        rw [hcs, hq]
        exact isPrefix_replicate (Nat.le_of_not_lt hj) d
      cases ih hrest with
      | part hletters => exact absurd (hno _ _ hletters) (by omega)
      | rest => exact .rest hno

theorem pieces_flatten {runs : List (List Char)}
    (h : runs.IsChain fun a b => ∃ ha hb, (a.getLast ha == b.head hb) = false) :
    pieces runs.flatten = runs.flatMap pieces := by
  induction runs with
  | nil => rw [List.flatten_nil, pieces, List.flatMap_nil]
  | cons run runs ih =>
    have hparted : Parted run runs.flatten := by
      cases runs with
      | nil => simp [Parted]
      | cons next runs =>
        obtain ⟨hlast, hhead, hdiffer⟩ := (List.isChain_cons_cons.1 h).1
        intro d hd hd'
        rw [List.flatten_cons, List.head?_append_of_ne_nil _ hhead, List.head?_eq_some_head hhead] at hd'
        rw [List.getLast?_eq_some_getLast hlast] at hd
        simp_all
    rw [List.flatten_cons, pieces_append hparted, List.flatMap_cons, ih h.tail]

theorem pieces_eq_flatMap_runs (cs : List Char) : pieces cs = (cs.splitBy (· == ·)).flatMap pieces := by
  rw [← pieces_flatten (List.isChain_getLast_head_splitBy _ cs), List.flatten_splitBy]

theorem exists_cutsRun {run : List Char} (h : run ∈ cs.splitBy (· == ·)) :
    ∃ c n, run = List.replicate n c ∧ CutsRun c n (pieces run) := by
  have hchain : run.IsChain (· = ·) := (List.isChain_of_mem_splitBy h).imp fun _ _ => by simp
  cases run with
  | nil => exact absurd h (List.nil_notMem_splitBy _ cs)
  | cons d run =>
    have hrun : d :: run = List.replicate (run.length + 1) d := by
      rw [List.replicate_succ, ← List.isChain_cons_eq_iff_eq_replicate.1 hchain]
    exact ⟨d, _, hrun, (cuts_pieces _).cutsRun hrun⟩

/-! ## Formats -/

/-- The pieces that a format stands for; a percent sign without a code stands for itself. -/
def readFormat : List Char → List Piece
  | [] => []
  | '%' :: c :: cs =>
    match Part.ofCode? c with
    | some p => .part p :: readFormat cs
    | none => .plain '%' :: .plain c :: readFormat cs
  | c :: cs => .plain c :: readFormat cs

def patternOfFormat (format : String) : String := String.ofList ((readFormat format.toList).flatMap Piece.source)

def Piece.isPart : Piece → Bool
  | .part _ => true
  | .plain _ => false

theorem readFormat_flatMap_format (h : Piece.plain '%' ∉ ps) : readFormat (ps.flatMap Piece.format) = ps := by
  induction ps with
  | nil => rfl
  | cons piece ps ih =>
    obtain ⟨hpiece, hps⟩ := not_or.1 (mt List.mem_cons.2 h)
    cases piece with
    | part p => simp [Piece.format, readFormat, Part.ofCode_code, ih hps]
    | plain c =>
      have hc : c ≠ '%' := fun he => hpiece (he ▸ rfl)
      rw [List.flatMap_cons, Piece.format, List.singleton_append, readFormat, ih hps]
      exact fun _ _ he _ => hc he

theorem count_flatMap_format (h : Piece.plain '%' ∉ ps) :
    (ps.flatMap Piece.format).count '%' = ps.countP Piece.isPart := by
  induction ps with
  | nil => rfl
  | cons piece ps ih =>
    obtain ⟨hpiece, hps⟩ := not_or.1 (mt List.mem_cons.2 h)
    rw [List.flatMap_cons, List.count_append, ih hps, List.countP_cons, Nat.add_comm]
    congr 1
    cases piece with
    | part p => cases p <;> rfl
    | plain c =>
      have hc : c ≠ '%' := fun he => hpiece (he ▸ rfl)
      simp [Piece.format, Piece.isPart, hc]

theorem plain_notMem_pieces (h : c ∉ cs) : Piece.plain c ∉ pieces cs := by
  intro hmem
  refine h ?_
  rw [← source_pieces cs, List.mem_flatMap]
  exact ⟨.plain c, hmem, by simp [Piece.source]⟩

theorem toList_formatOfPattern (pattern : String) :
    (formatOfPattern pattern).toList = (pieces pattern.toList).flatMap Piece.format := by
  rw [formatOfPattern, String.toList_ofList]

theorem formatOfPattern_append {p q : String} (h : Parted p.toList q.toList) :
    formatOfPattern (p ++ q) = formatOfPattern p ++ formatOfPattern q := by
  rw [← String.toList_inj, String.toList_append, toList_formatOfPattern, toList_formatOfPattern, toList_formatOfPattern,
    String.toList_append, pieces_append h, List.flatMap_append]

theorem readFormat_formatOfPattern {pattern : String} (h : '%' ∉ pattern.toList) :
    readFormat (formatOfPattern pattern).toList = pieces pattern.toList := by
  rw [toList_formatOfPattern, readFormat_flatMap_format (plain_notMem_pieces h)]

theorem patternOfFormat_formatOfPattern {pattern : String} (h : '%' ∉ pattern.toList) :
    patternOfFormat (formatOfPattern pattern) = pattern := by
  rw [patternOfFormat, readFormat_formatOfPattern h, source_pieces, String.ofList_toList]

theorem formatOfPattern_by_runs :
    (∀ p q : String, p = "" ∨ q = "" ∨ p.toList.getLast? ≠ q.toList.head? →
        formatOfPattern (p ++ q) = formatOfPattern p ++ formatOfPattern q) ∧
      (∀ pattern : String,
        (formatOfPattern pattern).toList = ((pattern.toList.splitBy (· == ·)).flatMap pieces).flatMap Piece.format ∧
        ∀ run ∈ pattern.toList.splitBy (· == ·), ∃ c n, run = List.replicate n c ∧ CutsRun c n (pieces run)) ∧
      (∀ pattern : String, '%' ∉ pattern.toList →
        readFormat (formatOfPattern pattern).toList = pieces pattern.toList ∧
        (formatOfPattern pattern).toList.count '%' = (pieces pattern.toList).countP Piece.isPart ∧
        patternOfFormat (formatOfPattern pattern) = pattern) ∧
      ∀ p q : String, '%' ∉ p.toList → '%' ∉ q.toList → formatOfPattern p = formatOfPattern q → p = q := by
  refine ⟨fun p q h => formatOfPattern_append ?_, fun pattern => ⟨?_, fun run => exists_cutsRun⟩,
    fun pattern h => ⟨readFormat_formatOfPattern h, ?_, patternOfFormat_formatOfPattern h⟩, fun p q hp hq h => ?_⟩
  · rintro c hlast hhead
    rcases h with rfl | rfl | h
    · cases hlast
    · cases hhead
    · exact h (hlast.trans hhead.symm)
  · rw [toList_formatOfPattern, pieces_eq_flatMap_runs]
  · rw [toList_formatOfPattern, count_flatMap_format (plain_notMem_pieces h)]
  · rw [← patternOfFormat_formatOfPattern hp, h, patternOfFormat_formatOfPattern hq]

/-- Seven letters for the year are cut into four, two and one that is left over. -/
theorem formatOfPattern_by_runs_years :
    formatOfPattern ("yyyyyyy" ++ "MMM d") = formatOfPattern "yyyyyyy" ++ formatOfPattern "MMM d" ∧
      (∃ c n, "yyyyyyy".toList = List.replicate n c ∧ CutsRun c n (pieces "yyyyyyy".toList)) ∧
      patternOfFormat (formatOfPattern "yyyyyyyMMM d") = "yyyyyyyMMM d" ∧
      formatOfPattern "yyyyyyy" ≠ formatOfPattern "yyyyyy" := by
  obtain ⟨happend, hruns, hread, hinjective⟩ := formatOfPattern_by_runs
  refine ⟨happend _ _ (.inr (.inr (by decide))), (hruns "yyyyyyyMMM d").2 _ (by decide), (hread _ (by decide)).2.2,
    fun h => ?_⟩
  exact absurd (hinjective _ _ (by decide) (by decide) h) (by decide)

end Stencil.Calendar
