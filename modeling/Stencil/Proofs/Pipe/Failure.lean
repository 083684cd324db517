import Stencil.Pipe.Registry
import Stencil.Proofs.Association
import Stencil.Proofs.Value.Failure

/-!
What goes wrong in pipes. Main statements: standard pipes and those that evaluation starts from fail only for reasons
that values have, and one of them alone for an empty separator.
-/

namespace Stencil

open Outcome

variable {args : List Value}

theorem Path.navigateBy_fails (root path : Value) : Fails Error.OfReading (Path.navigateBy root path) := by
  unfold Path.navigateBy
  split
  · exact Path.navigate_fails root _
  · split
    · exact fails_ok _
    · exact (fails_error _).2 trivial
  · split
    · exact fails_ok _
    · exact (fails_error _).2 trivial

namespace Pipe

def FailsWith (P : Error → Prop) (p : Pipe) : Prop := ∀ args v, Fails P (p args v)

abbrev FailsByReading (p : Pipe) : Prop := p.FailsWith Error.OfReading

theorem FailsWith.mono {P Q : Error → Prop} {p : Pipe} (h : p.FailsWith P) (hPQ : ∀ err, P err → Q err) :
    p.FailsWith Q := fun args v => (h args v).mono hPQ

theorem FailsWith.passingAbsence {P : Error → Prop} {p : Pipe} (h : p.FailsWith P) : p.passingAbsence.FailsWith P := by
  intro args v
  rw [Pipe.passingAbsence]
  split
  · exact fails_ok _
  · exact h args v

/-! ## Arguments -/

theorem wholeArg_fails (args : List Value) (index : Nat) : Fails Error.OfReading (wholeArg? args index) := by
  rw [wholeArg?]
  split
  · exact Value.toWhole_fails _
  · exact fails_ok _

theorem textsOf_fails (vs : List Value) : Fails Error.OfReading (textsOf vs) := by
  induction vs with
  | nil => exact fails_ok _
  | cons v vs ih =>
    cases v with
    | text s => exact ih.bind fun _ _ => fails_ok _
    | _ => exact (fails_error _).2 trivial

theorem rejoin_fails (args : List Value) : Fails Error.OfReading (rejoin args) :=
  (textsOf_fails args).bind fun _ _ => fails_ok _

/-! ## Collections -/

theorem size_fails : size.FailsByReading := by
  intro args v
  rw [size]
  split
  · exact fails_ok _
  · exact fails_ok _
  · exact fails_ok _
  · split <;> exact fails_ok _

theorem reversed_fails : reversed.FailsByReading := by
  intro args v
  rw [reversed]
  split <;> exact fails_ok _

theorem slice_fails : slice.FailsByReading := by
  intro args v
  refine (wholeArg_fails args 0).bind fun start _ => ?_
  split
  · dsimp only
    split
    · exact fails_ok _
    · refine (wholeArg_fails args 1).bind fun stop _ => ?_
      split <;> exact fails_ok _
  · exact fails_ok _

theorem counted_fails (f : Int → Run → Run) : (counted f).FailsByReading := by
  intro args v
  refine (wholeArg_fails args 0).bind fun count _ => ?_
  split <;> exact fails_ok _

theorem agrees_fails (field : Value) (expected : String) (item : Value) :
    Fails Error.OfReading (agrees field expected item) := by
  rw [agrees]
  split
  · refine (Path.navigateBy_fails item field).bind fun actual _ => ?_
    split
    · exact fails_ok _
    · exact (Value.toText_fails actual).bind fun _ _ => fails_ok _
  · exact fails_ok _

theorem keep_fails (field : Value) (expected : String) (items : List Value) :
    Fails Error.OfReading (keep field expected items) := by
  induction items with
  | nil => exact fails_ok _
  | cons item items ih => exact (agrees_fails field expected item).bind fun _ _ => ih.bind fun _ _ => fails_ok _

theorem project_fails (field : Value) (items : List Value) : Fails Error.OfReading (project field items) := by
  induction items with
  | nil => exact fails_ok _
  | cons item items ih => exact (Path.navigateBy_fails item field).bind fun _ _ => ih.bind fun _ _ => fails_ok _

theorem filter_fails : filter.FailsByReading := by
  intro args v
  refine (rejoin_fails args.tail).bind fun expected _ => ?_
  split
  · split
    · exact fails_ok _
    · exact (keep_fails _ expected _).bind fun _ _ => fails_ok _
  · exact fails_ok _

theorem map_fails : map.FailsByReading := by
  intro args v
  rw [map]
  split
  · exact (project_fails _ _).bind fun _ _ => fails_ok _
  · exact fails_ok _

/-! ## Numbers -/

theorem rounded_fails (x : Float) (places : Option Int) : Fails Error.OfReading (rounded x places) := by
  cases places with
  | none => exact fails_ok _
  | some places =>
    rw [rounded]
    split
    · exact fails_ok _
    · exact (fails_error _).2 trivial

theorem picked_fails (pick? : List Float → Option Float) : (picked pick?).FailsByReading := by
  intro args v
  refine (Value.numbersOf_fails _).bind fun xs _ => ?_
  split
  · exact (wholeArg_fails args 0).bind fun _ _ => rounded_fails _ _
  · exact fails_ok _

theorem toNumber_fails : toNumber.FailsByReading := by
  intro args v
  refine (Value.toNumber_fails v).bind fun x _ => ?_
  split <;> exact fails_ok _

theorem round_fails : round.FailsByReading := by
  intro args v
  refine (Value.toNumber_fails v).bind fun x _ => ?_
  split
  · exact (wholeArg_fails args 0).bind fun _ _ => rounded_fails _ _
  · exact fails_ok _

theorem sum_fails : sum.FailsByReading := fun _ _ => (Value.numbersOf_fails _).bind fun _ _ => fails_ok _

theorem currency_fails : currency.FailsByReading := by
  intro args v
  refine (Value.toNumber_fails _).bind fun x _ => ?_
  split <;> exact fails_ok _

/-! ## Texts -/

theorem onText_fails (f : List Char → List Char) : (onText f).FailsByReading :=
  fun _ v => (Value.toText_fails v).bind fun _ _ => fails_ok _

theorem separator_fails (args : List Value) : Fails Error.OfReading (separator args) := by
  rw [separator]
  split
  · exact fails_ok _
  · exact rejoin_fails args

theorem split_fails_of_separator {args : List Value} {sep : String} (h : separator args = .ok sep) (hne : sep ≠ "")
    (v : Value) : Fails Error.OfReading (split args v) := by
  obtain ⟨c, cs, hsep⟩ := List.exists_cons_of_ne_nil (show sep.toList ≠ [] by simpa using hne)
  rw [split, h, ok_bind, hsep]
  exact (Value.toText_fails v).bind fun _ _ => fails_ok _

theorem split_fails : split.FailsWith Error.OfValues := by
  intro args v
  refine ((separator_fails args).mono Error.OfReading.ofValues).bind fun sep _ => ?_
  refine ((Value.toText_fails v).mono Error.OfReading.ofValues).bind fun text _ => ?_
  split
  · exact fails_ok _
  · exact (fails_error _).2 trivial

theorem join_fails : join.FailsByReading := by
  intro args v
  refine (separator_fails args).bind fun sep _ => ?_
  split
  · exact (Value.itemTexts_fails _).bind fun _ _ => fails_ok _
  · exact (Value.toText_fails v).bind fun _ _ => fails_ok _

theorem prepend_fails : prepend.FailsByReading :=
  fun args v => (rejoin_fails args).bind fun _ _ => (Value.toText_fails v).bind fun _ _ => fails_ok _

theorem append_fails : append.FailsByReading :=
  fun args v => (Value.toText_fails v).bind fun _ _ => (rejoin_fails args).bind fun _ _ => fails_ok _

/-! ## Dates -/

theorem offset_fails (m : Calendar.Moment) : Fails Error.OfReading m.offset := by
  rw [Calendar.Moment.offset]
  split
  · exact fails_ok _
  · split
    · exact fails_ok _
    · exact (fails_error _).2 trivial

theorem offsetText_fails (m : Calendar.Moment) : Fails Error.OfReading (Calendar.offsetText m) := by
  refine (offset_fails m).bind fun offset _ => ?_
  cases offset <;> exact fails_ok _

theorem since_fails (m other : Calendar.Moment) : Fails Error.OfReading (m.since other) := by
  rw [Calendar.Moment.since]
  split
  · exact fails_ok _
  · refine (offset_fails m).bind fun here _ => (offset_fails other).bind fun there _ => ?_
    split
    · exact fails_ok _
    · exact (fails_error _).2 trivial

theorem fillZone_fails (m : Calendar.Moment) (cs : List Char) : Fails Error.OfReading (Calendar.fillZone m cs) := by
  fun_induction Calendar.fillZone m cs with
  | case1 => exact fails_ok _
  | case2 cs ih => exact (offsetText_fails m).bind fun _ _ => ih.bind fun _ _ => fails_ok _
  | case3 cs ih => exact ih.bind fun _ _ => fails_ok _
  | case4 cs ih => exact ih.bind fun _ _ => fails_ok _
  | case5 => exact fails_ok _
  | case6 c cs _ _ _ _ ih => exact ih.bind fun _ _ => fails_ok _
  | case7 => exact fails_ok _
  | case8 c cs _ _ _ _ _ ih => exact ih.bind fun _ _ => fails_ok _

theorem formatDate_fails (today : Calendar.Date) : (formatDate today).FailsByReading := by
  intro args v
  rw [formatDate]
  split
  · next m _ =>
    have hformat (pattern : String) : Fails Error.OfReading (do
        return Value.text (← m.format (Calendar.formatOfPattern pattern))) :=
      ((fillZone_fails m _).bind fun _ _ => fails_ok _).bind fun _ _ => fails_ok _
    dsimp only
    split
    · exact hformat _
    · exact (rejoin_fails args).bind fun pattern _ => hformat pattern
  · exact fails_ok _

theorem daysUntil_fails (now : Calendar.Moment) (v : Value) : Fails Error.OfReading (v.daysUntil? now) := by
  rw [Value.daysUntil?]
  split
  · exact (since_fails _ _).bind fun _ _ => fails_ok _
  · exact fails_ok _

theorem daysAfter_fails (now : Calendar.Moment) : (daysAfter now).FailsByReading := by
  intro args v
  refine (daysUntil_fails now v).bind fun days _ => ?_
  cases days <;> exact fails_ok _

theorem daysFromNow_fails (now : Calendar.Moment) : (daysFromNow now).FailsByReading := by
  intro args v
  refine (daysUntil_fails now v).bind fun days _ => ?_
  cases days <;> exact fails_ok _

end Pipe

theorem StandardPipe.run_fails (p : StandardPipe) : p.run.FailsByReading := by
  refine Pipe.FailsWith.passingAbsence ?_
  cases p with
  | size => exact Pipe.size_fails
  | first => exact fun _ _ => fails_ok _
  | last => exact fun _ _ => fails_ok _
  | reversed => exact Pipe.reversed_fails
  | slice => exact Pipe.slice_fails
  | take => exact Pipe.counted_fails fun count => Run.cut (firstOf count)
  | takeLast => exact Pipe.counted_fails fun count => Run.cut (lastOf count)
  | filter => exact Pipe.filter_fails
  | map => exact Pipe.map_fails
  | maxNum => exact Pipe.picked_fails _

/-! ## Registries -/

namespace Registry

variable {P : Error → Prop} {Q : Pipe → Prop} {r : Registry} {s : PipeSet}

/-- What holds of the extensions and of the pipes of a set, and goes over to a pipe that absence flows past, holds of
the extensions with the set. -/
theorem forall_withSet (hpass : ∀ p : Pipe, Q p → Q p.passingAbsence) (hr : ∀ entry ∈ r.extensions, Q entry.2)
    (hs : ∀ entry ∈ s.pipes, Q entry.2) : ∀ entry ∈ (r.withSet s).extensions, Q entry.2 := by
  rw [Registry.withSet]
  refine List.foldlRecOn (motive := fun known : List (String × Pipe) => ∀ entry ∈ known, Q entry.2) s.qualified _ hr ?_
  intro known hknown entry hentry
  obtain ⟨plain, hplain, rfl⟩ := List.mem_map.1 hentry
  have hplainQ : Q plain.2 := Assoc.forall_ofList (P := fun entry => Q entry.2) hs plain hplain
  exact Assoc.forall_put (P := fun entry => Q entry.2) hknown (hpass _ hplainQ)

/-- What fails by reading and splitting have in common, all pipes that evaluation starts from have. -/
theorem forall_standard (hpass : ∀ p : Pipe, Q p → Q p.passingAbsence) (hreading : ∀ p : Pipe, p.FailsByReading → Q p)
    (hsplit : Q Pipe.split) (today : Calendar.Date) : ∀ entry ∈ (standard today).extensions, Q entry.2 := by
  have hempty : ∀ entry ∈ empty.extensions, Q entry.2 := by simp [empty]
  refine forall_withSet hpass (forall_withSet hpass (forall_withSet hpass hempty ?_) ?_) ?_
  · simp only [numberPipes, List.forall_mem_cons]
    exact ⟨hreading _ Pipe.toNumber_fails, hreading _ Pipe.round_fails, hreading _ Pipe.sum_fails,
      hreading _ (Pipe.picked_fails _), hreading _ Pipe.currency_fails, by simp⟩
  · simp only [textPipes, List.forall_mem_cons]
    exact ⟨hreading _ (Pipe.onText_fails _), hreading _ (Pipe.onText_fails _), hreading _ (Pipe.onText_fails _),
      hreading _ (Pipe.onText_fails _), hsplit, hreading _ Pipe.join_fails, hreading _ Pipe.prepend_fails,
      hreading _ Pipe.append_fails, by simp⟩
  · simp only [datePipes, List.forall_mem_cons]
    exact ⟨hreading _ (Pipe.formatDate_fails _), hreading _ (Pipe.daysAfter_fails _),
      hreading _ (Pipe.daysFromNow_fails _), by simp⟩

def FailsWith (P : Error → Prop) (r : Registry) : Prop := ∀ entry ∈ r.extensions, entry.2.FailsWith P

theorem standard_fails (today : Calendar.Date) : (standard today).FailsWith Error.OfValues :=
  forall_standard (Q := fun p => p.FailsWith Error.OfValues) (fun _ h => h.passingAbsence)
    (fun _ h => h.mono Error.OfReading.ofValues) Pipe.split_fails today

end Registry

end Stencil
