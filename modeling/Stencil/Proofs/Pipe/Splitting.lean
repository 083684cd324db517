import Stencil.Proofs.Pipe.Registration
import Stencil.Proofs.Text.Separator

/-!
Splitting a text and joining the pieces. Main statement: with the same arguments, which may be parts of one separator
with colons in it, splitting any value and joining gives the text of the value, and no piece holds the separator.
-/

namespace Stencil

open Outcome

variable {args : List String} {text : String} {v : Value}

theorem Value.itemTexts_texts (pieces : List String) : itemTexts (pieces.map .text) = .ok pieces := by
  induction pieces with
  | nil => rfl
  | cons piece pieces ih =>
    rw [List.map_cons, itemTexts, ih]
    rfl

namespace Pipe

def separatorText (args : List String) : String := if args = [] then "," else String.intercalate ":" args

theorem separator_texts (args : List String) : separator (args.map .text) = .ok (separatorText args) := by
  cases args with
  | nil => rfl
  | cons arg args => exact rejoin_texts (arg :: args)

theorem separatorText_ne_empty (h : args = [] ∨ String.intercalate ":" args ≠ "") : separatorText args ≠ "" := by
  rw [separatorText]
  split
  · decide
  · next hargs => exact h.resolve_left hargs

theorem exists_split (hsep : separatorText args ≠ "") (hv : v.toText = .ok text) :
    ∃ pieces : List String, split (args.map .text) v = .ok (.list (pieces.map .text)) ∧
      String.intercalate (separatorText args) pieces = text ∧
      ∀ piece ∈ pieces, ¬ (separatorText args).toList <:+: piece.toList := by
  have hne : (separatorText args).toList ≠ [] := by simpa using hsep
  obtain ⟨parts, hparts, hjoin, hinfix⟩ := Text.exists_splitText hne text.toList
  refine ⟨parts.map String.ofList, ?_, ?_, ?_⟩
  · rw [split, separator_texts, ok_bind, hv, ok_bind, hparts, List.map_map]
    rfl
  · rw [← String.toList_inj, Text.toList_intercalate, List.map_map, ← hjoin]
    simp [Function.comp_def]
  · simpa using hinfix

theorem join_texts (args pieces : List String) :
    join (args.map .text) (.list (pieces.map .text)) =
      .ok (.text (String.intercalate (separatorText args) pieces)) := by
  have hitems : (Value.list (pieces.map .text)).unwrap.sequence? = some (pieces.map .text) := rfl
  rw [join, separator_texts, ok_bind, hitems]
  dsimp only
  rw [Value.itemTexts_texts]
  rfl

end Pipe

namespace Registry

theorem find_split (today : Calendar.Date) :
    (standard today).find? "string.split" = some Pipe.split.passingAbsence := rfl

theorem find_join (today : Calendar.Date) : (standard today).find? "string.join" = some Pipe.join.passingAbsence := rfl

theorem join_split (today : Calendar.Date) (hv : v ≠ .absent) (htext : v.toText = .ok text)
    (hargs : args = [] ∨ String.intercalate ":" args ≠ "") :
    ∃ pieces : List String,
      (standard today).apply "string.split" (args.map .text) v = .ok (.list (pieces.map .text)) ∧
      (standard today).apply "string.join" (args.map .text) (.list (pieces.map .text)) = .ok (.text text) ∧
      ∀ piece ∈ pieces, ¬ (Pipe.separatorText args).toList <:+: piece.toList := by
  obtain ⟨pieces, hsplit, hjoin, hinfix⟩ := Pipe.exists_split (Pipe.separatorText_ne_empty hargs) htext
  refine ⟨pieces, ?_, ?_, hinfix⟩
  · rw [apply_of_find (find_split today), Pipe.passingAbsence, if_neg, hsplit]
    cases v <;> simp_all [Value.isAbsent]
  · rw [apply_of_find (find_join today), Pipe.passingAbsence, if_neg (by simp [Value.isAbsent]), Pipe.join_texts, hjoin]

theorem join_split_overlap :
    ∃ pieces : List String,
      (standard ⟨2025, 1, 20⟩).apply "string.split" [.text "a", .text "a"] (.node (.text "a:a:a:ab")) =
        .ok (.list (pieces.map .text)) ∧
      (standard ⟨2025, 1, 20⟩).apply "string.join" [.text "a", .text "a"] (.list (pieces.map .text)) =
        .ok (.text "a:a:a:ab") ∧
      ∀ piece ∈ pieces, ¬ "a:a".toList <:+: piece.toList := by
  have hpresent : Value.node (.text "a:a:a:ab") ≠ .absent := nofun
  have hargs : ["a", "a"] = [] ∨ String.intercalate ":" ["a", "a"] ≠ "" := .inr (by decide)
  exact join_split ⟨2025, 1, 20⟩ hpresent rfl hargs

end Registry

end Stencil
