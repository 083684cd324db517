import Stencil.Proofs.Template.Written

/-!
Templates written back. Main statement: the source of a template that was read is the text that it was read from,
character for character.
-/

namespace Stencil.Template

variable {cs segment body : List Char} {nodes : List Node} {k : KeyRef} {e : Expression}

/-! ## What is read is not empty -/

theorem ReadsName.ne_nil {name : String} {path : Option String} (h : ReadsName cs name path) : cs ≠ [] :=
  (nameForm_iff.2 ⟨name, path, h⟩).1

theorem ReadsKey.ne_nil (h : ReadsKey segment k) : segment ≠ [] := by
  rintro rfl
  have htrim : Text.trim [] ≠ [] := (keyForm_iff.2 ⟨k, h⟩).1
  exact htrim rfl

theorem ReadsBody.ne_nil (h : ReadsBody body e) : body ≠ [] := by
  obtain ⟨-, first, rest, hcut, hkey, -⟩ := h
  rintro rfl
  have hsplit : Text.splitChar '|' [] = first :: rest := Text.splitChar_eq_iff.2 hcut
  obtain ⟨rfl, -⟩ := List.cons.inj hsplit
  exact hkey.ne_nil rfl

/-- The canonical form never stands in for the source of an expression that was read. -/
theorem ReadsBody.toSource_eq (h : ReadsBody body e) : e.toSource = braced (textOf body) := by
  have hsource : e.source = textOf body := h.1
  have hne : textOf body ≠ "" := by simpa [textOf] using h.ne_nil
  rw [Expression.toSource, hsource, if_neg hne]

/-! ## Sources of nodes -/

theorem toSource_cons (node : Node) (nodes : List Node) :
    (Template.mk (node :: nodes)).toSource = node.toSource ++ (Template.mk nodes).toSource := by
  rw [toSource, List.map_cons, String.join_cons, toSource]

theorem toSource_literalNodes_append (text : List Char) (nodes : List Node) :
    (Template.mk (literalNodes text ++ nodes)).toSource = textOf text ++ (Template.mk nodes).toSource := by
  rw [literalNodes]
  split
  · next ht => simp [ht, textOf]
  · rw [List.singleton_append, toSource_cons, Node.toSource]

theorem Written.toSource_eq (h : Written cs nodes) : (Template.mk nodes).toSource = textOf cs := by
  induction h with
  | @plain text _ =>
    have htext := toSource_literalNodes_append text []
    rw [List.append_nil] at htext
    rw [htext]
    simp [toSource]
  | @expression text body after e nodes _ _ _ he _ ih =>
    rw [toSource_literalNodes_append, toSource_cons, Node.toSource, he.toSource_eq, ih, braced]
    simp [textOf, ← String.toList_inj]

/-- A template that was read is written back as the text that it was read from. -/
theorem toSource_of_parse {source : String} {t : Template} (h : parse source = .ok t) : t.toSource = source := by
  have hwritten : Written source.toList t.nodes := parse_eq_ok_iff.1 h
  calc
    t.toSource = textOf source.toList := hwritten.toSource_eq
    _ = source := by simp [textOf]

/-- Marks without partners, a bare dot and blanks within the braces, and two expressions side by side. -/
theorem toSource_beside_marks :
    ∃ t, parse "\x7d$$\x7b a : b .\x7d$\x7bc|take:1 \x7d\x7b" = .ok t ∧
      t.toSource = "\x7d$$\x7b a : b .\x7d$\x7bc|take:1 \x7d\x7b" := by
  have hparse : parse "\x7d$$\x7b a : b .\x7d$\x7bc|take:1 \x7d\x7b" = .ok ⟨[.literal "\x7d$",
      .expression ⟨⟨some "a", "b ", none⟩, [], " a : b ."⟩,
      .expression ⟨⟨none, "c", none⟩, [⟨"take", ["1"]⟩], "c|take:1 "⟩, .literal "\x7b"]⟩ := by cbv
  exact ⟨_, hparse, toSource_of_parse hparse⟩

end Stencil.Template
