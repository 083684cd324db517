import Stencil.Evaluator
import Stencil.Proofs.Path.Fields

/-!
Queries that read one field after the other. Main statement: such a query finds in a document what the dotted path of
the same names leads to.
-/

namespace Stencil

open Outcome

variable {d v : Value} {name : String} {names : List String} {rest : List Char}

namespace Query

def chain (names : List String) : Query := names.foldl (fun q name => .child q (.fields [name])) .root

def chainText (names : List String) : String := "$." ++ String.intercalate "." names

/-- One token: the characters are those of names, and the whole is no joint. -/
structure IsName (name : String) : Prop where
  spelled : ∃ c cs, name.toList = c :: cs ∧ isNameStart c ∧ ∀ d ∈ cs, isNamePart d
  free : Token.ofWord name = .name name

/-! ## Tokens -/

def fieldTokens (names : List String) : List Token := names.flatMap fun name => [.dot, .name name]

theorem scan_name (h : IsName name) (hrest : ∀ c ∈ rest.head?, isNamePart c = false) :
    scan (name.toList ++ rest) = (scan rest).map (.name name :: ·) := by
  obtain ⟨⟨c, cs, hname, hc, hcs⟩, hfree⟩ := h
  have hdot : c ≠ '.' := by
    rintro rfl
    exact absurd hc (by decide)
  have hseparator : isSeparator c = false := by
    by_contra hs
    simp only [isSeparator, Bool.not_eq_false, Bool.or_eq_true, decide_eq_true_eq] at hs
    rcases hs with (rfl | rfl) | rfl <;> exact absurd hc (by decide)
  have hword : String.ofList (c :: cs) = name := by rw [← hname, String.ofList_toList]
  rw [hname, List.cons_append, scan]
  · rw [if_neg (by simp [hseparator]), if_pos hc, Text.takeWhile_append_eq hcs hrest,
      Text.dropWhile_append_eq hcs hrest, hword, hfree]
  · exact fun _ he _ => hdot he

theorem scan_dot {c : Char} (hc : c ≠ '.') (rest : List Char) :
    scan ('.' :: c :: rest) = (scan (c :: rest)).map (.dot :: ·) := by
  rw [scan]
  · rfl
  · rintro rest' - he
    exact hc (List.cons.inj he).1

theorem scan_fields (h : ∀ name ∈ names, IsName name) :
    scan (names.flatMap fun name => '.' :: name.toList) = some (fieldTokens names) := by
  induction names with
  | nil => rw [List.flatMap_nil, scan, fieldTokens, List.flatMap_nil]
  | cons name names ih =>
    obtain ⟨hname, hnames⟩ := List.forall_mem_cons.1 h
    have hrest : ∀ c ∈ (names.flatMap fun name => '.' :: name.toList).head?, isNamePart c = false := by
      cases names with
      | nil => simp
      | cons next names =>
        rintro c ⟨⟩
        decide
    obtain ⟨c, cs, hspelled, hc, -⟩ := hname.spelled
    have hdot : c ≠ '.' := by
      rintro rfl
      exact absurd hc (by decide)
    have hscan := scan_name hname hrest
    rw [hspelled, List.cons_append] at hscan
    rw [List.flatMap_cons, hspelled, List.cons_append, List.cons_append, scan_dot hdot, hscan, ih hnames]
    rfl

theorem scan_chainText (hne : names ≠ []) (h : ∀ name ∈ names, IsName name) :
    scan (chainText names).toList = some (.root :: fieldTokens names) := by
  have hlist : (chainText names).toList = '$' :: names.flatMap fun name => '.' :: name.toList := by
    have hparts : names.map String.toList ≠ [] := by simpa using hne
    have hjoin : ['.'] ++ Text.joinWith ['.'] (names.map String.toList) =
        names.flatMap fun name => '.' :: name.toList := by
      rw [Text.append_joinWith hparts, List.flatMap_map]
      rfl
    rw [chainText, String.toList_append, Text.toList_intercalate]
    exact congrArg ('$' :: ·) hjoin
  rw [hlist, scan, scan_fields h]
  · rfl
  · rintro _ ⟨⟩

/-! ## Items -/

def fieldItems (names : List String) : List Item :=
  names.flatMap fun name => [.joint .child, .operand (.fields [name])]

theorem itemsOf_of_begin {token : Token} {items : List Item} {pending : Pending}
    (h : begin? token = some (items, pending)) (rest : List Token) :
    itemsOf .nothing (token :: rest) = (itemsOf pending rest).map (items ++ ·) := by
  rw [itemsOf, h]
  cases hitems : itemsOf pending rest <;> simp [hitems]

theorem itemsOf_names {token : Token} (h : token ≠ .comma) (seen : List String) (rest : List Token) :
    itemsOf (.names seen) (token :: rest) =
      (itemsOf .nothing (token :: rest)).map (.operand (.fields seen) :: ·) := by
  rw [itemsOf, itemsOf]
  · cases begin? token with
    | none => rfl
    | some begun =>
      obtain ⟨items, pending⟩ := begun
      cases hitems : itemsOf pending rest <;> simp [hitems]
  · exact h

theorem itemsOf_fieldTokens (names : List String) : itemsOf .nothing (fieldTokens names) = some (fieldItems names) := by
  induction names with
  | nil => rfl
  | cons name names ih =>
    -- A name that another one follows ends at the dot before that one.
    have hname : itemsOf (.names [name]) (fieldTokens names) =
        some (.operand (.fields [name]) :: fieldItems names) := by
      cases names with
      | nil => rfl
      | cons next names =>
        have hdot : Token.dot ≠ .comma := nofun
        rw [fieldTokens, List.flatMap_cons, List.cons_append] at ih ⊢
        rw [itemsOf_names hdot, ih, Option.map_some]
    have htokens : fieldTokens (name :: names) = .dot :: .name name :: fieldTokens names := rfl
    rw [htokens, itemsOf_of_begin rfl, itemsOf_of_begin rfl, hname]
    rfl

/-! ## Queries -/

theorem assemble_fieldItems {frames : List Frame} {left whole : Query}
    (h : ∀ level ≤ Joint.child.level, reduce level left frames = (whole, [])) (names : List String) :
    assemble frames (some left) (fieldItems names) =
      some (names.foldl (fun q name => .child q (.fields [name])) whole) := by
  induction names generalizing frames left whole with
  | nil =>
    rw [fieldItems, List.flatMap_nil, assemble, h 0 (Nat.zero_le _)]
    rfl
  | cons name names ih =>
    have hitems : fieldItems (name :: names) = .joint .child :: .operand (.fields [name]) :: fieldItems names := rfl
    rw [hitems, assemble, h _ (Nat.le_refl _)]
    dsimp only
    rw [assemble, List.foldl_cons]
    refine ih fun level hlevel => ?_
    rw [reduce, if_pos hlevel]
    rfl

theorem parse_chainText (hne : names ≠ []) (h : ∀ name ∈ names, IsName name) :
    parse? (chainText names) = some (chain names) := by
  have hitems : itemsOf .nothing (.root :: fieldTokens names) = some (.operand .root :: fieldItems names) := by
    rw [itemsOf_of_begin rfl, itemsOf_fieldTokens]
    rfl
  rw [parse?, scan_chainText hne h]
  change ofTokens? _ = _
  rw [ofTokens?, hitems]
  change assemble [] none _ = _
  rw [assemble]
  exact assemble_fieldItems (fun _ _ => rfl) names

/-! ## Matches -/

def Finds (q : Query) (p : Place) (found : Option Value) : Prop :=
  (found = none ∧ q.find p = .ok []) ∨ ∃ v above, found = some v ∧ q.find p = .ok [v :: above]

theorem find_fields (hstar : name ≠ "*") (v : Value) (above : Place) :
    find (.fields [name]) (v :: above) = .ok ((v.field? name).toList.map (· :: v :: above)) := by
  cases v with
  | map entries =>
    have hno : "*" ∉ [name] := by simpa using hstar.symm
    rw [find, matchFields, valueOf, List.headD_cons]
    dsimp only
    rw [if_neg hno, Value.field?, List.filterMap_cons, List.filterMap_nil]
    cases Value.lookup? entries name <;> rfl
  | _ => rfl

theorem Finds.child {q : Query} {p : Place} {found : Option Value} (h : q.Finds p found) (hstar : name ≠ "*") :
    (Query.child q (.fields [name])).Finds p (found.bind (·.field? name)) := by
  rcases h with ⟨rfl, hfind⟩ | ⟨v, above, rfl, hfind⟩
  · refine .inl ⟨rfl, ?_⟩
    rw [find, hfind]
    rfl
  · have hone : (Query.child q (.fields [name])).find p = .ok ((v.field? name).toList.map (· :: v :: above)) := by
      rw [find, hfind, ok_bind, List.mapM_cons, find_fields hstar, List.mapM_nil]
      simp
    cases he : v.field? name with
    | none => exact .inl ⟨he, by rw [hone, he]; rfl⟩
    | some w => exact .inr ⟨w, v :: above, he, by rw [hone, he]; rfl⟩

theorem Finds.fields {q : Query} {p : Place} {found : Option Value} (h : q.Finds p found)
    (hstar : ∀ name ∈ names, name ≠ "*") :
    (names.foldl (fun q name => .child q (.fields [name])) q).Finds p (found.bind (·.descend names)) := by
  induction names generalizing q found with
  | nil => cases found <;> exact h
  | cons name names ih =>
    obtain ⟨hname, hnames⟩ := List.forall_mem_cons.1 hstar
    have hnext := ih (h.child hname) hnames
    rw [Option.bind_assoc] at hnext
    exact hnext

theorem find_chain (d : Value) (hstar : ∀ name ∈ names, name ≠ "*") : (chain names).Finds [d] (d.descend names) :=
  Finds.fields (.inr ⟨d, [], rfl, rfl⟩) hstar

theorem evaluate_of_node (expression : String) (hd : d.IsDocument) :
    evaluate expression (.node d) = evaluate expression d := by
  cases hd <;> rfl

theorem evaluate_chain (hparse : parse? (chainText names) = some (chain names)) (hstar : ∀ name ∈ names, name ≠ "*")
    (hd : d.IsDocument) : evaluate (chainText names) d = .ok (d.descend names).toList := by
  have hroot : evaluate (chainText names) d = (chain names).find [d] >>= fun places => places.mapM placeValue := by
    unfold evaluate
    rw [hparse]
    cases hd <;> rfl
  rw [hroot]
  rcases find_chain d hstar with ⟨hnone, hfind⟩ | ⟨v, above, hsome, hfind⟩
  · rw [hfind, hnone]
    rfl
  · rw [hfind, hsome]
    rfl

end Query

namespace IsIdentifier

theorem ne_star (h : IsIdentifier name) : name ≠ "*" := by
  rintro rfl
  obtain ⟨c, cs, hname, hc, -⟩ := h
  obtain ⟨rfl, -⟩ := List.cons.inj hname
  exact absurd hc (by decide)

theorem head_ne_dollar (h : IsIdentifier name) : name.toList.head? ≠ some '$' := by
  obtain ⟨c, cs, hname, hc, -⟩ := h
  rw [hname, List.head?_cons]
  rintro ⟨⟩
  exact absurd hc (by decide)

end IsIdentifier

namespace Evaluator

theorem getPath_identifiers (hd : d.IsDocument) (hne : names ≠ []) (h : ∀ name ∈ names, IsIdentifier name) :
    getPath (String.intercalate "." names) d = .ok ((d.descend names).getD .absent) := by
  have hhead : (String.intercalate "." names).toList.head? ≠ some '$' := by
    obtain ⟨name, names, rfl⟩ := List.exists_cons_of_ne_nil hne
    have hname := h name (by simp)
    have hpart : name.toList ≠ [] := by simpa using hname.ne_empty
    obtain ⟨rest, hrest⟩ := Text.isPrefix_joinWith ".".toList name.toList (names.map String.toList)
    rw [Text.toList_intercalate, List.map_cons, ← hrest, List.head?_append_of_ne_nil _ hpart]
    exact hname.head_ne_dollar
  rw [getPath_of_head hhead, Path.navigate_identifiers hd hne h]

theorem getPath_chainText_eq (names : List String) (context : Value) :
    getPath (Query.chainText names) context =
      Query.evaluate (Query.chainText names) context >>= fun found => .ok (found.headD .absent) :=
  getPath_of_dollar (show (Query.chainText names).toList = '$' :: _ from String.toList_append) context

theorem getPath_chainText (hparse : Query.parse? (Query.chainText names) = some (Query.chain names))
    (hstar : ∀ name ∈ names, name ≠ "*") (hd : d.IsDocument) :
    getPath (Query.chainText names) d = .ok ((d.descend names).getD .absent) := by
  rw [getPath_chainText_eq, Query.evaluate_chain hparse hstar hd]
  cases d.descend names <;> rfl

/-- Names that are tokens are read as the chain of their fields. Names that are read so lead to the same in a document as
the dotted path, and to the same in the node of the document. -/
theorem getPath_chain_eq_dotted (hd : d.IsDocument) (hne : names ≠ []) (h : ∀ name ∈ names, IsIdentifier name) :
    getPath (String.intercalate "." names) d = .ok ((d.descend names).getD .absent) ∧
      ((∀ name ∈ names, Query.IsName name) → Query.parse? (Query.chainText names) = some (Query.chain names)) ∧
      (Query.parse? (Query.chainText names) = some (Query.chain names) →
        getPath (Query.chainText names) d = getPath (String.intercalate "." names) d ∧
        getPath (Query.chainText names) (.node d) = getPath (String.intercalate "." names) d) := by
  have hdotted := getPath_identifiers hd hne h
  refine ⟨hdotted, Query.parse_chainText hne, fun hparse => ?_⟩
  have hquery := getPath_chainText hparse (fun name hname => (h name hname).ne_star) hd
  refine ⟨hquery.trans hdotted.symm, ?_⟩
  rw [getPath_chainText_eq, Query.evaluate_of_node _ hd, ← getPath_chainText_eq]
  exact hquery.trans hdotted.symm

theorem getPath_chain_eq_dotted_order :
    let d : Value := .map [(.text "order", .map [(.text "_id2", .list [.int 7, .absent])])]
    d.IsDocument ∧ (∀ name ∈ ["order", "_id2"], IsIdentifier name ∧ Query.IsName name) ∧
      getPath "order._id2" d = .ok (.list [.int 7, .absent]) ∧
      getPath "$.order._id2" d = .ok (.list [.int 7, .absent]) ∧
      getPath "$.order._id2" (.node d) = .ok (.list [.int 7, .absent]) := by
  intro d
  have hd : d.IsDocument := by
    refine .map (by simp) ?_
    simp only [List.forall_mem_singleton]
    refine .map (by simp) ?_
    simp only [List.forall_mem_singleton]
    exact .list (List.forall_mem_cons.2 ⟨.int 7, by simpa using .absent⟩)
  have hidentifier : ∀ name ∈ ["order", "_id2"], IsIdentifier name := by
    rw [List.forall_mem_cons, List.forall_mem_singleton]
    exact ⟨⟨'o', "rder".toList, rfl, by decide, List.all_eq_true.1 (by decide)⟩,
      ⟨'_', "id2".toList, rfl, by decide, List.all_eq_true.1 (by decide)⟩⟩
  have hname : ∀ name ∈ ["order", "_id2"], Query.IsName name := by
    rw [List.forall_mem_cons, List.forall_mem_singleton]
    exact ⟨⟨⟨'o', "rder".toList, rfl, by decide, List.all_eq_true.1 (by decide)⟩, by decide⟩,
      ⟨⟨'_', "id2".toList, rfl, by decide, List.all_eq_true.1 (by decide)⟩, by decide⟩⟩
  obtain ⟨hdotted, hparse, hagree⟩ := getPath_chain_eq_dotted hd (List.cons_ne_nil _ _) hidentifier
  have hboth := hagree (hparse hname)
  have hfound : getPath "order._id2" d = .ok (.list [.int 7, .absent]) := hdotted
  exact ⟨hd, fun name hmem => ⟨hidentifier name hmem, hname name hmem⟩, hfound, hboth.1.trans hfound,
    hboth.2.trans hfound⟩

end Evaluator

end Stencil
