import Stencil.Value.Tree

/-!
The values that documents hold: words, numbers and texts, and lists and maps of them whose keys are texts.
-/

namespace Stencil.Value

inductive IsDocument : Value → Prop
  | absent : IsDocument .absent
  | bool (b : Bool) : IsDocument (.bool b)
  | int (n : Int) : IsDocument (.int n)
  | float (x : Float) : IsDocument (.float x)
  | text (s : String) : IsDocument (.text s)
  | list {items : List Value} : (∀ v ∈ items, IsDocument v) → IsDocument (.list items)
  | map {entries : List (Value × Value)} : (∀ entry ∈ entries, ∃ s, entry.1 = .text s) →
      (∀ entry ∈ entries, IsDocument entry.2) → IsDocument (.map entries)

variable {v : Value} {items : List Value} {entries : List (Value × Value)}

theorem IsDocument.unwrap_eq (h : v.IsDocument) : v.unwrap = v := by
  cases h <;> rfl

theorem IsDocument.of_list (h : (Value.list items).IsDocument) : ∀ v ∈ items, v.IsDocument := by
  cases h with
  | list h => exact h

theorem IsDocument.of_map (h : (Value.map entries).IsDocument) :
    ∀ entry ∈ entries, (∃ s, entry.1 = .text s) ∧ entry.2.IsDocument := by
  cases h with
  | map hk hv => exact fun entry he => ⟨hk entry he, hv entry he⟩

theorem isDocument_map_iff :
    (map entries).IsDocument ↔ ∀ entry ∈ entries, (∃ s, entry.1 = .text s) ∧ entry.2.IsDocument :=
  ⟨IsDocument.of_map, fun h => .map (fun entry he => (h entry he).1) fun entry he => (h entry he).2⟩

theorem mem_of_lookup {name : String} (h : lookup? entries name = some v) : (.text name, v) ∈ entries := by
  fun_induction lookup? entries name with
  | case1 => cases h
  | case2 key value rest =>
    cases h
    simp
  | case3 key value rest name hk ih => exact List.mem_cons_of_mem _ (ih h)
  | case4 entry rest name _ ih => exact List.mem_cons_of_mem _ (ih h)

theorem IsDocument.lookup {name : String} (hd : (Value.map entries).IsDocument)
    (h : lookup? entries name = some v) : v.IsDocument :=
  (hd.of_map _ (mem_of_lookup h)).2

theorem mem_of_elementAt {index : Int} (h : elementAt? items index = some v) : v ∈ items := by
  rw [elementAt?] at h
  split at h
  · exact List.mem_of_getElem? h
  · split at h
    · exact List.mem_of_getElem? h
    · cases h

theorem IsDocument.elementAt {index : Int} (hd : (Value.list items).IsDocument)
    (h : elementAt? items index = some v) : v.IsDocument :=
  hd.of_list v (mem_of_elementAt h)

inductive HasDistinctKeys : Value → Prop
  | leaf {v : Value} : v.isLeaf = true → HasDistinctKeys v
  | list {items : List Value} : (∀ v ∈ items, HasDistinctKeys v) → HasDistinctKeys (.list items)
  | map {entries : List (Value × Value)} : (entries.map Prod.fst).Nodup →
      (∀ entry ∈ entries, HasDistinctKeys entry.2) → HasDistinctKeys (.map entries)

theorem HasDistinctKeys.of_list (h : (Value.list items).HasDistinctKeys) : ∀ v ∈ items, v.HasDistinctKeys := by
  cases h with
  | leaf hl => cases hl
  | list h => exact h

theorem HasDistinctKeys.of_map (h : (Value.map entries).HasDistinctKeys) :
    (entries.map Prod.fst).Nodup ∧ ∀ entry ∈ entries, entry.2.HasDistinctKeys := by
  cases h with
  | leaf hl => cases hl
  | map hk hv => exact ⟨hk, hv⟩

theorem HasDistinctKeys.lookup {name : String} (hd : (Value.map entries).HasDistinctKeys)
    (h : lookup? entries name = some v) : v.HasDistinctKeys :=
  hd.of_map.2 _ (mem_of_lookup h)

end Stencil.Value
