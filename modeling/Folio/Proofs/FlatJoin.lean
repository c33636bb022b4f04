-- SUMMARY: The text of a tree is one flat join of the texts of its leaves that are not empty.
import Folio.Node.Content
import Mathlib.Data.List.Basic

/-!
# Text as one flat join

The text of a tree is put together level by level, and at each level from the
right. `content_eq_intercalate` says that none of this can be seen in the result:
it is the texts of the leaves in document order, empty ones left out, with the
joiner between each two neighbours and nowhere else.

The reason is that `Text.combine` on two joins of pieces is the join of all the
pieces together (`combine_intercalate`). This needs that no piece is empty: then a
join is empty only if there is nothing to join, and leaving an empty side out does
not lose a joiner.
-/

namespace Folio

/-! ## Joins of pieces -/

namespace Text

variable {joiner : String} {xs ys : List String}

theorem combine_empty_left (rest : String) : combine joiner "" rest = rest := by
  unfold combine
  rw [if_pos rfl]

theorem combine_empty_right (part : String) : combine joiner part "" = part := by
  unfold combine
  split
  · rename_i h
    exact h.symm
  · rw [if_pos rfl]

theorem combine_of_ne_empty {part rest : String} (hpart : part ≠ "") (hrest : rest ≠ "") :
    combine joiner part rest = part ++ joiner ++ rest := by
  unfold combine joinedBy
  rw [if_neg hpart, if_neg hrest]

/-- A join of pieces is empty only if there are none, whatever the joiner. -/
theorem intercalate_eq_empty_iff (hxs : ∀ x ∈ xs, x ≠ "") :
    joiner.intercalate xs = "" ↔ xs = [] := by
  match xs with
  | [] => simp
  | [x] =>
    have hx : x ≠ "" := hxs x List.mem_cons_self
    simpa using hx
  | x :: y :: rest =>
    have hx : x ≠ "" := hxs x List.mem_cons_self
    rw [String.intercalate_cons_cons, String.append_eq_empty_iff, String.append_eq_empty_iff]
    simp [hx]

theorem combine_intercalate (hxs : ∀ x ∈ xs, x ≠ "") (hys : ∀ y ∈ ys, y ≠ "") :
    combine joiner (joiner.intercalate xs) (joiner.intercalate ys) =
      joiner.intercalate (xs ++ ys) := by
  by_cases hx : xs = []
  · rw [hx, String.intercalate_nil, combine_empty_left, List.nil_append]
  by_cases hy : ys = []
  · rw [hy, String.intercalate_nil, combine_empty_right, List.append_nil]
  have hleft : joiner.intercalate xs ≠ "" := by
    intro hempty
    exact hx ((intercalate_eq_empty_iff hxs).mp hempty)
  have hright : joiner.intercalate ys ≠ "" := by
    intro hempty
    exact hy ((intercalate_eq_empty_iff hys).mp hempty)
  rw [combine_of_ne_empty hleft hright, String.intercalate_append_of_ne_nil hx hy]

/-- Combining joins from the right gives the join of all their pieces. -/
theorem foldr_combine_intercalate {α : Type} (pieces : α → List String) (as : List α)
    (h : ∀ a ∈ as, ∀ x ∈ pieces a, x ≠ "") :
    (as.map fun a => joiner.intercalate (pieces a)).foldr (combine joiner) "" =
      joiner.intercalate (as.flatMap pieces) := by
  induction as with
  | nil => simp only [List.flatMap_nil, String.intercalate_nil, List.map_nil, List.foldr_nil]
  | cons a as ih =>
    obtain ⟨ha, has⟩ := List.forall_mem_cons.mp h
    have hrest : ∀ x ∈ as.flatMap pieces, x ≠ "" := by
      intro x hmem
      obtain ⟨b, hb, hx⟩ := List.mem_flatMap.mp hmem
      exact has b hb x hx
    simp only [List.map_cons, List.foldr_cons, ih has, List.flatMap_cons]
    exact combine_intercalate ha hrest

end Text

/-! ## Text of a tree -/

namespace Node

theorem fragments_element (tag : Tag) (children : Chain Node) :
    (Node.element tag children).fragments = children.toList.flatMap fragments := by
  unfold fragments
  rw [leafTexts_element, List.filter_flatMap]

theorem ne_empty_of_mem_fragments {node : Node} {text : String} (h : text ∈ node.fragments) :
    text ≠ "" := by
  unfold fragments at h
  obtain ⟨-, hkept⟩ := List.mem_filter.mp h
  exact of_decide_eq_true hkept

theorem content_eq_intercalate_fragments (node : Node) (joiner : String) :
    node.content joiner = joiner.intercalate node.fragments := by
  induction node using Node.induction with
  | text content =>
    unfold fragments
    rw [content_text, leafTexts_text]
    by_cases h : content = ""
    · simp [h]
    · simp [h]
  | element tag children ih =>
    have hchildren : (children.map fun child => child.content joiner).toList =
        children.toList.map fun child => joiner.intercalate child.fragments := by
      rw [Chain.toList_map]
      apply List.map_congr_left
      intro child hmem
      exact ih child hmem
    rw [content_element, Chain.foldr_eq, hchildren, fragments_element]
    apply Text.foldr_combine_intercalate
    intro child _ text htext
    exact ne_empty_of_mem_fragments htext

/-- The text of a tree is the join of the texts of its leaves in document order, without the empty
    ones; it is empty exactly if all of them are. -/
theorem content_eq_intercalate (node : Node) (joiner : String) :
    node.content joiner = joiner.intercalate (node.leafTexts.filter fun text => text ≠ "") ∧
      (node.content joiner = "" ↔ ∀ text ∈ node.leafTexts, text = "") := by
  refine ⟨content_eq_intercalate_fragments node joiner, ?_⟩
  have hpieces : ∀ text ∈ node.fragments, text ≠ "" := by
    intro text htext
    exact ne_empty_of_mem_fragments htext
  rw [content_eq_intercalate_fragments, Text.intercalate_eq_empty_iff hpieces]
  unfold fragments
  simp only [List.filter_eq_nil_iff, decide_eq_true_eq, ne_eq, not_not]

end Node

end Folio
