-- SUMMARY: A joiner that occurs in no leaf can be cut away again, which gives back the texts of the leaves.
import Folio.Proofs.FlatJoin
import Folio.Text.Splitting

/-!
# Recovering texts from their join

The text of a tree is a join of texts that are not empty (`Folio.Proofs.FlatJoin`). If
the joiner is one character and occurs in none of them, every occurrence of it in the
join is a seam, so cutting there gives the texts back (`splitAt_content`). All that
cannot be told from the join is how the tree was nested and where its empty leaves
were.

Cutting gives at least one part, so a join of no texts at all has to be left out there.
Telling two trees apart needs no such exception, since only a join of no texts is empty.
-/

namespace Folio

/-! ## Joins with one character -/

namespace Text

variable {separator : Char} {xs ys : List String}

theorem splitAt_intercalate (hne : xs ≠ []) (h : ∀ x ∈ xs, separator ∉ x.toList) :
    (splitAt separator ((String.singleton separator).intercalate xs).toList).map String.ofList =
      xs := by
  have hparts : ∀ part ∈ xs.map String.toList, separator ∉ part := by
    intro part hpart
    obtain ⟨x, hx, rfl⟩ := List.mem_map.mp hpart
    exact h x hx
  have hsome : xs.map String.toList ≠ [] := by
    intro hnil
    exact hne (List.map_eq_nil_iff.mp hnil)
  rw [splitAt_eq_splitOn, String.toList_intercalate, String.toList_singleton,
    List.splitOn_intercalate separator hparts hsome, List.map_map]
  simp only [Function.comp_def, String.ofList_toList, List.map_id']

/-- Joins of texts that are not empty and do not have the separator in them are told apart. -/
theorem intercalate_singleton_inj
    (hxs : ∀ x ∈ xs, x ≠ "" ∧ separator ∉ x.toList) (hys : ∀ y ∈ ys, y ≠ "" ∧ separator ∉ y.toList)
    (h : (String.singleton separator).intercalate xs = (String.singleton separator).intercalate ys) :
    xs = ys := by
  have hempty : xs = [] ↔ ys = [] := by
    rw [← intercalate_eq_empty_iff fun x hx => (hxs x hx).1, h,
      intercalate_eq_empty_iff fun y hy => (hys y hy).1]
  by_cases hnil : xs = []
  · rw [hnil, hempty.mp hnil]
  · have hnil' : ys ≠ [] := fun hys => hnil (hempty.mpr hys)
    rw [← splitAt_intercalate hnil fun x hx => (hxs x hx).2, h,
      splitAt_intercalate hnil' fun y hy => (hys y hy).2]

end Text

/-! ## Text of a tree -/

namespace Node

variable {separator : Char} {node : Node}

theorem fragments_ne_nil_iff : node.fragments ≠ [] ↔ ∃ text ∈ node.leafTexts, text ≠ "" := by
  unfold fragments
  simp only [ne_eq, List.filter_eq_nil_iff, decide_eq_true_eq, not_forall, not_not, exists_prop]

/-- What no leaf has in its text is in none of the fragments either. -/
theorem fragments_without (h : ∀ text ∈ node.leafTexts, separator ∉ text.toList) :
    ∀ text ∈ node.fragments, text ≠ "" ∧ separator ∉ text.toList := by
  intro text htext
  exact ⟨ne_empty_of_mem_fragments htext, h text (List.mem_filter.mp htext).1⟩

/-- With a joiner of one character that occurs in no leaf, cutting the text of a tree at every such
    character gives back the texts of the leaves that are not empty, in document order, if there
    are any. Whether there are or not, the texts of two such trees are the same exactly if those of
    their leaves are, empty ones left out. -/
theorem splitAt_content (separator : Char) :
    (∀ node : Node, (∀ text ∈ node.leafTexts, separator ∉ text.toList) →
      (∃ text ∈ node.leafTexts, text ≠ "") →
      (Text.splitAt separator (node.content (String.singleton separator)).toList).map
          String.ofList =
        node.leafTexts.filter fun text => text ≠ "") ∧
    (∀ a b : Node, (∀ text ∈ a.leafTexts, separator ∉ text.toList) →
      (∀ text ∈ b.leafTexts, separator ∉ text.toList) →
      (a.content (String.singleton separator) = b.content (String.singleton separator) ↔
        (a.leafTexts.filter fun text => text ≠ "") = b.leafTexts.filter fun text => text ≠ "")) := by
  refine ⟨?_, ?_⟩
  · intro node hnode hsome
    have hfragments := fragments_without hnode
    rw [content_eq_intercalate_fragments]
    exact Text.splitAt_intercalate (fragments_ne_nil_iff.mpr hsome) fun x hx => (hfragments x hx).2
  · intro a b ha hb
    rw [content_eq_intercalate_fragments, content_eq_intercalate_fragments]
    constructor
    · exact Text.intercalate_singleton_inj (fragments_without ha) (fragments_without hb)
    · intro h
      exact congrArg (String.singleton separator).intercalate h

/-- Two texts in different blocks, with empty leaves and an empty block around them. -/
def sparse : Node :=
  .element .body (Chain.ofList
    [.element .para (Chain.ofList [.text "", .text "a"]), .element .div .empty,
      .element (.header 1) (Chain.ofList [.element .bold (Chain.ofList [.text "b c", .text ""])])])

/-- The same two texts in one paragraph. -/
def compact : Node :=
  .element .para (Chain.ofList [.text "a", .text "b c"])

theorem splitAt_content_sparse :
    sparse.leafTexts = ["", "a", "b c", ""] ∧ compact.leafTexts = ["a", "b c"] ∧
      (Text.splitAt '|' (sparse.content (String.singleton '|')).toList).map String.ofList =
        ["a", "b c"] ∧
      sparse.content (String.singleton '|') = compact.content (String.singleton '|') := by
  obtain ⟨hsplit, htold⟩ := splitAt_content '|'
  have hsparse : sparse.leafTexts = ["", "a", "b c", ""] := by simp [sparse]
  have hcompact : compact.leafTexts = ["a", "b c"] := by simp [compact]
  have hwithout : ∀ text ∈ sparse.leafTexts, '|' ∉ text.toList := by
    rw [hsparse]
    decide
  have hwithout' : ∀ text ∈ compact.leafTexts, '|' ∉ text.toList := by
    rw [hcompact]
    decide
  have hsome : ∃ text ∈ sparse.leafTexts, text ≠ "" := by
    rw [hsparse]
    decide
  refine ⟨hsparse, hcompact, ?_, ?_⟩
  · rw [hsplit sparse hwithout hsome, hsparse]
    decide
  · rw [htold sparse compact hwithout hwithout', hsparse, hcompact]
    decide

end Node

end Folio
