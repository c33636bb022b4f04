-- SUMMARY: What is said of an element with two lists of children one after the other follows from the two elements with one of them each.
import Folio.Proofs.Derivability
import Folio.Proofs.FlatJoin
import Folio.Proofs.LongestPath

/-!
# Lists of children one after the other

An element may be given its children in two parts. Each operation on documents then
has an answer that is put together from the answers for the parts
(`concatenated_children`): verdicts by "and", counts by a sum in which the element itself
is counted once, depths by the maximum, and texts by a join that an empty text does not
take part in.

The loops over children start from a value and carry it along, but what they come to is
a condition on all children, a sum over them or a join of what is in them, and these
split where the list of children does.
-/

namespace Folio.Node

variable {options : Options} {rule : Rule} {tag : Tag} {xs ys : List Node}

/-! ## Elements and their lists of children -/

theorem accepts_holding_iff :
    rule.accepts options (holding tag xs) = true ↔
      rule.admits tag.kind = true ∧ options.admitsLevel tag = true ∧
        ∀ child ∈ xs, tag.childRule.accepts options child = true := by
  unfold holding
  rw [accepts_element_iff]
  simp only [Chain.mem_ofList]

theorem count_holding (tag : Tag) (xs : List Node) :
    (holding tag xs).count = 1 + (xs.map count).sum := by
  unfold holding
  rw [count_element_eq_sum, Chain.toList_ofList]

theorem depth_holding_le_iff {levels : Nat} :
    (holding tag xs).depth ≤ levels + 1 ↔ ∀ child ∈ xs, child.depth ≤ levels := by
  unfold holding
  rw [depth_element_le_iff]
  simp only [Chain.mem_ofList]

theorem fragments_holding (tag : Tag) (xs : List Node) :
    (holding tag xs).fragments = xs.flatMap fragments := by
  unfold holding
  rw [fragments_element, Chain.toList_ofList]

/-! ## Two lists of children -/

theorem accepts_holding_append :
    rule.accepts options (holding tag (xs ++ ys)) = true ↔
      rule.accepts options (holding tag xs) = true ∧
        rule.accepts options (holding tag ys) = true := by
  simp only [accepts_holding_iff, List.forall_mem_append]
  tauto

theorem count_holding_append (tag : Tag) (xs ys : List Node) :
    (holding tag (xs ++ ys)).count + 1 = (holding tag xs).count + (holding tag ys).count := by
  simp only [count_holding, List.map_append, List.sum_append]
  omega

/-- Both sides are below the same bounds: those that all children of either list are below. -/
theorem depth_holding_append (tag : Tag) (xs ys : List Node) :
    (holding tag (xs ++ ys)).depth = max (holding tag xs).depth (holding tag ys).depth := by
  apply eq_of_forall_ge_iff
  intro bound
  rw [max_le_iff]
  cases bound with
  | zero =>
    have happend := one_le_depth (holding tag (xs ++ ys))
    have hleft := one_le_depth (holding tag xs)
    omega
  | succ levels => simp only [depth_holding_le_iff, List.forall_mem_append]

theorem content_holding_append (tag : Tag) (xs ys : List Node) (joiner : String) :
    (holding tag (xs ++ ys)).content joiner =
      Text.combine joiner ((holding tag xs).content joiner) ((holding tag ys).content joiner) := by
  have hsplit : (holding tag (xs ++ ys)).fragments =
      (holding tag xs).fragments ++ (holding tag ys).fragments := by
    simp only [fragments_holding, List.flatMap_append]
  have hpieces : ∀ list, ∀ text ∈ (holding tag list).fragments, text ≠ "" := by
    intro list text htext
    exact ne_empty_of_mem_fragments htext
  simp only [content_eq_intercalate_fragments, hsplit]
  exact (Text.combine_intercalate (hpieces xs) (hpieces ys)).symm

/-- Of an element with two lists of children one after the other: a rule accepts it exactly if it
    accepts the element with either list alone; it has as many nodes as these two have together
    without counting the element twice; it is as deep as the deeper one; and its text is the two
    texts with the joiner between them, or the one that is not empty if there are not two. -/
theorem concatenated_children (tag : Tag) (xs ys : List Node) (options : Option Options)
    (joiner : String) :
    (∀ rule : Rule, rule.accepts (Options.resolve options) (holding tag (xs ++ ys)) = true ↔
      rule.accepts (Options.resolve options) (holding tag xs) = true ∧
        rule.accepts (Options.resolve options) (holding tag ys) = true) ∧
    ((holding tag (xs ++ ys)).count : Int) =
      (holding tag xs).count + (holding tag ys).count - 1 ∧
    (holding tag (xs ++ ys)).depth = max (holding tag xs).depth (holding tag ys).depth ∧
    (holding tag (xs ++ ys)).content joiner =
      if (holding tag xs).content joiner = "" then (holding tag ys).content joiner
      else if (holding tag ys).content joiner = "" then (holding tag xs).content joiner
      else (holding tag xs).content joiner ++ joiner ++ (holding tag ys).content joiner := by
  refine ⟨?_, ?_, depth_holding_append tag xs ys, content_holding_append tag xs ys joiner⟩
  · intro rule
    exact accepts_holding_append
  · have hcount := count_holding_append tag xs ys
    omega

end Folio.Node
