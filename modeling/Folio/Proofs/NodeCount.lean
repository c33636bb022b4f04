-- SUMMARY: The number of nodes of a tree is the number of its positions; how edits and reorderings change it.
import Folio.Node.Measure
import Folio.Proofs.Positions
import Mathlib.Data.Set.Card
import Mathlib.Logic.Relation

/-!
# Counting positions

Counting adds up from child to child; what it counts are the places that can be
reached from the root by following child indices (`encard_positions_eq_count`). So a
subtree that is replaced takes with it as many nodes as it has, and the order of
siblings does not matter anywhere in the tree.

Both follow from the number being one more than the sum of the numbers of the children
(`count_element_eq_sum`).
-/

namespace Folio.Node

variable {node tree edited old new child : Node} {children others : Chain Node} {path : Position}
  {index : Nat}

/-! ## Adding up -/

theorem foldl_add_count (children : Chain Node) (base : Nat) :
    children.foldl (fun child total => total + child.count) base =
      base + (children.toList.map count).sum := by
  induction children generalizing base with
  | empty => rfl
  | cons child rest ih =>
    rw [Chain.foldl_cons, ih, Chain.toList_cons, List.map_cons, List.sum_cons, Nat.add_assoc]

/-- An element counts for one besides its children. -/
theorem count_element_eq_sum (tag : Tag) (children : Chain Node) :
    (Node.element tag children).count = 1 + (children.toList.map count).sum := by
  rw [count_element, foldl_add_count]

theorem length_preorder (node : Node) : node.preorder.length = node.count := by
  induction node using Node.induction with
  | text content => simp
  | element tag children ih =>
    have hchildren : children.toList.map (fun child => child.preorder.length) =
        children.toList.map count := List.map_congr_left ih
    rw [preorder_element, List.length_cons, ← List.flatMap_def, List.length_flatMap, hchildren,
      count_element_eq_sum, Nat.add_comm]

theorem length_positions (node : Node) : node.positions.length = node.count := by
  have hlength := congrArg List.length (map_at?_positions node)
  rw [List.length_map, List.length_map, length_preorder] at hlength
  exact hlength

/-- As many positions can be followed from the root as there are nodes. -/
theorem encard_setOf_at? (node : Node) :
    {path : Position | ∃ found, node.at? path = some found}.encard = node.count := by
  have hlisted : {path : Position | ∃ found, node.at? path = some found} =
      ↑node.positions.toFinset := by
    ext path
    rw [Finset.mem_coe, List.mem_toFinset, mem_positions_iff]
    rfl
  rw [hlisted, Set.encard_coe_eq_coe_finsetCard, List.toFinset_card_of_nodup (nodup_positions node),
    length_positions]

/-! ## Replacing a subtree -/

/-- The sum with one term changed. -/
theorem sum_map_set {α : Type} {xs : List α} {x : α} (value : α → Nat) (h : xs[index]? = some x)
    (y : α) : ((xs.set index y).map value).sum + value x = (xs.map value).sum + value y := by
  induction xs generalizing index with
  | nil => cases h
  | cons first rest ih =>
    cases index with
    | zero =>
      cases h
      simp only [List.set_cons_zero, List.map_cons, List.sum_cons]
      omega
    | succ index =>
      have hrest := ih h
      simp only [List.set_cons_succ, List.map_cons, List.sum_cons]
      omega

theorem count_set_child (tag : Tag) (h : children.toList[index]? = some child) (new : Node) :
    ((Node.element tag children).editChildren fun list => list.set index new).count + child.count =
      (Node.element tag children).count + new.count := by
  have hedited : ((Node.element tag children).editChildren fun list => list.set index new) =
      .element tag (Chain.ofList (children.toList.set index new)) := rfl
  have hsum := sum_map_set count h new
  rw [hedited, count_element_eq_sum, count_element_eq_sum, Chain.toList_ofList]
  omega

/-- What is put in the place of a subtree makes up for what is taken away. -/
theorem count_replaceAt? (hold : node.at? path = some old) (new : Node) :
    ∃ edited, node.replaceAt? path new = some edited ∧
      edited.count + old.count = node.count + new.count := by
  refine exists_replaceAt? (fun before after => after.count + old.count = before.count + new.count)
    ?_ hold (Nat.add_comm new.count old.count)
  intro tag children index child below hget hcount
  have hset := count_set_child tag hget below
  omega

/-! ## Reordering siblings -/

/-- A tree with the children of one element in another order, wherever the element stands. -/
def ReorderedAt (tree edited : Node) : Prop :=
  ∃ path tag children others,
    tree.at? path = some (.element tag children) ∧ others.toList.Perm children.toList ∧
      tree.replaceAt? path (.element tag others) = some edited

theorem count_eq_of_perm (tag : Tag) (h : others.toList.Perm children.toList) :
    (Node.element tag others).count = (Node.element tag children).count := by
  rw [count_element_eq_sum, count_element_eq_sum, (h.map count).sum_eq]

theorem count_eq_of_reorderedAt (h : ReorderedAt tree edited) : edited.count = tree.count := by
  obtain ⟨path, tag, children, others, hold, hperm, hedited⟩ := h
  obtain ⟨edited', hedited', hcount⟩ := count_replaceAt? hold (.element tag others)
  rw [hedited] at hedited'
  cases hedited'
  have hsame := count_eq_of_perm tag hperm
  omega

theorem count_eq_of_reordered (h : Relation.ReflTransGen ReorderedAt tree edited) :
    edited.count = tree.count := by
  induction h with
  | refl => rfl
  | tail _ hstep ih => exact (count_eq_of_reorderedAt hstep).trans ih

/-- The number of nodes of a tree is the number of paths of child indices that can be followed from
    its root. It changes by the difference of the two numbers when a subtree is replaced by another,
    and not at all when the children of elements are reordered, at any positions, one after the
    other. -/
theorem encard_positions_eq_count (node : Node) :
    {path : Position | ∃ found, node.at? path = some found}.encard = node.count ∧
    (∀ path old new, node.at? path = some old →
      ∃ edited, node.replaceAt? path new = some edited ∧
        (edited.count : Int) = node.count - old.count + new.count) ∧
    (∀ edited, Relation.ReflTransGen ReorderedAt node edited → edited.count = node.count) := by
  refine ⟨encard_setOf_at? node, ?_, ?_⟩
  · intro path old new hold
    obtain ⟨edited, hedited, hcount⟩ := count_replaceAt? hold new
    refine ⟨edited, hedited, ?_⟩
    omega
  · intro edited h
    exact count_eq_of_reordered h

/-- A paragraph of two texts before a division. -/
def paired : Node :=
  .element .body (Chain.ofList
    [.element .para (Chain.ofList [.text "a", .text "b"]), .element .div .empty])

/-- The same blocks and the same texts, both in the other order. -/
def swapped : Node :=
  .element .body (Chain.ofList
    [.element .div .empty, .element .para (Chain.ofList [.text "b", .text "a"])])

theorem count_paired_edited :
    (∃ edited, paired.replaceAt? [0, 1] (.element .bold (Chain.ofList [.text "c", .text "d"])) =
        some edited ∧ edited.count = 7) ∧
      Relation.ReflTransGen ReorderedAt paired swapped ∧ swapped.count = paired.count := by
  obtain ⟨-, hreplace, hreorder⟩ := encard_positions_eq_count paired
  have hpaired : paired.count = 5 := rfl
  have htexts : ReorderedAt paired (.element .body (Chain.ofList
      [.element .para (Chain.ofList [.text "b", .text "a"]), .element .div .empty])) :=
    ⟨[0], .para, Chain.ofList [.text "a", .text "b"], Chain.ofList [.text "b", .text "a"], rfl,
      List.Perm.swap _ _ [], rfl⟩
  have hblocks : ReorderedAt (.element .body (Chain.ofList
      [.element .para (Chain.ofList [.text "b", .text "a"]), .element .div .empty])) swapped :=
    ⟨[], .body, _, swapped.children, rfl, List.Perm.swap _ _ [], rfl⟩
  have hreordered := (Relation.ReflTransGen.single htexts).tail hblocks
  refine ⟨?_, hreordered, hreorder swapped hreordered⟩
  obtain ⟨edited, hedited, hcount⟩ := hreplace [0, 1] (.text "b")
    (.element .bold (Chain.ofList [.text "c", .text "d"])) rfl
  have hold : (Node.text "b").count = 1 := rfl
  have hnew : (Node.element .bold (Chain.ofList [.text "c", .text "d"])).count = 3 := rfl
  refine ⟨edited, hedited, ?_⟩
  omega

end Folio.Node
