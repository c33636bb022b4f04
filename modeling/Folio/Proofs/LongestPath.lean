-- SUMMARY: The depth of a tree is the number of nodes on a longest way down; it is that of all nodes if nothing branches.
import Folio.Proofs.NodeCount
import Mathlib.Algebra.Order.BigOperators.Group.List

/-!
# The longest way down

A way down from a node goes from parent to child, and each node on it counts once.
`depth_eq_longest_descent` says that the depth is the length of a longest such way:
no way is longer, since each step down makes the depth smaller, and one is as long,
since a child that is deepest is one level less deep than its parent.

Depth takes the maximum where counting takes the sum, so the depth is at most the
number of nodes. The two are the same exactly if no node has two children
(`depth_eq_count_iff`): a second child counts, but does not make the tree deeper.
-/

namespace Folio.Node

variable {node child : Node} {children : Chain Node} {below : List Node}

/-- The nodes below lead down from a node: each is a child of the one before it. -/
def Descent (node : Node) (below : List Node) : Prop :=
  (node :: below).IsChain fun parent child => child ∈ parent.children

/-! ## One level -/

theorem one_le_count (node : Node) : 1 ≤ node.count := by
  cases node with
  | text content => exact Nat.le_of_eq (count_text content).symm
  | element tag children =>
    rw [count_element_eq_sum]
    exact Nat.le_add_right 1 _

theorem depth_lt_of_mem_children (h : child ∈ node.children) : child.depth < node.depth := by
  cases node with
  | text content => exact absurd h (Chain.not_mem_empty child)
  | element tag children =>
    obtain ⟨levels, hlevels, hchildren⟩ := exists_depth_element tag children
    rw [hlevels]
    exact Nat.lt_succ_of_le (hchildren child h)

/-- Unless it has no children, an element has a child that makes it as deep as it is. -/
theorem exists_mem_depth_add_one (tag : Tag) (h : child ∈ children) :
    ∃ deepest ∈ children, deepest.depth + 1 = (Node.element tag children).depth := by
  obtain ⟨levels, hlevels, hchildren⟩ := exists_depth_element tag children
  by_contra hnone
  have hless : ∀ other ∈ children, other.depth ≤ levels - 1 := by
    intro other hother
    have hle := hchildren other hother
    have hne : other.depth ≠ levels := by
      intro heq
      exact hnone ⟨other, hother, by rw [heq, hlevels]⟩
    omega
  have hchild := hless child h
  have hpos := one_le_depth child
  have hdepth : (Node.element tag children).depth ≤ levels - 1 + 1 := depth_element_le_iff.mpr hless
  omega

/-! ## Ways down -/

theorem length_le_depth_of_descent (h : Descent node below) : (node :: below).length ≤ node.depth := by
  induction below generalizing node with
  | nil => exact one_le_depth node
  | cons child below ih =>
    obtain ⟨hchild, hbelow⟩ := List.isChain_cons_cons.mp h
    exact Nat.lt_of_le_of_lt (ih hbelow) (depth_lt_of_mem_children hchild)

theorem exists_descent_length_eq_depth (node : Node) :
    ∃ below, Descent node below ∧ (node :: below).length = node.depth := by
  induction node using Node.induction with
  | text content => exact ⟨[], .singleton _, (depth_text content).symm⟩
  | element tag children ih =>
    cases children with
    | empty => exact ⟨[], .singleton _, (depth_element tag .empty).symm⟩
    | cons first rest =>
      have hfirst : first ∈ Chain.cons first rest := Chain.mem_cons.mpr (.inl rfl)
      obtain ⟨deepest, hmem, hdeepest⟩ := exists_mem_depth_add_one tag hfirst
      obtain ⟨below, hbelow, hlength⟩ := ih deepest hmem
      refine ⟨deepest :: below, .cons_cons hmem hbelow, ?_⟩
      rw [List.length_cons, hlength, hdeepest]

/-! ## Depth and number of nodes -/

theorem depth_le_count (node : Node) : node.depth ≤ node.count := by
  induction node using Node.induction with
  | text content => rw [depth_text, count_text]
  | element tag children ih =>
    rw [count_element_eq_sum, Nat.add_comm]
    apply depth_element_le_iff.mpr
    intro child hchild
    exact Nat.le_trans (ih child hchild) (List.le_sum_of_mem (List.mem_map_of_mem hchild))

/-- Of two children, one counts without making the element deeper. -/
theorem depth_lt_count_of_two (tag : Tag) (first second : Node) (rest : Chain Node) :
    (Node.element tag (.cons first (.cons second rest))).depth <
      (Node.element tag (.cons first (.cons second rest))).count := by
  have hfirst := one_le_count first
  have hsecond := one_le_count second
  have hcount : (Node.element tag (.cons first (.cons second rest))).count =
      1 + (first.count + (second.count + (rest.toList.map count).sum)) := by
    rw [count_element_eq_sum]
    simp only [Chain.toList_cons, List.map_cons, List.sum_cons]
  have hchildren : ∀ child ∈ Chain.cons first (.cons second rest),
      child.depth ≤ first.count + second.count + (rest.toList.map count).sum - 1 := by
    intro child hmem
    have hdepth := depth_le_count child
    rcases Chain.mem_cons.mp hmem with rfl | hmem
    · omega
    rcases Chain.mem_cons.mp hmem with rfl | hmem
    · omega
    have hrest : child.count ≤ (rest.toList.map count).sum :=
      List.le_sum_of_mem (List.mem_map_of_mem hmem)
    omega
  have hdepth : (Node.element tag (.cons first (.cons second rest))).depth ≤
      first.count + second.count + (rest.toList.map count).sum - 1 + 1 :=
    depth_element_le_iff.mpr hchildren
  omega

/-- An only child adds one to both. -/
theorem depth_eq_count_only_iff (tag : Tag) (only : Node) :
    (Node.element tag (.cons only .empty)).depth = (Node.element tag (.cons only .empty)).count ↔
      only.depth = only.count := by
  simp

theorem depth_eq_count_iff (node : Node) :
    node.depth = node.count ↔ ∀ found ∈ node.preorder, found.children.length ≤ 1 := by
  induction node using Node.induction with
  | text content => simp [children]
  | element tag children ih =>
    rw [forall_mem_preorder_element]
    cases children with
    | empty => simp [Node.children]
    | cons only rest =>
      cases rest with
      | empty =>
        rw [depth_eq_count_only_iff, ih only (Chain.mem_cons.mpr (.inl rfl))]
        simp [Node.children]
      | cons second rest =>
        have hlt := depth_lt_count_of_two tag only second rest
        constructor
        · intro heq
          exact absurd heq (Nat.ne_of_lt hlt)
        · rintro ⟨hlength, -⟩
          simp [Node.children] at hlength

/-- The depth of a tree is the number of nodes on a longest way down from its root: no way has more
    nodes and there is one with as many. It is at least one and at most the number of nodes of the
    tree, which it reaches exactly if no node of the tree has more than one child. -/
theorem depth_eq_longest_descent (node : Node) :
    (∀ below, Descent node below → (node :: below).length ≤ node.depth) ∧
    (∃ below, Descent node below ∧ (node :: below).length = node.depth) ∧
    1 ≤ node.depth ∧ node.depth ≤ node.count ∧
    (node.depth = node.count ↔ ∀ found ∈ node.preorder, found.children.length ≤ 1) := by
  refine ⟨?_, exists_descent_length_eq_depth node, one_le_depth node, depth_le_count node,
    depth_eq_count_iff node⟩
  intro below hbelow
  exact length_le_depth_of_descent hbelow

/-- A paragraph with a word in bold and nothing else. -/
def unbranched : Node :=
  .element .body (Chain.ofList [.element .para (Chain.ofList
    [.element .bold (Chain.ofList [.text "a"])])])

theorem depth_longest_unbranched :
    Descent unbranched [.element .para (Chain.ofList [.element .bold (Chain.ofList [.text "a"])]),
        .element .bold (Chain.ofList [.text "a"]), .text "a"] ∧
      4 ≤ unbranched.depth ∧
      (∀ found ∈ unbranched.preorder, found.children.length ≤ 1) ∧
      unbranched.depth = unbranched.count := by
  obtain ⟨hbound, -, -, -, hcount⟩ := depth_eq_longest_descent unbranched
  have hdescent : Descent unbranched
      [.element .para (Chain.ofList [.element .bold (Chain.ofList [.text "a"])]),
        .element .bold (Chain.ofList [.text "a"]), .text "a"] := by
    simp [Descent, unbranched, children]
  have honly : ∀ found ∈ unbranched.preorder, found.children.length ≤ 1 := by
    simp [unbranched, children]
  exact ⟨hdescent, hbound _ hdescent, honly, hcount.mpr honly⟩

end Folio.Node
