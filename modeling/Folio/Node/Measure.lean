-- SUMMARY: The number of nodes and the depth of a tree, each as a walk that enters every node.
import Folio.Chain.Effect
import Folio.Node
import Folio.Trace

/-!
# Measures

`count` is the number of nodes, the root included; `depth` is the number of
nodes on a longest way down. Both are walks that enter a node before its
children and the children from left to right; `countTrace` and `depthTrace`
show the order.
-/

namespace Folio.Node

universe u

variable {m : Type → Type u} [Monad m]

/-! ## Number of nodes -/

/-- Counts the nodes, running `enter` on each. -/
def countWith (enter : Node → m Unit) (node : Node) : m Nat :=
  node.fold
    (fun content => do
      enter (.text content)
      return 1)
    (fun tag children counts => do
      enter (.element tag children)
      counts.foldlM (fun count total => do return total + (← count)) 1)

def count (node : Node) : Nat :=
  (node.countWith fun _ => (pure () : Id Unit)).run

def countTrace (node : Node) : Nat × List Node :=
  Traced.result (node.countWith Traced.note)

@[simp] theorem count_text (content : String) : (Node.text content).count = 1 := by
  simp [count, countWith]

@[simp] theorem count_element (tag : Tag) (children : Chain Node) :
    (Node.element tag children).count = children.foldl (fun child total => total + child.count) 1 := by
  simp [count, countWith, Chain.foldl_map]

/-! ## Depth -/

/-- Measures the depth, running `enter` on each node. -/
def depthWith (enter : Node → m Unit) (node : Node) : m Nat :=
  node.fold
    (fun content => do
      enter (.text content)
      return 1)
    (fun tag children depths => do
      enter (.element tag children)
      return 1 + (← depths.foldlM (fun depth deepest => do return max deepest (← depth)) 0))

/-- The number of nodes on a longest way down; a lone node has depth 1. -/
def depth (node : Node) : Nat :=
  (node.depthWith fun _ => (pure () : Id Unit)).run

def depthTrace (node : Node) : Nat × List Node :=
  Traced.result (node.depthWith Traced.note)

@[simp] theorem depth_text (content : String) : (Node.text content).depth = 1 := by
  simp [depth, depthWith]

@[simp] theorem depth_element (tag : Tag) (children : Chain Node) :
    (Node.element tag children).depth =
      1 + children.foldl (fun child deepest => max deepest child.depth) 0 := by
  simp [depth, depthWith, Chain.foldl_map]

theorem one_le_depth (node : Node) : 1 ≤ node.depth := by
  cases node with
  | text content => exact Nat.le_of_eq (depth_text content).symm
  | element tag children =>
    rw [depth_element]
    exact Nat.le_add_right 1 _

theorem foldl_max_depth_le_iff {children : Chain Node} {base bound : Nat} :
    children.foldl (fun child deepest => max deepest child.depth) base ≤ bound ↔
      base ≤ bound ∧ ∀ child ∈ children, child.depth ≤ bound := by
  induction children generalizing base with
  | empty => simp
  | cons child rest ih =>
    simp only [Chain.foldl_cons, ih, Chain.mem_cons, forall_eq_or_imp, Nat.max_le, and_assoc]

/-- An element is one level deeper than its children. -/
theorem depth_element_le_iff {tag : Tag} {children : Chain Node} {bound : Nat} :
    (Node.element tag children).depth ≤ bound + 1 ↔ ∀ child ∈ children, child.depth ≤ bound := by
  rw [depth_element, Nat.add_comm, Nat.add_le_add_iff_right, foldl_max_depth_le_iff]
  simp

/-- The levels below the root of an element. -/
theorem exists_depth_element (tag : Tag) (children : Chain Node) :
    ∃ levels, (Node.element tag children).depth = levels + 1 ∧
      ∀ child ∈ children, child.depth ≤ levels := by
  obtain ⟨levels, hlevels⟩ := Nat.exists_eq_add_of_le' (one_le_depth (.element tag children))
  exact ⟨levels, hlevels, depth_element_le_iff.mp (Nat.le_of_eq hlevels)⟩

end Folio.Node
