-- SUMMARY: The nodes of a tree in document order.
import Folio.Node

/-!
# Document order

`preorder` lists the nodes of a tree, each before its descendants and the
children from left to right. It is what the walks of `Folio.Node.Measure` and
`Folio.Node.Content` enter, in that order.
-/

namespace Folio.Node

def preorder (node : Node) : List Node :=
  node.fold (fun content => [.text content])
    (fun tag children nodes => .element tag children :: nodes.toList.flatten)

@[simp] theorem preorder_text (content : String) :
    (Node.text content).preorder = [.text content] := by
  simp [preorder]

@[simp] theorem preorder_element (tag : Tag) (children : Chain Node) :
    (Node.element tag children).preorder =
      .element tag children :: (children.toList.map preorder).flatten := by
  simp [preorder]
  rfl

/-- What holds of every node of an element holds of the element and of every node of its children. -/
theorem forall_mem_preorder_element {p : Node → Prop} {tag : Tag} {children : Chain Node} :
    (∀ node ∈ (Node.element tag children).preorder, p node) ↔
      p (.element tag children) ∧ ∀ child ∈ children, ∀ node ∈ child.preorder, p node := by
  rw [preorder_element, List.forall_mem_cons, ← List.flatMap_def, List.forall_mem_flatMap]
  rfl

end Folio.Node
