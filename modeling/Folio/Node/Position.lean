-- SUMMARY: Positions in a tree as paths of child indices, and edits at a position.
import Folio.Node

/-!
# Positions and edits

A position is the path of child indices that leads from the root to a node.
`at?` follows a path; `replaceAt?`, `insertAt?` and `eraseAt?` give the tree with
one place changed, and nothing when the path leads nowhere. All else in the tree
stays as it was.
-/

namespace Folio

abbrev Position : Type := List Nat

namespace Node

/-- The child with the given index. -/
def child? (node : Node) (index : Nat) : Option Node :=
  node.children.toList[index]?

/-- The node at a position. -/
def at? : Node → Position → Option Node
  | node, [] => some node
  | node, index :: path => (node.child? index).bind fun child => child.at? path

/-- The node with its list of children changed; a text leaf stays as it is. -/
def editChildren (node : Node) (edit : List Node → List Node) : Node :=
  node.withChildren (Chain.ofList (edit node.children.toList))

/-- The tree with the node at a position replaced by what `edit` makes of it. -/
def editAt? (edit : Node → Option Node) : Node → Position → Option Node
  | node, [] => edit node
  | node, index :: path =>
    (node.child? index).bind fun child =>
      (child.editAt? edit path).map fun edited =>
        node.editChildren fun children => children.set index edited

def replaceAt? (node : Node) (position : Position) (new : Node) : Option Node :=
  node.editAt? (fun _ => some new) position

/-- The tree with a node inserted among the children of the element at a position. -/
def insertAt? (node : Node) (position : Position) (index : Nat) (new : Node) : Option Node :=
  node.editAt?
    (fun parent =>
      match parent with
      | .text _ => none
      | .element _ children =>
        if index ≤ children.length then
          some (parent.editChildren fun children => children.insertIdx index new)
        else none)
    position

/-- The tree without one child of the node at a position. -/
def eraseAt? (node : Node) (position : Position) (index : Nat) : Option Node :=
  node.editAt?
    (fun parent =>
      (parent.child? index).map fun _ =>
        parent.editChildren fun children => children.eraseIdx index)
    position

/-- The positions of a tree in document order. -/
def positions (node : Node) : List Position :=
  node.fold (fun _ => [[]])
    (fun _ _ below =>
      [] :: (below.toList.zipIdx.map fun (paths, index) => paths.map (index :: ·)).flatten)

/-- The kinds of the nodes on the way from the root to a position, both included. -/
def kindsAlong? : Node → Position → Option (List Kind)
  | node, [] => some [node.kind]
  | node, index :: path =>
    (node.child? index).bind fun child =>
      (child.kindsAlong? path).map fun kinds => node.kind :: kinds

end Node

end Folio
