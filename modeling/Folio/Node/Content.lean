-- SUMMARY: The text of a tree, its fragments joined without doubling the joiner.
import Folio.Chain.Effect
import Folio.Node.Preorder
import Folio.Text.Joining
import Folio.Trace

/-!
# Text content

`content` puts the texts of the leaves together in document order. The texts of
the children are computed first, from left to right, and then combined from
right to left; a fragment that is empty brings no joiner. `leafTexts` lists the
texts of all leaves, empty ones included, and `fragments` those that are not empty.
-/

namespace Folio.Node

universe u

variable {m : Type → Type u} [Monad m]

def defaultJoiner : String := " "

/-- The text of a tree, running `enter` on each node. -/
def contentWith (joiner : String) (enter : Node → m Unit) (node : Node) : m String :=
  node.fold
    (fun content => do
      enter (.text content)
      return content)
    (fun tag children texts => do
      enter (.element tag children)
      return (← texts.mapM id).foldr (Text.combine joiner) "")

def content (node : Node) (joiner : String := defaultJoiner) : String :=
  (node.contentWith joiner fun _ => (pure () : Id Unit)).run

def contentTrace (node : Node) (joiner : String := defaultJoiner) : String × List Node :=
  Traced.result (node.contentWith joiner Traced.note)

@[simp] theorem content_text (s joiner : String) : (Node.text s).content joiner = s := by
  simp [content, contentWith]

@[simp] theorem content_element (tag : Tag) (children : Chain Node) (joiner : String) :
    (Node.element tag children).content joiner =
      (children.map fun child => child.content joiner).foldr (Text.combine joiner) "" := by
  simp [content, contentWith, Chain.map_map]

/-- The text of a leaf; an element has none of its own. -/
def ownText? : Node → Option String
  | .text content => some content
  | .element _ _ => none

/-- The texts of the leaves in document order. -/
def leafTexts (node : Node) : List String :=
  node.preorder.filterMap ownText?

/-- The texts of the leaves that are not empty, in document order. -/
def fragments (node : Node) : List String :=
  node.leafTexts.filter fun text => text ≠ ""

@[simp] theorem leafTexts_text (content : String) : (Node.text content).leafTexts = [content] := by
  simp [leafTexts, ownText?]

@[simp] theorem leafTexts_element (tag : Tag) (children : Chain Node) :
    (Node.element tag children).leafTexts = children.toList.flatMap leafTexts := by
  have hown : ownText? (.element tag children) = none := rfl
  rw [leafTexts, preorder_element, List.filterMap_cons_none hown, ← List.flatMap_def,
    List.filterMap_flatMap]
  rfl

end Folio.Node
