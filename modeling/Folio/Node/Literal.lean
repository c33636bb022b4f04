-- SUMMARY: The literal form of a tree, which shows every field.
import Folio.Node
import Folio.Text.Piece
import Folio.Text.Quoted

/-!
# Literal form of trees

A node is written as its kind with its fields in parentheses, each under its
name: first what distinguishes nodes of the kind, then the children as the
literal form of their chain. Texts and targets are quoted, levels are decimal.
-/

namespace Folio

open Folio.Text (Piece)

/-- The kind, with the field that it has besides children, up to where the children begin. -/
def Kind.opening (kind : Kind) (own : Option (String × Piece)) : Piece := fun tail =>
  Piece.ofString kind.name <| '(' ::
    match own with
    | some (name, literal) => Piece.ofString name ('=' :: literal (',' :: ' ' :: tail))
    | none => tail

def Tag.opening (tag : Tag) : Piece :=
  tag.kind.opening <|
    match tag with
    | .header level => some ("level", Piece.ofString (toString level))
    | .anchor target => some ("target", Text.quotedOnto target.toList)
    | _ => none

/-- The literal form of a chain, from those of its elements. -/
def Chain.literalOf (items : List Piece) : Piece := fun tail =>
  Piece.ofString "from_iterable([" (Piece.separated items (']' :: ')' :: tail))

namespace Node

/-- The literal form of a text leaf, from that of its content. -/
def textLiteral (content : Piece) : Piece := fun tail =>
  Piece.ofString "Text(text=" (content (')' :: tail))

/-- The literal form of an element, from those of its children. -/
def elementLiteral (opening : Piece) (children : List Piece) : Piece := fun tail =>
  opening (Piece.ofString "children=" (Chain.literalOf children (')' :: tail)))

def literalOnto (node : Node) : Piece :=
  node.fold (fun content => textLiteral (Text.quotedOnto content.toList))
    (fun tag _ children => elementLiteral tag.opening children.toList)

def literal (node : Node) : String :=
  node.literalOnto.toText

theorem literalOnto_text (content : String) (tail : List Char) :
    (Node.text content).literalOnto tail =
      Piece.ofString "Text(text=" (Text.quotedOnto content.toList (')' :: tail)) := by
  rw [literalOnto, fold_text, textLiteral]

theorem literalOnto_element (tag : Tag) (children : Chain Node) (tail : List Char) :
    (Node.element tag children).literalOnto tail =
      tag.opening (Piece.ofString "children="
        (Chain.literalOf (children.toList.map literalOnto) (')' :: tail))) := by
  rw [literalOnto, fold_element, elementLiteral, Chain.toList_map]
  rfl

end Node

end Folio
