-- SUMMARY: The literal form of values.
import Folio.Node.Literal
import Folio.Value

/-!
# Literal form of values

Scalars, collections and options are written so that the form shows their sort:
brackets for lists, parentheses for tuples (with a comma after a lone element),
braces for mappings, and the name of the function that builds it for a chain. Nodes
are written alike whether or not they are kept as trees. References show what they
are to and nothing of what is in it.
-/

namespace Folio

open Folio.Text (Piece)

namespace Value

def boolLiteral (b : Bool) : String := if b then "True" else "False"

end Value

def Options.literal (options : Options) : String :=
  let strict := Value.boolLiteral options.strict
  let checkHeadingLevels := Value.boolLiteral options.checkHeadingLevels
  s!"ValidationOptions(strict={strict}, check_heading_levels={checkHeadingLevels})"

namespace Value

mutual

def literalOnto : Value → Piece
  | .null, tail => Piece.ofString "None" tail
  | .bool b, tail => Piece.ofString (boolLiteral b) tail
  | .int n, tail => Piece.ofString (toString n) tail
  | .decimal d, tail => Piece.ofString d.text tail
  | .text s, tail => Text.quotedOnto s.toList tail
  | .list items, tail => '[' :: Piece.separated (literalsOnto items) (']' :: tail)
  | .tuple [item], tail => '(' :: item.literalOnto (',' :: ')' :: tail)
  | .tuple items, tail => '(' :: Piece.separated (literalsOnto items) (')' :: tail)
  | .mapping entries, tail => '\x7b' :: Piece.separated (entryLiteralsOnto entries) ('\x7d' :: tail)
  | .chain items, tail => Chain.literalOf (chainLiteralsOnto items) tail
  | .node n, tail => n.literalOnto tail
  | .looseText content, tail => Node.textLiteral content.literalOnto tail
  | .looseElement (.header level) children, tail =>
    Node.elementLiteral (Kind.header.opening (some ("level", level.literalOnto)))
      (chainLiteralsOnto children) tail
  | .looseElement (.anchor target) children, tail =>
    Node.elementLiteral (Kind.anchor.opening (some ("target", target.literalOnto)))
      (chainLiteralsOnto children) tail
  | .looseElement tag children, tail =>
    Node.elementLiteral (tag.kind.opening none) (chainLiteralsOnto children) tail
  | .options o, tail => Piece.ofString o.literal tail
  | .builder _, tail => Piece.ofString "<DocumentBuilder>" tail
  | .collected _, tail => Piece.ofString "<list>" tail
  | .stream _, tail => Piece.ofString "<generator>" tail

/-- The literal forms of the elements of a list. -/
def literalsOnto : List Value → List Piece
  | [] => []
  | item :: items => item.literalOnto :: literalsOnto items

/-- The literal forms of the entries of a mapping. -/
def entryLiteralsOnto : List (Value × Value) → List Piece
  | [] => []
  | (key, value) :: entries =>
    (fun tail => key.literalOnto (':' :: ' ' :: value.literalOnto tail)) :: entryLiteralsOnto entries

/-- The literal forms of the elements of a chain. -/
def chainLiteralsOnto : Chain Value → List Piece
  | .empty => []
  | .cons item items => item.literalOnto :: chainLiteralsOnto items

end

def literal (value : Value) : String :=
  value.literalOnto.toText

/-- A text as it is, and the literal form of anything else. -/
def plain : Value → String
  | .text s => s
  | value => value.literal

end Value

end Folio
