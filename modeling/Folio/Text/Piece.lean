-- SUMMARY: Pieces of text that are written in front of whatever follows them.

/-!
# Pieces

A piece is a function from what follows to the text with the piece in front of
it. A long text of nested parts is thus built in one pass, and to say that a
piece can be told from what follows is to say that it is injective in both.
-/

namespace Folio.Text

abbrev Piece : Type := List Char → List Char

namespace Piece

def ofString (s : String) : Piece := fun tail => s.toList ++ tail

/-- The pieces in order with a comma and a space between them. -/
def separated : List Piece → Piece
  | [], tail => tail
  | first :: rest, tail => first (rest.foldr (fun piece after => ',' :: ' ' :: piece after) tail)

/-- The text of a piece that nothing follows. -/
def toText (piece : Piece) : String := String.ofList (piece [])

end Piece

end Folio.Text
