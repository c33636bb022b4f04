-- SUMMARY: The regular language of the words of kinds along the paths of a document.
import Folio.Node

/-!
# Words of kinds

The kinds on a way down from the root of a document form a word of

    Body Div* ((Para | Header) (Anchor | Bold | Italic)* Text?)?

`DocumentWord` is that language, production by production.
-/

namespace Folio.Grammar

/-- Words of `(Anchor | Bold | Italic)* Text?`. -/
inductive InlineWord : List Kind → Prop
  | nil : InlineWord []
  | text : InlineWord [.text]
  | span {kind : Kind} {word : List Kind} :
      kind ∈ [Kind.anchor, Kind.bold, Kind.italic] → InlineWord word → InlineWord (kind :: word)

/-- Words of `Div* ((Para | Header) (Anchor | Bold | Italic)* Text?)?`. -/
inductive BlockWord : List Kind → Prop
  | nil : BlockWord []
  | div {word : List Kind} : BlockWord word → BlockWord (.div :: word)
  | leafBlock {kind : Kind} {word : List Kind} :
      kind ∈ [Kind.para, Kind.header] → InlineWord word → BlockWord (kind :: word)

inductive DocumentWord : List Kind → Prop
  | body {word : List Kind} : BlockWord word → DocumentWord (.body :: word)

end Folio.Grammar
