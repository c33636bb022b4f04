-- SUMMARY: Trees of the same shape up to order and multiplicity of siblings.
import Folio.Grammar

/-!
# Similar trees

Two trees are similar when their roots have the same kind, headings whose levels
are checked are both within 1 to 6 or both outside, and every child of either is
similar to some child of the other. Texts, targets and unchecked levels may
differ, and so may the order and number of similar siblings.

Similarity is the largest relation that matches trees in this way; as trees are
finite, it is the only one.
-/

namespace Folio.Grammar

/-- Whether the options allow the level of a node, if it has one. -/
def levelAllowed (options : Options) : Node → Bool
  | .text _ => true
  | .element tag _ => options.admitsLevel tag

/-- Two trees whose roots agree and whose children are related both ways. -/
structure Matching (options : Options) (related : Node → Node → Prop) (a b : Node) : Prop where
  kind : a.kind = b.kind
  level : levelAllowed options a = levelAllowed options b
  left : ∀ c ∈ a.children, ∃ d ∈ b.children, related c d
  right : ∀ d ∈ b.children, ∃ c ∈ a.children, related c d

def Similar (options : Options) (a b : Node) : Prop :=
  ∃ related : Node → Node → Prop,
    related a b ∧ ∀ c d, related c d → Matching options related c d

end Folio.Grammar
