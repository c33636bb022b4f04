-- SUMMARY: Membership in the grammar as conditions on single edges of the tree.
import Folio.Grammar
import Folio.Node.Preorder

/-!
# Containment edge by edge

What an element may hold is said kind by kind, without the rules: `Body` and `Div`
hold `Div`, `Para` and `Header`, the other elements hold `Text`, `Anchor`, `Bold`
and `Italic`. A tree is in the grammar when its root is a `Body`, no element holds
a child it may not hold, and no heading has a level that is checked and bad
(`Contained`). It is outside the grammar when one of the three fails at some place
(`Outside`).
-/

namespace Folio.Grammar

inductive MayHold : Kind → Kind → Prop
  | blocks {parent child : Kind} :
      parent ∈ [Kind.body, Kind.div] → child ∈ [Kind.div, Kind.para, Kind.header] →
      MayHold parent child
  | inlines {parent child : Kind} :
      parent ∈ [Kind.para, Kind.header, Kind.anchor, Kind.bold, Kind.italic] →
      child ∈ [Kind.text, Kind.anchor, Kind.bold, Kind.italic] →
      MayHold parent child

/-- No node of the tree holds a child that it may not hold. -/
def EdgesHold (node : Node) : Prop :=
  ∀ parent ∈ node.preorder, ∀ child ∈ parent.children, MayHold parent.kind child.kind

/-- Every heading of the tree has a level from 1 to 6. -/
def LevelsWithin (node : Node) : Prop :=
  ∀ level children, Node.element (.header level) children ∈ node.preorder → 1 ≤ level ∧ level ≤ 6

structure Contained (options : Options) (node : Node) : Prop where
  root : node.kind = .body
  edges : ∀ parent ∈ node.preorder, ∀ child ∈ parent.children, MayHold parent.kind child.kind
  levels : options.checkHeadingLevels = true →
    ∀ level children, Node.element (.header level) children ∈ node.preorder →
      1 ≤ level ∧ level ≤ 6

inductive Outside (options : Options) (node : Node) : Prop
  | root : node.kind ≠ .body → Outside options node
  | edge {parent child : Node} :
      parent ∈ node.preorder → child ∈ parent.children → ¬ MayHold parent.kind child.kind →
      Outside options node
  | level {level : Int} {children : Chain Node} :
      options.checkHeadingLevels = true → .element (.header level) children ∈ node.preorder →
      level < 1 ∨ 6 < level → Outside options node

end Folio.Grammar
