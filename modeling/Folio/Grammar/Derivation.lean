-- SUMMARY: The containment grammar by its productions.
import Folio.Grammar

/-!
# Derivations

The tree languages of the three nonterminals, generated by the productions

    Document ::= Body(Block*)
    Block    ::= Div(Block*) | Para(Inline*) | Header(Inline*)
    Inline   ::= Text | Anchor(Inline*) | Bold(Inline*) | Italic(Inline*)

where the production for headings asks for a level from 1 to 6 if the options
check levels.
-/

namespace Folio.Grammar

inductive Inline : Node → Prop
  | text (content : String) : Inline (.text content)
  | anchor (target : String) {children : Chain Node} :
      (∀ child ∈ children, Inline child) → Inline (.element (.anchor target) children)
  | bold {children : Chain Node} :
      (∀ child ∈ children, Inline child) → Inline (.element .bold children)
  | italic {children : Chain Node} :
      (∀ child ∈ children, Inline child) → Inline (.element .italic children)

inductive Block (options : Options) : Node → Prop
  | div {children : Chain Node} :
      (∀ child ∈ children, Block options child) → Block options (.element .div children)
  | para {children : Chain Node} :
      (∀ child ∈ children, Inline child) → Block options (.element .para children)
  | header {level : Int} {children : Chain Node} :
      (options.checkHeadingLevels = true → 1 ≤ level ∧ level ≤ 6) →
      (∀ child ∈ children, Inline child) → Block options (.element (.header level) children)

inductive Document (options : Options) : Node → Prop
  | body {children : Chain Node} :
      (∀ child ∈ children, Block options child) → Document options (.element .body children)

end Folio.Grammar
