-- SUMMARY: Document order with the rule in force at each node, and what violates a rule.
import Folio.Grammar
import Folio.Node.Position

/-!
# Violations

`Rule.inForce` lists the nodes of a tree in document order, each with the rule
that applies to it: the given one at the root, and below that the one the parent
asks for. A node violates its rule when its kind is not admitted, or when it is a
heading whose level the options do not allow. `upTo` cuts a list just after the
first entry of a sort.

What a rule admits and what a parent asks for is said here kind by kind, apart
from the tables that the rules themselves go by (`Rule.admits`, `Tag.childRule`).
-/

namespace Folio

/-- The kinds of node that may stand where a rule applies. -/
def Rule.kinds : Rule → List Kind
  | .root => [.body]
  | .block => [.div, .para, .header]
  | .inline => [.text, .anchor, .bold, .italic]

/-- The rule that a parent of this kind asks of its children. -/
def Kind.ruleBelow (kind : Kind) : Rule :=
  if kind ∈ [.body, .div] then .block else .inline

namespace Rule

/-- The nodes of a tree in document order with the rules that apply to them. -/
def inForce (rule : Rule) (node : Node) : List (Rule × Node) :=
  let listed : Rule → List (Rule × Node) := node.fold
    (fun content rule => [(rule, .text content)])
    (fun tag children lists rule =>
      (rule, .element tag children) ::
        (lists.toList.map fun list => list tag.kind.ruleBelow).flatten)
  listed rule

/-- The rule that applies to the node at a position, if there is one. -/
def inForceAt? : Rule → Node → Position → Option Rule
  | rule, _, [] => some rule
  | _, node, index :: path =>
    (node.child? index).bind fun child => node.kind.ruleBelow.inForceAt? child path

end Rule

/-- Whether a node is a heading with a level outside 1 to 6. -/
def Node.HasBadLevel (node : Node) : Prop :=
  ∃ level children, node = .element (.header level) children ∧ (level < 1 ∨ 6 < level)

/-- Whether a node violates the rule that applies to it. -/
def Rule.Violates (options : Options) (rule : Rule) (node : Node) : Prop :=
  node.kind ∉ rule.kinds ∨ (options.checkHeadingLevels = true ∧ node.HasBadLevel)

/-- The list up to and including the first entry that `p` holds of. -/
def upTo {α : Type} (p : α → Prop) [DecidablePred p] : List α → List α
  | [] => []
  | x :: xs => if p x then [x] else x :: upTo p xs

/-! ## Deciding violations -/

@[simp] theorem Node.not_hasBadLevel_text (content : String) :
    ¬ (Node.text content).HasBadLevel := by
  rintro ⟨_, _, h, _⟩
  cases h

theorem Node.hasBadLevel_element {tag : Tag} {children : Chain Node} :
    (Node.element tag children).HasBadLevel ↔
      ∃ level, tag = .header level ∧ (level < 1 ∨ 6 < level) := by
  constructor
  · rintro ⟨level, _, h, hlevel⟩
    cases h
    exact ⟨level, rfl, hlevel⟩
  · rintro ⟨level, rfl, hlevel⟩
    exact ⟨level, children, rfl, hlevel⟩

instance (node : Node) : Decidable node.HasBadLevel :=
  match node with
  | .text _ => isFalse (Node.not_hasBadLevel_text _)
  | .element (.header level) children =>
    decidable_of_iff (level < 1 ∨ 6 < level) (by simp [Node.hasBadLevel_element])
  | .element .body _ | .element .div _ | .element .para _ | .element (.anchor _) _
  | .element .bold _ | .element .italic _ => isFalse (by simp [Node.hasBadLevel_element])

instance (options : Options) (rule : Rule) (node : Node) :
    Decidable (rule.Violates options node) :=
  inferInstanceAs (Decidable (_ ∨ _))

end Folio
