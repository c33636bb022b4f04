-- SUMMARY: The three rules of the containment grammar and the judgement of whole documents.
import Folio.Chain.Effect
import Folio.Error
import Folio.Trace

/-!
# Containment grammar

A document is a `Body` of blocks; a block is a `Div` of blocks, or a `Para` or
`Header` of inlines; an inline is a `Text` or an `Anchor`, `Bold` or `Italic` of
inlines. Each of the three nonterminals is a `Rule`, which says what kinds it
admits; the rule for the children depends on the parent alone. When options ask
for it, a heading is admitted only at levels 1 to 6.

A rule enters a node, and goes on to the children only if it admits the node
itself; it stops at the first child that is refused. `Rule.trace` shows the
nodes it entered, each with the rule that was applied there.
-/

namespace Folio

universe u

inductive Rule where
  | root | block | inline
  deriving DecidableEq

namespace Rule

def name : Rule → String
  | root => "root"
  | block => "block"
  | inline => "inline"

def ofName? (name : String) : Option Rule :=
  [root, block, inline].find? fun rule => rule.name == name

/-- The kinds that a rule admits. -/
def admits : Rule → Kind → Bool
  | root, .body => true
  | block, .div => true
  | block, .para => true
  | block, .header => true
  | inline, .text => true
  | inline, .anchor => true
  | inline, .bold => true
  | inline, .italic => true
  | _, _ => false

end Rule

/-- The rule for the children of an element. -/
def Tag.childRule : Tag → Rule
  | .body => .block
  | .div => .block
  | .para => .inline
  | .header _ => .inline
  | .anchor _ => .inline
  | .bold => .inline
  | .italic => .inline

def minHeadingLevel : Int := 1
def maxHeadingLevel : Int := 6

/-- Whether a level is one that headings may have. -/
def isHeadingLevel (level : Int) : Bool :=
  minHeadingLevel ≤ level && level ≤ maxHeadingLevel

/-- Whether the options allow the level of a heading; other elements have none. -/
def Options.admitsLevel (options : Options) : Tag → Bool
  | .header level => !options.checkHeadingLevels || isHeadingLevel level
  | _ => true

/-! ## Rules -/

namespace Rule

variable {m : Type → Type u} [Monad m]

mutual

/-- Applies a rule to a tree, running `enter` on each application. -/
def walk (options : Options) (enter : Rule → Node → m Unit) (rule : Rule) : Node → m Bool
  | .text content => do
    enter rule (.text content)
    return rule.admits .text
  | .element tag children => do
    enter rule (.element tag children)
    if rule.admits tag.kind && options.admitsLevel tag then
      walkEach options enter tag.childRule children
    else
      return false

/-- Applies a rule to the trees of a chain, up to and including the first that is refused. -/
def walkEach (options : Options) (enter : Rule → Node → m Unit) (rule : Rule) :
    Chain Node → m Bool
  | .empty => return true
  | .cons child rest => do
    if ← walk options enter rule child then
      walkEach options enter rule rest
    else
      return false

end

theorem walkEach_eq (options : Options) (enter : Rule → Node → m Unit) (rule : Rule)
    (children : Chain Node) :
    walkEach options enter rule children = children.allM (walk options enter rule) := by
  induction children with
  | empty => simp [walkEach, Chain.allM]
  | cons child rest ih =>
    rw [walkEach, ih]
    simp only [Chain.allM, Chain.toList_cons, List.allM]
    congr 1
    funext verdict
    cases verdict <;> rfl

theorem walk_text (options : Options) (enter : Rule → Node → m Unit) (rule : Rule)
    (content : String) :
    rule.walk options enter (.text content) = (do
      enter rule (.text content)
      return rule.admits .text) := by
  rw [walk]

theorem walk_element (options : Options) (enter : Rule → Node → m Unit) (rule : Rule) (tag : Tag)
    (children : Chain Node) :
    rule.walk options enter (.element tag children) = (do
      enter rule (.element tag children)
      if rule.admits tag.kind && options.admitsLevel tag then
        children.allM (tag.childRule.walk options enter)
      else
        return false) := by
  rw [walk, walkEach_eq]

def accepts (options : Options) (rule : Rule) (node : Node) : Bool :=
  (rule.walk options (fun _ _ => (pure () : Id Unit)) node).run

/-- The verdict, and the applications in the order in which they were made. -/
def trace (options : Options) (rule : Rule) (node : Node) : Bool × List (Rule × Node) :=
  Traced.result (rule.walk options (fun rule node => Traced.note (rule, node)) node)

@[simp] theorem accepts_text (options : Options) (rule : Rule) (content : String) :
    rule.accepts options (.text content) = rule.admits .text := by
  simp [accepts, walk_text]

@[simp] theorem accepts_element (options : Options) (rule : Rule) (tag : Tag)
    (children : Chain Node) :
    rule.accepts options (.element tag children) =
      (rule.admits tag.kind && options.admitsLevel tag &&
        children.all (tag.childRule.accepts options)) := by
  simp only [accepts, walk_element, Id.run_bind]
  split
  · rename_i h
    rw [h, Chain.idRun_allM]
    rfl
  · rename_i h
    simp [h]

end Rule

/-! ## Documents -/

namespace Node

/-- Whether a tree is a document of the grammar. -/
def isWellFormed (node : Node) (options : Option Options := none) : Bool :=
  Rule.root.accepts (Options.resolve options) node

/-- The verdict on a tree; a refusal is an error when the options are strict. -/
def validate (node : Node) (options : Option Options := none) : Except Error Bool :=
  let verdict := node.isWellFormed options
  if (Options.resolve options).strict && !verdict then
    .error (.ungrammatical node.kind)
  else
    .ok verdict

end Node

end Folio
