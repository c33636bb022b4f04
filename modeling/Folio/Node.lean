-- SUMMARY: Document trees of eight kinds of node, the fold over them, and their equality.
import Folio.Chain

/-!
# Document trees

A node is a text leaf or an element: a tag with a chain of children. Nothing
here restricts what may stand inside what; that is the grammar's business
(`Folio.Grammar`).

`Node.fold` is the one traversal: whatever is computed from a tree says what a
leaf gives and how an element combines the results of its children, and
`Node.fold_element` is the equation that all of it unfolds by.
-/

namespace Folio

universe u

/-! ## Kinds and tags -/

/-- The eight kinds of node. -/
inductive Kind where
  | body | div | para | header | text | anchor | bold | italic
  deriving DecidableEq, Hashable

namespace Kind

def all : List Kind := [body, div, para, header, text, anchor, bold, italic]

def name : Kind → String
  | body => "Body"
  | div => "Div"
  | para => "Para"
  | header => "Header"
  | text => "Text"
  | anchor => "Anchor"
  | bold => "Bold"
  | italic => "Italic"

def ofName? (name : String) : Option Kind :=
  all.find? fun kind => kind.name == name

end Kind

/-- What an element carries besides its children, with levels and targets of any types. -/
inductive TagOf (Level Target : Type) where
  | body | div | para
  | header (level : Level)
  | anchor (target : Target)
  | bold | italic
  deriving DecidableEq

/-- The tags of trees: a level is a number, and a target is a text. -/
abbrev Tag : Type := TagOf Int String

namespace TagOf

variable {Level Target Level' Target' : Type}

def kind : TagOf Level Target → Kind
  | .body => .body
  | .div => .div
  | .para => .para
  | .header _ => .header
  | .anchor _ => .anchor
  | .bold => .bold
  | .italic => .italic

theorem kind_ne_text (tag : TagOf Level Target) : tag.kind ≠ .text := by
  intro h
  cases tag <;> cases h

/-- The tag with what an effectful function gives for its level or its target in place of these. -/
def mapM {m : Type → Type} [Applicative m] (level : Level → m Level') (target : Target → m Target') :
    TagOf Level Target → m (TagOf Level' Target')
  | .body => pure .body
  | .div => pure .div
  | .para => pure .para
  | .header given => .header <$> level given
  | .anchor given => .anchor <$> target given
  | .bold => pure .bold
  | .italic => pure .italic

def map (level : Level → Level') (target : Target → Target') (tag : TagOf Level Target) :
    TagOf Level' Target' :=
  (tag.mapM (m := Id) level target).run

@[simp] theorem kind_map (level : Level → Level') (target : Target → Target')
    (tag : TagOf Level Target) : (tag.map level target).kind = tag.kind := by
  cases tag <;> rfl

end TagOf

/-! ## Nodes -/

inductive Node where
  | text (content : String)
  | element (tag : Tag) (children : Chain Node)

namespace Node

def kind : Node → Kind
  | .text _ => .text
  | .element tag _ => tag.kind

/-- The children of a node; a text leaf has none. -/
def children : Node → Chain Node
  | .text _ => .empty
  | .element _ children => children

/-- The element with the given tag and children. -/
def holding (tag : Tag) (children : List Node) : Node :=
  .element tag (Chain.ofList children)

/-- The node with other children; a text leaf stays as it is. -/
def withChildren : Node → Chain Node → Node
  | .text content, _ => .text content
  | .element tag _, children => .element tag children

/-- The kind, followed by what distinguishes a node among those of its kind. -/
def label (node : Node) : String :=
  match node with
  | .text content => s!"{node.kind.name}:{content}"
  | .element (.header level) _ => s!"{node.kind.name}:{level}"
  | .element (.anchor target) _ => s!"{node.kind.name}:{target}"
  | .element _ _ => node.kind.name

/-! ## Fold -/

mutual

/-- The value of a tree, from what a leaf gives and from how an element combines
    the values of its children. -/
def fold {β : Type u} (leaf : String → β) (combine : Tag → Chain Node → Chain β → β) : Node → β
  | .text content => leaf content
  | .element tag children => combine tag children (foldEach leaf combine children)

/-- The values of the trees of a chain. -/
def foldEach {β : Type u} (leaf : String → β) (combine : Tag → Chain Node → Chain β → β) :
    Chain Node → Chain β
  | .empty => .empty
  | .cons child rest => .cons (child.fold leaf combine) (foldEach leaf combine rest)

end

variable {β : Type u} (leaf : String → β) (combine : Tag → Chain Node → Chain β → β)

theorem foldEach_eq (children : Chain Node) :
    foldEach leaf combine children = children.map (fold leaf combine) := by
  induction children with
  | empty => simp [foldEach]
  | cons child rest ih => simp [foldEach, ih]

@[simp] theorem fold_text (content : String) :
    (Node.text content).fold leaf combine = leaf content := by
  rw [fold]

@[simp] theorem fold_element (tag : Tag) (children : Chain Node) :
    (Node.element tag children).fold leaf combine =
      combine tag children (children.map (fold leaf combine)) := by
  rw [fold, foldEach_eq]

/-! ## Induction -/

/-- A property of all trees follows from leaves and from elements whose children have it. -/
@[elab_as_elim] theorem induction {motive : Node → Prop}
    (text : ∀ content, motive (.text content))
    (element : ∀ tag children, (∀ child ∈ children, motive child) → motive (.element tag children)) :
    ∀ node, motive node :=
  Node.rec (motive_1 := motive) (motive_2 := fun children => ∀ child ∈ children, motive child)
    text element (fun _ h => absurd h (Chain.not_mem_empty _))
    (fun _ _ first rest _ h => (Chain.mem_cons.mp h).elim (fun e => e ▸ first) (rest _))

/-! ## Equality -/

mutual

/-- Whether two nodes have the same kind and equal fields, children one by one. Children
    that are one and the same object are not gone into. -/
def sameIff : (a b : Node) → { verdict : Bool // verdict = true ↔ a = b }
  | .text a, .text b => ⟨a == b, by simp⟩
  | .element g cs, .element h ds =>
    ⟨g == h && (sameEachIff cs ds).val, by simp [(sameEachIff cs ds).property]⟩
  | .text _, .element _ _ => ⟨false, by simp⟩
  | .element _ _, .text _ => ⟨false, by simp⟩

/-- Whether two chains have the same length and equal nodes at each place. -/
def sameEachIff : (cs ds : Chain Node) → { verdict : Bool // verdict = true ↔ cs = ds }
  | .empty, .empty => ⟨true, by simp⟩
  | .cons a cs, .cons b ds =>
    ⟨withPtrEq a b (fun _ => (sameIff a b).val) (sameIff a b).property.mpr &&
        (sameEachIff cs ds).val,
      by simp [withPtrEq, (sameIff a b).property, (sameEachIff cs ds).property]⟩
  | .empty, .cons _ _ => ⟨false, by simp⟩
  | .cons _ _, .empty => ⟨false, by simp⟩

end

/-- Whether two nodes are equal; a node is equal to itself whatever is in it. -/
def same (a b : Node) : Bool :=
  withPtrEq a b (fun _ => (sameIff a b).val) (sameIff a b).property.mpr

theorem same_iff (a b : Node) : a.same b = true ↔ a = b :=
  (sameIff a b).property

instance : DecidableEq Node := fun a b => decidable_of_iff _ (same_iff a b)

end Node

end Folio
