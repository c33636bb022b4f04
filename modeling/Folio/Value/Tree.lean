-- SUMMARY: Nodes as values: their kind, their fields, and the trees among them.
import Folio.Chain.Effect
import Folio.Value

/-!
# Nodes as values

A node holds whatever it was built of. When its parts are those of a tree it is kept as a
tree (`Value.node`), which is what visitors go over; otherwise it keeps its parts as values.
`element` and `textNode` build nodes and decide between the two, and `expanded` undoes that
for the outermost node: what a node is, and what its fields are, does not depend on how it
is kept.

`tree?` is the way to the trees. It looks into nodes at any depth, and takes a truth value
for the level that it is equal to.
-/

namespace Folio

/-- What an element carries besides its children, by name. -/
def TagOf.ownFields : TagOf Value Value → List (String × Value)
  | .header level => [("level", level)]
  | .anchor target => [("target", target)]
  | .body | .div | .para | .bold | .italic => []

/-- All fields of an element by name, with a value as its children. -/
def TagOf.fieldsWith (tag : TagOf Value Value) (children : Value) : List (String × Value) :=
  tag.ownFields ++ [("children", children)]

/-- The tag of a tree, with values as its parts. -/
def Tag.asValues (tag : Tag) : TagOf Value Value :=
  tag.map .int .text

namespace Value

/-! ## Parts of trees -/

def int? : Value → Option Int
  | .int n => some n
  | _ => none

def text? : Value → Option String
  | .text s => some s
  | _ => none

def node? : Value → Option Node
  | .node n => some n
  | _ => none

/-- The level that a value is equal to. -/
def level? : Value → Option Int
  | .int n => some n
  | .bool b => some (if b then 1 else 0)
  | _ => none

/-! ## Building -/

/-- The text leaf with the given content. -/
def textNode : Value → Value
  | .text content => .node (.text content)
  | content => .looseText content

/-- The element with the given tag and children. -/
def element (tag : TagOf Value Value) (children : Chain Value) : Value :=
  match tag.mapM int? text?, children.mapM node? with
  | some tag, some nodes => .node (.element tag nodes)
  | _, _ => .looseElement tag children

/-- A chain of trees as a value. -/
def ofNodes (nodes : Chain Node) : Value :=
  .chain (nodes.map .node)

/-! ## Looking -/

/-- A node with its parts as values; any other value as it is. -/
def expanded : Value → Value
  | .node (.text content) => .looseText (.text content)
  | .node (.element tag children) => .looseElement tag.asValues (children.map .node)
  | value => value

/-- The kind of a node. -/
def kind? : Value → Option Kind
  | .node n => some n.kind
  | .looseText _ => some .text
  | .looseElement tag _ => some tag.kind
  | _ => none

/-- The fields of a value by name, in the order in which they are declared. -/
def fields (value : Value) : List (String × Value) :=
  match value.expanded with
  | .looseText content => [("text", content)]
  | .looseElement tag children => tag.fieldsWith (.chain children)
  | .chain (.cons first rest) => [("first", first), ("rest", .chain rest)]
  | .options o => [("strict", .bool o.strict), ("check_heading_levels", .bool o.checkHeadingLevels)]
  | .builder handle => [("children", .collected handle)]
  | _ => []

/-! ## Trees -/

mutual

/-- The tree that a node is, if all its parts are those of a tree. -/
def tree? : Value → Option Node
  | .node n => some n
  | .looseText content => content.text?.map .text
  | .looseElement tag children => do
    return .element (← tag.mapM level? text?) (← trees? children)
  | _ => none

/-- The trees that the elements of a chain are, if all of them are. -/
def trees? : Chain Value → Option (Chain Node)
  | .empty => some .empty
  | .cons child rest => do return .cons (← child.tree?) (← trees? rest)

end

/-! ## What building gives -/

theorem mapM_node?_map_node (nodes : Chain Node) : (nodes.map Value.node).mapM node? = some nodes := by
  have hlist : ∀ list : List Node, (list.map Value.node).mapM node? = some list := by
    intro list
    induction list with
    | nil => rfl
    | cons n list ih =>
      rw [List.map_cons, List.mapM_cons, ih]
      rfl
  rw [Chain.mapM, Chain.toList_map, hlist]
  exact congrArg some (Chain.ofList_toList nodes)

theorem eq_map_node_of_mapM {items : Chain Value} {nodes : Chain Node}
    (h : items.mapM node? = some nodes) : nodes.map .node = items := by
  have hlist : ∀ (values : List Value) (list : List Node),
      values.mapM node? = some list → list.map Value.node = values := by
    intro values
    induction values with
    | nil =>
      intro list hnone
      cases hnone
      rfl
    | cons value values ih =>
      intro list hcons
      rw [List.mapM_cons] at hcons
      obtain ⟨n, hn, hcons⟩ := Option.bind_eq_some_iff.mp hcons
      obtain ⟨rest, hrest, hcons⟩ := Option.bind_eq_some_iff.mp hcons
      cases hcons
      cases value with
      | node m =>
        cases hn
        rw [List.map_cons, ih rest hrest]
      | _ => cases hn
  rw [Chain.mapM] at h
  obtain ⟨list, hitems, rfl⟩ := Option.map_eq_some_iff.mp h
  rw [← Chain.toList_inj, Chain.toList_map, Chain.toList_ofList]
  exact hlist _ _ hitems

theorem mapM_asValues (tag : Tag) : tag.asValues.mapM int? text? = some tag := by
  cases tag <;> rfl

theorem asValues_of_mapM {tag : TagOf Value Value} {typed : Tag}
    (h : tag.mapM int? text? = some typed) : typed.asValues = tag := by
  cases tag with
  | header level =>
    cases level with
    | int n =>
      cases h
      rfl
    | _ => cases h
  | anchor target =>
    cases target with
    | text s =>
      cases h
      rfl
    | _ => cases h
  | body | div | para | bold | italic =>
    cases h
    rfl

/-- An element of trees is a tree. -/
theorem element_of_nodes (tag : Tag) (children : Chain Node) :
    element tag.asValues (children.map .node) = .node (.element tag children) := by
  rw [element, mapM_asValues, mapM_node?_map_node]

/-- An element has the parts that it was built of. -/
@[simp] theorem expanded_element (tag : TagOf Value Value) (children : Chain Value) :
    (element tag children).expanded = .looseElement tag children := by
  unfold element
  split
  · rename_i typed nodes htag hchildren
    rw [expanded, asValues_of_mapM htag, eq_map_node_of_mapM hchildren]
  · rfl

@[simp] theorem expanded_textNode (content : Value) :
    (textNode content).expanded = .looseText content := by
  cases content <;> rfl

theorem kind?_expanded (value : Value) : value.expanded.kind? = value.kind? := by
  cases value with
  | node n =>
    cases n with
    | text content => rfl
    | element tag children => exact congrArg some (TagOf.kind_map _ _ tag)
  | _ => rfl

@[simp] theorem kind?_element (tag : TagOf Value Value) (children : Chain Value) :
    (element tag children).kind? = some tag.kind := by
  rw [← kind?_expanded, expanded_element, kind?]

@[simp] theorem fields_element (tag : TagOf Value Value) (children : Chain Value) :
    (element tag children).fields = tag.fieldsWith (.chain children) := by
  rw [fields, expanded_element]

@[simp] theorem fields_textNode (content : Value) :
    (textNode content).fields = [("text", content)] := by
  rw [fields, expanded_textNode]

/-! ## What the tree is -/

theorem trees?_map_node (nodes : Chain Node) : trees? (nodes.map .node) = some nodes := by
  induction nodes with
  | empty => rfl
  | cons n nodes ih =>
    rw [Chain.map_cons, trees?, ih]
    rfl

theorem tree?_expanded (value : Value) : value.expanded.tree? = value.tree? := by
  cases value with
  | node n =>
    cases n with
    | text content => rfl
    | element tag children =>
      have htag : tag.asValues.mapM level? text? = some tag := by cases tag <;> rfl
      simp only [expanded, tree?, htag, trees?_map_node]
      rfl
  | _ => rfl

theorem tree?_element (tag : TagOf Value Value) (children : Chain Value) :
    (element tag children).tree? = do
      return .element (← tag.mapM level? text?) (← trees? children) := by
  rw [← tree?_expanded, expanded_element, tree?]

end Value

end Folio
