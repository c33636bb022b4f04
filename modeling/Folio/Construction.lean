-- SUMMARY: The boundary where values become chains and nodes, or are refused.
import Folio.Signature
import Folio.Value.Tree

/-!
# Construction

Nodes and chains are built from values. Children and the rest of a chain may be
a chain, which is kept, or a list or tuple, whose elements are taken in order
and never flattened; any other value is refused and nothing is built.

Nothing else is looked at: the elements need not be nodes, a level need not be a
number, and no nesting is checked here.
-/

namespace Folio

namespace Value

/-- The chain of a first element and a rest. -/
def link (first rest : Value) : Except Error (Chain Value) :=
  match rest.asChain? with
  | some items => .ok (.cons first items)
  | none => .error (.restRefused rest)

/-- The element with the given tag and the value given as its children. -/
def withTag (tag : TagOf Value Value) (children : Value) : Except Error Value :=
  match children.asChain? with
  | some items => .ok (element tag items)
  | none => .error (.childrenRefused tag.kind children)

end Value

/-! ## Nodes -/

namespace Kind

def signature (kind : Kind) : Signature where
  callee := s!"{kind.name}.__init__()"
  required := match kind with
    | .header => ["level"]
    | .anchor => ["target"]
    | .text => ["text"]
    | _ => []
  optional := match kind with
    | .text => []
    | _ => ["children"]

/-- The tag of an element of this kind, whose own field, if it has one, is given by name. A text is
    no element. -/
def tag? (kind : Kind) (field : String → Value) : Option (TagOf Value Value) :=
  match kind with
  | .text => none
  | .header => some (.header (field "level"))
  | .anchor => some (.anchor (field "target"))
  | .body => some .body
  | .div => some .div
  | .para => some .para
  | .bold => some .bold
  | .italic => some .italic

/-- The name of the function that builds a node of this kind from its arguments in order. -/
def functionName : Kind → String
  | .body => "body"
  | .div => "div"
  | .para => "para"
  | .header => "header"
  | .text => "text"
  | .anchor => "anchor"
  | .bold => "bold"
  | .italic => "italic"

def ofFunctionName? (name : String) : Option Kind :=
  all.find? fun kind => kind.functionName == name

end Kind

namespace Node

/-- The node of the given kind with its fields given by name; children left out are none. -/
def ofFields (kind : Kind) (fields : Arguments) : Except Error Value := do
  kind.signature.check fields
  let field (name : String) : Value := (fields.lookup name).getD .null
  match kind.tag? field with
  | some tag => Value.withTag tag ((fields.lookup "children").getD (.chain .empty))
  | none => return .textNode (field "text")

/-- The node of the given kind with its fields given in order, the children one by one last. -/
def ofArguments (kind : Kind) (arguments : List Value) : Except Error Value := do
  let callee := s!"{kind.functionName}()"
  match kind, arguments with
  | .text, [] => throw (.missingArgument callee "content")
  | .text, [content] => return .textNode content
  | .text, _ :: _ :: _ => throw (.surplusArguments callee arguments.length)
  | .header, [] => throw (.missingArgument callee "level")
  | .header, level :: children => Value.withTag (.header level) (.tuple children)
  | .anchor, [] => throw (.missingArgument callee "target")
  | .anchor, target :: children => Value.withTag (.anchor target) (.tuple children)
  | .body, children => Value.withTag .body (.tuple children)
  | .div, children => Value.withTag .div (.tuple children)
  | .para, children => Value.withTag .para (.tuple children)
  | .bold, children => Value.withTag .bold (.tuple children)
  | .italic, children => Value.withTag .italic (.tuple children)

end Node

/-! ## Fields -/

namespace Value

/-- The kind as which a value takes a visitor; what is no node lacks what every node offers them. -/
def visitedAs (value : Value) : Except Error Kind :=
  match value.kind? with
  | some kind => .ok kind
  | none => .error (.noField value.typeName "accept")

/-- The field of a node, of a chain that is not empty, of options or of a builder. -/
def field (value : Value) (name : String) : Except Error Value :=
  match value.fields.lookup name with
  | some found => .ok found
  | none => .error (.noField value.typeName name)

/-- The children of a value; a text leaf has none, and what has no such field is refused. -/
def children (value : Value) : Except Error Value :=
  if value.kind? = some .text then .ok (.chain .empty) else value.field "children"

/-- Whether the fields of a value are fixed once it is built. -/
def isFixed : Value → Bool
  | .node _ | .looseText _ | .looseElement _ _ | .chain _ | .options _ => true
  | _ => false

/-- Why a field of a value cannot be assigned, whether it has that field or not. -/
def assignmentError (value : Value) (name : String) : Error :=
  if value.isFixed then .fieldNotAssignable name else .noField value.typeName name

/-- Why a field of a value cannot be erased, whether it has that field or not. -/
def erasureError (value : Value) (name : String) : Error :=
  if value.isFixed then .fieldNotErasable name else .noField value.typeName name

/-- The number of elements of a collection, or of characters of a text. -/
def length : Value → Except Error Nat
  | .chain items => .ok items.length
  | .list items | .tuple items => .ok items.length
  | .text s => .ok s.length
  | .mapping entries => .ok entries.length
  | value => .error (.noLength value.typeName)

end Value

end Folio
