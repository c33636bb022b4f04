-- SUMMARY: Interfaces with the methods they require, and visitors given by the methods they define.
import Folio.Construction

/-!
# Visitors

An interface names the methods that a class must define; while one is missing,
no instance can be made. A visitor has one method for each kind of node, and
visiting a node runs the method of the node's kind. A visitor of containers
needs a single method for all elements, and answers 1 at a text leaf unless it
defines that itself.
-/

namespace Folio

/-- The method that a visitor runs on nodes of a kind. -/
def Kind.visitMethod (kind : Kind) : String :=
  s!"visit_{kind.functionName}"

def containerMethod : String := "visit_container"

inductive Interface where
  | chain | node | visitor | containerVisitor
  deriving DecidableEq

namespace Interface

def name : Interface → String
  | chain => "PList"
  | node => "Node"
  | visitor => "NodeVisitor"
  | containerVisitor => "_ContainerVisitor"

/-- The methods without a definition of their own, by name. -/
def required : Interface → List String
  | chain => ["all_satisfy", "foldl", "foldr", "map"]
  | node => ["accept"]
  | visitor =>
    ["visit_anchor", "visit_body", "visit_bold", "visit_div", "visit_header", "visit_italic",
      "visit_para", "visit_text"]
  | containerVisitor => [containerMethod]

/-- Makes an instance of a class that has the interface and defines the given methods. -/
def instantiate (interface : Interface) (className : String) (defined : List String) :
    Except Error Unit :=
  match interface.required.filter fun method => !defined.contains method with
  | [] => .ok ()
  | missing => .error (.unfinished className missing)

end Interface

/-- A visitor whose methods answer their own names. -/
structure Visitor where
  interface : Interface
  defined : List String

namespace Visitor

def instantiate (className : String) (interface : Interface) (defined : List String) :
    Except Error Visitor := do
  interface.instantiate className defined
  return { interface, defined }

/-- What visiting a node answers: the name of the method that answers, or 1 at a
    text leaf where no method is defined for it. -/
def visit (visitor : Visitor) (node : Node) : Value :=
  if visitor.defined.contains node.kind.visitMethod then .text node.kind.visitMethod
  else
    match node with
    | .text _ => .int 1
    | .element _ _ => .text containerMethod

end Visitor

end Folio
