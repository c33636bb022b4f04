-- SUMMARY: Failure objects of the three families, built from arguments given by name.
import Folio.Signature
import Folio.Value.Literal

/-!
# Failures

A caller may build failures of its own. There are three families, each inside
the one before it: any failure of the library, one about a parameter, and one
about a tree outside the grammar. A failure about a tree words itself unless a
message is given, and always has the tree's root as its parameter.
-/

namespace Folio

inductive Family where
  | library | validation | grammar
  deriving DecidableEq

namespace Family

def all : List Family := [library, validation, grammar]

def name : Family → String
  | library => "DomTreeError"
  | validation => "ValidationError"
  | grammar => "GrammarError"

def ofName? (name : String) : Option Family :=
  all.find? fun family => family.name == name

/-- The families that a failure of this family belongs to, the widest first. -/
def ancestry : Family → List Family
  | library => [library]
  | validation => [library, validation]
  | grammar => [library, validation, grammar]

def signature (family : Family) : Signature where
  callee := s!"{family.name}.__init__()"
  required := match family with
    | grammar => ["node_type"]
    | _ => ["message"]
  optional := match family with
    | library => ["original_error"]
    | validation => ["parameter_name", "parameter_value", "original_error"]
    | grammar => ["message"]

end Family

/-- The family of failures that a cause is reported as, if it is one that the library looks for. -/
def Error.family? : Error → Option Family
  | .childrenRefused .. | .restRefused .. | .flagRefused .. => some .validation
  | .ungrammatical .. => some .grammar
  | _ => none

/-- The name of the class that a cause is raised as; what is no family of the library is told apart
    by what went wrong with a value, with a field or with the call itself. -/
def Error.className (e : Error) : String :=
  match e.family?, e with
  | some family, _ => family.name
  | none, .noField .. => "AttributeError"
  | none, .fieldNotAssignable .. | none, .fieldNotErasable .. => "FrozenInstanceError"
  | none, .unknownLevel .. => "ValueError"
  | none, _ => "TypeError"

inductive Failure where
  | library (message cause : Value)
  | validation (message parameterName parameterValue cause : Value)
  | grammar (message rootedAt : Value)

namespace Failure

def family : Failure → Family
  | library .. => .library
  | validation .. => .validation
  | grammar .. => .grammar

def message : Failure → Value
  | library message _ => message
  | validation message .. => message
  | grammar message _ => message

/-- The failure that led to this one, by its text. -/
def cause : Failure → Value
  | library _ cause => cause
  | validation _ _ _ cause => cause
  | grammar .. => .null

/-- The name and the value of the parameter, where the family has one. -/
def parameter? : Failure → Option (Value × Value)
  | library .. => none
  | validation _ name value _ => some (name, value)
  | grammar _ rootedAt => some (.text "node", rootedAt)

def rootedAt? : Failure → Option Value
  | grammar _ rootedAt => some rootedAt
  | _ => none

/-- The failure as text: its message. -/
def text (failure : Failure) : String :=
  failure.message.plain

/-- The failure of the given family with the given arguments; those left out are null. -/
def ofArguments (family : Family) (arguments : Arguments) : Except Error Failure := do
  family.signature.check arguments
  let argument (name : String) : Value := (arguments.lookup name).getD .null
  let message := argument "message"
  match family with
  | .library => return .library message (argument "original_error")
  | .validation =>
    return .validation message (argument "parameter_name") (argument "parameter_value")
      (argument "original_error")
  | .grammar =>
    let rootedAt := argument "node_type"
    match message with
    | .null => return .grammar (.text (Error.ungrammaticalText rootedAt.plain)) rootedAt
    | message => return .grammar message rootedAt

end Failure

end Folio
