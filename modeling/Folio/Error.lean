-- SUMMARY: The ways an operation can be refused, as causes, and the wording of each.
import Folio.Text.Quoted
import Folio.Value

/-!
# Errors

`Error` lists the causes; `Error.message` is the only place that words them.
`Error.parameter?` gives the offending parameter with its value where a message
is about one.
-/

namespace Folio

inductive Error where
  /-- Children given as something that is no chain, list or tuple. -/
  | childrenRefused (owner : Kind) (value : Value)
  /-- The rest of a chain given as something that is no chain, list or tuple. -/
  | restRefused (value : Value)
  /-- An option given as something other than a truth value. -/
  | flagRefused (flag : String) (value : Value)
  /-- A tree outside the grammar, judged strictly. -/
  | ungrammatical (kind : Kind)
  | missingArgument (callee parameter : String)
  | unknownArgument (callee argument : String)
  /-- An argument by name for what is already given. -/
  | repeatedArgument (callee argument : String)
  /-- More arguments than the one that is taken. -/
  | surplusArguments (callee : String) (given : Nat)
  | notIterable (typeName : String)
  | noLength (typeName : String)
  | unhashable (typeName : String)
  /-- An interface instantiated with methods still missing. -/
  | unfinished (interface : String) (missing : List String)
  | noField (owner field : String)
  | fieldNotAssignable (field : String)
  | fieldNotErasable (field : String)
  | unknownLevel (name : String)
  /-- A level given as what is neither a number nor a text, by its literal form. -/
  | levelRefused (literal : String)
  /-- A builder number that was never given. -/
  | unknownBuilder (handle : Nat)

namespace Error

/-- What is said of a document that is outside the grammar. -/
def ungrammaticalText (rootedAt : String) : String :=
  s!"Document rooted at {rootedAt} is not well-formed"

def message : Error → String
  | childrenRefused owner value =>
    s!"{owner.name} children must be a PList, list or tuple, not {value.typeName}"
  | restRefused value => s!"Cons rest must be a PList, list or tuple, not {value.typeName}"
  | flagRefused flag value => s!"{flag} must be a bool, got {value.typeName}"
  | ungrammatical kind => ungrammaticalText kind.name
  | missingArgument callee parameter =>
    s!"{callee} missing 1 required positional argument: '{parameter}'"
  | unknownArgument callee argument =>
    s!"{callee} got an unexpected keyword argument '{argument}'"
  | repeatedArgument callee argument =>
    s!"{callee} got multiple values for argument '{argument}'"
  | surplusArguments callee given =>
    s!"{callee} takes 1 positional argument but {given} were given"
  | notIterable typeName => s!"'{typeName}' object is not iterable"
  | noLength typeName => s!"object of type '{typeName}' has no len()"
  | unhashable typeName => s!"unhashable type: '{typeName}'"
  | unfinished interface missing =>
    let noun := if missing.length = 1 then "method" else "methods"
    let names := ", ".intercalate missing
    s!"Can't instantiate abstract class {interface} with abstract {noun} {names}"
  | noField owner field => s!"'{owner}' object has no attribute '{field}'"
  | fieldNotAssignable field => s!"cannot assign to field {Text.quoted field}"
  | fieldNotErasable field => s!"cannot delete field {Text.quoted field}"
  | unknownLevel name => s!"Unknown level: {Text.quoted name}"
  | levelRefused literal => s!"Level not an integer or a valid string: {literal}"
  | unknownBuilder handle => s!"no builder {handle}"

/-- The parameter a message is about, with the value it was given. -/
def parameter? : Error → Option (String × Value)
  | childrenRefused _ value => some ("children", value)
  | restRefused value => some ("rest", value)
  | flagRefused flag value => some (flag, value)
  | ungrammatical kind => some ("node", .text kind.name)
  | _ => none

end Error

end Folio
