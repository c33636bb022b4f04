-- SUMMARY: What arguments a call takes by name, and which of its faults is reported.
import Folio.Error

/-!
# Signatures

Arguments are given by name, in some order. The object that a call is about is
given beforehand, under a name of its own. A name that the call does not know, or
that stands for that object, is reported first, the earliest given if there are
several; only then a required name that was not given.
-/

namespace Folio

/-- Arguments by name, in the order in which they were given. -/
abbrev Arguments : Type := List (String × Value)

/-- The name of the object that a call is about. -/
def receiver : String := "self"

structure Signature where
  callee : String
  required : List String
  optional : List String

namespace Signature

def knows (signature : Signature) (name : String) : Bool :=
  signature.required.contains name || signature.optional.contains name

def check (signature : Signature) (arguments : Arguments) : Except Error Unit :=
  match arguments.find? fun argument => !signature.knows argument.1 with
  | some (name, _) =>
    if name = receiver then .error (.repeatedArgument signature.callee name)
    else .error (.unknownArgument signature.callee name)
  | none =>
    match signature.required.find? fun name => (arguments.lookup name).isNone with
    | some name => .error (.missingArgument signature.callee name)
    | none => .ok ()

end Signature

end Folio
