-- SUMMARY: Options from fields given by name, and changed copies of options.
import Folio.Signature

/-!
# Options from fields

A changed copy takes the fields that are named from the arguments and the others
from the options at hand; building options anew changes a copy of the default.
Unknown names are refused before any value is looked at, and the values are
looked at in the order of the fields. The name of the object itself is refused
where it is given: by the update, or by building options anew.
-/

namespace Folio.Options

def signature : Signature where
  callee := "ValidationOptions.__init__()"
  required := []
  optional := ["strict", "check_heading_levels"]

/-- The value of a flag; only a truth value will do, not a number that counts as one. -/
def readFlag (name : String) : Value → Except Error Bool
  | .bool b => .ok b
  | value => .error (.flagRefused name value)

/-- The options with the named fields from the arguments. -/
def revise (options : Options) (fields : Arguments) : Except Error Options := do
  signature.check fields
  let strict ← readFlag "strict" ((fields.lookup "strict").getD (.bool options.strict))
  let checkHeadingLevels ← readFlag "check_heading_levels"
    ((fields.lookup "check_heading_levels").getD (.bool options.checkHeadingLevels))
  return { strict, checkHeadingLevels }

def ofFields (fields : Arguments) : Except Error Options :=
  revise {} fields

def updateCallee : String := "CloneFrozenMixin.create_updated()"

/-- A copy of the options with the named fields changed. -/
def update (options : Options) (fields : Arguments) : Except Error Options :=
  match fields.lookup receiver with
  | some _ => .error (.repeatedArgument updateCallee receiver)
  | none => options.revise fields

/-! ## Updates one after the other -/

/-- The options that are current after an update of the current ones: those that it gave, or the
    same as before if it failed. -/
def kept (current : Options) (fields : Arguments) : Options :=
  match current.update fields with
  | .ok next => next
  | .error _ => current

/-- Updates whatever is current, time after time; gives every answer and what is current last. -/
def run (current : Options) : List Arguments → List (Except Error Options) × Options
  | [] => ([], current)
  | fields :: updates =>
    let (answers, last) := run (current.kept fields) updates
    (current.update fields :: answers, last)

end Folio.Options
