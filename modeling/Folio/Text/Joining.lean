-- SUMMARY: Putting two pieces of text together, with a separator that empty pieces do not bring.

/-!
# Joining

`joinedBy` always writes its separator; `combine` leaves an empty piece out
together with the separator beside it.
-/

namespace Folio.Text

/-- The two pieces with the separator between them. -/
def joinedBy (separator first second : String) : String :=
  first ++ separator ++ second

/-- The two pieces with the joiner between them, if neither is empty; else the other one. -/
def combine (joiner part rest : String) : String :=
  if part = "" then rest
  else if rest = "" then part
  else joinedBy joiner part rest

end Folio.Text
