-- SUMMARY: The two flags that say how a tree is judged.

/-!
# Validation options

`strict` decides what a refusal becomes (an error instead of the answer "no");
`checkHeadingLevels` adds a condition on headings to the grammar. Leaving the
options out means both are off.
-/

namespace Folio

structure Options where
  strict : Bool := false
  checkHeadingLevels : Bool := false
  deriving DecidableEq, Hashable

namespace Options

/-- The options to use when they may have been left out. -/
def resolve (options : Option Options) : Options :=
  options.getD {}

end Options

end Folio
