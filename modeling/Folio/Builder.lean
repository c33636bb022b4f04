-- SUMMARY: Builders, which collect the blocks of a document one by one.
import Folio.Value.Tree

/-!
# Builders

A builder collects blocks, whatever they are, and gives a document of those collected so
far; the document is a value of its own and does not change afterwards.
-/

namespace Folio

structure Builder where
  blocks : Array Value := #[]

namespace Builder

def add (builder : Builder) (block : Value) : Builder where
  blocks := builder.blocks.push block

/-- The document of the blocks collected so far. -/
def document (builder : Builder) : Value :=
  .element .body (Chain.ofList builder.blocks.toList)

end Builder

end Folio
