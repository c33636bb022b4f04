-- SUMMARY: The operations on chains said by recursion on the cells.
import Folio.Chain

/-!
# Operations by recursion

What each loop over a chain is meant to compute, said cell by cell and without
lists: for a step that has effects, since a step without any is one at the identity
monad. The order of the effects can be read off: `foldrM` asks for the rest before
it runs the step on the first element, the others run the first step first.
-/

namespace Folio.Chain.Recursive

universe u v w

variable {α : Type u} {β : Type v} {m : Type v → Type w} [Monad m]

def mapM (f : α → m β) : Chain α → m (Chain β)
  | .empty => return .empty
  | .cons first rest => do
    let answer ← f first
    let answers ← mapM f rest
    return .cons answer answers

def foldrM (f : α → β → m β) (base : β) : Chain α → m β
  | .empty => return base
  | .cons first rest => do
    let accumulated ← foldrM f base rest
    f first accumulated

def foldlM (f : α → β → m β) (base : β) : Chain α → m β
  | .empty => return base
  | .cons first rest => do
    let accumulated ← f first base
    foldlM f accumulated rest

def allM {m : Type → Type w} [Monad m] (p : α → m Bool) : Chain α → m Bool
  | .empty => return true
  | .cons first rest => do
    if ← p first then allM p rest else return false

end Folio.Chain.Recursive
