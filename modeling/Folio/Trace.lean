-- SUMMARY: Computations that leave a record of what they did, in order.

/-!
# Traces

A traced computation writes entries while it runs; `Traced.result` gives its
answer with the entries in the order in which they were written. The walks over
trees (`Node.countWith`, `Rule.walk`, …) take what to do on entering a node as a
parameter: tracing passes `Traced.note`, and a walk that only answers passes
nothing to do.
-/

namespace Folio

abbrev Traced (ε : Type) : Type → Type := StateM (Array ε)

namespace Traced

variable {ε α β : Type}

/-- Writes one entry. -/
def note (entry : ε) : Traced ε Unit :=
  modify fun entries => entries.push entry

/-- The answer and the entries in the order they were written. -/
def result (act : Traced ε α) : α × List ε :=
  match act.run #[] with
  | (answer, entries) => (answer, entries.toList)

theorem run_pure (answer : α) (entries : Array ε) :
    (pure answer : Traced ε α).run entries = (answer, entries) := rfl

theorem run_note (entry : ε) (entries : Array ε) :
    (note entry).run entries = ((), entries.push entry) := rfl

theorem run_bind (act : Traced ε α) (next : α → Traced ε β) (entries : Array ε) :
    (act >>= next).run entries = (next (act.run entries).1).run (act.run entries).2 := rfl

end Traced

end Folio
