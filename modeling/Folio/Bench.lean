-- SUMMARY: A bench of builders and streams, what values that refer to them hold, and the commands that change them.
import Folio.Builder
import Folio.Construction

/-!
# The bench

What changes while a program runs stands on a bench and is known by its number:
builders, and streams, which can be read once. A value refers to one of them
(`Value.builder`, `Value.collected`, `Value.stream`) by that number, so whoever
holds the reference sees the same thing, and sees it change.

`elements` reads a value as a sequence and `spend` says what reading it uses up.
Commands are actions on the bench (`perform`): one that fails does not take back
what it did before it failed.
-/

namespace Folio

structure Bench where
  builders : Array Builder := #[]
  /-- What is left in each stream. -/
  streams : Array (List Value) := #[]

namespace Bench

/-! ## Looking -/

/-- The builder with the given number. -/
def builder? (bench : Bench) (handle : Nat) : Option Builder :=
  bench.builders[handle]?

/-- The blocks that a builder has collected. -/
def collected (bench : Bench) (handle : Nat) : List Value :=
  match bench.builder? handle with
  | some builder => builder.blocks.toList
  | none => []

/-- What is left in the stream with the given number. -/
def remaining (bench : Bench) (handle : Nat) : List Value :=
  (bench.streams[handle]?).getD []

/-- A value as a collection of what it holds at present; its elements stay references. -/
def opened (bench : Bench) : Value → Value
  | .collected handle => .list (bench.collected handle)
  | value => value

/-- Whether a value counts as true: nothing, zero and what is empty do not. -/
def isTrue (bench : Bench) : Value → Bool
  | .null => false
  | .bool b => b
  | .int n => n != 0
  | .decimal d => d.mantissa != 0
  | .text s => s != ""
  | .list items | .tuple items => !items.isEmpty
  | .mapping entries => !entries.isEmpty
  | .chain .empty => false
  | .chain (.cons _ _) => true
  | .collected handle => !(bench.collected handle).isEmpty
  | .node _ | .looseText _ | .looseElement _ _ | .options _ | .builder _ | .stream _ => true

mutual

/-- A value that stays as it is when builders go on: in place of each list of a builder, at any
    depth, it has the blocks that are in the list at present. -/
def snapshot (bench : Bench) : Value → Value
  | .list items => .list (snapshotList bench items)
  | .tuple items => .tuple (snapshotList bench items)
  | .mapping entries => .mapping (snapshotEntries bench entries)
  | .chain items => .chain (snapshotChain bench items)
  | .looseText content => .looseText (bench.snapshot content)
  | .looseElement (.header level) children =>
    .looseElement (.header (bench.snapshot level)) (snapshotChain bench children)
  | .looseElement (.anchor target) children =>
    .looseElement (.anchor (bench.snapshot target)) (snapshotChain bench children)
  | .looseElement tag children => .looseElement tag (snapshotChain bench children)
  | .collected handle => .list (bench.collected handle)
  | value => value

def snapshotList (bench : Bench) : List Value → List Value
  | [] => []
  | item :: items => bench.snapshot item :: snapshotList bench items

def snapshotEntries (bench : Bench) : List (Value × Value) → List (Value × Value)
  | [] => []
  | (key, value) :: entries =>
    (bench.snapshot key, bench.snapshot value) :: snapshotEntries bench entries

def snapshotChain (bench : Bench) : Chain Value → Chain Value
  | .empty => .empty
  | .cons item items => .cons (bench.snapshot item) (snapshotChain bench items)

end

/-! ## Reading -/

/-- The elements of a value in order; those of a text are its characters, those of a mapping its
    keys. -/
def elements (bench : Bench) : Value → Except Error (Chain Value)
  | .chain items => .ok items
  | .list items | .tuple items => .ok (Chain.ofList items)
  | .collected handle => .ok (Chain.ofList (bench.collected handle))
  | .stream handle => .ok (Chain.ofList (bench.remaining handle))
  | .mapping entries => .ok (Chain.ofList (entries.map Prod.fst))
  | .text s => .ok (Chain.ofList (s.toList.map fun c => .text c.toString))
  | value => .error (.notIterable value.typeName)

/-- The bench after the elements of a value were read: nothing is left in a stream. -/
def spend (bench : Bench) : Value → Bench
  | .stream handle => { bench with streams := bench.streams.setIfInBounds handle [] }
  | _ => bench

/-! ## Actions -/

/-- What is done on a bench and gives an answer or fails; the bench is as it was left in either
    case. -/
abbrev Action : Type → Type := ExceptT Error (StateM Bench)

namespace Action

variable {α β : Type}

/-- The answer or the failure on a bench, and the bench after it. -/
def runOn (act : Action α) (bench : Bench) : Except Error α × Bench :=
  (act.run.run bench).run

theorem runOn_get_bind (next : Bench → Action β) (bench : Bench) :
    (get >>= next : Action β).runOn bench = (next bench).runOn bench := rfl

theorem runOn_bind_of_ok {act : Action α} {next : α → Action β} {bench after : Bench} {answer : α}
    (h : act.runOn bench = (.ok answer, after)) :
    (act >>= next).runOn bench = (next answer).runOn after := by
  have hrun : act.run.run bench = (.ok answer, after) := h
  simp only [runOn, ExceptT.run_bind, StateT.run_bind, hrun]
  rfl

theorem runOn_bind_of_error {act : Action α} {next : α → Action β} {bench after : Bench} {e : Error}
    (h : act.runOn bench = (.error e, after)) :
    (act >>= next).runOn bench = (.error e, after) := by
  have hrun : act.run.run bench = (.error e, after) := h
  simp only [runOn, ExceptT.run_bind, StateT.run_bind, hrun]
  rfl

/-- What is known beforehand to be an answer or a failure. -/
theorem runOn_ofExcept (result : Except Error α) (bench : Bench) :
    (MonadExcept.ofExcept result : Action α).runOn bench = (result, bench) := by
  cases result <;> rfl

end Action

/-! ## Commands -/

inductive Command where
  /-- Put a new builder on the bench. -/
  | startBuilder
  /-- Add a block as it is. -/
  | addNode (handle : Nat) (block : Value)
  /-- Add an element that holds the elements of a value. -/
  | addBlock (handle : Nat) (tag : TagOf Value Value) (children : Value)
  | document (handle : Nat)
  /-- Put a stream of the given elements on the bench. -/
  | startStream (items : List Value)
  /-- Make a chain of the elements of a value. -/
  | read (value : Value)

/-- Reads a value to its end. -/
def consume (value : Value) : Action (Chain Value) := do
  let items ← MonadExcept.ofExcept ((← get).elements value)
  modify fun bench => bench.spend value
  return items

def addNode (handle : Nat) (block : Value) : Action Value := do
  match (← get).builder? handle with
  | some builder =>
    modify fun bench =>
      { bench with builders := bench.builders.setIfInBounds handle (builder.add block) }
    return .builder handle
  | none => throw (.unknownBuilder handle)

/-- What a command does; one that adds answers with its builder. -/
def perform : Command → Action Value
  | .startBuilder => do
    let handle := (← get).builders.size
    modify fun bench => { bench with builders := bench.builders.push {} }
    return .builder handle
  | .addNode handle block => addNode handle block
  | .addBlock handle tag children => do
    let items ← consume children
    addNode handle (.element tag items)
  | .document handle => do
    match (← get).builder? handle with
    | some builder => return builder.document
    | none => throw (.unknownBuilder handle)
  | .startStream items => do
    let handle := (← get).streams.size
    modify fun bench => { bench with streams := bench.streams.push items }
    return .stream handle
  | .read value => do return .chain (← consume value)

/-- What a command answers, with the bench after it, for a caller who needs no bench after a
    failure. -/
def step (bench : Bench) (command : Command) : Except Error (Value × Bench) :=
  match (perform command).runOn bench with
  | (.ok answer, next) => .ok (answer, next)
  | (.error e, _) => .error e

/-- Runs commands one after the other, whether or not they fail. -/
def run (bench : Bench) : List Command → List (Except Error Value) × Bench
  | [] => ([], bench)
  | command :: commands =>
    let (answer, next) := (perform command).runOn bench
    let (answers, last) := next.run commands
    (answer :: answers, last)

end Bench

end Folio
