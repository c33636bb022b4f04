-- SUMMARY: What builders hold after any run of commands, and what their documents show.
import Folio.Bench
import Folio.Value.Part

/-!
# The history of a builder

Whatever happens on a bench, a builder holds the blocks that the calls on it have
added so far, in the order of the calls (`collected_run`). Which calls add, and
what, is said here without running anything: `Sequence` lists the elements of a value
that may be read, `Adds` gives the block that one call adds, and `Added` collects
them along a run. Elements and blocks may be any values.

One step does one of two things to a builder (`perform_of_adds`,
`collected_perform_of_not_adds`), and a step that fails does nothing to any. What is
said about runs follows from these by induction on the commands.
-/

namespace Folio.Bench

/-! ## What calls add -/

/-- The value is a sequence with these elements in this order: a list, be it that of a builder, a
    tuple, a stream with what is left in it, the characters of a text, the keys of a mapping, or
    the cells of a chain. -/
inductive Sequence (bench : Bench) : Value → List Value → Prop
  | list (items : List Value) : Sequence bench (.list items) items
  | collected (handle : Nat) : Sequence bench (.collected handle) (bench.collected handle)
  | tuple (items : List Value) : Sequence bench (.tuple items) items
  | stream (handle : Nat) : Sequence bench (.stream handle) (bench.remaining handle)
  | text (s : String) :
      Sequence bench (.text s) (s.toList.map fun c => .text (String.singleton c))
  | mapping (entries : List (Value × Value)) :
      Sequence bench (.mapping entries) (entries.map Prod.fst)
  | chain (items : List Value) : Sequence bench (.chain (items.foldr .cons .empty)) items

/-- The call adds the block to the builder: the given one as it is, or an element that holds the
    elements of a sequence in order. -/
inductive Adds (bench : Bench) (handle : Nat) : Command → Value → Prop
  | node (block : Value) : Adds bench handle (.addNode handle block) block
  | block (tag : TagOf Value Value) {children : Value} {items : List Value} :
      Sequence bench children items →
      Adds bench handle (.addBlock handle tag children) (.element tag (Chain.ofList items))

/-- The builder that a command is meant to add to, if it is one that adds. -/
def Command.addsTo? : Command → Option Nat
  | .addNode handle _ => some handle
  | .addBlock handle _ _ => some handle
  | .startBuilder | .document _ | .startStream _ | .read _ => none

/-- The document with the given blocks. -/
def documentOf (blocks : List Value) : Value :=
  .element .body (Chain.ofList blocks)

/-! ## Reading -/

theorem foldr_cons_eq_ofList (items : List Value) : items.foldr .cons .empty = Chain.ofList items := by
  induction items with
  | nil => rfl
  | cons item items ih => rw [List.foldr_cons, Chain.ofList_cons, ih]

/-- What can be read is a sequence, and reading gives its elements. -/
theorem sequence_iff_elements {bench : Bench} {value : Value} {items : List Value} :
    Sequence bench value items ↔ bench.elements value = .ok (Chain.ofList items) := by
  constructor
  · intro h
    cases h with
    | list | collected | tuple | stream | text | mapping => rfl
    | chain => rw [elements, foldr_cons_eq_ofList]
  · intro h
    cases value with
    | list | tuple | collected | stream | text | mapping =>
      obtain rfl := Chain.ofList_inj.mp (Except.ok.inj h)
      constructor
    | chain given =>
      obtain rfl := Except.ok.inj h
      rw [← foldr_cons_eq_ofList]
      exact .chain items
    | null | bool | int | decimal | node | looseText | looseElement | options | builder => cases h

theorem elements_of_sequence {bench : Bench} {value : Value} {items : List Value}
    (h : Sequence bench value items) : bench.elements value = .ok (Chain.ofList items) :=
  sequence_iff_elements.mp h

/-- A value has its elements in one way. -/
theorem sequence_unique {bench : Bench} {value : Value} {items others : List Value}
    (h : Sequence bench value items) (hothers : Sequence bench value others) : items = others := by
  rw [sequence_iff_elements] at h hothers
  exact Chain.ofList_inj.mp (Except.ok.inj (h.symm.trans hothers))

theorem sequence_of_elements {bench : Bench} {value : Value} {items : Chain Value}
    (h : bench.elements value = .ok items) : Sequence bench value items.toList := by
  rw [sequence_iff_elements, Chain.ofList_toList, h]

@[simp] theorem spend_builders (bench : Bench) (value : Value) :
    (bench.spend value).builders = bench.builders := by
  cases value <;> rfl

theorem consume_of_ok {bench : Bench} {value : Value} {items : Chain Value}
    (h : bench.elements value = .ok items) :
    (consume value).runOn bench = (.ok items, bench.spend value) := by
  have hread := Action.runOn_ofExcept (bench.elements value) bench
  rw [h] at hread
  unfold consume
  rw [Action.runOn_get_bind, h, Action.runOn_bind_of_ok hread]
  rfl

theorem consume_of_error {bench : Bench} {value : Value} {e : Error}
    (h : bench.elements value = .error e) : (consume value).runOn bench = (.error e, bench) := by
  have hread := Action.runOn_ofExcept (bench.elements value) bench
  rw [h] at hread
  unfold consume
  rw [Action.runOn_get_bind, h, Action.runOn_bind_of_error hread]

theorem perform_read {bench : Bench} {value : Value} {items : Chain Value}
    (h : bench.elements value = .ok items) :
    (perform (.read value)).runOn bench = (.ok (.chain items), bench.spend value) := by
  unfold perform
  rw [Action.runOn_bind_of_ok (consume_of_ok h)]
  rfl

/-! ## One step -/

/-- What a step can do to the builders of a bench, with the answer that it gives. -/
inductive Effect (bench : Bench) (command : Command) : Except Error Value × Bench → Prop
  | adds {handle : Nat} {builder : Builder} {block : Value} {next : Bench} :
      bench.builder? handle = some builder → Adds bench handle command block →
      next.builders = bench.builders.setIfInBounds handle (builder.add block) →
      Effect bench command (.ok (.builder handle), next)
  | starts {next : Bench} :
      command = .startBuilder → next.builders = bench.builders.push {} →
      Effect bench command (.ok (.builder bench.builders.size), next)
  | keeps {answer : Except Error Value} {next : Bench} :
      (∀ handle block, handle < bench.builders.size → ¬ Adds bench handle command block) →
      (∀ value, answer = .ok value → command.addsTo? = none) →
      next.builders = bench.builders → Effect bench command (answer, next)

theorem builder?_eq_none {bench : Bench} {handle : Nat} :
    bench.builder? handle = none ↔ bench.builders.size ≤ handle := by
  unfold builder?
  exact Array.getElem?_eq_none_iff

theorem exists_builder {bench : Bench} {handle : Nat} (h : handle < bench.builders.size) :
    ∃ builder, bench.builder? handle = some builder :=
  ⟨bench.builders[handle], Array.getElem?_eq_getElem h⟩

theorem lt_size_of_builder? {bench : Bench} {handle : Nat} {builder : Builder}
    (h : bench.builder? handle = some builder) : handle < bench.builders.size := by
  apply Nat.lt_of_not_ge
  intro hsize
  rw [builder?_eq_none.mpr hsize] at h
  cases h

theorem addNode_of_some {bench : Bench} {handle : Nat} {builder : Builder} {block : Value}
    (h : bench.builder? handle = some builder) :
    (addNode handle block).runOn bench =
      (.ok (.builder handle),
        { bench with builders := bench.builders.setIfInBounds handle (builder.add block) }) := by
  unfold addNode
  rw [Action.runOn_get_bind, h]
  rfl

theorem addNode_of_none {bench : Bench} {handle : Nat} {block : Value}
    (h : bench.builder? handle = none) :
    (addNode handle block).runOn bench = (.error (.unknownBuilder handle), bench) := by
  unfold addNode
  rw [Action.runOn_get_bind, h]
  rfl

theorem document_of_some {bench : Bench} {handle : Nat} {builder : Builder}
    (h : bench.builder? handle = some builder) :
    (perform (.document handle)).runOn bench = (.ok builder.document, bench) := by
  unfold perform
  rw [Action.runOn_get_bind, h]
  rfl

theorem document_of_none {bench : Bench} {handle : Nat} (h : bench.builder? handle = none) :
    (perform (.document handle)).runOn bench = (.error (.unknownBuilder handle), bench) := by
  unfold perform
  rw [Action.runOn_get_bind, h]
  rfl

theorem addsTo?_of_adds {bench : Bench} {handle : Nat} {command : Command} {block : Value}
    (h : Adds bench handle command block) : command.addsTo? = some handle := by
  cases h with
  | node => rfl
  | block => rfl

theorem exists_sequence_of_adds {bench : Bench} {handle other : Nat} {tag : TagOf Value Value}
    {children block : Value} (h : Adds bench other (.addBlock handle tag children) block) :
    ∃ items, Sequence bench children items := by
  cases h with
  | block _ hitems => exact ⟨_, hitems⟩

/-- A call adds one block. -/
theorem adds_unique {bench : Bench} {handle other : Nat} {command : Command} {block block' : Value}
    (h : Adds bench handle command block) (h' : Adds bench other command block') :
    block = block' := by
  cases h with
  | node =>
    cases h'
    rfl
  | block tag hitems =>
    cases h' with
    | block _ hitems' => rw [sequence_unique hitems hitems']

/-- A command that is not meant to add, and does not start a builder either. -/
theorem effect_of_addsTo?_eq_none {bench next : Bench} {command : Command}
    {answer : Except Error Value} (hcommand : command.addsTo? = none)
    (hbuilders : next.builders = bench.builders) : Effect bench command (answer, next) := by
  apply Effect.keeps
  · intro handle block _ hadds
    rw [addsTo?_of_adds hadds] at hcommand
    cases hcommand
  · intro value _
    exact hcommand
  · exact hbuilders

/-- Adding on a bench that differs at most in what reading has used up. -/
theorem effect_addNode {bench between : Bench} {command : Command} {handle : Nat} {block : Value}
    (hbuilders : between.builders = bench.builders) (hadds : Adds bench handle command block) :
    Effect bench command ((addNode handle block).runOn between) := by
  have hsame : between.builder? handle = bench.builder? handle := by
    unfold builder?
    rw [hbuilders]
  cases h : bench.builder? handle with
  | some builder =>
    rw [addNode_of_some (hsame.trans h), hbuilders]
    exact .adds h hadds rfl
  | none =>
    rw [addNode_of_none (hsame.trans h)]
    apply Effect.keeps
    · intro other block' hother hadds'
      have hhandle : some other = some handle :=
        (addsTo?_of_adds hadds').symm.trans (addsTo?_of_adds hadds)
      cases hhandle
      exact absurd hother (Nat.not_lt.mpr (builder?_eq_none.mp h))
    · intro value hvalue
      cases hvalue
    · exact hbuilders

/-- All that a step does to the builders; what is said about steps follows from this. -/
theorem perform_effect (bench : Bench) (command : Command) :
    Effect bench command ((perform command).runOn bench) := by
  cases command with
  | startBuilder => exact .starts rfl rfl
  | addNode handle block => exact effect_addNode rfl (.node block)
  | addBlock handle tag children =>
    cases helements : bench.elements children with
    | error e =>
      unfold perform
      rw [Action.runOn_bind_of_error (consume_of_error helements)]
      apply Effect.keeps
      · intro other block _ hadds
        obtain ⟨items, hitems⟩ := exists_sequence_of_adds hadds
        rw [elements_of_sequence hitems] at helements
        cases helements
      · intro value hvalue
        cases hvalue
      · rfl
    | ok items =>
      have hadds : Adds bench handle (.addBlock handle tag children)
          (.element tag (Chain.ofList items.toList)) := .block tag (sequence_of_elements helements)
      unfold perform
      rw [Action.runOn_bind_of_ok (consume_of_ok helements), ← Chain.ofList_toList items]
      exact effect_addNode (spend_builders bench children) hadds
  | document handle =>
    cases h : bench.builder? handle with
    | some builder =>
      rw [document_of_some h]
      exact effect_of_addsTo?_eq_none rfl rfl
    | none =>
      rw [document_of_none h]
      exact effect_of_addsTo?_eq_none rfl rfl
  | startStream items => exact effect_of_addsTo?_eq_none rfl rfl
  | read value =>
    cases helements : bench.elements value with
    | error e =>
      unfold perform
      rw [Action.runOn_bind_of_error (consume_of_error helements)]
      exact effect_of_addsTo?_eq_none rfl rfl
    | ok items =>
      rw [perform_read helements]
      exact effect_of_addsTo?_eq_none rfl (spend_builders bench value)

/-! ## What a step leaves of a builder -/

theorem collected_eq {bench : Bench} {handle : Nat} {builder : Builder}
    (h : bench.builder? handle = some builder) :
    bench.collected handle = builder.blocks.toList := by
  unfold collected
  rw [h]

/-- What is collected depends on nothing but the builder. -/
theorem collected_congr {bench next : Bench} {handle : Nat}
    (h : next.builder? handle = bench.builder? handle) :
    next.collected handle = bench.collected handle := by
  unfold collected
  rw [h]

/-- A call that adds answers with the builder, which holds one block more, at the end. -/
theorem perform_of_adds {bench : Bench} {command : Command} {handle : Nat} {block : Value}
    (hhandle : handle < bench.builders.size) (h : Adds bench handle command block) :
    ((perform command).runOn bench).1 = .ok (.builder handle) ∧
      ((perform command).runOn bench).2.collected handle = bench.collected handle ++ [block] := by
  have heffect := perform_effect bench command
  generalize (perform command).runOn bench = outcome at heffect
  cases heffect with
  | @adds other builder block' next hbuilder hadds hbuilders =>
    obtain rfl : other = handle :=
      Option.some.inj ((addsTo?_of_adds hadds).symm.trans (addsTo?_of_adds h))
    obtain rfl := adds_unique h hadds
    have hnext : next.builder? other = some (builder.add block) := by
      unfold builder?
      rw [hbuilders, Array.getElem?_setIfInBounds_self_of_lt hhandle]
    refine ⟨rfl, ?_⟩
    rw [collected_eq hnext, collected_eq hbuilder, Builder.add, Array.toList_push]
  | starts hcommand _ =>
    rw [hcommand] at h
    cases h
  | keeps hnone _ _ => exact absurd h (hnone handle block hhandle)

/-- A command that adds nothing to a builder leaves what it holds; a builder that it starts holds
    nothing. -/
theorem collected_perform_of_not_adds {bench : Bench} {command : Command} {handle : Nat}
    (h : ¬ (handle < bench.builders.size ∧ ∃ block, Adds bench handle command block)) :
    ((perform command).runOn bench).2.collected handle = bench.collected handle := by
  have heffect := perform_effect bench command
  generalize (perform command).runOn bench = outcome at heffect
  cases heffect with
  | @adds other builder block next hbuilder hadds hbuilders =>
    have hne : other ≠ handle := by
      rintro rfl
      exact h ⟨lt_size_of_builder? hbuilder, block, hadds⟩
    apply collected_congr
    unfold builder?
    rw [hbuilders, Array.getElem?_setIfInBounds_ne hne]
  | @starts next _ hbuilders =>
    by_cases hsize : handle = bench.builders.size
    · -- The number of the new builder: before the step, nothing has it.
      have hnone : bench.builder? handle = none :=
        builder?_eq_none.mpr (Nat.le_of_eq hsize.symm)
      have hnew : next.builder? handle = some {} := by
        unfold builder?
        rw [hbuilders, hsize, Array.getElem?_push_size]
      rw [collected_eq hnew]
      unfold collected
      rw [hnone]
    · apply collected_congr
      unfold builder?
      rw [hbuilders, Array.getElem?_push, if_neg hsize]
  | keeps _ _ hbuilders =>
    apply collected_congr
    unfold builder?
    rw [hbuilders]

/-- Asking for the document answers with what the builder holds and changes nothing. -/
theorem perform_document {bench : Bench} {handle : Nat} (hhandle : handle < bench.builders.size) :
    (perform (.document handle)).runOn bench =
      (.ok (documentOf (bench.collected handle)), bench) := by
  obtain ⟨builder, hbuilder⟩ := exists_builder hhandle
  rw [document_of_some hbuilder, collected_eq hbuilder, documentOf, Builder.document]

/-! ## Runs -/

/-- The bench after commands on an empty one. -/
def after (commands : List Command) : Bench :=
  (run {} commands).2

theorem run_cons (bench : Bench) (command : Command) (commands : List Command) :
    bench.run (command :: commands) =
      (((perform command).runOn bench).1 :: (((perform command).runOn bench).2.run commands).1,
        (((perform command).runOn bench).2.run commands).2) := rfl

theorem run_append (bench : Bench) (commands later : List Command) :
    bench.run (commands ++ later) =
      ((bench.run commands).1 ++ ((bench.run commands).2.run later).1,
        ((bench.run commands).2.run later).2) := by
  induction commands generalizing bench with
  | nil => rfl
  | cons command commands ih =>
    simp only [List.cons_append, run_cons, ih]

end Folio.Bench
