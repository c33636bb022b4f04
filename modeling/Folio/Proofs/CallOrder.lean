-- SUMMARY: Which calls of its step a loop over a chain makes, in what order, and what becomes of the answers.
import Folio.Bench
import Folio.Trace

/-!
# The order of calls

A step may keep a state of its own, so that what it answers depends on the calls
before. `recorded` runs such a step and writes down each call with its answer;
`calls_in_order` says what is written when a loop runs it: the elements from first to
last for `mapM`, `foldlM` and `allM`, from last to first for `foldrM`, each once, and
for `allM` none after the first refusal.

`Makes` says of an action what it answers together with the calls that it makes. Its
rules follow the ways in which loops are put together, so that each loop is gone
through once, by induction on the list of elements.
-/

namespace Folio

/-! ## Recording -/

/-- An action on the state of a step that leaves a record. -/
abbrev Recording (σ ε : Type) : Type → Type := StateT σ (Traced ε)

namespace Recording

variable {γ δ σ ε α β : Type}

/-- The answer with the state that is left, and what was recorded. -/
def outcome (act : Recording σ ε α) (state : σ) : (α × σ) × List ε :=
  Traced.result (act.run state)

/-- Runs a step and records what it was given with what it answered. -/
def recorded (step : γ → StateM σ δ) (given : γ) : Recording σ (γ × δ) δ := do
  let (answer, state) := ((step given).run (← get)).run
  set state
  Traced.note (given, answer)
  return answer

/-- The step makes these calls one after the other, each in the state that the one before left. -/
inductive Calls (step : γ → StateM σ δ) : σ → List (γ × δ) → σ → Prop
  | none (state : σ) : Calls step state [] state
  | call {given : γ} {answer : δ} {state between last : σ} {calls : List (γ × δ)} :
      (step given).run state = (answer, between) → Calls step between calls last →
      Calls step state ((given, answer) :: calls) last

variable {step : γ → StateM σ δ}

theorem Calls.append {state between last : σ} {calls later : List (γ × δ)}
    (h : Calls step state calls between) (hlater : Calls step between later last) :
    Calls step state (calls ++ later) last := by
  induction h with
  | none => exact hlater
  | call hanswer _ ih => exact .call hanswer (ih hlater)

/-! ## Actions and their calls -/

/-- Whatever the state and the record so far, the action makes calls of the step and records
    them, and what it answers fits these calls. -/
def Makes (step : γ → StateM σ δ) (act : Recording σ (γ × δ) α)
    (fits : α → List (γ × δ) → Prop) : Prop :=
  ∀ state record, ∃ answer calls last,
    (act.run state).run record = ((answer, last), record ++ calls.toArray) ∧
      Calls step state calls last ∧ fits answer calls

namespace Makes

variable {act : Recording σ (γ × δ) α} {next : α → Recording σ (γ × δ) β}
  {fits : α → List (γ × δ) → Prop} {fitsNext : β → List (γ × δ) → Prop}

theorem pure {answer : α} (h : fits answer []) : Makes step (return answer) fits := by
  intro state record
  refine ⟨answer, [], state, ?_, .none state, h⟩
  rw [Array.append_empty]
  rfl

theorem recorded (step : γ → StateM σ δ) (given : γ) :
    Makes step (recorded step given) fun answer calls => calls = [(given, answer)] := by
  intro state record
  refine ⟨_, [(given, _)], _, ?_, .call rfl (.none _), rfl⟩
  exact congrArg (Prod.mk _) Array.push_eq_append

/-- First the calls of the one action, then those of the next. -/
theorem bind (h : Makes step act fits)
    (hnext : ∀ answer calls, fits answer calls →
      Makes step (next answer) fun final later => fitsNext final (calls ++ later)) :
    Makes step (act >>= next) fitsNext := by
  intro state record
  obtain ⟨answer, calls, between, hrun, hcalls, hfits⟩ := h state record
  obtain ⟨final, later, last, hrunNext, hlater, hfitsNext⟩ :=
    hnext answer calls hfits between (record ++ calls.toArray)
  refine ⟨final, calls ++ later, last, ?_, hcalls.append hlater, hfitsNext⟩
  have hsplit : ((act >>= next).run state).run record =
      ((next answer).run between).run (record ++ calls.toArray) := by
    rw [StateT.run_bind, Traced.run_bind, hrun]
  have hrecord : record ++ calls.toArray ++ later.toArray = record ++ (calls ++ later).toArray := by
    simp
  rw [hsplit, hrunNext, hrecord]

/-- An action that starts with no record shows its calls. -/
theorem outcome_eq (h : Makes step act fits) (state : σ) :
    ∃ answer calls last, act.outcome state = ((answer, last), calls) ∧
      Calls step state calls last ∧ fits answer calls := by
  obtain ⟨answer, calls, last, hrun, hcalls, hfits⟩ := h state #[]
  refine ⟨answer, calls, last, ?_, hcalls, hfits⟩
  unfold outcome Traced.result
  rw [hrun]
  simp

theorem mono {fits' : α → List (γ × δ) → Prop} (h : Makes step act fits)
    (hle : ∀ answer calls, fits answer calls → fits' answer calls) : Makes step act fits' := by
  intro state record
  obtain ⟨answer, calls, last, hrun, hcalls, hfits⟩ := h state record
  exact ⟨answer, calls, last, hrun, hcalls, hle answer calls hfits⟩

/-- Another answer, made of the one that the action gives. -/
theorem map (f : α → β) (h : Makes step act fits)
    (hfits : ∀ answer calls, fits answer calls → fitsNext (f answer) calls) :
    Makes step (f <$> act) fitsNext := by
  rw [map_eq_pure_bind]
  apply h.bind
  intro answer calls hcalls
  apply Makes.pure
  rw [List.append_nil]
  exact hfits answer calls hcalls

end Makes

end Recording

/-! ## Loops -/

namespace Chain

open Recording

variable {α β σ : Type}

theorem makes_mapM (step : α → StateM σ β) (xs : List α) :
    Makes step (xs.mapM (recorded step)) fun answers calls =>
      calls.map Prod.fst = xs ∧ answers = calls.map Prod.snd := by
  induction xs with
  | nil =>
    rw [List.mapM_nil]
    exact .pure ⟨rfl, rfl⟩
  | cons x xs ih =>
    rw [List.mapM_cons]
    apply (Makes.recorded step x).bind
    rintro answer _ rfl
    apply ih.bind
    rintro answers calls ⟨hgiven, hanswers⟩
    apply Makes.pure
    rw [List.append_nil, List.singleton_append, List.map_cons, List.map_cons, hgiven, hanswers]
    exact ⟨rfl, rfl⟩

/-- Each call is given an element and what the call before has answered. Said of lists: the second
    arguments with the outcome after them are the base with the answers after it. -/
theorem makes_foldlM (step : α × β → StateM σ β) (base : β) (xs : List α) :
    Makes step (xs.foldlM (fun acc x => recorded step (x, acc)) base) fun outcome calls =>
      calls.map (fun call => call.1.1) = xs ∧
        calls.map (fun call => call.1.2) ++ [outcome] = base :: calls.map Prod.snd := by
  induction xs generalizing base with
  | nil =>
    rw [List.foldlM_nil]
    exact .pure ⟨rfl, rfl⟩
  | cons x xs ih =>
    rw [List.foldlM_cons]
    apply (Makes.recorded _ (x, base)).bind
    rintro answer _ rfl
    apply (ih answer).mono
    rintro outcome calls ⟨hgiven, hthreaded⟩
    simp only [List.cons_append, List.nil_append, List.map_cons, hgiven, hthreaded, and_self]

/-- What a test that asks for each element in turn can come to: all answers count as true, or the
    first that does not is the last that is asked for. -/
inductive Asked (counts : β → Bool) (xs : List α) : Bool → List (α × β) → Prop
  | all {calls : List (α × β)} :
      calls.map Prod.fst = xs → (∀ call ∈ calls, counts call.2 = true) → Asked counts xs true calls
  | upTo {earlier : List (α × β)} {x : α} {answer : β} {rest : List α} :
      xs = earlier.map Prod.fst ++ x :: rest → (∀ call ∈ earlier, counts call.2 = true) →
      counts answer = false → Asked counts xs false (earlier ++ [(x, answer)])

theorem Asked.cons {counts : β → Bool} {x : α} {xs : List α} {answer : β} {verdict : Bool}
    {calls : List (α × β)} (h : Asked counts xs verdict calls) (hanswer : counts answer = true) :
    Asked counts (x :: xs) verdict ((x, answer) :: calls) := by
  cases h with
  | all hgiven htrue =>
    apply Asked.all
    · rw [List.map_cons, hgiven]
    · exact List.forall_mem_cons.mpr ⟨hanswer, htrue⟩
  | @upTo earlier last refusal rest hgiven htrue hrefusal =>
    have hgiven' : x :: xs = ((x, answer) :: earlier).map Prod.fst ++ last :: rest := by
      rw [List.map_cons, List.cons_append, hgiven]
    exact .upTo hgiven' (List.forall_mem_cons.mpr ⟨hanswer, htrue⟩) hrefusal

theorem makes_allM (counts : β → Bool) (test : α → StateM σ β) (xs : List α) :
    Makes test (xs.allM fun x => counts <$> recorded test x) (Asked counts xs) := by
  induction xs with
  | nil =>
    apply Makes.pure
    exact .all rfl (List.forall_mem_nil _)
  | cons x xs ih =>
    have hasked : Makes test (counts <$> recorded test x) fun verdict calls =>
        ∃ answer : β, calls = [(x, answer)] ∧ counts answer = verdict := by
      apply (Makes.recorded test x).map
      rintro answer calls rfl
      exact ⟨answer, rfl, rfl⟩
    -- The first answer decides whether the rest of the list is gone through at all.
    rw [List.allM]
    apply hasked.bind
    rintro verdict _ ⟨answer, rfl, rfl⟩
    cases hanswer : counts answer with
    | true =>
      apply ih.mono
      intro verdict calls h
      exact h.cons hanswer
    | false =>
      apply Makes.pure
      have hgiven : x :: xs = ([] : List (α × β)).map Prod.fst ++ x :: xs := rfl
      exact .upTo hgiven (List.forall_mem_nil _) hanswer

/-- Whether a value counts as true on the bench as it was when the value was given. -/
def countsAsTrue (answer : Bench × Value) : Bool :=
  answer.1.isTrue answer.2

/-- A loop over a chain whose step keeps a state of its own makes these calls of it, each in the
    state that the one before left:
    `mapM` one for each element, from the first to the last, and it keeps each answer at the place
    of the element;
    `foldlM` one for each element, from the first to the last, and `foldrM` from the last to the
    first, the first call with the base and each other with the answer of the call before, and
    the outcome is the answer of the last;
    `allM` one for each element from the first on, up to and including the first whose answer does
    not count as true when it is given, and its verdict is negative exactly if there is one. -/
theorem calls_in_order (c : Chain α) (state : σ) :
    (∀ step : α → StateM σ β, ∃ answers calls last,
      (c.mapM (recorded step)).outcome state = ((answers, last), calls) ∧
      Calls step state calls last ∧
      calls.map Prod.fst = c.toList ∧ answers.toList = calls.map Prod.snd) ∧
    (∀ (step : α × β → StateM σ β) (base : β), ∃ outcome calls last,
      (c.foldlM (fun x acc => recorded step (x, acc)) base).outcome state =
        ((outcome, last), calls) ∧
      Calls step state calls last ∧
      calls.map (fun call => call.1.1) = c.toList ∧
      calls.map (fun call => call.1.2) ++ [outcome] = base :: calls.map Prod.snd) ∧
    (∀ (step : α × β → StateM σ β) (base : β), ∃ outcome calls last,
      (c.foldrM (fun x acc => recorded step (x, acc)) base).outcome state =
        ((outcome, last), calls) ∧
      Calls step state calls last ∧
      calls.map (fun call => call.1.1) = c.toList.reverse ∧
      calls.map (fun call => call.1.2) ++ [outcome] = base :: calls.map Prod.snd) ∧
    (∀ test : α → StateM σ (Bench × Value), ∃ verdict calls last,
      (c.allM fun x => countsAsTrue <$> recorded test x).outcome state =
        ((verdict, last), calls) ∧
      Calls test state calls last ∧ Asked countsAsTrue c.toList verdict calls) := by
  refine ⟨?map, ?foldl, ?foldr, ?all⟩
  case map =>
    intro step
    have h : Makes step (c.mapM (recorded step)) fun answers calls =>
        calls.map Prod.fst = c.toList ∧ answers.toList = calls.map Prod.snd := by
      apply (makes_mapM step c.toList).map ofList
      rintro answers calls ⟨hgiven, hanswers⟩
      rw [toList_ofList]
      exact ⟨hgiven, hanswers⟩
    exact h.outcome_eq state
  case foldl =>
    intro step base
    exact (makes_foldlM step base c.toList).outcome_eq state
  case foldr =>
    intro step base
    exact (makes_foldlM step base c.toList.reverse).outcome_eq state
  case all =>
    intro test
    exact (makes_allM countsAsTrue test c.toList).outcome_eq state

end Chain

end Folio
