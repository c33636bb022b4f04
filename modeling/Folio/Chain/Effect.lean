-- SUMMARY: The loops over chains for steps that have effects, and the order in which they run.
import Folio.Chain

/-!
# Loops with effects

The loops of `Folio.Chain` for a step that does something besides answering:
record its calls, fail, or depend on the calls before it. The order of the
effects is the order in which the loop reaches the elements: first to last for
`mapM`, `foldlM` and `allM`, last to first for `foldrM`. At the identity monad
each is the loop without effects.
-/

namespace Folio.Chain

universe u v w

variable {α : Type u} {β : Type v} {m : Type v → Type w} [Monad m]

/-- Runs `f` on the elements in order and keeps each answer at its place. -/
def mapM (f : α → m β) (c : Chain α) : m (Chain β) :=
  ofList <$> c.toList.mapM f

/-- Runs the combiner from the first element to the last. -/
def foldlM (f : α → β → m β) (base : β) (c : Chain α) : m β :=
  c.toList.foldlM (fun acc x => f x acc) base

/-- Runs the combiner from the last element to the first. -/
def foldrM (f : α → β → m β) (base : β) (c : Chain α) : m β :=
  c.toList.reverse.foldlM (fun acc x => f x acc) base

/-- Asks `p` of the elements in order, up to and including the first refusal. -/
def allM {m : Type → Type w} [Monad m] (p : α → m Bool) (c : Chain α) : m Bool :=
  c.toList.allM p

/-! ## Without effects -/

@[simp] theorem idRun_mapM (f : α → Id β) (c : Chain α) :
    (c.mapM f).run = c.map (fun x => (f x).run) := by
  simp [mapM, map]

private theorem idRun_foldlM_list (f : β → α → Id β) (xs : List α) (base : β) :
    (xs.foldlM f base).run = xs.foldl (fun acc x => (f acc x).run) base := by
  induction xs generalizing base with
  | nil => rfl
  | cons x xs ih => rw [List.foldlM_cons, Id.run_bind, ih, List.foldl_cons]

@[simp] theorem idRun_foldlM (f : α → β → Id β) (base : β) (c : Chain α) :
    (c.foldlM f base).run = c.foldl (fun x acc => (f x acc).run) base :=
  idRun_foldlM_list (fun acc x => f x acc) c.toList base

@[simp] theorem idRun_foldrM (f : α → β → Id β) (base : β) (c : Chain α) :
    (c.foldrM f base).run = c.foldr (fun x acc => (f x acc).run) base :=
  idRun_foldlM_list (fun acc x => f x acc) c.toList.reverse base

@[simp] theorem idRun_allM (p : α → Id Bool) (c : Chain α) :
    (c.allM p).run = c.all (fun x => (p x).run) := by
  have step : ∀ xs : List α, (xs.allM p).run = xs.all (fun x => (p x).run) := by
    intro xs
    induction xs with
    | nil => rfl
    | cons x xs ih =>
      simp only [List.allM, List.all_cons, Id.run_bind]
      cases (p x).run with
      | true => simpa using ih
      | false => rfl
  exact step c.toList

end Folio.Chain
