-- SUMMARY: Folding in one direction is folding the reversed chain in the other, and a loop over a mapped chain is a loop over the chain.
import Folio.Bench

/-!
# Laws of maps and folds

The chain whose elements stand the other way round is itself made by a fold
(`Chain.reversed`). On it each fold does what the other one does on the chain, so that
every law of one direction is a law of the other, and a mapped chain needs no loop of
its own: the function can be applied by whatever goes over the chain afterwards
(`fold_map_laws`).

The laws that keep the order of the calls hold for steps with effects as well.
-/

namespace Folio

universe u v w x

namespace Chain

variable {α : Type u} {β : Type v} {γ : Type w}

/-! ## The reversed chain -/

/-- The elements from last to first, by putting each in front of those before it. -/
def reversed (c : Chain α) : Chain α :=
  c.foldl .cons .empty

theorem toList_foldl_cons (c base : Chain α) :
    (c.foldl .cons base).toList = c.toList.reverse ++ base.toList := by
  induction c generalizing base with
  | empty => rfl
  | cons x rest ih =>
    rw [foldl_cons, ih, toList_cons, toList_cons, List.reverse_cons, List.append_assoc,
      List.singleton_append]

@[simp] theorem toList_reversed (c : Chain α) : c.reversed.toList = c.toList.reverse := by
  rw [reversed, toList_foldl_cons, toList_empty, List.append_nil]

@[simp] theorem reversed_reversed (c : Chain α) : c.reversed.reversed = c := by
  rw [← toList_inj, toList_reversed, toList_reversed, List.reverse_reverse]

theorem reversed_map (f : α → β) (c : Chain α) : (c.map f).reversed = c.reversed.map f := by
  rw [← toList_inj, toList_reversed, toList_map, toList_map, toList_reversed, List.map_reverse]

theorem foldr_cons_empty (c : Chain α) : c.foldr .cons .empty = c := by
  induction c with
  | empty => rfl
  | cons x rest ih => rw [foldr_cons, ih]

theorem length_map (f : α → β) (c : Chain α) : (c.map f).length = c.length := by
  rw [length_eq, length_eq, toList_map, List.length_map]

/-! ## The two directions -/

section Directions

variable {m : Type w → Type x} [Monad m]

theorem foldr_reversed (f : α → γ → γ) (base : γ) (c : Chain α) :
    c.reversed.foldr f base = c.foldl f base := by
  rw [foldr, foldl, toList_reversed, List.reverse_reverse]

theorem foldl_reversed (f : α → γ → γ) (base : γ) (c : Chain α) :
    c.reversed.foldl f base = c.foldr f base := by
  rw [foldr, foldl, toList_reversed]

theorem foldrM_reversed (f : α → γ → m γ) (base : γ) (c : Chain α) :
    c.reversed.foldrM f base = c.foldlM f base := by
  rw [foldrM, foldlM, toList_reversed, List.reverse_reverse]

theorem foldlM_reversed (f : α → γ → m γ) (base : γ) (c : Chain α) :
    c.reversed.foldlM f base = c.foldrM f base := by
  rw [foldrM, foldlM, toList_reversed]

theorem foldlM_map (f : α → β) (g : β → γ → m γ) (base : γ) (c : Chain α) :
    (c.map f).foldlM g base = c.foldlM (fun x acc => g (f x) acc) base := by
  rw [foldlM, foldlM, toList_map, List.foldlM_map]

theorem foldrM_map (f : α → β) (g : β → γ → m γ) (base : γ) (c : Chain α) :
    (c.map f).foldrM g base = c.foldrM (fun x acc => g (f x) acc) base := by
  rw [← foldlM_reversed, ← foldlM_reversed, reversed_map, foldlM_map]

end Directions

theorem allM_map {m : Type → Type x} [Monad m] (f : α → β) (p : β → m Bool) (c : Chain α) :
    (c.map f).allM p = c.allM (fun x => p (f x)) := by
  have step : ∀ xs : List α, (xs.map f).allM p = xs.allM (fun x => p (f x)) := by
    intro xs
    induction xs with
    | nil => rfl
    | cons x xs ih => rw [List.map_cons, List.allM, List.allM, ih]
  rw [allM, allM, toList_map, step]

end Chain

/-! ## Chains of values -/

/-- Putting values in front of a chain one by one is never refused. -/
theorem Value.foldlM_link (xs : List Value) (base : Chain Value) :
    xs.foldlM (fun rest x => Value.chain <$> link x rest) (.chain base) =
      Except.ok (.chain (xs.foldl (fun rest x => .cons x rest) base)) := by
  induction xs generalizing base with
  | nil => rfl
  | cons x xs ih => exact ih (.cons x base)

namespace Chain

theorem foldlM_link (c : Chain Value) :
    c.foldlM (fun x rest => Value.chain <$> Value.link x rest) (.chain .empty) =
      Except.ok (.chain c.reversed) :=
  Value.foldlM_link c.toList .empty

theorem foldrM_link (c : Chain Value) :
    c.foldrM (fun x rest => Value.chain <$> Value.link x rest) (.chain .empty) =
      Except.ok (.chain c) := by
  rw [← foldlM_reversed, foldlM_link, reversed_reversed]

/-! ## The laws -/

/-- Putting the elements of a chain in front of the empty chain gives back the chain if it is done
    from the last one on, and the reversed chain if it is done from the first one on; reversing
    twice does nothing. A fold in one direction is the other one on the reversed chain. A map
    keeps the number of elements and goes along with reversing; a second map, a fold in either
    direction or a test after it is one with the function applied to each element.
    Where both sides run a step on the elements in the same order, this holds whatever effects the
    step has. Chains of values are put together without a refusal. -/
theorem fold_map_laws {α : Type u} {β : Type v} {γ : Type w} (c : Chain α) :
    (c.foldr .cons .empty = c ∧ c.foldl .cons .empty = c.reversed ∧
      c.reversed.toList = c.toList.reverse ∧ c.reversed.reversed = c) ∧
    (∀ (f : α → γ → γ) (base : γ),
      c.foldl f base = c.reversed.foldr f base ∧ c.foldr f base = c.reversed.foldl f base) ∧
    (∀ f : α → β,
      (c.map f).length = c.length ∧
      (c.map f).reversed = c.reversed.map f ∧
      (∀ g : β → γ, (c.map f).map g = c.map fun x => g (f x)) ∧
      (∀ (g : β → γ → γ) (base : γ),
        (c.map f).foldr g base = c.foldr (fun x acc => g (f x) acc) base ∧
        (c.map f).foldl g base = c.foldl (fun x acc => g (f x) acc) base) ∧
      (∀ (bench : Bench) (p : β → Value),
        ((c.map f).all fun y => bench.isTrue (p y)) = c.all fun x => bench.isTrue (p (f x)))) ∧
    (∀ (m : Type w → Type x) [Monad m],
      (∀ (f : α → γ → m γ) (base : γ),
        c.foldlM f base = c.reversed.foldrM f base ∧
        c.foldrM f base = c.reversed.foldlM f base) ∧
      (∀ (f : α → β) (g : β → γ → m γ) (base : γ),
        (c.map f).foldrM g base = c.foldrM (fun x acc => g (f x) acc) base ∧
        (c.map f).foldlM g base = c.foldlM (fun x acc => g (f x) acc) base)) ∧
    (∀ (m : Type → Type x) [Monad m] (f : α → β) (p : β → m Bool),
      (c.map f).allM p = c.allM fun x => p (f x)) ∧
    (∀ values : Chain Value,
      values.foldrM (fun x rest => Value.chain <$> Value.link x rest) (.chain .empty) =
        Except.ok (.chain values) ∧
      values.foldlM (fun x rest => Value.chain <$> Value.link x rest) (.chain .empty) =
        Except.ok (.chain values.reversed)) := by
  refine ⟨⟨foldr_cons_empty c, rfl, toList_reversed c, reversed_reversed c⟩, ?directions, ?mapped,
    ?effects, fun _ _ f p => allM_map f p c, fun values => ⟨foldrM_link values, foldlM_link values⟩⟩
  case directions =>
    intro f base
    exact ⟨(foldr_reversed f base c).symm, (foldl_reversed f base c).symm⟩
  case mapped =>
    intro f
    refine ⟨length_map f c, reversed_map f c, fun g => map_map f g c, ?_, fun _ _ => all_map f _ c⟩
    intro g base
    exact ⟨foldr_map f g base c, foldl_map f g base c⟩
  case effects =>
    intro m _
    refine ⟨?_, ?_⟩
    · intro f base
      exact ⟨(foldrM_reversed f base c).symm, (foldlM_reversed f base c).symm⟩
    · intro f g base
      exact ⟨foldrM_map f g base c, foldlM_map f g base c⟩

end Chain

end Folio
