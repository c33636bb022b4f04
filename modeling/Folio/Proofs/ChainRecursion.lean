-- SUMMARY: The loops over chains compute what recursion on the cells says, and reading undoes building.
import Folio.Chain.Recursive
import Folio.Proofs.BuilderHistory
import Folio.Value.Equality

/-!
# Loops and recursion

The operations on chains go over the elements in loops, so that long chains do not
exhaust the stack; what they compute is what recursion on the cells says
(`loops_eq_recursion`), for steps without effects as equations on one cell and for
steps with effects as equality with `Chain.Recursive`, the order of the effects
included.

Building a chain from a sequence and going over it undo each other, whatever sort of
sequence it was: `Bench.Sequence` says which values are sequences and what is in them.
-/

namespace Folio

universe u v w

/-! ## Loops with effects -/

namespace Chain

variable {α : Type u} {β : Type v} {m : Type v → Type w} [Monad m]

theorem mapM_eq_recursive [LawfulMonad m] (f : α → m β) (c : Chain α) : c.mapM f = Recursive.mapM f c := by
  induction c with
  | empty => simp [mapM, Recursive.mapM]
  | cons first rest ih =>
    have hrest : ofList <$> rest.toList.mapM f = Recursive.mapM f rest := ih
    rw [Recursive.mapM, mapM, toList_cons, List.mapM_cons, ← hrest]
    simp only [map_eq_pure_bind, bind_assoc, pure_bind, ofList_cons]

/-- The loop takes the elements from the last one, so it ends with the step on the first. -/
theorem foldrM_eq_recursive [LawfulMonad m] (f : α → β → m β) (base : β) (c : Chain α) :
    c.foldrM f base = Recursive.foldrM f base c := by
  induction c with
  | empty => simp [foldrM, Recursive.foldrM]
  | cons first rest ih =>
    have hrest : rest.toList.reverse.foldlM (fun acc x => f x acc) base =
        Recursive.foldrM f base rest := ih
    rw [Recursive.foldrM, foldrM, toList_cons, List.reverse_cons, List.foldlM_append, hrest]
    simp only [List.foldlM_cons, List.foldlM_nil, bind_pure]

/-- The accumulated value changes from step to step, so this is said for all of them at once. -/
theorem foldlM_eq_recursive (f : α → β → m β) (base : β) (c : Chain α) :
    c.foldlM f base = Recursive.foldlM f base c := by
  induction c generalizing base with
  | empty => simp [foldlM, Recursive.foldlM]
  | cons first rest ih =>
    rw [Recursive.foldlM, foldlM, toList_cons, List.foldlM_cons]
    congr 1
    funext accumulated
    exact ih accumulated

theorem allM_eq_recursive {m : Type → Type w} [Monad m] (p : α → m Bool) (c : Chain α) :
    c.allM p = Recursive.allM p c := by
  induction c with
  | empty => simp [allM, Recursive.allM]
  | cons first rest ih =>
    have hrest : rest.toList.allM p = Recursive.allM p rest := ih
    rw [Recursive.allM, allM, toList_cons, List.allM, hrest]
    congr 1
    funext verdict
    cases verdict <;> rfl

end Chain

/-! ## Chains -/

/-- Every loop over a chain is the recursion on its cells, whatever the step: without effects by
    the equations on the empty chain and on one cell, with effects as the recursive definition.
    Building and going over a chain undo each other: the chain of a list has the elements of the
    list, the chain of what is in a chain is that chain, and reading any sequence makes a chain with
    its elements in order, which from a chain is an equal one. -/
theorem Chain.loops_eq_recursion {α : Type u} {β : Type v} :
    (∀ f : α → β,
      Chain.empty.map f = .empty ∧
      ∀ first rest, (Chain.cons first rest).map f = .cons (f first) (rest.map f)) ∧
    (∀ (f : α → β → β) (base : β),
      Chain.empty.foldr f base = base ∧
      ∀ first rest, (Chain.cons first rest).foldr f base = f first (rest.foldr f base)) ∧
    (∀ (f : α → β → β) (base : β),
      Chain.empty.foldl f base = base ∧
      ∀ first rest, (Chain.cons first rest).foldl f base = rest.foldl f (f first base)) ∧
    (∀ (bench : Bench) (p : α → Value),
      Chain.empty.all (fun x => bench.isTrue (p x)) = true ∧
      ∀ first rest, (Chain.cons first rest).all (fun x => bench.isTrue (p x)) = true ↔
        bench.isTrue (p first) = true ∧ rest.all (fun x => bench.isTrue (p x)) = true) ∧
    ((Chain.empty : Chain α).length = 0 ∧
      ∀ (first : α) (rest : Chain α), (Chain.cons first rest).length = 1 + rest.length) ∧
    (∀ (m : Type v → Type w) [Monad m] [LawfulMonad m] (c : Chain α),
      (∀ f : α → m β, c.mapM f = Recursive.mapM f c) ∧
      (∀ (f : α → β → m β) (base : β), c.foldrM f base = Recursive.foldrM f base c) ∧
      (∀ (f : α → β → m β) (base : β), c.foldlM f base = Recursive.foldlM f base c)) ∧
    (∀ (m : Type → Type w) [Monad m] (p : α → m Bool) (c : Chain α),
      c.allM p = Recursive.allM p c) ∧
    (∀ xs : List α, (Chain.ofList xs).toList = xs) ∧
    (∀ c : Chain α, Chain.ofList c.toList = c) ∧
    (∀ bench value items, Bench.Sequence bench value items →
      ∃ made : Chain Value,
        (Bench.perform (.read value)).runOn bench = (.ok (.chain made), bench.spend value) ∧
        made.toList = items) ∧
    (∀ (bench : Bench) (c : Chain Value), ∃ made : Chain Value,
      (Bench.perform (.read (.chain c))).runOn bench = (.ok (.chain made), bench) ∧
      (Value.chain made).same (.chain c) = true) := by
  refine ⟨?map, ?foldr, ?foldl, ?all, ?length, ?effects, ?allM, toList_ofList, ofList_toList,
    ?sequence, ?chain⟩
  case map => exact fun f => ⟨map_empty f, map_cons f⟩
  case foldr => exact fun f base => ⟨foldr_empty f base, foldr_cons f base⟩
  case foldl => exact fun f base => ⟨foldl_empty f base, foldl_cons f base⟩
  case all =>
    intro bench p
    refine ⟨all_empty _, ?_⟩
    intro first rest
    rw [all_cons, Bool.and_eq_true]
  case length =>
    refine ⟨length_empty, ?_⟩
    intro first rest
    rw [length_cons, Nat.add_comm]
  case effects =>
    intro m _ _ c
    exact ⟨fun f => mapM_eq_recursive f c, fun f base => foldrM_eq_recursive f base c,
      fun f base => foldlM_eq_recursive f base c⟩
  case allM => exact fun m _ p c => allM_eq_recursive p c
  case sequence =>
    intro bench value items h
    exact ⟨ofList items, Bench.perform_read (Bench.elements_of_sequence h), toList_ofList items⟩
  case chain =>
    intro bench c
    exact ⟨c, Bench.perform_read rfl, Value.same_refl _⟩

/-- A text is read, and then a loop asks each of its characters whether it takes a visitor. -/
theorem Chain.loops_eq_recursion_text :
    Bench.Sequence {} (.text "ab") [.text "a", .text "b"] ∧
      ∃ made : Chain Value,
        (Bench.perform (.read (.text "ab"))).runOn {} = (.ok (.chain made), {}) ∧
        made.toList = [.text "a", .text "b"] ∧
        made.mapM Value.visitedAs = Recursive.mapM Value.visitedAs made := by
  obtain ⟨-, -, -, -, -, heffects, -, -, -, hsequence, -⟩ :=
    loops_eq_recursion.{0, 0, 0} (α := Value) (β := Kind)
  have h : Bench.Sequence {} (.text "ab") [.text "a", .text "b"] := .text "ab"
  obtain ⟨made, hmade, hitems⟩ := hsequence {} _ _ h
  obtain ⟨hmapM, -⟩ := heffects (Except Error) made
  exact ⟨h, made, hmade, hitems, hmapM Value.visitedAs⟩

end Folio
