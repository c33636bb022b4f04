-- SUMMARY: Immutable linked chains, the loops that go over them, and their list view.

/-!
# Chains

A chain is either empty or a first element followed by the rest, so every chain
is finite and acyclic. Each operation goes over the elements in a loop, which
keeps the stack flat on long chains: `toList` is the one traversal, `ofList`
builds from the right, and the others are list loops between the two.

The recursive reading of each operation is stated beside it (`map_cons`,
`foldr_cons`, …). Combiners take the element first and the accumulated value
second, in both directions.
-/

namespace Folio

universe u v w

/-- A sequence held as linked cells. -/
inductive Chain (α : Type u) where
  | empty
  | cons (first : α) (rest : Chain α)
  deriving DecidableEq

namespace Chain

variable {α : Type u} {β : Type v}

/-! ## The list view -/

/-- Moves the elements one by one in front of those already seen. -/
def unwind : Chain α → List α → List α
  | .empty, seen => seen
  | .cons x rest, seen => unwind rest (x :: seen)

/-- The elements in order. -/
def toList (c : Chain α) : List α :=
  (c.unwind []).reverse

/-- The chain of the given elements, built from the last one backwards. -/
def ofList (xs : List α) : Chain α :=
  xs.reverse.foldl (fun rest x => .cons x rest) .empty

instance : Membership α (Chain α) := ⟨fun c x => x ∈ c.toList⟩

theorem unwind_eq (c : Chain α) (seen : List α) : c.unwind seen = c.unwind [] ++ seen := by
  induction c generalizing seen with
  | empty => rfl
  | cons x rest ih => rw [unwind, unwind, ih (x :: seen), ih [x]]; simp

@[simp] theorem toList_empty : (Chain.empty : Chain α).toList = [] := rfl

@[simp] theorem toList_cons (x : α) (rest : Chain α) :
    (Chain.cons x rest).toList = x :: rest.toList := by
  simp [toList, unwind, unwind_eq rest [x]]

@[simp] theorem ofList_nil : (ofList [] : Chain α) = .empty := rfl

@[simp] theorem ofList_cons (x : α) (xs : List α) : ofList (x :: xs) = .cons x (ofList xs) := by
  simp [ofList]

@[simp] theorem toList_ofList (xs : List α) : (ofList xs).toList = xs := by
  induction xs with
  | nil => rfl
  | cons x xs ih => simp [ih]

@[simp] theorem ofList_toList (c : Chain α) : ofList c.toList = c := by
  induction c with
  | empty => rfl
  | cons x rest ih => simp [ih]

theorem toList_inj {c d : Chain α} : c.toList = d.toList ↔ c = d :=
  ⟨fun h => by rw [← ofList_toList c, h, ofList_toList], congrArg toList⟩

theorem ofList_inj {xs ys : List α} : ofList xs = ofList ys ↔ xs = ys := by
  rw [← toList_inj, toList_ofList, toList_ofList]

@[simp] theorem mem_toList {x : α} {c : Chain α} : x ∈ c.toList ↔ x ∈ c := Iff.rfl

@[simp] theorem mem_ofList {x : α} {xs : List α} : x ∈ ofList xs ↔ x ∈ xs := by
  rw [← mem_toList, toList_ofList]

@[simp] theorem not_mem_empty (x : α) : ¬ x ∈ (Chain.empty : Chain α) := by
  rw [← mem_toList]; simp

@[simp] theorem mem_cons {x y : α} {rest : Chain α} :
    x ∈ Chain.cons y rest ↔ x = y ∨ x ∈ rest := by
  rw [← mem_toList, toList_cons, List.mem_cons, mem_toList]

/-! ## Loops -/

/-- Applies `f` to the elements in order, then builds the chain of the results. -/
def map (f : α → β) (c : Chain α) : Chain β :=
  ofList (c.toList.map f)

/-- Combines from the last element to the first. -/
def foldr (f : α → β → β) (base : β) (c : Chain α) : β :=
  c.toList.reverse.foldl (fun acc x => f x acc) base

/-- Combines from the first element to the last. -/
def foldl (f : α → β → β) (base : β) (c : Chain α) : β :=
  c.toList.foldl (fun acc x => f x acc) base

/-- Whether `p` holds of every element; nothing after the first refusal is asked. -/
def all (p : α → Bool) (c : Chain α) : Bool :=
  c.toList.all p

/-- The number of elements, counted one by one. -/
def length (c : Chain α) : Nat :=
  c.toList.foldl (fun n _ => n + 1) 0

@[simp] theorem map_empty (f : α → β) : (Chain.empty : Chain α).map f = .empty := rfl

@[simp] theorem map_cons (f : α → β) (x : α) (rest : Chain α) :
    (Chain.cons x rest).map f = .cons (f x) (rest.map f) := by
  simp [map]

@[simp] theorem toList_map (f : α → β) (c : Chain α) : (c.map f).toList = c.toList.map f := by
  simp [map]

@[simp] theorem foldr_empty (f : α → β → β) (base : β) :
    (Chain.empty : Chain α).foldr f base = base := rfl

@[simp] theorem foldr_cons (f : α → β → β) (base : β) (x : α) (rest : Chain α) :
    (Chain.cons x rest).foldr f base = f x (rest.foldr f base) := by
  simp [foldr]

theorem foldr_eq (f : α → β → β) (base : β) (c : Chain α) :
    c.foldr f base = c.toList.foldr f base := by
  induction c with
  | empty => rfl
  | cons x rest ih => simp [ih]

@[simp] theorem foldl_empty (f : α → β → β) (base : β) :
    (Chain.empty : Chain α).foldl f base = base := rfl

@[simp] theorem foldl_cons (f : α → β → β) (base : β) (x : α) (rest : Chain α) :
    (Chain.cons x rest).foldl f base = rest.foldl f (f x base) := by
  simp [foldl]

@[simp] theorem all_empty (p : α → Bool) : (Chain.empty : Chain α).all p = true := rfl

@[simp] theorem all_cons (p : α → Bool) (x : α) (rest : Chain α) :
    (Chain.cons x rest).all p = (p x && rest.all p) := by
  simp [all]

theorem all_eq_true {p : α → Bool} {c : Chain α} : c.all p = true ↔ ∀ x ∈ c, p x = true := by
  simp [all]

@[simp] theorem length_empty : (Chain.empty : Chain α).length = 0 := rfl

theorem length_eq (c : Chain α) : c.length = c.toList.length := by
  have step : ∀ (xs : List α) (n : Nat), xs.foldl (fun n _ => n + 1) n = n + xs.length := by
    intro xs
    induction xs with
    | nil => simp
    | cons x xs ih => intro n; simp [ih]; omega
  simp [length, step]

@[simp] theorem length_cons (x : α) (rest : Chain α) :
    (Chain.cons x rest).length = rest.length + 1 := by
  simp [length_eq]

/-! ## Loops over mapped chains -/

variable {γ : Type w}

theorem foldl_map (f : α → β) (g : β → γ → γ) (base : γ) (c : Chain α) :
    (c.map f).foldl g base = c.foldl (fun x acc => g (f x) acc) base := by
  induction c generalizing base with
  | empty => rfl
  | cons x rest ih => simp [ih]

theorem foldr_map (f : α → β) (g : β → γ → γ) (base : γ) (c : Chain α) :
    (c.map f).foldr g base = c.foldr (fun x acc => g (f x) acc) base := by
  induction c with
  | empty => rfl
  | cons x rest ih => simp [ih]

theorem all_map (f : α → β) (p : β → Bool) (c : Chain α) :
    (c.map f).all p = c.all (fun x => p (f x)) := by
  induction c with
  | empty => rfl
  | cons x rest ih => simp [ih]

theorem map_map (f : α → β) (g : β → γ) (c : Chain α) :
    (c.map f).map g = c.map (fun x => g (f x)) := by
  induction c with
  | empty => rfl
  | cons x rest ih => simp [ih]

end Chain

end Folio
