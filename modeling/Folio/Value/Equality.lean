-- SUMMARY: Equality of values, a digest that respects it, and the distinct values of a list.
import Folio.Error
import Folio.Value.Tree
import Std.Data.HashSet

/-!
# Equality and distinctness

Numbers and truth values are compared as numbers, so `true` equals 1. Lists,
tuples and chains are each equal to their own sort only, element by element,
whatever they were built from. Nodes are equal when they are of one kind and have
equal fields, whether or not they are kept as trees, and mappings when each entry of
either is equal to one of the other. All else is equal when it is of one sort and has
equal parts; references are equal when their numbers are.

An element that is one and the same object in both places is not gone into: each
comparison comes with the reason why it holds of a value and itself.

`digest` gives equal values equal numbers. Lists and mappings can change, so they
have no digest, and `distinct` refuses them.
-/

namespace Folio

/-- Whether two values are numbers, truth values included, and the numbers are equal. -/
def Value.sameNumber (a b : Value) : Bool :=
  match a.number?, b.number? with
  | some x, some y => x == y
  | _, _ => false

/-! ## Trees and values -/

/-- Whether a tag is that of a tree, with an equal level or target. -/
def Tag.sameAs : Tag → TagOf Value Value → Bool
  | .header level, .header other => Value.sameNumber (.int level) other
  | .anchor target, .anchor (.text other) => target == other
  | .anchor _, .anchor _ => false
  | tag, other => tag.kind == other.kind

mutual

/-- Whether a value is a node of the kind of a tree, with equal fields. -/
def Node.sameAs : Node → Value → Bool
  | n, .node m => n.same m
  | .text content, .looseText (.text other) => content == other
  | .element tag children, .looseElement other others =>
    tag.sameAs other && Node.sameAsEach children others
  | _, _ => false

/-- Whether the elements of a chain are as many as given trees, and nodes equal to these. -/
def Node.sameAsEach : Chain Node → Chain Value → Bool
  | .empty, .empty => true
  | .cons child children, .cons other others => child.sameAs other && Node.sameAsEach children others
  | _, _ => false

end

namespace Value

/-! ## Equality -/

mutual

/-- Whether two values are equal, which they are if they are the same value. -/
def sameIf : (a b : Value) → { verdict : Bool // a = b → verdict = true }
  | .null, b => ⟨b matches .null, fun h => by subst h; rfl⟩
  | .bool x, b => ⟨sameNumber (.bool x) b, fun h => by subst h; simp [sameNumber, number?]⟩
  | .int n, b => ⟨sameNumber (.int n) b, fun h => by subst h; simp [sameNumber, number?]⟩
  | .decimal d, b => ⟨sameNumber (.decimal d) b, fun h => by subst h; simp [sameNumber, number?]⟩
  | .text s, b =>
    ⟨match b with | .text t => s == t | _ => false, fun h => by subst h; simp⟩
  | .list xs, b =>
    ⟨match b with | .list ys => (sameListIf xs ys).val | _ => false,
      fun h => by subst h; exact (sameListIf xs xs).property rfl⟩
  | .tuple xs, b =>
    ⟨match b with | .tuple ys => (sameListIf xs ys).val | _ => false,
      fun h => by subst h; exact (sameListIf xs xs).property rfl⟩
  | .mapping xs, b =>
    ⟨match b with
      | .mapping ys => (eachAmongIf xs ys).val && ys.all fun entry => (amongIf xs entry).val
      | _ => false,
      fun h => by
        subst h
        simp only [Bool.and_eq_true, List.all_eq_true]
        exact ⟨(eachAmongIf xs xs).property fun _ h => h,
          fun entry hentry => (amongIf xs entry).property hentry⟩⟩
  | .chain xs, b =>
    ⟨match b with | .chain ys => (sameChainIf xs ys).val | _ => false,
      fun h => by subst h; exact (sameChainIf xs xs).property rfl⟩
  | .node n, b => ⟨n.sameAs b, fun h => by subst h; rw [Node.sameAs]; exact (Node.same_iff n n).mpr rfl⟩
  | .looseText content, b =>
    ⟨match b.expanded with | .looseText other => (sameIf content other).val | _ => false,
      fun h => by subst h; exact (sameIf content content).property rfl⟩
  | .looseElement tag children, b =>
    ⟨match b.expanded with
      | .looseElement other others => (sameTagIf tag other).val && (sameChainIf children others).val
      | _ => false,
      fun h => by
        subst h
        simp [expanded, (sameTagIf tag tag).property rfl,
          (sameChainIf children children).property rfl]⟩
  | .options o, b => ⟨match b with | .options p => o == p | _ => false, fun h => by subst h; simp⟩
  | .builder h, b =>
    ⟨match b with | .builder k => h == k | _ => false, fun e => by subst e; simp⟩
  | .collected h, b =>
    ⟨match b with | .collected k => h == k | _ => false, fun e => by subst e; simp⟩
  | .stream h, b =>
    ⟨match b with | .stream k => h == k | _ => false, fun e => by subst e; simp⟩
termination_by structural a => a

/-- Whether two lists have the same length and equal elements at each place. -/
def sameListIf : (xs ys : List Value) → { verdict : Bool // xs = ys → verdict = true }
  | [], ys => ⟨ys.isEmpty, fun h => by subst h; rfl⟩
  | x :: xs, ys =>
    ⟨match ys with
      | [] => false
      | y :: ys =>
        withPtrEq x y (fun _ => (sameIf x y).val) (sameIf x y).property && (sameListIf xs ys).val,
      fun h => by
        subst h
        simp [withPtrEq, (sameIf x x).property rfl, (sameListIf xs xs).property rfl]⟩
termination_by structural xs => xs

/-- Whether two chains have the same length and equal elements at each place. -/
def sameChainIf : (xs ys : Chain Value) → { verdict : Bool // xs = ys → verdict = true }
  | .empty, ys => ⟨ys matches .empty, fun h => by subst h; rfl⟩
  | .cons x xs, ys =>
    ⟨match ys with
      | .empty => false
      | .cons y ys =>
        withPtrEq x y (fun _ => (sameIf x y).val) (sameIf x y).property && (sameChainIf xs ys).val,
      fun h => by
        subst h
        simp [withPtrEq, (sameIf x x).property rfl, (sameChainIf xs xs).property rfl]⟩
termination_by structural xs => xs

/-- Whether two tags are of one kind and have equal levels or targets. -/
def sameTagIf : (tag other : TagOf Value Value) → { verdict : Bool // tag = other → verdict = true }
  | .header level, other =>
    ⟨match other with | .header given => (sameIf level given).val | _ => false,
      fun h => by subst h; exact (sameIf level level).property rfl⟩
  | .anchor target, other =>
    ⟨match other with | .anchor given => (sameIf target given).val | _ => false,
      fun h => by subst h; exact (sameIf target target).property rfl⟩
  | tag, other => ⟨tag.kind == other.kind, fun h => by subst h; simp⟩
termination_by structural tag => tag

/-- Whether an entry is equal to one of a list. -/
def amongIf : (xs : List (Value × Value)) → (entry : Value × Value) →
    { verdict : Bool // entry ∈ xs → verdict = true }
  | [], _ => ⟨false, fun h => nomatch h⟩
  | (key, value) :: xs, entry =>
    ⟨(sameIf key entry.1).val && (sameIf value entry.2).val || (amongIf xs entry).val,
      fun h => by
        cases h with
        | head => simp [(sameIf key key).property rfl, (sameIf value value).property rfl]
        | tail _ h => simp [(amongIf xs entry).property h]⟩
termination_by structural xs => xs

/-- Whether each entry of a list is equal to one of another list. -/
def eachAmongIf : (xs ys : List (Value × Value)) →
    { verdict : Bool // (∀ entry ∈ xs, entry ∈ ys) → verdict = true }
  | [], _ => ⟨true, fun _ => rfl⟩
  | (key, value) :: xs, ys =>
    ⟨(ys.any fun entry => (sameIf key entry.1).val && (sameIf value entry.2).val) &&
        (eachAmongIf xs ys).val,
      fun h => by
        rw [List.forall_mem_cons] at h
        have hfirst : ∃ entry ∈ ys,
            ((sameIf key entry.1).val && (sameIf value entry.2).val) = true :=
          ⟨_, h.1, by simp [(sameIf key key).property rfl, (sameIf value value).property rfl]⟩
        rw [List.any_eq_true.mpr hfirst, (eachAmongIf xs ys).property h.2]
        rfl⟩
termination_by structural xs => xs

end

/-- Whether two values are equal; a value is equal to itself whatever is in it. -/
def same (a b : Value) : Bool :=
  withPtrEq a b (fun _ => (sameIf a b).val) (sameIf a b).property

instance : BEq Value := ⟨same⟩

theorem same_refl (a : Value) : a.same a = true :=
  (sameIf a a).property rfl

private theorem sameListIf_val (xs ys : List Value) :
    (sameListIf xs ys).val = xs.isEqv ys same := by
  induction xs generalizing ys with
  | nil => cases ys <;> rfl
  | cons x xs ih =>
    cases ys with
    | nil => rfl
    | cons y ys => exact congrArg (x.same y && ·) (ih ys)

private theorem sameChainIf_val (xs ys : Chain Value) :
    (sameChainIf xs ys).val = xs.toList.isEqv ys.toList same := by
  induction xs generalizing ys with
  | empty =>
    cases ys with
    | empty => rfl
    | cons y ys => rw [Chain.toList_cons]; rfl
  | cons x xs ih =>
    cases ys with
    | empty => rw [Chain.toList_cons]; rfl
    | cons y ys =>
      rw [Chain.toList_cons, Chain.toList_cons]
      exact congrArg (x.same y && ·) (ih ys)

/-- Whether two entries have equal keys and equal values. -/
def sameEntry (x y : Value × Value) : Bool :=
  x.1.same y.1 && x.2.same y.2

private theorem amongIf_val (xs : List (Value × Value)) (entry : Value × Value) :
    (amongIf xs entry).val = xs.any fun x => sameEntry x entry := by
  induction xs with
  | nil => rfl
  | cons x xs ih => exact congrArg (sameEntry x entry || ·) ih

private theorem eachAmongIf_val (xs ys : List (Value × Value)) :
    (eachAmongIf xs ys).val = xs.all fun x => ys.any fun y => sameEntry x y := by
  induction xs with
  | nil => rfl
  | cons x xs ih => exact congrArg ((ys.any fun y => sameEntry x y) && ·) ih

@[simp] theorem same_list (xs ys : List Value) :
    (Value.list xs).same (.list ys) = xs.isEqv ys same :=
  sameListIf_val xs ys

@[simp] theorem same_tuple (xs ys : List Value) :
    (Value.tuple xs).same (.tuple ys) = xs.isEqv ys same :=
  sameListIf_val xs ys

@[simp] theorem same_chain (xs ys : Chain Value) :
    (Value.chain xs).same (.chain ys) = xs.toList.isEqv ys.toList same :=
  sameChainIf_val xs ys

@[simp] theorem same_mapping (xs ys : List (Value × Value)) :
    (Value.mapping xs).same (.mapping ys) =
      ((xs.all fun x => ys.any fun y => sameEntry x y) &&
        ys.all fun y => xs.any fun x => sameEntry x y) := by
  have hamong : ∀ entry, (amongIf xs entry).val = xs.any fun x => sameEntry x entry :=
    amongIf_val xs
  have hverdict : (Value.mapping xs).same (.mapping ys) =
      ((eachAmongIf xs ys).val && ys.all fun entry => (amongIf xs entry).val) := rfl
  simp only [hverdict, eachAmongIf_val, hamong]

@[simp] theorem same_node (n m : Node) : (Value.node n).same (.node m) = n.same m := by
  have hverdict : (Value.node n).same (.node m) = n.sameAs (.node m) := rfl
  rw [hverdict, Node.sameAs]

@[simp] theorem same_text (s t : String) : (Value.text s).same (.text t) = (s == t) := rfl

/-- A number is equal to what is the same number. -/
theorem same_eq_sameNumber {a : Value} (h : a.number?.isSome = true) (b : Value) :
    a.same b = sameNumber a b := by
  cases a with
  | bool | int | decimal => rfl
  | _ => cases h

/-! ## Digests -/

def textDigest (s : String) : UInt64 :=
  mixHash 5 (hash s)

def numberDigest (x : Rat) : UInt64 :=
  mixHash 43 (hash x)

end Value

/-- A number that tags of one kind with equal levels or targets share. -/
def Tag.digest : Tag → UInt64
  | .header level => mixHash (hash Kind.header) (Value.numberDigest level)
  | .anchor target => mixHash (hash Kind.anchor) (Value.textDigest target)
  | tag => hash tag.kind

/-- The digest of a tree, which is that of its kind and its fields. -/
def Node.digest (node : Node) : UInt64 :=
  node.fold (fun content => mixHash (hash Kind.text) (Value.textDigest content))
    (fun tag _ digests =>
      mixHash tag.digest (digests.foldl (fun digest acc => mixHash acc digest) 17))

namespace Value

mutual

/-- A number that equal values share. A chain has the same as the tuple of its elements, and a node
    that of its kind and its fields. -/
def digest : Value → UInt64
  | .null => 3
  | .text s => textDigest s
  | .list xs => digestList 13 xs
  | .tuple xs => digestList 17 xs
  | .mapping _ => 19
  | .chain xs => digestChain 17 xs
  | .node n => n.digest
  | .looseText content => mixHash (hash Kind.text) content.digest
  | .looseElement (.header level) children =>
    mixHash (mixHash (hash Kind.header) level.digest) (digestChain 17 children)
  | .looseElement (.anchor target) children =>
    mixHash (mixHash (hash Kind.anchor) target.digest) (digestChain 17 children)
  | .looseElement tag children => mixHash (hash tag.kind) (digestChain 17 children)
  | .options o => mixHash 37 (hash o)
  | .builder h => mixHash 41 (hash h)
  | .collected h => mixHash 47 (hash h)
  | .stream h => mixHash 23 (hash h)
  | .bool b => numberDigest (if b then 1 else 0)
  | .int n => numberDigest n
  | .decimal d => numberDigest d.toRat

def digestList (acc : UInt64) : List Value → UInt64
  | [] => acc
  | x :: xs => digestList (mixHash acc x.digest) xs

def digestChain (acc : UInt64) : Chain Value → UInt64
  | .empty => acc
  | .cons x xs => digestChain (mixHash acc x.digest) xs

end

instance : Hashable Value := ⟨digest⟩

mutual

/-- The type of the first part that can change, if there is one; such a value has no digest. -/
def mutablePart? : Value → Option String
  | .list _ | .collected _ => some "list"
  | .mapping _ => some "dict"
  | .tuple xs => mutablePartOfList? xs
  | .chain xs => mutablePartOfChain? xs
  | .looseText content => content.mutablePart?
  | .looseElement (.header level) children =>
    level.mutablePart?.or (mutablePartOfChain? children)
  | .looseElement (.anchor target) children =>
    target.mutablePart?.or (mutablePartOfChain? children)
  | .looseElement _ children => mutablePartOfChain? children
  | _ => none

def mutablePartOfList? : List Value → Option String
  | [] => none
  | x :: xs => x.mutablePart?.or (mutablePartOfList? xs)

def mutablePartOfChain? : Chain Value → Option String
  | .empty => none
  | .cons x xs => x.mutablePart?.or (mutablePartOfChain? xs)

end

/-! ## Distinct values -/

/-- Values gathered without repetitions: in the order in which they came, and by digest. -/
structure Gathered where
  inOrder : Array Value := #[]
  known : Std.HashSet Value := {}

/-- Adds a value, unless one that is equal to it was gathered before. -/
def Gathered.add (gathered : Gathered) (value : Value) : Gathered :=
  if gathered.known.contains value then
    gathered
  else
    { inOrder := gathered.inOrder.push value, known := gathered.known.insert value }

/-- Adds a value that has a digest; one that can change is refused. -/
def Gathered.take (gathered : Gathered) (value : Value) : Except Error Gathered :=
  match value.mutablePart? with
  | some typeName => .error (.unhashable typeName)
  | none => .ok (gathered.add value)

/-- The values without repetitions, each at its first occurrence; none of them may change. -/
def distinct (values : List Value) : Except Error (List Value) := do
  let gathered ← values.foldlM Gathered.take {}
  return gathered.inOrder.toList

end Value

end Folio
