-- SUMMARY: How many distinct values a list has, and all that equality and digests of values have in common.
import Folio.Proofs.ValueEquality
import Mathlib.Data.Set.Card

/-!
# Distinct values

The values that `distinct` keeps stand for the classes of equal values in the list:
one for each, whatever the order of the list. It looks values up by digest, which
finds all equal ones since equal values have equal digests.

`same_equivalence_distinct` puts together what holds of equality: it is an
equivalence, it compares chains by their elements alone, however they were made, and
nodes by their kinds and fields, whatever these hold, and digests respect it.
-/

namespace Folio.Value

/-! ## Values that cannot change -/

/-- Whether a value can change in itself; a reference is the same whatever becomes of what it is
    to, unless that is the list of a builder. -/
def canChange (value : Value) : Bool :=
  value.typeName == "list" || value.typeName == "dict"

/-- Nothing in the value, at any depth, can change. -/
def Immutable (value : Value) : Prop :=
  value.Everywhere fun part => part.canChange = false

theorem mutablePartOfList?_eq_none_iff {items : List Value} :
    mutablePartOfList? items = none ↔ ∀ item ∈ items, item.mutablePart? = none := by
  induction items with
  | nil => simp [mutablePartOfList?]
  | cons item items ih => rw [mutablePartOfList?, Option.or_eq_none_iff, ih, List.forall_mem_cons]

theorem mutablePartOfChain?_eq (items : Chain Value) :
    mutablePartOfChain? items = mutablePartOfList? items.toList := by
  induction items with
  | empty => rw [mutablePartOfChain?, Chain.toList_empty, mutablePartOfList?]
  | cons item items ih => rw [mutablePartOfChain?, Chain.toList_cons, mutablePartOfList?, ih]

theorem mutablePart?_of_kind? {value : Value} {kind : Kind} (h : value.kind? = some kind) :
    value.mutablePart? = mutablePartOfList? value.parts := by
  cases value with
  | node n =>
    cases n with
    | text content => rfl
    | element tag children =>
      have hchildren : mutablePartOfList? [ofNodes children] = none := by
        rw [mutablePartOfList?_eq_none_iff, List.forall_mem_singleton, ofNodes, mutablePart?,
          mutablePartOfChain?_eq, mutablePartOfList?_eq_none_iff, Chain.toList_map,
          List.forall_mem_map]
        exact fun _ _ => rfl
      cases tag <;> exact hchildren.symm
  | looseText content => exact Option.or_none.symm
  | looseElement tag children =>
    have hchildren : mutablePartOfChain? children = mutablePartOfList? [.chain children] :=
      Option.or_none.symm
    cases tag with
    | header level => exact congrArg level.mutablePart?.or hchildren
    | anchor target => exact congrArg target.mutablePart?.or hchildren
    | body | div | para | bold | italic => exact hchildren
  | _ => cases h

theorem canChange_of_kind? {value : Value} {kind : Kind} (h : value.kind? = some kind) :
    value.canChange = false := by
  have hname : value.typeName = kind.name := by
    cases value with
    | node | looseText | looseElement =>
      cases h
      rfl
    | _ => cases h
  rw [canChange, hname]
  cases kind <;> decide

/-- A value with a part that can change is one that can change, or has such a part in a part. -/
theorem mutablePart?_eq_none_iff_parts {value : Value} :
    value.mutablePart? = none ↔
      value.canChange = false ∧ ∀ part ∈ value.parts, part.mutablePart? = none := by
  cases value with
  | list | collected | mapping => exact iff_of_false nofun fun h => nomatch h.1
  | tuple items =>
    rw [mutablePart?, mutablePartOfList?_eq_none_iff]
    exact (and_iff_right rfl).symm
  | chain items =>
    have hchange : (Value.chain items).canChange = false := by cases items <;> rfl
    rw [mutablePart?, mutablePartOfChain?_eq, mutablePartOfList?_eq_none_iff]
    exact (and_iff_right hchange).symm
  | node | looseText | looseElement =>
    rw [mutablePart?_of_kind? rfl, mutablePartOfList?_eq_none_iff]
    exact (and_iff_right (canChange_of_kind? rfl)).symm
  | null | bool | int | decimal | text | options | builder | stream =>
    exact iff_of_true rfl ⟨rfl, List.forall_mem_nil _⟩

theorem mutablePart?_eq_none_iff {value : Value} :
    value.mutablePart? = none ↔ Immutable value := by
  constructor
  · intro h
    induction value using Value.induction with
    | step value ih =>
      obtain ⟨hvalue, hparts⟩ := mutablePart?_eq_none_iff_parts.mp h
      exact .intro hvalue fun part hpart => ih part hpart (hparts part hpart)
  · intro h
    induction h with
    | intro hvalue _ ih => exact mutablePart?_eq_none_iff_parts.mpr ⟨hvalue, ih⟩

instance (value : Value) : Decidable (Immutable value) :=
  decidable_of_iff (value.mutablePart? = none) mutablePart?_eq_none_iff

/-! ## Gathering -/

/-- What is gathered stands for the values seen: the index knows what the list has, no two of it
    are equal, each value seen is equal to one of it, and nothing else is in it. -/
structure Gathered.StandsFor (gathered : Gathered) (seen : List Value) : Prop where
  known : ∀ value, gathered.known.contains value =
    gathered.inOrder.toList.any fun member => member.same value
  apart : gathered.inOrder.toList.Pairwise fun member other => member.same other = false
  covers : ∀ value ∈ seen, ∃ member ∈ gathered.inOrder.toList, member.same value = true
  kept : ∀ member ∈ gathered.inOrder.toList, member ∈ seen

namespace Gathered

variable {gathered : Gathered} {seen values : List Value} {value : Value}

theorem standsFor_nil : StandsFor {} [] where
  known _ := Std.HashSet.contains_empty
  apart := .nil
  covers _ h := nomatch h
  kept _ h := nomatch h

theorem StandsFor.add (h : gathered.StandsFor seen) (value : Value) :
    (gathered.add value).StandsFor (seen ++ [value]) := by
  unfold Gathered.add
  split
  · rename_i hknown
    have hmember : ∃ member ∈ gathered.inOrder.toList, member.same value = true := by
      rw [h.known value, List.any_eq_true] at hknown
      exact hknown
    refine ⟨h.known, h.apart, ?_, ?_⟩
    · exact List.forall_mem_append.mpr ⟨h.covers, List.forall_mem_singleton.mpr hmember⟩
    · intro member hmem
      exact List.mem_append_left _ (h.kept member hmem)
  · rename_i hknown
    have hnew : ∀ member ∈ gathered.inOrder.toList, member.same value = false := by
      rw [h.known value, Bool.not_eq_true, List.any_eq_false] at hknown
      intro member hmem
      exact Bool.eq_false_of_not_eq_true (hknown member hmem)
    refine ⟨?_, ?_, ?_, ?_⟩
    · intro other
      rw [Std.HashSet.contains_insert, h.known, Array.toList_push, List.any_append, Bool.or_comm]
      simp only [List.any_cons, List.any_nil, Bool.or_false]
      rfl
    · rw [Array.toList_push]
      refine List.pairwise_append.mpr ⟨h.apart, List.pairwise_singleton _ _, ?_⟩
      intro member hmem other hother
      rw [List.mem_singleton.mp hother]
      exact hnew member hmem
    · rw [Array.toList_push]
      refine List.forall_mem_append.mpr ⟨?_, List.forall_mem_singleton.mpr ?_⟩
      · intro other hother
        obtain ⟨member, hmem, hsame⟩ := h.covers other hother
        exact ⟨member, List.mem_append_left _ hmem, hsame⟩
      · exact ⟨value, List.mem_append_right _ List.mem_cons_self, same_refl value⟩
    · rw [Array.toList_push]
      refine List.forall_mem_append.mpr ⟨?_, List.forall_mem_singleton.mpr ?_⟩
      · intro member hmem
        exact List.mem_append_left _ (h.kept member hmem)
      · exact List.mem_append_right _ List.mem_cons_self

theorem take_of_immutable (h : Immutable value) : gathered.take value = .ok (gathered.add value) := by
  unfold take
  rw [mutablePart?_eq_none_iff.mpr h]

/-- Going through a list, one value after the other. -/
theorem StandsFor.foldlM (h : gathered.StandsFor seen) (hvalues : ∀ value ∈ values, Immutable value) :
    ∃ final, values.foldlM take gathered = .ok final ∧ final.StandsFor (seen ++ values) := by
  induction values generalizing gathered seen with
  | nil =>
    rw [List.append_nil]
    exact ⟨gathered, rfl, h⟩
  | cons value values ih =>
    obtain ⟨hvalue, hvalues⟩ := List.forall_mem_cons.mp hvalues
    obtain ⟨final, hfinal, hstands⟩ := ih (h.add value) hvalues
    refine ⟨final, ?_, ?_⟩
    · rw [List.foldlM_cons, take_of_immutable hvalue]
      exact hfinal
    · rw [List.append_assoc, List.singleton_append] at hstands
      exact hstands

end Gathered

/-- The distinct values of a list: no two of them are equal, and they are those of its values that
    all others are equal to. -/
theorem distinct_of_immutable {values : List Value} (h : ∀ value ∈ values, Immutable value) :
    ∃ members, distinct values = .ok members ∧
      members.Pairwise (fun member other => member.same other = false) ∧
      (∀ value ∈ values, ∃ member ∈ members, member.same value = true) ∧
      ∀ member ∈ members, member ∈ values := by
  obtain ⟨final, hfinal, hstands⟩ := Gathered.standsFor_nil.foldlM h
  refine ⟨final.inOrder.toList, ?_, hstands.apart, hstands.covers, hstands.kept⟩
  unfold distinct
  rw [hfinal]
  rfl

/-! ## Classes -/

def equality : Setoid Value where
  r a b := a.same b = true
  iseqv := ⟨same_refl, same_symm, same_trans⟩

/-- The classes of equal values that the values of a list are in. -/
def classes (values : List Value) : Set (Quotient equality) :=
  Quotient.mk equality '' {value | value ∈ values}

/-- Values that are not equal to each other are in as many classes as there are values. -/
theorem ncard_classes_of_apart {members : List Value}
    (h : members.Pairwise fun member other => member.same other = false) :
    (classes members).ncard = members.length := by
  classical
  have hnodup : (members.map (Quotient.mk equality)).Nodup := by
    apply h.map
    intro member other hfalse heq
    have hsame : member.same other = true := Quotient.exact heq
    rw [hfalse] at hsame
    cases hsame
  have hclasses : classes members = (members.map (Quotient.mk equality)).toFinset := by
    ext c
    simp [classes]
  rw [hclasses, Set.ncard_coe_finset, List.toFinset_card_of_nodup hnodup, List.length_map]

theorem classes_eq_of_covers {values members : List Value}
    (hcovers : ∀ value ∈ values, ∃ member ∈ members, member.same value = true)
    (hkept : ∀ member ∈ members, member ∈ values) : classes members = classes values := by
  apply Set.Subset.antisymm
  · rintro _ ⟨member, hmem, rfl⟩
    exact ⟨member, hkept member hmem, rfl⟩
  · rintro _ ⟨value, hvalue, rfl⟩
    obtain ⟨member, hmem, hsame⟩ := hcovers value hvalue
    exact ⟨member, hmem, Quotient.sound hsame⟩

theorem classes_eq_of_perm {values order : List Value} (h : order.Perm values) :
    classes order = classes values := by
  unfold classes
  simp only [h.mem_iff]

theorem exists_distinct {values : List Value} (h : ∀ value ∈ values, Immutable value) :
    ∃ members, distinct values = .ok members ∧ members.length = (classes values).ncard := by
  obtain ⟨members, hdistinct, hapart, hcovers, hkept⟩ := distinct_of_immutable h
  refine ⟨members, hdistinct, ?_⟩
  rw [← ncard_classes_of_apart hapart, classes_eq_of_covers hcovers hkept]

/-! ## Equality -/

/-- Equality of values is reflexive, symmetric and transitive. Values are equal in the ways that
    `Alike` lists and in no other: as numbers, truth values included, as collections of one sort
    with equal elements, as mappings with equal entries, as nodes of one kind with equal parts, or
    as one and the same value.
    Chains are equal exactly if they have as many elements and equal ones at each place, however
    they were made, and a chain is equal to nothing that is no chain.
    A node is equal exactly to the nodes of its kind with equal fields, whatever is in them.
    Equal values have equal digests, and a chain has that of the tuple of its elements.
    Values that cannot change have as many distinct ones among them as there are classes of equal
    values, in whatever order they come. -/
theorem same_equivalence_distinct :
    (∀ a : Value, a.same a = true) ∧
    (∀ a b : Value, a.same b = true → b.same a = true) ∧
    (∀ a b c : Value, a.same b = true → b.same c = true → a.same c = true) ∧
    (∀ a b : Value, a.same b = true ↔ Alike a b) ∧
    (∀ c d xs ys, Made c xs → Made d ys →
      ((Value.chain c).same (.chain d) = true ↔
        xs.length = ys.length ∧ ∀ index (hx : index < xs.length) (hy : index < ys.length),
          xs[index].same ys[index] = true)) ∧
    (∀ c value, (∀ d, value ≠ .chain d) →
      (Value.chain c).same value = false ∧ value.same (.chain c) = false) ∧
    (∀ a b kind, a.kind? = some kind →
      (a.same b = true ↔ b.kind? = some kind ∧ SameFields a b)) ∧
    (∀ a b : Value, a.same b = true → a.digest = b.digest) ∧
    (∀ c : Chain Value, (Value.chain c).digest = (Value.tuple c.toList).digest) ∧
    (∀ values order : List Value, (∀ value ∈ values, Immutable value) → order.Perm values →
      ∃ members, distinct order = .ok members ∧ members.length = (classes values).ncard) := by
  refine ⟨same_refl, fun a b => same_symm, fun a b c => same_trans,
    fun a b => ⟨alike_of_same, same_of_alike⟩, ?made, ?other, ?nodes,
    fun a b => digest_eq_of_same, digest_chain, ?distinct⟩
  case made =>
    intro c d xs ys hc hd
    rw [same_chain_iff, toList_of_made hc, toList_of_made hd]
  case other =>
    intro c value hvalue
    have hfalse : (Value.chain c).same value = false := same_chain_of_ne hvalue
    refine ⟨hfalse, ?_⟩
    apply Bool.eq_false_of_not_eq_true
    intro hsame
    rw [same_symm hsame] at hfalse
    cases hfalse
  case nodes => exact fun a b kind => same_iff_sameFields
  case distinct =>
    intro values order hvalues hperm
    rw [← classes_eq_of_perm hperm]
    apply exists_distinct
    intro value hvalue
    exact hvalues value (hperm.mem_iff.mp hvalue)

/-- The number one and what is equal to it: alone, in chains and in a tuple, as a level, and in
    nodes. -/
def ones : List Value :=
  [.int 1, .bool true, .chain (Chain.ofList [.int 1]), .chain (Chain.ofList [.bool true]),
    .tuple [.bool true],
    .element (.header (.int 1)) .empty, .element (.header (.bool true)) .empty,
    .element .div (Chain.ofList [.int 1]), .element .div (Chain.ofList [.bool true]),
    .element .para (Chain.ofList [.tuple [.int 1]]),
    .element .para (Chain.ofList [.tuple [.bool true]])]

theorem same_equivalence_distinct_ones :
    Made (Chain.ofList [.int 1]) [.int 1] ∧ Made (Chain.ofList [.bool true]) [.bool true] ∧
      (Value.chain (Chain.ofList [.int 1])).same (.chain (Chain.ofList [.bool true])) = true ∧
      (Value.chain (Chain.ofList [.int 1])).digest =
        (Value.chain (Chain.ofList [.bool true])).digest ∧
      (element (.header (.int 1)) .empty).same (element (.header (.bool true)) .empty) = true ∧
      (element (.header (.int 1)) .empty).digest = (element (.header (.bool true)) .empty).digest ∧
      (∀ value ∈ ones, Immutable value) ∧
      ∃ members, distinct ones.reverse = .ok members ∧ members.length = 6 := by
  obtain ⟨-, -, -, -, hmade, -, hnodes, hdigest, -, hdistinct⟩ := same_equivalence_distinct
  have hlink : link (.int 1) (.tuple []) = .ok (Chain.ofList [.int 1]) := rfl
  have hint : Made (Chain.ofList [.int 1]) [.int 1] := .beforeTuple hlink
  have hbool : Made (Chain.ofList [.bool true]) [.bool true] := .map (fun _ => .bool true) hint
  have hsame := (hmade _ _ _ _ hint hbool).mpr (by decide)
  have hfields : SameFields (element (.header (.int 1)) .empty)
      (element (.header (.bool true)) .empty) := by
    unfold SameFields
    rw [fields_element, fields_element]
    exact .cons ⟨rfl, by decide⟩ (.cons ⟨rfl, same_refl _⟩ .nil)
  have hheadings := (hnodes _ _ .header (kind?_element _ _)).mpr ⟨kind?_element _ _, hfields⟩
  have hones : ∀ value ∈ ones, Immutable value := by decide
  obtain ⟨members, hmembers, hlength⟩ := hdistinct ones ones.reverse hones (List.reverse_perm ones)
  refine ⟨hint, hbool, hsame, hdigest _ _ hsame, hheadings, hdigest _ _ hheadings, hones, members,
    hmembers, ?_⟩
  -- One value of each class, which are told apart by being compared.
  let chosen : List Value :=
    [.int 1, .chain (Chain.ofList [.int 1]), .tuple [.bool true],
      .element (.header (.bool true)) .empty, .element .div (Chain.ofList [.int 1]),
      .element .para (Chain.ofList [.tuple [.bool true]])]
  have hapart : chosen.Pairwise fun member other => member.same other = false := by decide
  have hcovers : ∀ value ∈ ones, ∃ member ∈ chosen, member.same value = true := by decide
  have hkept : ∀ member ∈ chosen, member ∈ ones := by simp [chosen, ones]
  rw [hlength, ← classes_eq_of_covers hcovers hkept, ncard_classes_of_apart hapart]
  rfl

end Folio.Value
