-- SUMMARY: Equality of values is an equivalence, and equal values have equal digests.
import Folio.Proofs.ChainRecursion
import Folio.Proofs.Literals
import Folio.Value.Part
import Mathlib.Data.List.Forall2

/-!
# Equality as an equivalence

Two values are equal in one of few ways (`Alike`): they are the same number, they are
collections of one sort with equal elements at each place, mappings with equal entries,
nodes of one kind with equal fields, or one and the same value. What is said of equal
values is read off these, with `Value.induction` for the parts.

A node may be kept as a tree or not, and comparing goes different ways in either case. That
the outcome is the same (`same_expanded`) leaves one way in which nodes are equal.
-/

namespace Folio.Value

/-! ## Numbers -/

theorem sameNumber_iff {a b : Value} :
    sameNumber a b = true ↔ ∃ x, a.number? = some x ∧ b.number? = some x := by
  unfold sameNumber
  split
  · rename_i x y ha hb
    rw [beq_iff_eq, ha, hb]
    constructor
    · rintro rfl
      exact ⟨x, rfl, rfl⟩
    · rintro ⟨z, hx, hy⟩
      exact (Option.some.inj hx).trans (Option.some.inj hy).symm
  · rename_i hnone
    constructor
    · exact fun h => absurd h Bool.false_ne_true
    · rintro ⟨x, ha, hb⟩
      exact absurd hb (hnone x x ha)

example : (Value.bool true).same (.int 1) = true := by decide

theorem same_int_iff {m n : Int} : (Value.int m).same (.int n) = true ↔ m = n := by
  rw [same_eq_sameNumber rfl, sameNumber_iff]
  constructor
  · rintro ⟨x, hm, hn⟩
    exact Rat.intCast_inj.mp ((Option.some.inj hm).trans (Option.some.inj hn).symm)
  · rintro rfl
    exact ⟨m, rfl, rfl⟩

/-! ## Trees and other nodes -/

theorem sameTagIf_asValues (tag : Tag) (other : TagOf Value Value) :
    (sameTagIf tag.asValues other).val = tag.sameAs other := by
  cases tag with
  | header level => cases other <;> rfl
  | anchor target =>
    cases other with
    | anchor given => cases given <;> rfl
    | _ => rfl
  | body | div | para | bold | italic => cases other <;> rfl

theorem sameChainIf_map_node (children : Chain Node) (others : Chain Value) :
    (sameChainIf (children.map .node) others).val = Node.sameAsEach children others := by
  induction children generalizing others with
  | empty => cases others <;> rfl
  | cons child children ih =>
    rw [Chain.map_cons]
    cases others with
    | empty => rfl
    | cons other others => exact congrArg (child.sameAs other && ·) (ih others)

theorem sameAs_asValues_iff {tag other : Tag} : tag.sameAs other.asValues = true ↔ tag = other := by
  cases tag with
  | header level =>
    cases other with
    | header given =>
      rw [TagOf.header.injEq]
      exact same_int_iff
    | _ => exact iff_of_false nofun nofun
  | anchor target =>
    cases other with
    | anchor given =>
      rw [TagOf.anchor.injEq]
      exact beq_iff_eq
    | _ => exact iff_of_false nofun nofun
  | body | div | para | bold | italic =>
    cases other <;> first | exact iff_of_true rfl rfl | exact iff_of_false nofun nofun

theorem sameAsEach_map_node_iff {children others : Chain Node} :
    Node.sameAsEach children (others.map .node) = true ↔ children = others := by
  rw [← sameChainIf_map_node, ← same_ofNodes_iff]
  exact Iff.rfl

/-- Comparing a node goes by its parts, also if it is kept as a tree. -/
theorem same_expanded (a b : Value) : a.expanded.same b = a.same b := by
  cases a with
  | node n =>
    cases n with
    | text content =>
      cases b with
      | node m => cases m <;> rfl
      | looseText other => cases other <;> rfl
      | _ => rfl
    | element tag children =>
      have hloose : ∀ other others,
          ((sameTagIf tag.asValues other).val &&
            (sameChainIf (children.map .node) others).val) =
          (tag.sameAs other && Node.sameAsEach children others) := by
        intro other others
        rw [sameTagIf_asValues, sameChainIf_map_node]
      cases b with
      | node m =>
        cases m with
        | text content => rfl
        | element other others =>
          rw [same_node, Bool.eq_iff_iff, Node.same_iff, Node.element.injEq, ← sameAs_asValues_iff,
            ← sameAsEach_map_node_iff, ← Bool.and_eq_true, ← hloose]
          exact Iff.rfl
      | looseText other => cases other <;> rfl
      | looseElement other others => exact hloose other others
      | _ => rfl
  | _ => rfl

theorem expanded_expanded (value : Value) : value.expanded.expanded = value.expanded := by
  cases value with
  | node n => cases n <;> rfl
  | _ => rfl

theorem expanded_ne_node (value : Value) (n : Node) : value.expanded ≠ .node n := by
  cases value with
  | node m => cases m <;> nofun
  | _ => nofun

theorem same_expanded_right (a b : Value) : a.same b.expanded = a.same b := by
  rw [← same_expanded a b, ← same_expanded a b.expanded]
  cases ha : a.expanded with
  | node n => exact absurd ha (expanded_ne_node a n)
  | _ =>
    cases b with
    | node m => cases m <;> rfl
    | _ => rfl

theorem parts_expanded {value : Value} {kind : Kind} (h : value.kind? = some kind) :
    value.expanded.parts = value.parts := by
  have hexpanded : value.expanded.kind? = some kind := (kind?_expanded value).trans h
  rw [parts_of_kind? h, parts_of_kind? hexpanded, fields, expanded_expanded]
  rfl

/-! ## The ways in which values are equal -/

/-- Equal elements at each place. -/
abbrev SameEach (xs ys : List Value) : Prop :=
  List.Forall₂ (fun x y => x.same y = true) xs ys

/-- Each entry of either list is equal to one of the other. -/
def SameEntries (xs ys : List (Value × Value)) : Prop :=
  (∀ x ∈ xs, ∃ y ∈ ys, sameEntry x y = true) ∧ ∀ y ∈ ys, ∃ x ∈ xs, sameEntry x y = true

/-- Numbers are compared as numbers, collections and nodes by what is directly in them, and anything
    else is equal only to itself. -/
inductive Alike : Value → Value → Prop
  | number {a b : Value} {x : Rat} : a.number? = some x → b.number? = some x → Alike a b
  | list {xs ys : List Value} : SameEach xs ys → Alike (.list xs) (.list ys)
  | tuple {xs ys : List Value} : SameEach xs ys → Alike (.tuple xs) (.tuple ys)
  | mapping {xs ys : List (Value × Value)} : SameEntries xs ys → Alike (.mapping xs) (.mapping ys)
  | chain {xs ys : Chain Value} : SameEach xs.toList ys.toList → Alike (.chain xs) (.chain ys)
  | node {a b : Value} {kind : Kind} :
      a.kind? = some kind → b.kind? = some kind → SameEach a.parts b.parts → Alike a b
  | refl (a : Value) : Alike a a

theorem isEqv_iff_sameEach {xs ys : List Value} : xs.isEqv ys same = true ↔ SameEach xs ys := by
  induction xs generalizing ys with
  | nil => cases ys <;> simp
  | cons x xs ih =>
    cases ys with
    | nil => simp
    | cons y ys => simp only [List.isEqv_cons_cons, Bool.and_eq_true, ih, List.forall₂_cons]

theorem same_mapping_iff {xs ys : List (Value × Value)} :
    (Value.mapping xs).same (.mapping ys) = true ↔ SameEntries xs ys := by
  simp only [same_mapping, SameEntries, Bool.and_eq_true, List.all_eq_true, List.any_eq_true]

theorem sameEach_cons {x y : Value} {xs ys : List Value} :
    SameEach (x :: xs) (y :: ys) ↔ x.same y = true ∧ SameEach xs ys :=
  List.forall₂_cons

theorem sameEach_singleton {a b : Value} : SameEach [a] [b] ↔ a.same b = true := by
  rw [sameEach_cons, and_iff_left .nil]

theorem sameEach_pair {a b c d : Value} :
    SameEach [a, b] [c, d] ↔ a.same c = true ∧ b.same d = true := by
  rw [sameEach_cons, sameEach_singleton]

theorem same_looseElement_iff {tag other : TagOf Value Value} {children others : Chain Value} :
    (looseElement tag children).same (looseElement other others) = true ↔
      other.kind = tag.kind ∧
        SameEach (looseElement tag children).parts (looseElement other others).parts := by
  have hverdict : (looseElement tag children).same (looseElement other others) =
      ((sameTagIf tag other).val && (Value.chain children).same (.chain others)) := rfl
  rw [hverdict, Bool.and_eq_true]
  cases tag with
  | header level =>
    cases other with
    | header given => exact ⟨fun h => ⟨rfl, sameEach_pair.mpr h⟩, fun h => sameEach_pair.mp h.2⟩
    | _ => exact iff_of_false (fun h => nomatch h.1) (fun h => nomatch h.1)
  | anchor target =>
    cases other with
    | anchor given => exact ⟨fun h => ⟨rfl, sameEach_pair.mpr h⟩, fun h => sameEach_pair.mp h.2⟩
    | _ => exact iff_of_false (fun h => nomatch h.1) (fun h => nomatch h.1)
  | body | div | para | bold | italic =>
    cases other <;> first
      | exact ⟨fun h => ⟨rfl, sameEach_singleton.mpr h.2⟩, fun h => ⟨rfl, sameEach_singleton.mp h.2⟩⟩
      | exact iff_of_false (fun h => nomatch h.1) (fun h => nomatch h.1)

/-- The case of nodes that are not kept as trees. -/
theorem same_loose_iff {a b : Value} {kind : Kind} (ha : ∀ n, a ≠ .node n) (hb : ∀ n, b ≠ .node n)
    (h : a.kind? = some kind) :
    a.same b = true ↔ b.kind? = some kind ∧ SameEach a.parts b.parts := by
  cases a with
  | node n => exact absurd rfl (ha n)
  | looseText content =>
    cases h
    cases b with
    | node n => exact absurd rfl (hb n)
    | looseText other =>
      have hparts : SameEach (looseText content).parts (looseText other).parts ↔
          content.same other = true := sameEach_singleton
      rw [hparts]
      exact (and_iff_right rfl).symm
    | looseElement other others =>
      exact iff_of_false Bool.false_ne_true fun h => other.kind_ne_text (Option.some.inj h.1)
    | _ =>
      refine iff_of_false Bool.false_ne_true ?_
      rintro ⟨hkind, -⟩
      cases hkind
  | looseElement tag children =>
    cases h
    cases b with
    | node n => exact absurd rfl (hb n)
    | looseText other =>
      exact iff_of_false Bool.false_ne_true fun h => tag.kind_ne_text (Option.some.inj h.1).symm
    | looseElement other others =>
      rw [same_looseElement_iff, kind?, Option.some.injEq]
    | _ =>
      refine iff_of_false Bool.false_ne_true ?_
      rintro ⟨hkind, -⟩
      cases hkind
  | _ => cases h

/-- Nodes are equal to nodes of their own kind with equal parts, and to nothing else. -/
theorem same_iff_of_kind? {a b : Value} {kind : Kind} (h : a.kind? = some kind) :
    a.same b = true ↔ b.kind? = some kind ∧ SameEach a.parts b.parts := by
  have hexpanded : a.expanded.kind? = some kind := (kind?_expanded a).trans h
  rw [← same_expanded, ← same_expanded_right,
    same_loose_iff (expanded_ne_node a) (expanded_ne_node b) hexpanded, kind?_expanded]
  apply and_congr_right
  intro hb
  rw [parts_expanded h, parts_expanded hb]

/-- Numbers go first: only they are equal across sorts. -/
theorem alike_of_same {a b : Value} (h : a.same b = true) : Alike a b := by
  cases a with
  | bool | int | decimal =>
    rw [same_eq_sameNumber rfl, sameNumber_iff] at h
    obtain ⟨x, ha, hb⟩ := h
    exact .number ha hb
  | node | looseText | looseElement =>
    obtain ⟨hkind, hparts⟩ := (same_iff_of_kind? rfl).mp h
    exact .node rfl hkind hparts
  | list xs =>
    cases b with
    | list ys =>
      rw [same_list, isEqv_iff_sameEach] at h
      exact .list h
    | _ => exact absurd h Bool.false_ne_true
  | tuple xs =>
    cases b with
    | tuple ys =>
      rw [same_tuple, isEqv_iff_sameEach] at h
      exact .tuple h
    | _ => exact absurd h Bool.false_ne_true
  | mapping xs =>
    cases b with
    | mapping ys => exact .mapping (same_mapping_iff.mp h)
    | _ => exact absurd h Bool.false_ne_true
  | chain xs =>
    cases b with
    | chain ys =>
      rw [same_chain, isEqv_iff_sameEach] at h
      exact .chain h
    | _ => exact absurd h Bool.false_ne_true
  | null =>
    cases b with
    | null => exact .refl _
    | _ => exact absurd h Bool.false_ne_true
  | text s =>
    cases b with
    | text t =>
      cases eq_of_beq (α := String) h
      exact .refl _
    | _ => exact absurd h Bool.false_ne_true
  | options o =>
    cases b with
    | options p =>
      cases eq_of_beq (α := Options) h
      exact .refl _
    | _ => exact absurd h Bool.false_ne_true
  | builder k =>
    cases b with
    | builder l =>
      cases eq_of_beq (α := Nat) h
      exact .refl _
    | _ => exact absurd h Bool.false_ne_true
  | collected k =>
    cases b with
    | collected l =>
      cases eq_of_beq (α := Nat) h
      exact .refl _
    | _ => exact absurd h Bool.false_ne_true
  | stream k =>
    cases b with
    | stream l =>
      cases eq_of_beq (α := Nat) h
      exact .refl _
    | _ => exact absurd h Bool.false_ne_true

theorem same_of_alike {a b : Value} (h : Alike a b) : a.same b = true := by
  cases h with
  | number ha hb =>
    rw [same_eq_sameNumber (by rw [ha]; rfl), sameNumber_iff]
    exact ⟨_, ha, hb⟩
  | list h => rwa [same_list, isEqv_iff_sameEach]
  | tuple h => rwa [same_tuple, isEqv_iff_sameEach]
  | mapping h => exact same_mapping_iff.mpr h
  | chain h => rwa [same_chain, isEqv_iff_sameEach]
  | node ha hb h => exact (same_iff_of_kind? ha).mpr ⟨hb, h⟩
  | refl => exact same_refl a

/-! ## Equivalence -/

/-- Equal elements are equal the other way round if that holds of each of them. -/
theorem SameEach.symm {xs ys : List Value} (h : SameEach xs ys)
    (hxs : ∀ x ∈ xs, ∀ y, x.same y = true → y.same x = true) : SameEach ys xs := by
  have hboth : List.Forall₂ (fun x y =>
      (∀ z, x.same z = true → z.same x = true) ∧ x.same y = true) xs ys :=
    (List.forall₂_and_left xs ys).mpr ⟨hxs, h⟩
  apply List.Forall₂.flip
  apply hboth.imp
  rintro x y ⟨hx, hxy⟩
  exact hx y hxy

theorem SameEach.trans {xs ys zs : List Value} (h : SameEach xs ys) (h' : SameEach ys zs)
    (hxs : ∀ x ∈ xs, ∀ y z, x.same y = true → y.same z = true → x.same z = true) :
    SameEach xs zs := by
  induction h generalizing zs with
  | nil => exact h'
  | @cons x y xs ys hxy _ ih =>
    obtain ⟨hx, hxs⟩ := List.forall_mem_cons.mp hxs
    obtain ⟨z, zs, hyz, hrest, rfl⟩ := List.forall₂_cons_left_iff.mp h'
    exact .cons (hx y z hxy hyz) (ih hrest hxs)

theorem sameEntry_iff {x y : Value × Value} :
    sameEntry x y = true ↔ x.1.same y.1 = true ∧ x.2.same y.2 = true := by
  rw [sameEntry, Bool.and_eq_true]

/-- What holds of all parts of a mapping holds of the key and the value of each entry. -/
theorem of_mem_entries {p : Value → Prop} {entries : List (Value × Value)} {entry : Value × Value}
    (h : ∀ part ∈ (Value.mapping entries).parts, p part) (hentry : entry ∈ entries) :
    p entry.1 ∧ p entry.2 := by
  have hparts : ∀ part ∈ [entry.1, entry.2], p part :=
    fun part hpart => h part (List.mem_flatMap.mpr ⟨entry, hentry, hpart⟩)
  exact ⟨hparts _ (by simp), hparts _ (by simp)⟩

theorem SameEntries.symm {xs ys : List (Value × Value)} (h : SameEntries xs ys)
    (hxs : ∀ x ∈ (Value.mapping xs).parts, ∀ y, x.same y = true → y.same x = true) :
    SameEntries ys xs := by
  have hsymm : ∀ x ∈ xs, ∀ y, sameEntry x y = true → sameEntry y x = true := by
    intro x hx y hxy
    obtain ⟨hkey, hvalue⟩ := of_mem_entries hxs hx
    obtain ⟨hkeys, hvalues⟩ := sameEntry_iff.mp hxy
    exact sameEntry_iff.mpr ⟨hkey _ hkeys, hvalue _ hvalues⟩
  refine ⟨?_, ?_⟩
  · intro y hy
    obtain ⟨x, hx, hxy⟩ := h.2 y hy
    exact ⟨x, hx, hsymm x hx y hxy⟩
  · intro x hx
    obtain ⟨y, hy, hxy⟩ := h.1 x hx
    exact ⟨y, hy, hsymm x hx y hxy⟩

theorem SameEntries.trans {xs ys zs : List (Value × Value)} (h : SameEntries xs ys)
    (h' : SameEntries ys zs)
    (hxs : ∀ x ∈ (Value.mapping xs).parts, ∀ y z, x.same y = true → y.same z = true →
      x.same z = true) : SameEntries xs zs := by
  have htrans : ∀ x ∈ xs, ∀ y z, sameEntry x y = true → sameEntry y z = true →
      sameEntry x z = true := by
    intro x hx y z hxy hyz
    obtain ⟨hkey, hvalue⟩ := of_mem_entries hxs hx
    obtain ⟨hkeys, hvalues⟩ := sameEntry_iff.mp hxy
    obtain ⟨hkeys', hvalues'⟩ := sameEntry_iff.mp hyz
    exact sameEntry_iff.mpr ⟨hkey _ _ hkeys hkeys', hvalue _ _ hvalues hvalues'⟩
  refine ⟨?_, ?_⟩
  · intro x hx
    obtain ⟨y, hy, hxy⟩ := h.1 x hx
    obtain ⟨z, hz, hyz⟩ := h'.1 y hy
    exact ⟨z, hz, htrans x hx y z hxy hyz⟩
  · intro z hz
    obtain ⟨y, hy, hyz⟩ := h'.2 z hz
    obtain ⟨x, hx, hxy⟩ := h.2 y hy
    exact ⟨x, hx, htrans x hx y z hxy hyz⟩

theorem same_symm {a b : Value} (h : a.same b = true) : b.same a = true := by
  induction a using Value.induction generalizing b with
  | step a ih =>
    have hparts : ∀ x ∈ a.parts, ∀ y, x.same y = true → y.same x = true := by
      intro x hx y
      exact ih x hx
    apply same_of_alike
    cases alike_of_same h with
    | number ha hb => exact .number hb ha
    | list hitems => exact .list (hitems.symm hparts)
    | tuple hitems => exact .tuple (hitems.symm hparts)
    | mapping hentries => exact .mapping (hentries.symm hparts)
    | chain hitems => exact .chain (hitems.symm hparts)
    | node ha hb hfields => exact .node hb ha (hfields.symm hparts)
    | refl => exact .refl a

theorem same_trans {a b c : Value} (hab : a.same b = true) (hbc : b.same c = true) :
    a.same c = true := by
  induction a using Value.induction generalizing b c with
  | step a ih =>
    have hparts : ∀ x ∈ a.parts, ∀ y z, x.same y = true → y.same z = true → x.same z = true := by
      intro x hx y z
      exact ih x hx
    cases alike_of_same hab with
    | @number _ _ x ha hb =>
      have hnumber : sameNumber b c = true := by
        rw [← same_eq_sameNumber (by rw [hb]; rfl)]
        exact hbc
      obtain ⟨y, hb', hc⟩ := sameNumber_iff.mp hnumber
      cases hb.symm.trans hb'
      exact same_of_alike (.number ha hc)
    | list hitems =>
      cases alike_of_same hbc with
      | number hb | node hb => cases hb
      | list hitems' => exact same_of_alike (.list (hitems.trans hitems' hparts))
      | refl => exact hab
    | tuple hitems =>
      cases alike_of_same hbc with
      | number hb | node hb => cases hb
      | tuple hitems' => exact same_of_alike (.tuple (hitems.trans hitems' hparts))
      | refl => exact hab
    | mapping hentries =>
      cases alike_of_same hbc with
      | number hb | node hb => cases hb
      | mapping hentries' => exact same_of_alike (.mapping (hentries.trans hentries' hparts))
      | refl => exact hab
    | chain hitems =>
      cases alike_of_same hbc with
      | number hb | node hb => cases hb
      | chain hitems' => exact same_of_alike (.chain (hitems.trans hitems' hparts))
      | refl => exact hab
    | node ha hb hfields =>
      obtain ⟨hc, hfields'⟩ := (same_iff_of_kind? hb).mp hbc
      exact same_of_alike (.node ha hc (hfields.trans hfields' hparts))
    | refl => exact hbc

instance : EquivBEq Value where
  rfl {a} := same_refl a
  symm {_ _} := same_symm
  trans {_ _ _} := same_trans

/-! ## Chains -/

/-- The chain was made to hold these elements: of any sequence, by putting an element in front of
    a chain, a list or a tuple, or by applying a function to the elements of another chain. -/
inductive Made : Chain Value → List Value → Prop
  | empty : Made .empty []
  | read {bench after : Bench} {value : Value} {items : List Value} {made : Chain Value} :
      Bench.Sequence bench value items →
      (Bench.perform (.read value)).runOn bench = (.ok (.chain made), after) → Made made items
  | beforeChain {first : Value} {rest made : Chain Value} {items : List Value} :
      Made rest items → link first (.chain rest) = .ok made → Made made (first :: items)
  | beforeList {first : Value} {items : List Value} {made : Chain Value} :
      link first (.list items) = .ok made → Made made (first :: items)
  | beforeTuple {first : Value} {items : List Value} {made : Chain Value} :
      link first (.tuple items) = .ok made → Made made (first :: items)
  | map (f : Value → Value) {c : Chain Value} {items : List Value} :
      Made c items → Made (c.map f) (items.map f)

/-- What a chain holds is all that is left of how it was made. -/
theorem toList_of_made {c : Chain Value} {items : List Value} (h : Made c items) :
    c.toList = items := by
  induction h with
  | empty => exact Chain.toList_empty
  | read hsequence hread =>
    rw [Bench.perform_read (Bench.elements_of_sequence hsequence)] at hread
    cases hread
    exact Chain.toList_ofList _
  | beforeChain _ hlink ih =>
    cases hlink
    rw [Chain.toList_cons, ih]
  | beforeList hlink =>
    cases hlink
    rw [Chain.toList_cons, Chain.toList_ofList]
  | beforeTuple hlink =>
    cases hlink
    rw [Chain.toList_cons, Chain.toList_ofList]
  | map f _ ih => rw [Chain.toList_map, ih]

theorem same_chain_iff {c d : Chain Value} :
    (Value.chain c).same (.chain d) = true ↔
      c.toList.length = d.toList.length ∧
        ∀ index (hc : index < c.toList.length) (hd : index < d.toList.length),
          c.toList[index].same d.toList[index] = true := by
  rw [same_chain, isEqv_iff_sameEach]
  exact List.forall₂_iff_get

theorem same_chain_of_ne {c : Chain Value} {value : Value} (h : ∀ d, value ≠ .chain d) :
    (Value.chain c).same value = false := by
  cases value with
  | chain d => exact absurd rfl (h d)
  | _ => rfl

/-! ## Nodes -/

/-- The names of a node's fields are those that its kind is built with. -/
theorem names_of_kind? {value : Value} {kind : Kind} (h : value.kind? = some kind) :
    value.fields.map Prod.fst = kind.signature.required ++ kind.signature.optional := by
  have hfields : value.fields = value.expanded.fields := by
    rw [fields, fields, expanded_expanded]
  rw [hfields]
  rw [← kind?_expanded] at h
  cases hexpanded : value.expanded with
  | node n => exact absurd hexpanded (expanded_ne_node value n)
  | looseText content =>
    rw [hexpanded] at h
    cases h
    rfl
  | looseElement tag children =>
    rw [hexpanded] at h
    cases h
    cases tag <;> rfl
  | _ =>
    rw [hexpanded] at h
    cases h

/-- Fields of the same names, in the same order, with equal values. -/
def SameFields (a b : Value) : Prop :=
  List.Forall₂ (fun x y => x.1 = y.1 ∧ x.2.same y.2 = true) a.fields b.fields

theorem sameFields_iff {a b : Value} (h : a.fields.map Prod.fst = b.fields.map Prod.fst) :
    SameFields a b ↔ SameEach (a.fields.map Prod.snd) (b.fields.map Prod.snd) := by
  have hlists : ∀ xs ys : List (String × Value), xs.map Prod.fst = ys.map Prod.fst →
      (List.Forall₂ (fun x y => x.1 = y.1 ∧ x.2.same y.2 = true) xs ys ↔
        SameEach (xs.map Prod.snd) (ys.map Prod.snd)) := by
    intro xs
    induction xs with
    | nil =>
      intro ys hnames
      obtain rfl := List.map_eq_nil_iff.mp hnames.symm
      exact iff_of_true .nil .nil
    | cons x xs ih =>
      intro ys hnames
      cases ys with
      | nil => cases hnames
      | cons y ys =>
        obtain ⟨hname, hnames⟩ := List.cons.inj hnames
        rw [List.map_cons, List.map_cons, List.forall₂_cons, sameEach_cons, ih ys hnames,
          and_iff_right hname]
  exact hlists _ _ h

/-- Nodes are equal to nodes of their own kind with equal fields, and to nothing else. -/
theorem same_iff_sameFields {a b : Value} {kind : Kind} (h : a.kind? = some kind) :
    a.same b = true ↔ b.kind? = some kind ∧ SameFields a b := by
  rw [same_iff_of_kind? h]
  apply and_congr_right
  intro hb
  rw [sameFields_iff ((names_of_kind? h).trans (names_of_kind? hb).symm), parts_of_kind? h,
    parts_of_kind? hb]

/-! ## Trees -/

theorem trees?_eq_some_iff {items : Chain Value} {nodes : Chain Node} :
    trees? items = some nodes ↔
      List.Forall₂ (fun value node => value.tree? = some node) items.toList nodes.toList := by
  induction items generalizing nodes with
  | empty =>
    rw [trees?, Chain.toList_empty, List.forall₂_nil_left_iff]
    cases nodes with
    | empty => exact iff_of_true rfl Chain.toList_empty
    | cons =>
      rw [Chain.toList_cons]
      exact iff_of_false (fun h => by cases h) (fun h => by cases h)
  | cons item items ih =>
    rw [trees?, Chain.toList_cons, List.forall₂_cons_left_iff]
    constructor
    · intro h
      obtain ⟨node, hnode, h⟩ := Option.bind_eq_some_iff.mp h
      obtain ⟨rest, hrest, h⟩ := Option.bind_eq_some_iff.mp h
      cases h
      exact ⟨node, rest.toList, hnode, ih.mp hrest, Chain.toList_cons node rest⟩
    · rintro ⟨node, rest, hnode, hrest, hnodes⟩
      rw [← Chain.toList_ofList rest] at hrest hnodes
      rw [← Chain.toList_cons, Chain.toList_inj] at hnodes
      rw [hnode, ih.mpr hrest, hnodes]
      rfl

theorem same_of_level? {level : Value} {n : Int} (h : level.level? = some n) :
    level.same (.int n) = true := by
  cases level with
  | int m =>
    cases h
    exact same_refl _
  | bool b =>
    cases h
    cases b <;> decide
  | _ => cases h

theorem same_of_text? {text : Value} {s : String} (h : text.text? = some s) :
    text.same (.text s) = true := by
  cases text with
  | text t =>
    cases h
    exact same_refl _
  | _ => cases h

/-- A tag has a level or a target equal to that of the tag that is read off it. -/
theorem sameTagIf_of_mapM {tag : TagOf Value Value} {typed : Tag}
    (h : tag.mapM level? text? = some typed) : (sameTagIf tag typed.asValues).val = true := by
  cases tag with
  | header level =>
    obtain ⟨n, hn, rfl⟩ := Option.map_eq_some_iff.mp h
    exact same_of_level? hn
  | anchor target =>
    obtain ⟨s, hs, rfl⟩ := Option.map_eq_some_iff.mp h
    exact same_of_text? hs
  | body | div | para | bold | italic =>
    cases h
    rfl

/-- A node is equal to the tree that it is. -/
theorem same_of_tree? {value : Value} {tree : Node} (h : value.tree? = some tree) :
    value.same (.node tree) = true := by
  -- Down through chains of children as well, which are no nodes themselves.
  have hboth : (∀ tree, value.tree? = some tree → value.same (.node tree) = true) ∧
      ∀ items nodes, value = .chain items → trees? items = some nodes →
        value.same (ofNodes nodes) = true := by
    clear h
    induction value using Value.induction with
    | step value ih =>
      refine ⟨?node, ?chain⟩
      case node =>
        intro tree h
        cases value with
        | node n =>
          cases h
          exact same_refl _
        | looseText content =>
          obtain ⟨s, hs, rfl⟩ := Option.map_eq_some_iff.mp h
          exact same_of_text? hs
        | looseElement tag children =>
          obtain ⟨typed, htag, h⟩ := Option.bind_eq_some_iff.mp h
          obtain ⟨nodes, hnodes, h⟩ := Option.bind_eq_some_iff.mp h
          cases h
          have hmem : Value.chain children ∈ (looseElement tag children).parts := by
            rw [parts_of_kind? rfl]
            exact List.mem_map_of_mem (List.mem_append_right _ List.mem_cons_self)
          have hchildren : (Value.chain children).same (ofNodes nodes) = true :=
            (ih _ hmem).2 children nodes rfl hnodes
          have hverdict : (looseElement tag children).same (.node (.element typed nodes)) =
              ((sameTagIf tag (Tag.asValues typed)).val &&
                (Value.chain children).same (ofNodes nodes)) := rfl
          rw [hverdict, sameTagIf_of_mapM htag, hchildren]
          rfl
        | _ => cases h
      case chain =>
        rintro items nodes rfl h
        rw [ofNodes, same_chain, isEqv_iff_sameEach, Chain.toList_map]
        apply List.forall₂_map_right_iff.mpr
        have hitems := (List.forall₂_and_left items.toList nodes.toList).mpr
          ⟨ih, trees?_eq_some_iff.mp h⟩
        exact hitems.imp fun item node hitem => hitem.1.1 node hitem.2
  exact hboth.1 tree h

/-! ## Digests -/

theorem digestList_eq (acc : UInt64) (xs : List Value) :
    digestList acc xs = (xs.map digest).foldl mixHash acc := by
  induction xs generalizing acc with
  | nil => rw [digestList]; rfl
  | cons x xs ih => rw [digestList, ih]; rfl

theorem digestChain_eq (acc : UInt64) (xs : Chain Value) :
    digestChain acc xs = digestList acc xs.toList := by
  induction xs generalizing acc with
  | empty => rw [digestChain, Chain.toList_empty, digestList]
  | cons x xs ih => rw [digestChain, ih, Chain.toList_cons, digestList]

theorem digest_chain (xs : Chain Value) :
    (Value.chain xs).digest = (Value.tuple xs.toList).digest := by
  rw [digest, digest, digestChain_eq]

theorem digest_node_text (content : String) :
    (Value.node (.text content)).digest = mixHash (hash Kind.text) (textDigest content) := by
  rw [digest, Node.digest, Node.fold_text]

theorem digest_node_element (tag : Tag) (children : Chain Node) :
    (Value.node (.element tag children)).digest =
      mixHash tag.digest (digestChain 17 (children.map .node)) := by
  have hchildren : (children.map Node.digest).foldl (fun digest acc => mixHash acc digest) 17 =
      digestChain 17 (children.map .node) := by
    rw [digestChain_eq, digestList_eq, Chain.toList_map, List.map_map, Chain.foldl, Chain.toList_map]
    rfl
  rw [digest, Node.digest, Node.fold_element, ← hchildren]
  rfl

/-- The digest of a node is that of its kind and its parts, however it is kept. -/
theorem digest_of_kind? {value : Value} {kind : Kind} (h : value.kind? = some kind) :
    value.digest = (value.parts.map digest).foldl mixHash (hash kind) := by
  cases value with
  | node n =>
    cases h
    cases n with
    | text content => exact digest_node_text content
    | element tag children =>
      rw [digest_node_element]
      cases tag <;> rfl
  | looseText content =>
    cases h
    rfl
  | looseElement tag children =>
    cases h
    cases tag <;> rfl
  | _ => cases h

theorem digest_of_number {a : Value} {x : Rat} (h : a.number? = some x) :
    a.digest = numberDigest x := by
  cases a with
  | bool | int | decimal =>
    cases h
    rw [digest]
  | _ => cases h

theorem SameEach.map_digest {xs ys : List Value} (h : SameEach xs ys)
    (hxs : ∀ x ∈ xs, ∀ y, x.same y = true → x.digest = y.digest) :
    xs.map digest = ys.map digest := by
  induction h with
  | nil => rfl
  | @cons x y xs ys hxy _ ih =>
    obtain ⟨hx, hxs⟩ := List.forall_mem_cons.mp hxs
    rw [List.map_cons, List.map_cons, hx y hxy, ih hxs]

theorem digest_eq_of_same {a b : Value} (h : a.same b = true) : a.digest = b.digest := by
  induction a using Value.induction generalizing b with
  | step a ih =>
    have hparts : ∀ x ∈ a.parts, ∀ y, x.same y = true → x.digest = y.digest := by
      intro x hx y
      exact ih x hx
    cases alike_of_same h with
    | number ha hb => rw [digest_of_number ha, digest_of_number hb]
    | list hitems => rw [digest, digest, digestList_eq, digestList_eq, hitems.map_digest hparts]
    | tuple hitems => rw [digest, digest, digestList_eq, digestList_eq, hitems.map_digest hparts]
    | mapping => rw [digest, digest]
    | chain hitems =>
      rw [digest_chain, digest_chain, digest, digest, digestList_eq, digestList_eq,
        hitems.map_digest hparts]
    | node ha hb hfields =>
      rw [digest_of_kind? ha, digest_of_kind? hb, hfields.map_digest hparts]
    | refl => rfl

instance : LawfulHashable Value where
  hash_eq _ _ h := digest_eq_of_same h

end Folio.Value
