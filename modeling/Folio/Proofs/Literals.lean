-- SUMMARY: The literal form of a tree, and of a chain of trees, tells it from all others.
import Folio.Proofs.QuotedText
import Folio.Value.Equality
import Folio.Value.Literal
import Mathlib.Data.List.Basic
import Std.Data.String.ToInt

/-!
# Literal forms are unambiguous

Two trees with the same literal form are equal, and so are two chains of trees
(`literal_eq_iff_same`), whatever stands in their texts and targets.

Each part of a literal form tells what it is of and where it ends
(`Piece.Determines`): names and numbers since they are followed by a character that is
not in them, quoted text since it can be read back, and the elements of a chain since
none of them begins like what closes it. By induction on the tree so does the whole.
-/

namespace Folio

open Text (Piece)

/-! ## Parts of a literal form -/

namespace Text.Piece

variable {α : Type} {write : α → Piece}

/-- The same text in front can be taken away. -/
theorem ofString_inj {s : String} {tail other : List Char}
    (h : ofString s tail = ofString s other) : tail = other :=
  List.append_cancel_left h

/-- What stands before the first occurrence of a character is determined by the whole. -/
theorem append_stop_inj {stop : Char} {xs ys tail other : List Char} (hxs : stop ∉ xs)
    (hys : stop ∉ ys) (h : xs ++ stop :: tail = ys ++ stop :: other) : xs = ys ∧ tail = other := by
  induction xs generalizing ys with
  | nil =>
    cases ys with
    | nil => exact ⟨rfl, (List.cons.inj h).2⟩
    | cons y ys => exact absurd ((List.cons.inj h).1 ▸ List.mem_cons_self) hys
  | cons x xs ih =>
    cases ys with
    | nil => exact absurd ((List.cons.inj h).1 ▸ List.mem_cons_self) hxs
    | cons y ys =>
      obtain ⟨rfl, hrest⟩ := List.cons.inj h
      obtain ⟨rfl, htail⟩ :=
        ih (List.not_mem_of_not_mem_cons hxs) (List.not_mem_of_not_mem_cons hys) hrest
      exact ⟨rfl, htail⟩

/-- A text that is followed by a character which is not in it ends there. -/
theorem ofString_cons_inj {s t : String} {stop : Char} {tail other : List Char}
    (hs : stop ∉ s.toList) (ht : stop ∉ t.toList)
    (h : ofString s (stop :: tail) = ofString t (stop :: other)) : s = t ∧ tail = other := by
  obtain ⟨hst, htail⟩ := append_stop_inj hs ht h
  exact ⟨String.toList_injective hst, htail⟩

/-- What follows the first element of a list, up to and including the closing character. -/
theorem listed_inj {close : Char} (hclose : close ≠ ',') {as bs : List α}
    (has : ∀ a ∈ as, Determines write a) {tail other : List Char}
    (h : (as.map write).foldr (fun piece after => ',' :: ' ' :: piece after) (close :: tail) =
      (bs.map write).foldr (fun piece after => ',' :: ' ' :: piece after) (close :: other)) :
    as = bs ∧ tail = other := by
  induction as generalizing bs with
  | nil =>
    cases bs with
    | nil => exact ⟨rfl, (List.cons.inj h).2⟩
    | cons b bs => exact absurd (List.cons.inj h).1 hclose
  | cons a as ih =>
    obtain ⟨ha, has⟩ := List.forall_mem_cons.mp has
    cases bs with
    | nil => exact absurd (List.cons.inj h).1.symm hclose
    | cons b bs =>
      obtain ⟨rfl, hrest⟩ := ha b _ _ (List.cons.inj (List.cons.inj h).2).2
      obtain ⟨rfl, htail⟩ := ih has hrest
      exact ⟨rfl, htail⟩

/-- A list ends where its closing character stands in place of an element. -/
theorem separated_inj {close : Char} (hclose : close ≠ ',')
    (hwrite : ∀ a tail, (write a tail).head? ≠ some close) {as bs : List α}
    (has : ∀ a ∈ as, Determines write a) {tail other : List Char}
    (h : separated (as.map write) (close :: tail) = separated (bs.map write) (close :: other)) :
    as = bs ∧ tail = other := by
  cases as with
  | nil =>
    cases bs with
    | nil => exact ⟨rfl, (List.cons.inj h).2⟩
    | cons b bs => exact absurd (congrArg List.head? h).symm (hwrite b _)
  | cons a as =>
    obtain ⟨ha, has⟩ := List.forall_mem_cons.mp has
    cases bs with
    | nil => exact absurd (congrArg List.head? h) (hwrite a _)
    | cons b bs =>
      obtain ⟨rfl, hrest⟩ := ha b _ _ h
      obtain ⟨rfl, htail⟩ := listed_inj hclose has hrest
      exact ⟨rfl, htail⟩

end Text.Piece

open Text.Piece

/-- The digits of a number end where a comma stands. -/
theorem comma_not_mem_toString (n : Int) : ',' ∉ (toString n).toList := by
  have hdigits : ∀ m : Nat, ',' ∉ m.repr.toList := by
    intro m hmem
    rw [Nat.toList_repr] at hmem
    have hdigit : Char.isDigit ',' = true :=
      Nat.isDigit_of_mem_toDigits (by decide) (by decide) hmem
    exact absurd hdigit (by decide)
  rw [Int.toString_eq_repr, Int.repr_eq_if]
  split
  · exact hdigits _
  · rw [String.toList_append, List.mem_append, not_or]
    exact ⟨by decide, hdigits _⟩

/-! ## Kinds and tags -/

theorem Kind.ofName?_name (kind : Kind) : Kind.ofName? kind.name = some kind := by
  cases kind <;> rfl

theorem Kind.name_inj {kind other : Kind} (h : kind.name = other.name) : kind = other := by
  have hread := congrArg Kind.ofName? h
  rw [ofName?_name, ofName?_name] at hread
  exact Option.some.inj hread

theorem Kind.parenthesis_not_mem_name (kind : Kind) : '(' ∉ kind.name.toList := by
  cases kind <;> decide

/-- The kind of a node is read off what its literal form begins with. -/
theorem Kind.ofString_name_inj {kind other : Kind} {fields rest : List Char}
    (h : ofString kind.name ('(' :: fields) = ofString other.name ('(' :: rest)) :
    kind = other ∧ fields = rest := by
  obtain ⟨hname, hfields⟩ :=
    ofString_cons_inj kind.parenthesis_not_mem_name other.parenthesis_not_mem_name h
  exact ⟨Kind.name_inj hname, hfields⟩

theorem Tag.determines_opening (tag : Tag) : Determines Tag.opening tag := by
  intro other tail rest h
  obtain ⟨hkind, hfields⟩ := Kind.ofString_name_inj h
  cases tag with
  | header level =>
    cases other with
    | header =>
      have hdigits := (List.cons.inj (ofString_inj (s := "level") hfields)).2
      obtain ⟨hlevel, htail⟩ :=
        ofString_cons_inj (comma_not_mem_toString _) (comma_not_mem_toString _) hdigits
      rw [Int.toString_eq_repr, Int.toString_eq_repr] at hlevel
      cases Int.repr_injective hlevel
      exact ⟨rfl, (List.cons.inj htail).2⟩
    | _ => cases hkind
  | anchor target =>
    cases other with
    | anchor =>
      have hquoted := (List.cons.inj (ofString_inj (s := "target") hfields)).2
      obtain ⟨htarget, htail⟩ := Text.determines_quotedOnto _ _ _ _ hquoted
      cases String.toList_injective htarget
      exact ⟨rfl, (List.cons.inj (List.cons.inj htail).2).2⟩
    | _ => cases hkind
  | body | div | para | bold | italic =>
    cases other <;> first | exact ⟨rfl, hfields⟩ | cases hkind

/-! ## Trees -/

namespace Node

/-- A literal form begins with the kind and a parenthesis. -/
theorem exists_literalOnto (node : Node) (tail : List Char) :
    ∃ fields, node.literalOnto tail = ofString node.kind.name ('(' :: fields) := by
  cases node with
  | text content =>
    refine ⟨ofString "text=" (Text.quotedOnto content.toList (')' :: tail)), ?_⟩
    rw [literalOnto_text]
    simp [ofString, kind, Kind.name]
  | element tag children => exact ⟨_, literalOnto_element tag children tail⟩

/-- No kind begins like the end of a chain. -/
theorem head?_literalOnto (node : Node) (tail : List Char) :
    (node.literalOnto tail).head? ≠ some ']' := by
  obtain ⟨fields, hfields⟩ := node.exists_literalOnto tail
  rw [hfields]
  cases node.kind <;> simp [ofString, Kind.name]

theorem kind_eq_of_literalOnto {a b : Node} {tail other : List Char}
    (h : a.literalOnto tail = b.literalOnto other) : a.kind = b.kind := by
  obtain ⟨fields, hfields⟩ := a.exists_literalOnto tail
  obtain ⟨rest, hrest⟩ := b.exists_literalOnto other
  rw [hfields, hrest] at h
  exact (Kind.ofString_name_inj h).1

/-- Chains are told apart if their elements are. -/
theorem literalOf_inj {as bs : List Node} (has : ∀ a ∈ as, Determines literalOnto a)
    {tail other : List Char}
    (h : Chain.literalOf (as.map literalOnto) tail = Chain.literalOf (bs.map literalOnto) other) :
    as = bs ∧ tail = other := by
  obtain ⟨hlists, htail⟩ := separated_inj (by decide) head?_literalOnto has (ofString_inj h)
  exact ⟨hlists, (List.cons.inj htail).2⟩

theorem determines_literalOnto (node : Node) : Determines literalOnto node := by
  induction node using Node.induction with
  | text content =>
    intro b tail other h
    have hkind := kind_eq_of_literalOnto h
    cases b with
    | text content' =>
      rw [literalOnto_text, literalOnto_text] at h
      obtain ⟨hcontent, htail⟩ := Text.determines_quotedOnto _ _ _ _ (ofString_inj h)
      cases String.toList_injective hcontent
      exact ⟨rfl, (List.cons.inj htail).2⟩
    | element tag children => cases tag <;> cases hkind
  | element tag children ih =>
    intro b tail other h
    have hkind := kind_eq_of_literalOnto h
    cases b with
    | text content => cases tag <;> cases hkind
    | element tag' children' =>
      rw [literalOnto_element, literalOnto_element] at h
      obtain ⟨rfl, hfields⟩ := tag.determines_opening _ _ _ h
      obtain ⟨hchildren, htail⟩ := literalOf_inj ih (ofString_inj hfields)
      cases Chain.toList_inj.mp hchildren
      exact ⟨rfl, (List.cons.inj htail).2⟩

theorem literal_inj {a b : Node} (h : a.literal = b.literal) : a = b :=
  (determines_literalOnto a b [] [] (String.ofList_injective h)).1

end Node

/-! ## Chains of trees -/

namespace Value

theorem chainLiteralsOnto_map_node (nodes : Chain Node) :
    chainLiteralsOnto (nodes.map .node) = nodes.toList.map Node.literalOnto := by
  induction nodes with
  | empty => rw [Chain.map_empty, chainLiteralsOnto]; rfl
  | cons node nodes ih =>
    rw [Chain.map_cons, chainLiteralsOnto, ih, Chain.toList_cons, List.map_cons]
    congr 1

theorem ofNodes_literal_inj {as bs : Chain Node} (h : (ofNodes as).literal = (ofNodes bs).literal) :
    as = bs := by
  have hforms := String.ofList_injective h
  unfold ofNodes at hforms
  rw [literalOnto, literalOnto, chainLiteralsOnto_map_node, chainLiteralsOnto_map_node] at hforms
  have has : ∀ a ∈ as.toList, Determines Node.literalOnto a := by
    intro a _
    exact a.determines_literalOnto
  exact Chain.toList_inj.mp (Node.literalOf_inj has hforms).1

theorem isEqv_map_node (ns ms : List Node) :
    (ns.map Value.node).isEqv (ms.map Value.node) same = true ↔ ns = ms := by
  induction ns generalizing ms with
  | nil => cases ms <;> simp
  | cons n ns ih =>
    cases ms with
    | nil => simp
    | cons m ms =>
      rw [List.map_cons, List.map_cons, List.isEqv_cons_cons, Bool.and_eq_true, same_node,
        Node.same_iff, ih, List.cons.injEq]

theorem same_ofNodes_iff (as bs : Chain Node) :
    (ofNodes as).same (ofNodes bs) = true ↔ as = bs := by
  unfold ofNodes
  rw [same_chain, Chain.toList_map, Chain.toList_map, isEqv_map_node, Chain.toList_inj]

theorem literal_node (node : Node) : (Value.node node).literal = node.literal := by
  unfold literal Piece.toText
  rw [literalOnto]
  rfl

/-- How a node is kept does not show in its literal form. -/
theorem literalOnto_expanded (value : Value) : value.expanded.literalOnto = value.literalOnto := by
  cases value with
  | node node =>
    cases node with
    | text content => rfl
    | element tag children =>
      have hnode : (Value.node (.element tag children)).literalOnto =
          Node.elementLiteral tag.opening (chainLiteralsOnto (children.map .node)) := by
        funext tail
        rw [chainLiteralsOnto_map_node]
        exact Node.literalOnto_element tag children tail
      rw [hnode]
      cases tag <;> rfl
  | _ => rfl

/-- Trees have the same literal form if and only if they are equal, and so do chains of
trees. -/
theorem literal_eq_iff_same :
    (∀ a b : Node, (Value.node a).literal = (Value.node b).literal ↔
      (Value.node a).same (.node b) = true) ∧
    (∀ as bs : Chain Node, (ofNodes as).literal = (ofNodes bs).literal ↔
      (ofNodes as).same (ofNodes bs) = true) := by
  constructor
  · intro a b
    rw [literal_node, literal_node, same_node, Node.same_iff]
    exact ⟨Node.literal_inj, congrArg Node.literal⟩
  · intro as bs
    rw [same_ofNodes_iff]
    exact ⟨ofNodes_literal_inj, congrArg fun nodes => (ofNodes nodes).literal⟩

end Value

end Folio
