-- SUMMARY: Construction takes the elements of a chain, list or tuple as they are and refuses every other value.
import Folio.Failure
import Folio.Proofs.ChainRecursion
import Folio.Proofs.ValueEquality

/-!
# The boundary of construction

Children, and the rest of a chain, are given as values. `Collection` says which values are
collections and what is in them; construction takes exactly these, each as the chain of
its elements in order, and refuses any other value with an error that carries it
(`construction_keeps_elements`).

Elements and chains are built by functions of their own, and children may also be given
one by one. All of them look at a value in one place, `Value.asChain?`, so what is taken
there (`asChain?_of_collection`, `asChain?_of_not_collection`) decides what each of them
does. Nothing looks at the elements: a collection inside a collection stays one of them.
-/

namespace Folio

/-! ## Collections -/

namespace Bench

/-- The value is a chain, a list or a tuple with these elements in this order; what a builder
    collects in is a list. -/
inductive Collection (bench : Bench) : Value → List Value → Prop
  | chain (items : Chain Value) : Collection bench (.chain items) items.toList
  | list (items : List Value) : Collection bench (.list items) items
  | collected (handle : Nat) : Collection bench (.collected handle) (bench.collected handle)
  | tuple (items : List Value) : Collection bench (.tuple items) items

variable {bench : Bench} {value : Value} {items : List Value}

theorem asChain?_of_collection (h : Collection bench value items) :
    (bench.opened value).asChain? = some (Chain.ofList items) := by
  cases h with
  | chain items => exact congrArg some (Chain.ofList_toList items).symm
  | list | collected | tuple => rfl

theorem asChain?_of_not_collection (h : ∀ items, ¬ Collection bench value items) :
    bench.opened value = value ∧ value.asChain? = none := by
  cases value with
  | chain items => exact absurd (.chain items) (h _)
  | list items => exact absurd (.list items) (h _)
  | collected handle => exact absurd (.collected handle) (h _)
  | tuple items => exact absurd (.tuple items) (h _)
  | null | bool | int | decimal | text | mapping | node | looseText | looseElement | options
  | builder | stream => exact ⟨rfl, rfl⟩

theorem sequence_stream {handle : Nat} (h : bench.remaining handle = items) :
    Sequence bench (.stream handle) items := by
  rw [← h]
  exact .stream handle

/-- A stream that was started with some elements has all of them left in it. -/
theorem exists_stream (bench : Bench) (items : List Value) :
    ∃ handle next, (perform (.startStream items)).runOn bench = (.ok (.stream handle), next) ∧
      Sequence next (.stream handle) items := by
  refine ⟨bench.streams.size, { bench with streams := bench.streams.push items }, rfl,
    sequence_stream ?_⟩
  unfold remaining
  rw [Array.getElem?_push_size]
  rfl

end Bench

/-! ## Ways to construct -/

/-- The element with the fields of a tag and with a value as its children, given by name. -/
def Bench.construct (bench : Bench) (tag : TagOf Value Value) (children : Value) :
    Except Error Value :=
  Node.ofFields tag.kind (tag.fieldsWith (bench.opened children))

namespace Node

theorem ofFields_fieldsWith (tag : TagOf Value Value) (children : Value) :
    ofFields tag.kind (tag.fieldsWith children) = Value.withTag tag children := by
  cases tag <;> rfl

theorem ofArguments_ownFields (tag : TagOf Value Value) (children : List Value) :
    ofArguments tag.kind (tag.ownFields.map Prod.snd ++ children) =
      Value.withTag tag (.tuple children) := by
  cases tag <;> rfl

end Node

namespace Value

theorem withTag_of_asChain? {tag : TagOf Value Value} {children : Value} {items : Chain Value}
    (h : children.asChain? = some items) : withTag tag children = .ok (element tag items) := by
  rw [withTag, h]

theorem field_children (tag : TagOf Value Value) (children : Chain Value) :
    (element tag children).field "children" = .ok (.chain children) := by
  rw [field, fields_element]
  cases tag <;> rfl

/-- Trees as children make a tree. -/
theorem element_map_node (tag : Tag) (nodes : List Node) :
    element tag.asValues (Chain.ofList (nodes.map .node)) = .node (.holding tag nodes) := by
  have hmap : Chain.ofList (nodes.map Value.node) = (Chain.ofList nodes).map .node := by
    rw [← Chain.toList_inj, Chain.toList_map, Chain.toList_ofList, Chain.toList_ofList]
  rw [hmap, element_of_nodes, Node.holding]

end Value

namespace Bench

variable {bench : Bench} {tag : TagOf Value Value} {value : Value} {items : List Value}

theorem construct_of_collection (h : Collection bench value items) :
    bench.construct tag value = .ok (.element tag (Chain.ofList items)) := by
  rw [construct, Node.ofFields_fieldsWith]
  exact Value.withTag_of_asChain? (asChain?_of_collection h)

theorem construct_of_not_collection (h : ∀ items, ¬ Collection bench value items) :
    bench.construct tag value = .error (.childrenRefused tag.kind value) := by
  obtain ⟨hopened, hnone⟩ := asChain?_of_not_collection h
  rw [construct, Node.ofFields_fieldsWith, Value.withTag, hopened, hnone]

theorem link_of_collection (first : Value) (h : Collection bench value items) :
    Value.link first (bench.opened value) = .ok (.cons first (Chain.ofList items)) := by
  unfold Value.link
  rw [asChain?_of_collection h]

theorem link_of_not_collection (first : Value) (h : ∀ items, ¬ Collection bench value items) :
    Value.link first (bench.opened value) = .error (.restRefused value) := by
  obtain ⟨hopened, hnone⟩ := asChain?_of_not_collection h
  unfold Value.link
  rw [hopened, hnone]

/-- However a chain was made, its elements are all that matters of it. -/
theorem construct_chain {made : Chain Value} (h : made.toList = items) :
    bench.construct tag (.chain made) = .ok (.element tag (Chain.ofList items)) := by
  apply construct_of_collection
  rw [← h]
  exact .chain made

theorem construct_read {source : Value} (h : Sequence bench source items) :
    ∃ made, (perform (.read source)).runOn bench = (.ok (.chain made), bench.spend source) ∧
      (bench.spend source).construct tag (.chain made) =
        .ok (.element tag (Chain.ofList items)) :=
  ⟨_, perform_read (elements_of_sequence h), construct_chain (Chain.toList_ofList _)⟩

/-! ## The boundary -/

/-- An element is built of a chain, a list or a tuple, and is of the kind that was asked for and has
    the elements of that in order as its chain of children, whatever they are. Any other value is
    refused, by an error of the validation family that is about the children and carries the value,
    and nothing is built.
    The rest of a chain is taken and refused in the same way, with the first element in front of
    what is taken.
    The same elements make one and the same node: given in any collection, read from any sequence
    or from a stream started for them, with the first of them in front of a collection of the
    others, or one by one. Trees make a tree. -/
theorem construction_keeps_elements (bench : Bench) (tag : TagOf Value Value) :
    (∀ value items, Collection bench value items →
      ∃ built children, bench.construct tag value = .ok built ∧
        built.kind? = some tag.kind ∧
        built.fields = tag.ownFields ++ [("children", .chain children)] ∧
        built.field "children" = .ok (.chain children) ∧
        children.toList = items) ∧
    (∀ value, (∀ items, ¬ Collection bench value items) →
      bench.construct tag value = .error (.childrenRefused tag.kind value) ∧
      (Error.childrenRefused tag.kind value).family? = some .validation ∧
      (Error.childrenRefused tag.kind value).parameter? = some ("children", value)) ∧
    (∀ first rest items, Collection bench rest items →
      ∃ made, Value.link first (bench.opened rest) = .ok made ∧ made.toList = first :: items) ∧
    (∀ first rest, (∀ items, ¬ Collection bench rest items) →
      Value.link first (bench.opened rest) = .error (.restRefused rest) ∧
      (Error.restRefused rest).family? = some .validation ∧
      (Error.restRefused rest).parameter? = some ("rest", rest)) ∧
    (∀ xs : List Value,
      (∀ value, Collection bench value xs →
        bench.construct tag value = .ok (.element tag (Chain.ofList xs))) ∧
      (∀ source, Sequence bench source xs →
        ∃ made, (perform (.read source)).runOn bench = (.ok (.chain made), bench.spend source) ∧
          (bench.spend source).construct tag (.chain made) =
            .ok (.element tag (Chain.ofList xs))) ∧
      (∃ handle next,
        (perform (.startStream xs)).runOn bench = (.ok (.stream handle), next) ∧
        ∃ made,
          (perform (.read (.stream handle))).runOn next =
            (.ok (.chain made), next.spend (.stream handle)) ∧
          (next.spend (.stream handle)).construct tag (.chain made) =
            .ok (.element tag (Chain.ofList xs))) ∧
      (∀ x rest, Collection bench rest xs →
        ∃ made, Value.link x (bench.opened rest) = .ok made ∧
          bench.construct tag (.chain made) = .ok (.element tag (Chain.ofList (x :: xs)))) ∧
      Node.ofArguments tag.kind (tag.ownFields.map Prod.snd ++ xs) =
        .ok (.element tag (Chain.ofList xs))) ∧
    (∀ (typed : Tag) (nodes : List Node), typed.asValues = tag →
      Value.element tag (Chain.ofList (nodes.map .node)) = .node (.holding typed nodes)) := by
  refine ⟨?built, ?refused, ?linked, ?restRefused, ?same, ?trees⟩
  case built =>
    intro value items h
    exact ⟨_, _, construct_of_collection h, Value.kind?_element tag _, Value.fields_element tag _,
      Value.field_children tag _, Chain.toList_ofList items⟩
  case refused =>
    intro value h
    exact ⟨construct_of_not_collection h, rfl, rfl⟩
  case linked =>
    intro first rest items h
    refine ⟨_, link_of_collection first h, ?_⟩
    rw [Chain.toList_cons, Chain.toList_ofList]
  case restRefused =>
    intro first rest h
    exact ⟨link_of_not_collection first h, rfl, rfl⟩
  case same =>
    intro xs
    refine ⟨fun value => construct_of_collection, fun source => construct_read, ?streamed,
      ?inFront, ?oneByOne⟩
    case streamed =>
      obtain ⟨handle, next, hstart, hsequence⟩ := exists_stream bench xs
      exact ⟨handle, next, hstart, construct_read hsequence⟩
    case inFront =>
      intro x rest h
      refine ⟨_, link_of_collection x h, construct_chain ?_⟩
      rw [Chain.toList_cons, Chain.toList_ofList]
    case oneByOne =>
      rw [Node.ofArguments_ownFields]
      exact Value.withTag_of_asChain? rfl
  case trees =>
    rintro typed nodes rfl
    exact Value.element_map_node typed nodes

/-- A bench with a stream of one text on it. -/
def stocked : Bench where
  streams := #[[.node (.text "a")]]

/-- A list inside a list stays one element. A stream is refused as it is and makes a heading once
    it is read. -/
theorem construction_keeps_elements_stocked :
    (∃ built children,
        stocked.construct (.header (.int 2)) (.list [.list [.int 2]]) = .ok built ∧
        built.fields = [("level", .int 2), ("children", .chain children)] ∧
        children.toList = [.list [.int 2]]) ∧
      (∀ items, ¬ Collection stocked (.stream 0) items) ∧
      stocked.construct (.header (.int 2)) (.stream 0) =
        .error (.childrenRefused .header (.stream 0)) ∧
      Value.link (.int 1) (.stream 0) = .error (.restRefused (.stream 0)) ∧
      (∃ made, Value.link (.int 1) (.tuple [.list [.int 2]]) = .ok made ∧
        made.toList = [.int 1, .list [.int 2]]) ∧
      (∃ made, (perform (.read (.stream 0))).runOn stocked =
          (.ok (.chain made), stocked.spend (.stream 0)) ∧
        (stocked.spend (.stream 0)).construct (.header (.int 2)) (.chain made) =
          .ok (.element (.header (.int 2)) (Chain.ofList [.node (.text "a")]))) ∧
      (∃ made, Value.link (.node (.text "a")) (.list [.node (.text "b")]) = .ok made ∧
        stocked.construct (.header (.int 2)) (.chain made) =
          .ok (.element (.header (.int 2)) (Chain.ofList [.node (.text "a"), .node (.text "b")]))) ∧
      Tag.asValues (.header 2) = .header (.int 2) ∧
      Value.element (.header (.int 2)) (Chain.ofList ([.text "a", .text "b"].map .node)) =
        .node (.holding (.header 2) [.text "a", .text "b"]) := by
  obtain ⟨hbuilt, hrefused, hlinked, hrestRefused, hsame, htrees⟩ :=
    construction_keeps_elements stocked (.header (.int 2))
  have hlist : Collection stocked (.list [.node (.text "b")]) [.node (.text "b")] := .list _
  have hstream : ∀ items, ¬ Collection stocked (.stream 0) items := by
    intro items h
    cases h
  obtain ⟨built, children, hmade, -, hfields, -, hchildren⟩ := hbuilt _ _ (.list [.list [.int 2]])
  obtain ⟨-, hread, -⟩ := hsame [.node (.text "a")]
  obtain ⟨-, -, -, hfront, -⟩ := hsame [.node (.text "b")]
  exact ⟨⟨built, children, hmade, hfields, hchildren⟩, hstream, (hrefused _ hstream).1,
    (hrestRefused _ _ hstream).1, hlinked _ _ _ (.tuple _), hread _ (.stream 0), hfront _ _ hlist,
    rfl, htrees (.header 2) _ rfl⟩

end Bench

end Folio
