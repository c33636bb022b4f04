-- SUMMARY: The positions of a tree: each is listed once, in the order of their indices, and what stands there in document order.
import Folio.Node.Position
import Folio.Node.Preorder
import Mathlib.Data.List.Nodup

/-!
# Positions in document order

A node is known by its position: equal subtrees may stand in several places, and
each place is another position. `positions` lists the places of a tree in the
order in which `preorder` lists the nodes (`map_at?_positions`), lists all of them
(`mem_positions_iff`) and none of them twice (`nodup_positions`). The order is that of
words in a dictionary, with the indices as letters (`pairwise_lex_positions`).
-/

namespace Folio.Node

/-! ## Following a path -/

@[simp] theorem at?_nil (node : Node) : node.at? [] = some node := by
  rw [at?]

theorem at?_cons (node : Node) (index : Nat) (path : Position) :
    node.at? (index :: path) = (node.child? index).bind fun child => child.at? path := by
  rw [at?]

@[simp] theorem child?_element (tag : Tag) (children : Chain Node) (index : Nat) :
    (Node.element tag children).child? index = children.toList[index]? := rfl

/-- Only elements have children. -/
theorem eq_element_of_child? {node child : Node} {index : Nat} (h : node.child? index = some child) :
    ∃ tag children, node = .element tag children ∧ children.toList[index]? = some child := by
  cases node with
  | text content => cases h
  | element tag children => exact ⟨tag, children, rfl, h⟩

/-- A path that leads below a node leads on from one of its children. -/
theorem exists_child_of_at? {node found : Node} {index : Nat} {path : Position}
    (h : node.at? (index :: path) = some found) :
    ∃ tag children child, node = .element tag children ∧ children.toList[index]? = some child ∧
      child.at? path = some found := by
  rw [at?_cons] at h
  obtain ⟨child, hchild, hrest⟩ := Option.bind_eq_some_iff.mp h
  obtain ⟨tag, children, rfl, hget⟩ := eq_element_of_child? hchild
  exact ⟨tag, children, child, rfl, hget, hrest⟩

theorem at?_snoc (node : Node) (path : Position) (index : Nat) :
    node.at? (path ++ [index]) = (node.at? path).bind fun parent => parent.child? index := by
  induction path generalizing node with
  | nil =>
    rw [List.nil_append, at?_cons, at?_nil]
    simp only [at?_nil, Option.bind_some, Option.bind_fun_some]
  | cons step path ih =>
    rw [List.cons_append, at?_cons, at?_cons, Option.bind_assoc]
    simp only [ih]

theorem replaceAt?_cons (node new : Node) (index : Nat) (path : Position) :
    node.replaceAt? (index :: path) new =
      (node.child? index).bind fun child =>
        (child.replaceAt? path new).map fun edited =>
          node.editChildren fun children => children.set index edited := by
  rw [replaceAt?, editAt?]
  rfl

/-- What holds between a node and the one that is put in its place holds between the whole trees,
    if a child hands it on to its parent. -/
theorem exists_replaceAt? (related : Node → Node → Prop) {node old new : Node} {path : Position}
    (hset : ∀ {tag children index child below}, children.toList[index]? = some child →
      related child below →
      related (.element tag children)
        ((Node.element tag children).editChildren fun list => list.set index below))
    (hold : node.at? path = some old) (h : related old new) :
    ∃ edited, node.replaceAt? path new = some edited ∧ related node edited := by
  induction path generalizing node with
  | nil =>
    rw [at?_nil] at hold
    cases hold
    exact ⟨new, rfl, h⟩
  | cons index path ih =>
    obtain ⟨tag, children, child, rfl, hget, hrest⟩ := exists_child_of_at? hold
    obtain ⟨below, hbelow, hrelated⟩ := ih hrest
    refine ⟨(Node.element tag children).editChildren fun list => list.set index below, ?_,
      hset hget hrelated⟩
    rw [replaceAt?_cons, child?_element, hget, Option.bind_some, hbelow, Option.map_some]

/-! ## The list of positions -/

@[simp] theorem positions_text (content : String) : (Node.text content).positions = [[]] := by
  simp [positions]

theorem positions_element (tag : Tag) (children : Chain Node) :
    (Node.element tag children).positions =
      [] :: children.toList.zipIdx.flatMap fun (child, index) =>
        child.positions.map (index :: ·) := by
  simp only [positions, fold_element, Chain.toList_map, List.zipIdx_map, List.map_map,
    List.flatMap_def]
  rfl

/-- What stands at the positions of an element: first the element itself, and then, child by
    child, what stands below. -/
theorem map_positions_element {β : Type} (look : Position → β) (below : Node → List β) (tag : Tag)
    (children : Chain Node)
    (h : ∀ index child, children.toList[index]? = some child →
      child.positions.map (fun path => look (index :: path)) = below child) :
    (Node.element tag children).positions.map look =
      look [] :: children.toList.flatMap below := by
  rw [positions_element, List.map_cons, List.map_flatMap]
  congr 1
  conv_rhs => rw [← List.zipIdx_map_fst 0 children.toList, List.flatMap_map]
  apply List.flatMap_congr
  rintro ⟨child, index⟩ hmem
  have hchild : children.toList[index]? = some child := List.mem_zipIdx_iff_getElem?.mp hmem
  rw [List.map_map]
  exact h index child hchild

/-- In document order the positions lead to the nodes in document order. -/
theorem map_at?_positions (node : Node) : node.positions.map node.at? = node.preorder.map some := by
  induction node using Node.induction with
  | text content => simp
  | element tag children ih =>
    rw [map_positions_element _ (fun child => child.preorder.map some), preorder_element,
      List.map_cons, List.map_flatten, List.map_map, at?_nil]
    · rfl
    · intro index child h
      rw [← ih child (List.mem_of_getElem? h)]
      apply List.map_congr_left
      intro path _
      simp only [at?_cons, child?_element, h, Option.bind_some]

/-- A position is listed exactly if it leads to a node. -/
theorem mem_positions_iff {node : Node} {path : Position} :
    path ∈ node.positions ↔ ∃ found, node.at? path = some found := by
  constructor
  · intro hpath
    have hfound : node.at? path ∈ node.preorder.map some := by
      rw [← map_at?_positions]
      exact List.mem_map_of_mem hpath
    obtain ⟨found, -, h⟩ := List.mem_map.mp hfound
    exact ⟨found, h.symm⟩
  · rintro ⟨found, hfound⟩
    induction path generalizing node with
    | nil =>
      cases node with
      | text content => simp
      | element tag children => simp [positions_element]
    | cons index path ih =>
      obtain ⟨tag, children, child, rfl, hget, hrest⟩ := exists_child_of_at? hfound
      have hindex : (child, index) ∈ children.toList.zipIdx := List.mem_zipIdx_iff_getElem?.mpr hget
      rw [positions_element]
      apply List.mem_cons_of_mem
      exact List.mem_flatMap.mpr ⟨(child, index), hindex, List.mem_map_of_mem (ih hrest)⟩

private theorem pairwise_snd_lt_zipIdx {α : Type} (xs : List α) :
    xs.zipIdx.Pairwise fun x y => x.2 < y.2 := by
  rw [← List.pairwise_map (R := (· < ·)), List.zipIdx_map_snd]
  exact List.pairwise_lt_range'

/-- A position is listed before those below it and before those to the right of it. -/
theorem pairwise_lex_positions (node : Node) : node.positions.Pairwise (List.Lex (· < ·)) := by
  induction node using Node.induction with
  | text content => simp
  | element tag children ih =>
    rw [positions_element, List.pairwise_cons, List.pairwise_flatMap]
    refine ⟨?_, ?_, ?_⟩
    · intro path hpath
      obtain ⟨_, -, hbelow⟩ := List.mem_flatMap.mp hpath
      obtain ⟨_, -, rfl⟩ := List.mem_map.mp hbelow
      exact .nil
    · rintro ⟨child, index⟩ hmem
      have hchild : child ∈ children.toList :=
        List.mem_of_getElem? (List.mem_zipIdx_iff_getElem?.mp hmem)
      rw [List.pairwise_map]
      exact (ih child hchild).imp .cons
    · -- Paths below two children differ in their first step.
      apply (pairwise_snd_lt_zipIdx children.toList).imp
      intro left right hlt path hleft other hright
      obtain ⟨_, _, rfl⟩ := List.mem_map.mp hleft
      obtain ⟨_, _, rfl⟩ := List.mem_map.mp hright
      exact .rel hlt

/-- No position is listed twice. -/
theorem nodup_positions (node : Node) : node.positions.Nodup := by
  apply (pairwise_lex_positions node).imp
  rintro path _ hlex rfl
  exact List.lex_irrefl Nat.lt_irrefl path hlex

end Folio.Node
