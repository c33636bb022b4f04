-- SUMMARY: What an edit at a position does to the verdict on a document: it depends on the edited place alone.
import Folio.Proofs.Derivability
import Folio.Proofs.FirstViolation

/-!
# Documents after an edit

A document stays one after an edit exactly if the rule that applies where the edit
is made accepts what is put there (`accepts_edit_iff`): the rest of the tree was
accepted before, and an edit changes neither that rest nor the rules in force in it.

What is done at the position itself comes down to a new list of children
(`accepts_editChildren`); `accepts_editAt?` carries the verdict there up to the root,
by induction on the path.
-/

namespace Folio

/-! ## Lists with one place changed -/

section OnePlace

variable {α : Type} {p : α → Prop} {xs : List α} {index : Nat}

theorem forall_mem_set_iff {old : α} (hxs : ∀ x ∈ xs, p x) (hold : xs[index]? = some old) (new : α) :
    (∀ x ∈ xs.set index new, p x) ↔ p new := by
  obtain ⟨hindex, -⟩ := List.getElem?_eq_some_iff.mp hold
  constructor
  · intro h
    exact h new (List.mem_set hindex new)
  · intro hnew x hx
    rcases List.mem_or_eq_of_mem_set hx with hmem | rfl
    · exact hxs x hmem
    · exact hnew

theorem forall_mem_insertIdx_iff (hxs : ∀ x ∈ xs, p x) (hindex : index ≤ xs.length) (new : α) :
    (∀ x ∈ xs.insertIdx index new, p x) ↔ p new := by
  constructor
  · intro h
    exact h new ((List.mem_insertIdx hindex).mpr (.inl rfl))
  · intro hnew x hx
    rcases (List.mem_insertIdx hindex).mp hx with rfl | hmem
    · exact hnew
    · exact hxs x hmem

end OnePlace

/-! ## The rule in force at a position -/

variable {options : Options} {rule context : Rule} {node old new : Node} {path : Position}
  {index : Nat}

namespace Rule

theorem inForceAt?_cons (rule : Rule) (node : Node) (index : Nat) (path : Position) :
    rule.inForceAt? node (index :: path) =
      (node.child? index).bind fun child => node.kind.ruleBelow.inForceAt? child path := by
  rw [inForceAt?]

/-- Below the root it is the parent alone that says which rule applies. -/
theorem inForceAt?_snoc (rule : Rule) (node : Node) (path : Position) (index : Nat) :
    rule.inForceAt? node (path ++ [index]) =
      (node.at? path).bind fun parent => (parent.child? index).map fun _ => parent.kind.ruleBelow := by
  induction path generalizing rule node with
  | nil =>
    rw [List.nil_append, inForceAt?_cons, Node.at?_nil, Option.bind_some]
    cases node.child? index <;> rfl
  | cons step path ih =>
    rw [List.cons_append, inForceAt?_cons, Node.at?_cons, Option.bind_assoc]
    simp only [ih]

/-- The children of an accepted element are accepted by the rule that it hands down. -/
theorem accepts_of_mem_children {tag : Tag} {children : Chain Node}
    (h : rule.accepts options (.element tag children) = true) :
    ∀ child ∈ children.toList, tag.kind.ruleBelow.accepts options child = true := by
  obtain ⟨-, -, hchildren⟩ := accepts_element_iff.mp h
  rw [childRule_eq_ruleBelow] at hchildren
  exact hchildren

/-- In an accepted tree every node is accepted by the rule in force there. -/
theorem accepts_at? (h : rule.accepts options node = true) (hold : node.at? path = some old) :
    ∃ context, rule.inForceAt? node path = some context ∧ context.accepts options old = true := by
  induction path generalizing rule node with
  | nil =>
    rw [Node.at?_nil] at hold
    cases hold
    exact ⟨rule, rfl, h⟩
  | cons index path ih =>
    obtain ⟨tag, children, child, rfl, hget, hrest⟩ := Node.exists_child_of_at? hold
    have hbelow := accepts_of_mem_children h child (List.mem_of_getElem? hget)
    rw [inForceAt?_cons, Node.child?_element, hget]
    exact ih hbelow hrest

/-! ## Edits -/

/-- An accepted element with other children is accepted exactly if all of these are. -/
theorem accepts_editChildren {tag : Tag} {children : Chain Node}
    (h : rule.accepts options (.element tag children) = true) (edit : List Node → List Node) :
    rule.accepts options ((Node.element tag children).editChildren edit) = true ↔
      ∀ child ∈ edit children.toList, tag.kind.ruleBelow.accepts options child = true := by
  obtain ⟨hadmits, hlevel, -⟩ := accepts_element_iff.mp h
  have hedited : (Node.element tag children).editChildren edit =
      .element tag (Chain.ofList (edit children.toList)) := rfl
  rw [hedited, accepts_element_iff, childRule_eq_ruleBelow]
  simp only [← Chain.mem_toList, Chain.toList_ofList]
  constructor
  · rintro ⟨-, -, hall⟩
    exact hall
  · intro hall
    exact ⟨hadmits, hlevel, hall⟩

/-- An accepted tree that is edited at one position is accepted exactly if the rule in force there
    accepts what the edit makes of the node. -/
theorem accepts_editAt? {edit : Node → Option Node} (h : rule.accepts options node = true)
    (hold : node.at? path = some old) (hcontext : rule.inForceAt? node path = some context)
    (hedit : edit old = some new) :
    ∃ edited, node.editAt? edit path = some edited ∧
      (rule.accepts options edited = true ↔ context.accepts options new = true) := by
  induction path generalizing rule node with
  | nil =>
    rw [Node.at?_nil] at hold
    cases hold
    cases hcontext
    exact ⟨new, hedit, Iff.rfl⟩
  | cons index path ih =>
    obtain ⟨tag, children, child, rfl, hget, hrest⟩ := Node.exists_child_of_at? hold
    rw [inForceAt?_cons, Node.child?_element, hget, Option.bind_some] at hcontext
    have hchildren := accepts_of_mem_children h
    obtain ⟨below, hbelow, hiff⟩ := ih (hchildren child (List.mem_of_getElem? hget)) hrest hcontext
    refine ⟨(Node.element tag children).editChildren fun list => list.set index below, ?_, ?_⟩
    · rw [Node.editAt?, Node.child?_element, hget, Option.bind_some, hbelow, Option.map_some]
    · -- The siblings were accepted before, so only the edited child matters.
      rw [accepts_editChildren h, ← hiff]
      exact forall_mem_set_iff hchildren hget below

/-- What is put in the place of a node is asked for by the rule in force there. -/
theorem accepts_replaceAt? (h : rule.accepts options node = true) (hold : node.at? path = some old)
    (hcontext : rule.inForceAt? node path = some context) (new : Node) :
    ∃ edited, node.replaceAt? path new = some edited ∧
      (rule.accepts options edited = true ↔ context.accepts options new = true) :=
  accepts_editAt? h hold hcontext rfl

/-- Other children of one element in an accepted tree are asked for by the rule that it hands down,
    which accepted the children that it had. -/
theorem accepts_editChildrenAt? {tag : Tag} {children : Chain Node} {edit : Node → Option Node}
    (change : List Node → List Node) (h : rule.accepts options node = true)
    (hparent : node.at? path = some (.element tag children))
    (hedit : edit (.element tag children) = some ((Node.element tag children).editChildren change)) :
    (∀ child ∈ children.toList, tag.kind.ruleBelow.accepts options child = true) ∧
    ∃ edited, node.editAt? edit path = some edited ∧
      (rule.accepts options edited = true ↔
        ∀ child ∈ change children.toList, tag.kind.ruleBelow.accepts options child = true) := by
  obtain ⟨context, hcontext, haccepts⟩ := accepts_at? h hparent
  obtain ⟨edited, hedited, hiff⟩ := accepts_editAt? h hparent hcontext hedit
  exact ⟨accepts_of_mem_children haccepts, edited, hedited,
    hiff.trans (accepts_editChildren haccepts change)⟩

/-- What is inserted below a node is asked for by the rule that the node hands down. -/
theorem accepts_insertAt? {parent : Node} (h : rule.accepts options node = true)
    (hparent : node.at? path = some parent) (htext : parent.kind ≠ .text)
    (hindex : index ≤ parent.children.length) (new : Node) :
    ∃ edited, node.insertAt? path index new = some edited ∧
      (rule.accepts options edited = true ↔ parent.kind.ruleBelow.accepts options new = true) := by
  cases parent with
  | text content => exact absurd rfl htext
  | element tag children =>
    obtain ⟨hchildren, edited, hedited, hiff⟩ :
        _ ∧ ∃ edited, node.insertAt? path index new = some edited ∧ (_ ↔ _) :=
      accepts_editChildrenAt? (fun list => list.insertIdx index new) h hparent (if_pos hindex)
    have hlength : index ≤ children.toList.length := by
      rw [← Chain.length_eq]
      exact hindex
    exact ⟨edited, hedited, hiff.trans (forall_mem_insertIdx_iff hchildren hlength new)⟩

/-- Taking a child away never makes an accepted tree a refused one. -/
theorem accepts_eraseAt? {parent child : Node} (h : rule.accepts options node = true)
    (hparent : node.at? path = some parent) (hchild : parent.child? index = some child) :
    ∃ edited, node.eraseAt? path index = some edited ∧ rule.accepts options edited = true := by
  obtain ⟨tag, children, rfl, -⟩ := Node.eq_element_of_child? hchild
  obtain ⟨hchildren, edited, hedited, hiff⟩ :
      _ ∧ ∃ edited, node.eraseAt? path index = some edited ∧ (_ ↔ _) :=
    accepts_editChildrenAt? (fun list => list.eraseIdx index) h hparent
      (congrArg (Option.map _) hchild)
  refine ⟨edited, hedited, hiff.mpr ?_⟩
  intro other hmem
  exact hchildren other (List.mem_of_mem_eraseIdx hmem)

/-- A document stays one
    with another node at a position exactly if the rule that applies there accepts that node: at the
    root the one for documents, elsewhere the one that the parent asks for;
    with a node inserted among the children of an element, at any index, exactly if the rule that
    the element asks for accepts that node;
    and with any node below the root taken away. -/
theorem accepts_edit_iff (options : Options) (document : Node)
    (h : Rule.root.accepts options document = true) :
    (∀ new, ∃ edited, document.replaceAt? [] new = some edited ∧
      (Rule.root.accepts options edited = true ↔ Rule.root.accepts options new = true)) ∧
    (∀ path index parent child new,
      document.at? path = some parent → parent.child? index = some child →
      ∃ edited, document.replaceAt? (path ++ [index]) new = some edited ∧
        (Rule.root.accepts options edited = true ↔
          parent.kind.ruleBelow.accepts options new = true)) ∧
    (∀ path index parent new,
      document.at? path = some parent → parent.kind ≠ .text → index ≤ parent.children.length →
      ∃ edited, document.insertAt? path index new = some edited ∧
        (Rule.root.accepts options edited = true ↔
          parent.kind.ruleBelow.accepts options new = true)) ∧
    (∀ path index parent child,
      document.at? path = some parent → parent.child? index = some child →
      ∃ edited, document.eraseAt? path index = some edited ∧
        Rule.root.accepts options edited = true) := by
  refine ⟨?_, ?_, ?_, ?_⟩
  · intro new
    exact accepts_replaceAt? h (Node.at?_nil document) rfl new
  · intro path index parent child new hparent hchild
    have hold : document.at? (path ++ [index]) = some child := by
      rw [Node.at?_snoc, hparent, Option.bind_some, hchild]
    have hcontext : Rule.root.inForceAt? document (path ++ [index]) =
        some parent.kind.ruleBelow := by
      rw [inForceAt?_snoc, hparent, Option.bind_some, hchild, Option.map_some]
    exact accepts_replaceAt? h hold hcontext new
  · intro path index parent new hparent htext hindex
    exact accepts_insertAt? h hparent htext hindex new
  · intro path index parent child hparent hchild
    exact accepts_eraseAt? h hparent hchild

/-- A heading below a division, in a document whose levels are checked. -/
def headed : Node :=
  .element .body (Chain.ofList [.element .div (Chain.ofList [.element (.header 2) .empty])])

theorem accepts_edit_headed :
    Rule.root.accepts { checkHeadingLevels := true } headed = true ∧
      (∃ edited, headed.replaceAt? [0, 0] (.element (.header 7) .empty) = some edited ∧
        ¬ Rule.root.accepts { checkHeadingLevels := true } edited = true) ∧
      (∃ edited, headed.insertAt? [0, 0] 0 (.text "a") = some edited ∧
        Rule.root.accepts { checkHeadingLevels := true } edited = true) ∧
      (∃ edited, headed.eraseAt? [0] 0 = some edited ∧
        Rule.root.accepts { checkHeadingLevels := true } edited = true) := by
  have h : Rule.root.accepts { checkHeadingLevels := true } headed = true := by decide
  obtain ⟨-, hreplace, hinsert, herase⟩ := accepts_edit_iff _ headed h
  refine ⟨h, ?_, ?_, ?_⟩
  · obtain ⟨edited, hedited, hiff⟩ := hreplace [0] 0 (.element .div _) (.element (.header 2) .empty)
      (.element (.header 7) .empty) rfl rfl
    refine ⟨edited, hedited, ?_⟩
    rw [hiff]
    decide
  · obtain ⟨edited, hedited, hiff⟩ := hinsert [0, 0] 0 (.element (.header 2) .empty) (.text "a") rfl
      (by decide) (by decide)
    exact ⟨edited, hedited, hiff.mpr rfl⟩
  · exact herase [0] 0 (.element .div _) (.element (.header 2) .empty) rfl rfl

end Rule

end Folio
