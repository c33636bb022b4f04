-- SUMMARY: The document of a builder is well-formed exactly if every call that added to it was given what the rules accept.
import Folio.Proofs.Derivability
import Folio.Proofs.ValueEquality

/-!
# The verdict on what was built

A builder takes whatever it is given and the grammar is asked later, of the document
as a whole. Its rules go over trees, so there is a verdict where the document is one,
which is where all that was given to the calls is of trees (`TreesGiven`). What it is
can be told from the calls: `Fits` says of one call whether what it is given may stand
where the call puts it, and the document is well-formed exactly if that holds of every
successful call on its builder (`document_wellFormed_iff_fits`).

A call that adds puts one more block into the document and leaves the others, so the
two sides change together with each step of a run (`forall_collected_perform_iff`).
-/

namespace Folio.Bench

variable {options : Options} {bench : Bench} {command : Command} {handle : Nat}

/-! ## What fits -/

/-- The value is a tree that the rule accepts. -/
def Accepted (options : Options) (rule : Rule) (value : Value) : Prop :=
  ∃ tree, value.tree? = some tree ∧ rule.accepts options tree = true

/-- The values may be the children of a block with this tag, if there is such a block. -/
def FitsIn (options : Options) (items : List Value) : TagOf Value Value → Prop
  | .div => ∀ item ∈ items, Accepted options .block item
  | .para => ∀ item ∈ items, Accepted options .inline item
  | .header level =>
    (∃ n, level.level? = some n ∧ (options.checkHeadingLevels = true → 1 ≤ n ∧ n ≤ 6)) ∧
      ∀ item ∈ items, Accepted options .inline item
  | .body | .anchor _ | .bold | .italic => False

/-- What is given to a call may stand where the call puts it. -/
def Fits (options : Options) (bench : Bench) : Command → Prop
  | .addNode _ block => Accepted options .block block
  | .addBlock _ tag children => ∀ items, Sequence bench children items → FitsIn options items tag
  | .startBuilder | .document _ | .startStream _ | .read _ => True

/-- What is given to a call are trees, and for a heading a number as its level. -/
def TreesGiven (bench : Bench) : Command → Prop
  | .addNode _ block => ∃ tree, block.tree? = some tree
  | .addBlock _ tag children => ∀ items, Sequence bench children items →
    (∃ typed, tag.mapM Value.level? Value.text? = some typed) ∧
      ∀ item ∈ items, ∃ tree, item.tree? = some tree
  | .startBuilder | .document _ | .startStream _ | .read _ => True

/-- What holds of every command of a run, on the bench on which the command is performed. -/
def Throughout (holds : Bench → Command → Prop) : Bench → List Command → Prop
  | _, [] => True
  | bench, command :: commands =>
    holds bench command ∧ Throughout holds ((perform command).runOn bench).2 commands

theorem throughout_append {holds : Bench → Command → Prop} {commands later : List Command} :
    Throughout holds bench (commands ++ later) ↔
      Throughout holds bench commands ∧ Throughout holds (bench.run commands).2 later := by
  induction commands generalizing bench with
  | nil =>
    rw [List.nil_append]
    exact (and_iff_right trivial).symm
  | cons command commands ih =>
    rw [List.cons_append, Throughout, Throughout, ih, run_cons, and_assoc]

/-! ## Blocks and their trees -/

theorem tree?_block_iff {tag : TagOf Value Value} {items : List Value} {tree : Node} :
    (Value.element tag (Chain.ofList items)).tree? = some tree ↔
      ∃ typed nodes, tag.mapM Value.level? Value.text? = some typed ∧
        List.Forall₂ (fun value node => value.tree? = some node) items nodes ∧
        tree = .element typed (Chain.ofList nodes) := by
  have hitems : ∀ nodes : Chain Node, Value.trees? (Chain.ofList items) = some nodes ↔
      List.Forall₂ (fun value node => value.tree? = some node) items nodes.toList := by
    intro nodes
    rw [Value.trees?_eq_some_iff, Chain.toList_ofList]
  rw [Value.tree?_element]
  constructor
  · intro h
    obtain ⟨typed, htag, h⟩ := Option.bind_eq_some_iff.mp h
    obtain ⟨nodes, hnodes, h⟩ := Option.bind_eq_some_iff.mp h
    cases h
    refine ⟨typed, nodes.toList, htag, (hitems nodes).mp hnodes, ?_⟩
    rw [Chain.ofList_toList]
  · rintro ⟨typed, nodes, htag, hnodes, rfl⟩
    rw [← Chain.toList_ofList nodes] at hnodes
    rw [htag, (hitems _).mpr hnodes]
    rfl

/-- Values are trees with a property one by one exactly if the trees that they are have it. -/
theorem exists_trees_iff {holds : Node → Prop} {items : List Value} :
    (∃ nodes, List.Forall₂ (fun value node => value.tree? = some node) items nodes ∧
        ∀ node ∈ nodes, holds node) ↔
      ∀ item ∈ items, ∃ tree, item.tree? = some tree ∧ holds tree := by
  induction items with
  | nil => exact iff_of_true ⟨[], .nil, List.forall_mem_nil _⟩ (List.forall_mem_nil _)
  | cons item items ih =>
    rw [List.forall_mem_cons, ← ih]
    constructor
    · rintro ⟨_, hall, hholds⟩
      obtain ⟨node, nodes, hnode, hnodes, rfl⟩ := List.forall₂_cons_left_iff.mp hall
      obtain ⟨hfirst, hrest⟩ := List.forall_mem_cons.mp hholds
      exact ⟨⟨node, hnode, hfirst⟩, nodes, hnodes, hrest⟩
    · rintro ⟨⟨node, hnode, hfirst⟩, nodes, hnodes, hrest⟩
      exact ⟨node :: nodes, .cons hnode hnodes, List.forall_mem_cons.mpr ⟨hfirst, hrest⟩⟩

/-- Values are trees one by one exactly if each of them is a tree. -/
theorem forall₂_tree?_iff {items : List Value} :
    (∃ nodes, List.Forall₂ (fun value node => Value.tree? value = some node) items nodes) ↔
      ∀ item ∈ items, ∃ tree, item.tree? = some tree := by
  simpa using @exists_trees_iff (fun _ => True) items

theorem accepted_element_iff {rule : Rule} {tag : TagOf Value Value} {items : List Value} :
    Accepted options rule (.element tag (Chain.ofList items)) ↔
      ∃ typed : Tag, tag.mapM Value.level? Value.text? = some typed ∧
        rule.admits typed.kind = true ∧ options.admitsLevel typed = true ∧
        ∀ item ∈ items, Accepted options (Tag.childRule typed) item := by
  constructor
  · rintro ⟨tree, htree, haccepts⟩
    obtain ⟨typed, nodes, htag, hnodes, rfl⟩ := tree?_block_iff.mp htree
    obtain ⟨hadmits, hlevel, hchildren⟩ := accepts_element_iff.mp haccepts
    simp only [Chain.mem_ofList] at hchildren
    exact ⟨typed, htag, hadmits, hlevel, exists_trees_iff.mp ⟨nodes, hnodes, hchildren⟩⟩
  · rintro ⟨typed, htag, hadmits, hlevel, hitems⟩
    obtain ⟨nodes, hnodes, hchildren⟩ := exists_trees_iff.mpr hitems
    refine ⟨_, tree?_block_iff.mpr ⟨typed, nodes, htag, hnodes, rfl⟩, ?_⟩
    simp only [accepts_element_iff, Chain.mem_ofList]
    exact ⟨hadmits, hlevel, hchildren⟩

theorem accepted_block_iff_fitsIn {tag : TagOf Value Value} {items : List Value} :
    Accepted options .block (.element tag (Chain.ofList items)) ↔ FitsIn options items tag := by
  rw [accepted_element_iff]
  cases tag with
  | div => exact ⟨fun ⟨_, rfl, h⟩ => h.2.2, fun h => ⟨.div, rfl, rfl, rfl, h⟩⟩
  | para => exact ⟨fun ⟨_, rfl, h⟩ => h.2.2, fun h => ⟨.para, rfl, rfl, rfl, h⟩⟩
  | header level =>
    constructor
    · rintro ⟨typed, htag, -, hlevel, hitems⟩
      obtain ⟨n, hn, rfl⟩ := Option.map_eq_some_iff.mp htag
      exact ⟨⟨n, hn, admitsLevel_header.mp hlevel⟩, hitems⟩
    · rintro ⟨⟨n, hn, hlevel⟩, hitems⟩
      exact ⟨.header n, Option.map_eq_some_iff.mpr ⟨n, hn, rfl⟩, rfl,
        admitsLevel_header.mpr hlevel, hitems⟩
  | anchor target =>
    refine iff_of_false ?_ id
    rintro ⟨typed, htag, hadmits, -⟩
    obtain ⟨s, -, rfl⟩ := Option.map_eq_some_iff.mp htag
    cases hadmits
  | body | bold | italic =>
    refine iff_of_false ?_ id
    rintro ⟨typed, htag, hadmits, -⟩
    cases htag
    cases hadmits

/-- A value that can be read has its elements in one way. -/
theorem forall_sequence_iff {children : Value} {items : List Value} {holds : List Value → Prop}
    (h : Sequence bench children items) :
    (∀ others, Sequence bench children others → holds others) ↔ holds items := by
  constructor
  · intro hall
    exact hall items h
  · intro hitems others hothers
    rw [← sequence_unique h hothers]
    exact hitems

/-- What a call is given fits exactly if the block that it adds is accepted as one. -/
theorem fits_iff_accepted {block : Value} (h : Adds bench handle command block) :
    Fits options bench command ↔ Accepted options .block block := by
  cases h with
  | node => exact Iff.rfl
  | block tag hitems => rw [Fits, forall_sequence_iff hitems, accepted_block_iff_fitsIn]

/-- What a call is given is of trees exactly if the block that it adds is a tree. -/
theorem treesGiven_iff {block : Value} (h : Adds bench handle command block) :
    TreesGiven bench command ↔ ∃ tree, block.tree? = some tree := by
  cases h with
  | node => exact Iff.rfl
  | block tag hitems =>
    rw [TreesGiven, forall_sequence_iff hitems, ← forall₂_tree?_iff]
    constructor
    · rintro ⟨⟨typed, htag⟩, nodes, hnodes⟩
      exact ⟨_, tree?_block_iff.mpr ⟨typed, nodes, htag, hnodes, rfl⟩⟩
    · rintro ⟨tree, htree⟩
      obtain ⟨typed, nodes, htag, hnodes, -⟩ := tree?_block_iff.mp htree
      exact ⟨⟨typed, htag⟩, nodes, hnodes⟩

/-! ## Steps -/

/-- A call that succeeds in adding does so to a builder on the bench, and there is a block that it
    adds. -/
theorem exists_adds_of_ok {value : Value} (h : command.addsTo? = some handle)
    (hok : ((perform command).runOn bench).1 = .ok value) :
    handle < bench.builders.size ∧ ∃ block, Adds bench handle command block := by
  have heffect := perform_effect bench command
  generalize (perform command).runOn bench = outcome at heffect hok
  cases heffect with
  | adds hbuilder hadds _ =>
    cases (addsTo?_of_adds hadds).symm.trans h
    exact ⟨lt_size_of_builder? hbuilder, _, hadds⟩
  | starts hcommand _ =>
    rw [hcommand] at h
    cases h
  | keeps _ hnone _ =>
    rw [hnone value hok] at h
    cases h

/-- No command takes a builder from the bench. -/
theorem lt_size_perform (hhandle : handle < bench.builders.size) :
    handle < ((perform command).runOn bench).2.builders.size := by
  have heffect := perform_effect bench command
  generalize (perform command).runOn bench = outcome at heffect
  cases heffect with
  | adds _ _ hbuilders =>
    rw [hbuilders, Array.size_setIfInBounds]
    exact hhandle
  | starts _ hbuilders =>
    rw [hbuilders, Array.size_push]
    exact Nat.lt_succ_of_lt hhandle
  | keeps _ _ hbuilders =>
    rw [hbuilders]
    exact hhandle

/-- The call does not succeed in adding to the builder, or what it is given is as asked for. -/
def IfAdded (given : Bench → Command → Prop) (handle : Nat) (bench : Bench) (command : Command) :
    Prop :=
  command.addsTo? = some handle → ∀ value, ((perform command).runOn bench).1 = .ok value →
    given bench command

section

variable {given : Bench → Command → Prop} {holds : Value → Prop}
  (hgiven : ∀ bench command block, Adds bench handle command block →
    (given bench command ↔ holds block))

include hgiven

theorem forall_collected_perform_iff :
    (∀ block ∈ ((perform command).runOn bench).2.collected handle, holds block) ↔
      (∀ block ∈ bench.collected handle, holds block) ∧ IfAdded given handle bench command := by
  by_cases h : handle < bench.builders.size ∧ ∃ block, Adds bench handle command block
  · obtain ⟨hhandle, block, hadds⟩ := h
    obtain ⟨hanswer, hcollected⟩ := perform_of_adds hhandle hadds
    have hadded : IfAdded given handle bench command ↔ holds block := by
      rw [← hgiven bench command block hadds]
      exact ⟨fun h => h (addsTo?_of_adds hadds) _ hanswer, fun h _ _ _ => h⟩
    rw [hcollected, List.forall_mem_append, List.forall_mem_singleton, hadded]
  · have hadded : IfAdded given handle bench command := by
      intro hcommand value hvalue
      exact absurd (exists_adds_of_ok hcommand hvalue) h
    rw [collected_perform_of_not_adds h]
    exact (and_iff_left hadded).symm

/-! ## Runs -/

theorem forall_collected_run_iff {commands : List Command} :
    (∀ block ∈ (bench.run commands).2.collected handle, holds block) ↔
      (∀ block ∈ bench.collected handle, holds block) ∧
        Throughout (IfAdded given handle) bench commands := by
  induction commands generalizing bench with
  | nil => exact (and_iff_left trivial).symm
  | cons command commands ih =>
    rw [run_cons, ih, forall_collected_perform_iff hgiven, Throughout, and_assoc]

theorem forall_collected_after_iff {commands : List Command} :
    (∀ block ∈ (after commands).collected handle, holds block) ↔
      Throughout (IfAdded given handle) {} commands := by
  have hnone : ∀ block ∈ ({} : Bench).collected handle, holds block := List.forall_mem_nil _
  rw [after, forall_collected_run_iff hgiven]
  exact and_iff_right hnone

end

theorem lt_size_run {commands : List Command} (hhandle : handle < bench.builders.size) :
    handle < (bench.run commands).2.builders.size := by
  induction commands generalizing bench with
  | nil => exact hhandle
  | cons command commands ih =>
    rw [run_cons]
    exact ih (lt_size_perform hhandle)

/-! ## The document -/

theorem exists_tree_documentOf_iff {blocks : List Value} :
    (∃ tree, (documentOf blocks).tree? = some tree) ↔
      ∀ block ∈ blocks, ∃ tree, block.tree? = some tree := by
  rw [← forall₂_tree?_iff]
  constructor
  · rintro ⟨tree, htree⟩
    obtain ⟨typed, nodes, -, hnodes, -⟩ := tree?_block_iff.mp htree
    exact ⟨nodes, hnodes⟩
  · rintro ⟨nodes, hnodes⟩
    exact ⟨_, tree?_block_iff.mpr ⟨.body, nodes, rfl, hnodes, rfl⟩⟩

theorem accepted_documentOf_iff {blocks : List Value} :
    Accepted options .root (documentOf blocks) ↔ ∀ block ∈ blocks, Accepted options .block block := by
  unfold documentOf
  rw [accepted_element_iff]
  exact ⟨fun ⟨_, rfl, h⟩ => h.2.2, fun h => ⟨.body, rfl, rfl, rfl, h⟩⟩

/-- The document that a builder gives after a run, with the verdict on the tree that it is. -/
theorem perform_document_verdict {commands : List Command} (options : Option Options)
    (hhandle : handle < (after commands).builders.size) :
    ∃ document : Value,
      (perform (.document handle)).runOn (after commands) = (.ok document, after commands) ∧
      ((∃ tree, document.tree? = some tree) ↔
        Throughout (IfAdded TreesGiven handle) {} commands) ∧
      ∀ tree, document.tree? = some tree →
        (tree.isWellFormed options = true ↔
          Throughout (IfAdded (Fits (Options.resolve options)) handle) {} commands) := by
  refine ⟨_, perform_document hhandle, ?_, ?_⟩
  · rw [exists_tree_documentOf_iff]
    exact forall_collected_after_iff fun _ _ _ => treesGiven_iff
  · intro tree htree
    have haccepted : tree.isWellFormed options = true ↔
        Accepted (Options.resolve options) .root (documentOf ((after commands).collected handle)) := by
      constructor
      · intro h
        exact ⟨tree, htree, h⟩
      · rintro ⟨other, hother, h⟩
        cases htree.symm.trans hother
        exact h
    rw [haccepted, accepted_documentOf_iff]
    exact forall_collected_after_iff fun _ _ _ => fits_iff_accepted

/-- After any run the document of a builder is a tree exactly if trees were given to every call
    that succeeded in adding to that builder, and then it is well-formed exactly if every such call
    was given what fits: a node that is accepted as a block, or for a division nodes that are, or
    for a paragraph or a heading nodes that are accepted as inlines, and for a heading a level from
    1 to 6 if levels are checked.
    A document that is not well-formed stays so, whatever is done later. -/
theorem document_wellFormed_iff_fits (options : Option Options) (commands : List Command)
    (handle : Nat) (hhandle : handle < (after commands).builders.size) :
    ∃ document : Value,
      (perform (.document handle)).runOn (after commands) = (.ok document, after commands) ∧
      ((∃ tree, document.tree? = some tree) ↔
        Throughout (IfAdded TreesGiven handle) {} commands) ∧
      ∀ tree, document.tree? = some tree →
        document.same (.node tree) = true ∧
        (tree.isWellFormed options = true ↔
          Throughout (IfAdded (Fits (Options.resolve options)) handle) {} commands) ∧
        (tree.isWellFormed options = false → ∀ later, ∃ grown : Value,
          (perform (.document handle)).runOn (after (commands ++ later)) =
            (.ok grown, after (commands ++ later)) ∧
          ∀ tree', grown.tree? = some tree' → tree'.isWellFormed options = false) := by
  obtain ⟨document, hdocument, htrees, hverdict⟩ := perform_document_verdict options hhandle
  refine ⟨document, hdocument, htrees, ?_⟩
  intro tree htree
  refine ⟨Value.same_of_tree? htree, hverdict tree htree, ?_⟩
  intro hrefused later
  have hlater : handle < (after (commands ++ later)).builders.size := by
    unfold after
    rw [run_append]
    exact lt_size_run hhandle
  obtain ⟨grown, hgrown, -, hverdict'⟩ := perform_document_verdict options hlater
  refine ⟨grown, hgrown, ?_⟩
  intro tree' htree'
  rw [← Bool.not_eq_true] at hrefused ⊢
  rw [hverdict' tree' htree', throughout_append]
  rintro ⟨hbefore, -⟩
  exact hrefused ((hverdict tree htree).mpr hbefore)

/-- A heading, a division, and a call that fails. -/
def outline : List Command :=
  [.startBuilder, .addBlock 0 (.header (.int 2)) (.list [.node (.text "a")]),
    .addNode 0 (.node (.element .div .empty)), .addBlock 0 .para (.int 3)]

/-- What the outline is made of fits; a heading of level 7 spoils it for good. -/
theorem document_wellFormed_outline :
    0 < (after outline).builders.size ∧
      Throughout (IfAdded (Fits { checkHeadingLevels := true }) 0) {} outline ∧
      0 < (after (outline ++ [.addBlock 0 (.header (.int 7)) (.tuple [])])).builders.size ∧
      ∀ later, ∃ grown : Value,
        ((perform (.document 0)).runOn
          (after (outline ++ [.addBlock 0 (.header (.int 7)) (.tuple [])] ++ later))).1 = .ok grown ∧
        ∀ tree, grown.tree? = some tree →
          tree.isWellFormed (some { checkHeadingLevels := true }) = false := by
  have hsize : 0 < (after outline).builders.size := by decide
  have hsize' :
      0 < (after (outline ++ [.addBlock 0 (.header (.int 7)) (.tuple [])])).builders.size := by
    decide
  obtain ⟨document, hdocument, -, hverdict⟩ :=
    document_wellFormed_iff_fits (some { checkHeadingLevels := true }) outline 0 hsize
  obtain ⟨spoilt, hspoilt, -, hlater⟩ :=
    document_wellFormed_iff_fits (some { checkHeadingLevels := true })
      (outline ++ [.addBlock 0 (.header (.int 7)) (.tuple [])]) 0 hsize'
  have hrun : ((perform (.document 0)).runOn (after outline)).1 =
      .ok (.node (.holding .body
        [.holding (.header 2) [.text "a"], .element .div .empty])) := rfl
  have hrun' : ((perform (.document 0)).runOn
      (after (outline ++ [.addBlock 0 (.header (.int 7)) (.tuple [])]))).1 =
        .ok (.node (.holding .body
          [.holding (.header 2) [.text "a"], .element .div .empty,
            .element (.header 7) .empty])) := rfl
  rw [hdocument] at hrun
  rw [hspoilt] at hrun'
  cases Except.ok.inj hrun
  cases Except.ok.inj hrun'
  refine ⟨hsize, (hverdict _ rfl).2.1.mp (by decide), hsize', ?_⟩
  intro later
  obtain ⟨grown, hgrown, hrefused⟩ := (hlater _ rfl).2.2 (by decide) later
  exact ⟨grown, congrArg Prod.fst hgrown, hrefused⟩

end Folio.Bench
