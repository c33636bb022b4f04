-- SUMMARY: A verdict depends on the edges of the tree and on the levels of its headings alone; what validation makes of it.
import Folio.Failure
import Folio.Grammar.Containment
import Folio.Proofs.Derivability
import Folio.Proofs.FirstViolation

/-!
# Verdicts edge by edge

A rule accepts a tree exactly if it admits the root, every edge of the tree holds and,
if levels are checked, no heading has a bad one (`accepts_iff_edgesHold`). The edges do
not depend on the options at all, and the levels on one flag only. So checking levels
is a condition of its own beside the verdict without it
(`accepts_checked_iff_levelsWithin`), and a strict validation fails exactly for trees
that have a fault somewhere (`validate_eq_error_iff_outside`).
-/

namespace Folio

open Grammar

variable {options : Options} {rule : Rule} {node : Node} {tag : Tag} {children : Chain Node}

/-! ## Edges and levels of an element -/

namespace Grammar

/-- What an element may hold is what the rule that it hands down admits. -/
theorem mayHold_iff_admits {kind : Kind} :
    MayHold tag.kind kind ↔ tag.childRule.admits kind = true := by
  rw [Rule.admits_iff]
  constructor
  · intro h
    cases h with
    | blocks hparent hchild =>
      cases tag with
      | body | div => exact hchild
      | para | header | anchor | bold | italic => simp [TagOf.kind] at hparent
    | inlines hparent hchild =>
      cases tag with
      | para | header | anchor | bold | italic => exact hchild
      | body | div => simp [TagOf.kind] at hparent
  · intro h
    cases tag with
    | body | div => exact .blocks (by simp [TagOf.kind]) h
    | para | header | anchor | bold | italic => exact .inlines (by simp [TagOf.kind]) h

theorem edgesHold_text (content : String) : EdgesHold (.text content) := by
  intro parent hparent child hchild
  rw [Node.preorder_text, List.mem_singleton] at hparent
  subst hparent
  exact absurd hchild (Chain.not_mem_empty child)

theorem edgesHold_element :
    EdgesHold (.element tag children) ↔
      (∀ child ∈ children, tag.childRule.admits child.kind = true) ∧
        ∀ child ∈ children, EdgesHold child := by
  simp only [← mayHold_iff_admits]
  exact Node.forall_mem_preorder_element

theorem levelsWithin_iff_forall :
    LevelsWithin node ↔ ∀ heading ∈ node.preorder, ¬ heading.HasBadLevel := by
  constructor
  · rintro h _ hmem ⟨level, children, rfl, hbad⟩
    have hlevel := h level children hmem
    omega
  · intro h level children hmem
    by_contra hbad
    have hbad' : level < 1 ∨ 6 < level := by omega
    exact h _ hmem ⟨level, children, rfl, hbad'⟩

theorem levelsWithin_text (content : String) : LevelsWithin (.text content) := by
  rw [levelsWithin_iff_forall, Node.preorder_text, List.forall_mem_singleton]
  exact Node.not_hasBadLevel_text content

theorem levelsWithin_element :
    LevelsWithin (.element tag children) ↔
      ¬ (Node.element tag children).HasBadLevel ∧ ∀ child ∈ children, LevelsWithin child := by
  simp only [levelsWithin_iff_forall]
  exact Node.forall_mem_preorder_element

/-! ## Trees outside the grammar -/

/-- A tree is outside the grammar exactly if one of the conditions for being in it fails. -/
theorem outside_iff_not_contained : Outside options node ↔ ¬ Contained options node := by
  constructor
  · rintro houtside ⟨hroot, hedges, hlevels⟩
    cases houtside with
    | root hkind => exact hkind hroot
    | edge hparent hchild hnot => exact hnot (hedges _ hparent _ hchild)
    | level hcheck hheading hbad =>
      have hlevel := hlevels hcheck _ _ hheading
      omega
  · intro hnot
    by_contra hinside
    refine hnot ⟨?_, ?_, ?_⟩
    · by_contra hroot
      exact hinside (.root hroot)
    · intro parent hparent child hchild
      by_contra hedge
      exact hinside (.edge hparent hchild hedge)
    · intro hcheck level children hheading
      by_contra hlevel
      have hbad : level < 1 ∨ 6 < level := by omega
      exact hinside (.level hcheck hheading hbad)

end Grammar

/-! ## Verdicts -/

/-- A rule accepts the trees whose root it admits, in which every edge holds and, if levels are
    checked, every heading has one from 1 to 6. -/
theorem accepts_iff_edgesHold :
    rule.accepts options node = true ↔
      rule.admits node.kind = true ∧ EdgesHold node ∧
        (options.checkHeadingLevels = true → LevelsWithin node) := by
  induction node using Node.induction generalizing rule with
  | text content =>
    rw [Rule.accepts_text]
    constructor
    · intro hadmits
      exact ⟨hadmits, edgesHold_text content, fun _ => levelsWithin_text content⟩
    · rintro ⟨hadmits, -⟩
      exact hadmits
  | element tag children ih =>
    have hallowed : options.admitsLevel tag = true ↔
        ¬ (options.checkHeadingLevels = true ∧ (Node.element tag children).HasBadLevel) :=
      Rule.admitsLevel_iff
    rw [accepts_element_iff, hallowed, edgesHold_element, levelsWithin_element]
    -- That the rule handed down admits a child says no more than that the edge to it holds.
    constructor
    · rintro ⟨hadmits, hlevel, hchildren⟩
      have hbelow := fun child hmem => (ih child hmem).mp (hchildren child hmem)
      refine ⟨hadmits, ⟨?_, ?_⟩, ?_⟩
      · intro child hmem
        exact (hbelow child hmem).1
      · intro child hmem
        exact (hbelow child hmem).2.1
      · intro hcheck
        refine ⟨fun hbad => hlevel ⟨hcheck, hbad⟩, ?_⟩
        intro child hmem
        exact (hbelow child hmem).2.2 hcheck
    · rintro ⟨hadmits, ⟨hroots, hedges⟩, hlevels⟩
      refine ⟨hadmits, fun ⟨hcheck, hbad⟩ => (hlevels hcheck).1 hbad, ?_⟩
      intro child hmem
      exact (ih child hmem).mpr
        ⟨hroots child hmem, hedges child hmem, fun hcheck => (hlevels hcheck).2 child hmem⟩

/-- Options that check levels alike give the same verdicts. -/
theorem accepts_congr {other : Options}
    (h : options.checkHeadingLevels = other.checkHeadingLevels) (rule : Rule) (node : Node) :
    rule.accepts options node = rule.accepts other node := by
  rw [Bool.eq_iff_iff, accepts_iff_edgesHold, accepts_iff_edgesHold, h]

/-- Where text and spans are asked for, there are no headings to check. -/
theorem accepts_inline_congr (options other : Options) (node : Node) :
    Rule.inline.accepts options node = Rule.inline.accepts other node := by
  rw [Bool.eq_iff_iff]
  constructor
  · intro h
    exact accepts_of_inline (inline_of_accepts h)
  · intro h
    exact accepts_of_inline (inline_of_accepts h)

/-- With levels checked a rule accepts the trees that it accepts without and in which every heading
    has a level from 1 to 6, and so it is for whole documents. What is asked for inside paragraphs,
    headings and spans depends on no option, and no verdict depends on whether it is strict. -/
theorem accepts_checked_iff_levelsWithin (options : Options) (node : Node) :
    (∀ rule : Rule, rule.accepts { options with checkHeadingLevels := true } node = true ↔
      rule.accepts { options with checkHeadingLevels := false } node = true ∧ LevelsWithin node) ∧
    (node.isWellFormed (some { options with checkHeadingLevels := true }) = true ↔
      node.isWellFormed (some { options with checkHeadingLevels := false }) = true ∧
        LevelsWithin node) ∧
    (∀ other : Options, Rule.inline.accepts options node = Rule.inline.accepts other node) ∧
    (∀ (rule : Rule) (strict : Bool),
      rule.accepts { options with strict := strict } node = rule.accepts options node) := by
  have hchecked : ∀ rule : Rule,
      rule.accepts { options with checkHeadingLevels := true } node = true ↔
        rule.accepts { options with checkHeadingLevels := false } node = true ∧
          LevelsWithin node := by
    intro rule
    rw [accepts_iff_edgesHold, accepts_iff_edgesHold]
    simp only [Bool.false_eq_true, false_implies, forall_const, and_true, and_assoc]
  refine ⟨hchecked, hchecked .root, ?_, ?_⟩
  · intro other
    exact accepts_inline_congr options other node
  · intro rule strict
    have hcheck : ({ options with strict := strict } : Options).checkHeadingLevels =
        options.checkHeadingLevels := rfl
    exact accepts_congr hcheck rule node

/-! ## Validation -/

theorem accepts_root_iff_contained :
    Rule.root.accepts options node = true ↔ Contained options node := by
  rw [accepts_iff_edgesHold, Rule.admits_iff, Rule.kinds, List.mem_singleton]
  constructor
  · rintro ⟨hroot, hedges, hlevels⟩
    exact ⟨hroot, hedges, hlevels⟩
  · rintro ⟨hroot, hedges, hlevels⟩
    exact ⟨hroot, hedges, hlevels⟩

namespace Node

variable {given : Option Options}

theorem isWellFormed_eq_false_iff :
    node.isWellFormed given = false ↔ Outside (Options.resolve given) node := by
  rw [outside_iff_not_contained, ← accepts_root_iff_contained, Bool.not_eq_true]
  rfl

theorem validate_eq_error_iff {error : Error} :
    node.validate given = .error error ↔
      (Options.resolve given).strict = true ∧ node.isWellFormed given = false ∧
        error = .ungrammatical node.kind := by
  unfold validate
  cases (Options.resolve given).strict <;> cases node.isWellFormed given <;> simp [eq_comm]

theorem validate_eq_ok_iff {verdict : Bool} :
    node.validate given = .ok verdict ↔
      ((Options.resolve given).strict = true → node.isWellFormed given = true) ∧
        verdict = node.isWellFormed given := by
  unfold validate
  cases (Options.resolve given).strict <;> cases node.isWellFormed given <;> simp [eq_comm]

end Node

/-- Validation fails exactly if it is strict and the tree is outside the grammar somewhere, and it
    fails with the error about the kind of the root. Otherwise it answers what the rules answer;
    so what it answers is positive if it is strict, and it always answers if it is not. Options that
    were left out have both flags off.
    The error is the failure of the grammar family that is made for this kind: the kind is what it
    is rooted at and what it gives as its parameter. -/
theorem validate_eq_error_iff_outside (node : Node) (given : Option Options) :
    (∀ error, node.validate given = .error error ↔
      (Options.resolve given).strict = true ∧ Outside (Options.resolve given) node ∧
        error = .ungrammatical node.kind) ∧
    (∀ verdict, node.validate given = .ok verdict ↔
      ((Options.resolve given).strict = true → ¬ Outside (Options.resolve given) node) ∧
        verdict = node.isWellFormed given) ∧
    ((Options.resolve given).strict = true →
      ∀ verdict, node.validate given = .ok verdict → verdict = true) ∧
    ((Options.resolve given).strict = false →
      node.validate given = .ok (node.isWellFormed given)) ∧
    node.validate none = node.validate (some { strict := false, checkHeadingLevels := false }) ∧
    (Error.ungrammatical node.kind).family? = some .grammar ∧
    (Error.ungrammatical node.kind).parameter? = some ("node", .text node.kind.name) ∧
    Failure.ofArguments .grammar [("node_type", .text node.kind.name)] =
      .ok (.grammar (.text (Error.ungrammatical node.kind).message) (.text node.kind.name)) := by
  have hok : ∀ verdict, node.validate given = .ok verdict ↔
      ((Options.resolve given).strict = true → ¬ Outside (Options.resolve given) node) ∧
        verdict = node.isWellFormed given := by
    intro verdict
    rw [Node.validate_eq_ok_iff, ← Node.isWellFormed_eq_false_iff, Bool.not_eq_false]
  refine ⟨?_, hok, ?_, ?_, rfl, rfl, rfl, rfl⟩
  · intro error
    rw [Node.validate_eq_error_iff, Node.isWellFormed_eq_false_iff]
  · intro hstrict verdict hverdict
    obtain ⟨haccepted, rfl⟩ := Node.validate_eq_ok_iff.mp hverdict
    exact haccepted hstrict
  · intro hlenient
    apply (hok _).mpr
    refine ⟨?_, rfl⟩
    intro hstrict
    rw [hlenient] at hstrict
    cases hstrict

/-- A document with a division deep inside a paragraph. -/
def misplaced : Node :=
  .element .body (Chain.ofList [.element .div (Chain.ofList
    [.element .para (Chain.ofList [.element .bold (Chain.ofList [.element .div .empty])])])])

theorem validate_eq_error_misplaced :
    misplaced.validate (some { strict := true }) = .error (.ungrammatical .body) ∧
      misplaced.validate none = .ok false := by
  obtain ⟨herror, -⟩ := validate_eq_error_iff_outside misplaced (some { strict := true })
  obtain ⟨-, -, -, hlenient, -⟩ := validate_eq_error_iff_outside misplaced none
  have hrefused : misplaced.isWellFormed none = false := by decide
  have hedge : Outside { strict := true } misplaced := by
    have hparent : Node.element .bold (Chain.ofList [.element .div .empty]) ∈ misplaced.preorder := by
      simp [misplaced]
    refine .edge hparent (Chain.mem_cons.mpr (.inl rfl)) ?_
    rintro (⟨hbold, -⟩ | ⟨-, hdiv⟩)
    · simp [Node.kind, TagOf.kind] at hbold
    · simp [Node.kind, TagOf.kind] at hdiv
  refine ⟨(herror _).mpr ⟨rfl, hedge, rfl⟩, ?_⟩
  rw [hlenient rfl, hrefused]

end Folio
