-- SUMMARY: The three rules accept exactly the trees that the productions of the grammar generate.
import Folio.Grammar.Derivation

/-!
# Rules and productions

Each rule is sound and complete for its nonterminal: what it accepts has a
derivation, and what has a derivation it accepts (`accepts_iff_derivable`). The
two directions follow different data: soundness goes by induction on the tree,
completeness by induction on the derivation.
-/

namespace Folio

open Grammar

variable {options : Options} {rule : Rule} {node : Node}

/-! ## What a rule asks of an element -/

theorem admitsLevel_header {level : Int} :
    options.admitsLevel (.header level) = true ↔
      (options.checkHeadingLevels = true → 1 ≤ level ∧ level ≤ 6) := by
  unfold Options.admitsLevel isHeadingLevel minHeadingLevel maxHeadingLevel
  cases options.checkHeadingLevels <;> simp

theorem accepts_element_iff {tag : Tag} {children : Chain Node} :
    rule.accepts options (.element tag children) = true ↔
      rule.admits tag.kind = true ∧ options.admitsLevel tag = true ∧
        ∀ child ∈ children, tag.childRule.accepts options child = true := by
  rw [Rule.accepts_element, Bool.and_eq_true, Bool.and_eq_true, Chain.all_eq_true, and_assoc]

/-- A rule that accepts a node admits its kind. -/
theorem admits_kind_of_accepts (h : rule.accepts options node = true) :
    rule.admits node.kind = true := by
  cases node with
  | text content =>
    rw [Rule.accepts_text] at h
    exact h
  | element tag children =>
    obtain ⟨hadmits, -, -⟩ := accepts_element_iff.mp h
    exact hadmits

/-- No kind is admitted by two rules. -/
theorem eq_of_admits {other : Rule} {kind : Kind} (h : rule.admits kind = true)
    (hother : other.admits kind = true) : rule = other := by
  cases kind <;> cases rule <;> cases other <;> simp_all [Rule.admits]

/-! ## Soundness -/

theorem inline_of_accepts (h : Rule.inline.accepts options node = true) : Inline node := by
  induction node using Node.induction with
  | text content => exact .text content
  | element tag children ih =>
    obtain ⟨hadmits, -, hchildren⟩ := accepts_element_iff.mp h
    have hinline (hrule : tag.childRule = .inline) : ∀ child ∈ children, Inline child := by
      intro child hmem
      have hchild := hchildren child hmem
      rw [hrule] at hchild
      exact ih child hmem hchild
    cases tag with
    | anchor target => exact .anchor target (hinline rfl)
    | bold => exact .bold (hinline rfl)
    | italic => exact .italic (hinline rfl)
    | body | div | para | header => cases hadmits

theorem block_of_accepts (h : Rule.block.accepts options node = true) : Block options node := by
  induction node using Node.induction with
  | text content => cases admits_kind_of_accepts h
  | element tag children ih =>
    obtain ⟨hadmits, hlevel, hchildren⟩ := accepts_element_iff.mp h
    have hinline (hrule : tag.childRule = .inline) : ∀ child ∈ children, Inline child := by
      intro child hmem
      have hchild := hchildren child hmem
      rw [hrule] at hchild
      exact inline_of_accepts hchild
    cases tag with
    | div =>
      apply Block.div
      intro child hmem
      exact ih child hmem (hchildren child hmem)
    | para => exact .para (hinline rfl)
    | header level =>
      have hbounds := admitsLevel_header.mp hlevel
      exact .header hbounds (hinline rfl)
    | body | anchor | bold | italic => cases hadmits

theorem document_of_accepts (h : Rule.root.accepts options node = true) :
    Document options node := by
  cases node with
  | text content => cases admits_kind_of_accepts h
  | element tag children =>
    obtain ⟨hadmits, -, hchildren⟩ := accepts_element_iff.mp h
    cases tag with
    | body =>
      apply Document.body
      intro child hmem
      exact block_of_accepts (hchildren child hmem)
    | div | para | header | anchor | bold | italic => cases hadmits

/-! ## Completeness -/

theorem accepts_of_inline (h : Inline node) : Rule.inline.accepts options node = true := by
  induction h with
  | text content =>
    rw [Rule.accepts_text]
    rfl
  | anchor target _ ih => exact accepts_element_iff.mpr ⟨rfl, rfl, ih⟩
  | bold _ ih => exact accepts_element_iff.mpr ⟨rfl, rfl, ih⟩
  | italic _ ih => exact accepts_element_iff.mpr ⟨rfl, rfl, ih⟩

theorem accepts_of_block (h : Block options node) : Rule.block.accepts options node = true := by
  induction h with
  | div _ ih => exact accepts_element_iff.mpr ⟨rfl, rfl, ih⟩
  | para hchildren =>
    refine accepts_element_iff.mpr ⟨rfl, rfl, ?_⟩
    intro child hmem
    exact accepts_of_inline (hchildren child hmem)
  | header hlevel hchildren =>
    refine accepts_element_iff.mpr ⟨rfl, admitsLevel_header.mpr hlevel, ?_⟩
    intro child hmem
    exact accepts_of_inline (hchildren child hmem)

theorem accepts_of_document (h : Document options node) :
    Rule.root.accepts options node = true := by
  cases h with
  | body hchildren =>
    refine accepts_element_iff.mpr ⟨rfl, rfl, ?_⟩
    intro child hmem
    exact accepts_of_block (hchildren child hmem)

/-! ## Decision -/

/-- Each rule accepts exactly what its nonterminal derives, and no tree is accepted by two rules. -/
theorem accepts_iff_derivable (options : Options) (node : Node) :
    (Rule.root.accepts options node = true ↔ Document options node) ∧
      (Rule.block.accepts options node = true ↔ Block options node) ∧
      (Rule.inline.accepts options node = true ↔ Inline node) ∧
      (∀ rule other : Rule, rule.accepts options node = true → other.accepts options node = true →
        rule = other) := by
  refine ⟨⟨document_of_accepts, accepts_of_document⟩, ⟨block_of_accepts, accepts_of_block⟩,
    ⟨inline_of_accepts, accepts_of_inline⟩, ?_⟩
  intro rule other hrule hother
  have hadmits : rule.admits node.kind = true := admits_kind_of_accepts hrule
  have hadmits' : other.admits node.kind = true := admits_kind_of_accepts hother
  exact eq_of_admits hadmits hadmits'

end Folio
