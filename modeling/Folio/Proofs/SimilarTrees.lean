-- SUMMARY: Similar trees get the same verdict from every rule and have the same depth.
import Folio.Grammar.Similarity
import Folio.Node.Measure
import Folio.Proofs.Edits
import Mathlib.Logic.Relation

/-!
# Verdicts and depth of similar trees

Neither a verdict nor a depth tells similar trees apart (`verdict_depth_of_similar`).
Both proofs carry an inequality down one tree, where each child finds its match in
the other tree; the other inequality is the same one, since similarity is symmetric.

`Rewrite` names what can be done at one place without leaving the similar trees:
siblings in another order or number, another text or target, and another level if
levels are not checked. A tree in which this is done at any position, any number of
times, is similar to the one before.
-/

namespace Folio.Grammar

variable {options : Options} {a b old new : Node} {rule : Rule}

/-! ## Matching -/

namespace Matching

variable {related other : Node → Node → Prop}

/-- Of the relation, only what it says of the children matters. -/
theorem mono (h : Matching options related a b)
    (hle : ∀ c ∈ a.children, ∀ d, related c d → other c d) : Matching options other a b where
  kind := h.kind
  level := h.level
  left := by
    intro c hc
    obtain ⟨d, hd, hcd⟩ := h.left c hc
    exact ⟨d, hd, hle c hc d hcd⟩
  right := by
    intro d hd
    obtain ⟨c, hc, hcd⟩ := h.right d hd
    exact ⟨c, hc, hle c hc d hcd⟩

theorem swap (h : Matching options related a b) :
    Matching options (fun d c => related c d) b a where
  kind := h.kind.symm
  level := h.level.symm
  left := h.right
  right := h.left

end Matching

/-! ## Similarity -/

/-- Similar trees match, with similar children. -/
theorem Similar.matching (h : Similar options a b) : Matching options (Similar options) a b := by
  obtain ⟨related, hab, hclosed⟩ := h
  apply (hclosed a b hab).mono
  intro c _ d hcd
  exact ⟨related, hcd, hclosed⟩

theorem similar_of_matching (h : Matching options (Similar options) a b) : Similar options a b := by
  refine ⟨Matching options (Similar options), h, ?_⟩
  intro c d hcd
  exact hcd.mono fun _ _ _ => Similar.matching

/-- Trees are finite, so no other relation matches exactly the trees that it relates. -/
theorem eq_similar_iff {related : Node → Node → Prop} :
    related = Similar options ↔ ∀ a b, related a b ↔ Matching options related a b := by
  constructor
  · rintro rfl a b
    exact ⟨Similar.matching, similar_of_matching⟩
  · intro hrelated
    have hsimilar : ∀ a b, Similar options a b → related a b := by
      intro a
      induction a using Node.induction with
      | text content =>
        intro b h
        apply (hrelated _ b).mpr
        apply h.matching.mono
        intro child hchild
        exact absurd hchild (Chain.not_mem_empty child)
      | element tag children ih =>
        intro b h
        apply (hrelated _ b).mpr
        exact h.matching.mono ih
    funext a b
    apply propext
    constructor
    · intro hab
      exact ⟨related, hab, fun c d => (hrelated c d).mp⟩
    · exact hsimilar a b

theorem Similar.refl (a : Node) : Similar options a a := by
  refine ⟨Eq, rfl, ?_⟩
  rintro c _ rfl
  exact ⟨rfl, rfl, fun child hchild => ⟨child, hchild, rfl⟩, fun child hchild => ⟨child, hchild, rfl⟩⟩

theorem Similar.symm (h : Similar options a b) : Similar options b a := by
  refine ⟨fun c d => Similar options d c, h, ?_⟩
  intro c d hdc
  exact hdc.matching.swap

theorem Similar.trans {c : Node} (hab : Similar options a b) (hbc : Similar options b c) :
    Similar options a c := by
  refine ⟨fun x z => ∃ y, Similar options x y ∧ Similar options y z, ⟨b, hab, hbc⟩, ?_⟩
  rintro x z ⟨y, hxy, hyz⟩
  have hleft := hxy.matching
  have hright := hyz.matching
  refine ⟨hleft.kind.trans hright.kind, hleft.level.trans hright.level, ?_, ?_⟩
  · intro child hchild
    obtain ⟨middle, hmiddle, hsimilar⟩ := hleft.left child hchild
    obtain ⟨last, hlast, hsimilar'⟩ := hright.left middle hmiddle
    exact ⟨last, hlast, middle, hsimilar, hsimilar'⟩
  · intro last hlast
    obtain ⟨middle, hmiddle, hsimilar'⟩ := hright.right last hlast
    obtain ⟨child, hchild, hsimilar⟩ := hleft.right middle hmiddle
    exact ⟨child, hchild, middle, hsimilar, hsimilar'⟩

/-- A text leaf is similar to text leaves only. -/
theorem exists_text_of_similar {content : String} (h : Similar options (.text content) b) :
    ∃ other, b = .text other := by
  cases b with
  | text other => exact ⟨other, rfl⟩
  | element tag children => exact absurd h.matching.kind.symm tag.kind_ne_text

/-- An element is similar to elements only. -/
theorem exists_element_of_similar {tag : Tag} {children : Chain Node}
    (h : Similar options (.element tag children) b) :
    ∃ other others, b = .element other others := by
  cases b with
  | text content => exact absurd h.matching.kind tag.kind_ne_text
  | element other others => exact ⟨other, others, rfl⟩

/-! ## Verdicts -/

theorem accepts_of_similar (h : Similar options a b) (ha : rule.accepts options a = true) :
    rule.accepts options b = true := by
  induction a using Node.induction generalizing b rule with
  | text content =>
    obtain ⟨other, rfl⟩ := exists_text_of_similar h
    rw [Rule.accepts_text] at ha ⊢
    exact ha
  | element tag children ih =>
    obtain ⟨other, others, rfl⟩ := exists_element_of_similar h
    obtain ⟨hkind, hlevel, -, hright⟩ := h.matching
    have hkinds : tag.kind = other.kind := hkind
    obtain ⟨hadmits, hallowed, hchildren⟩ := accepts_element_iff.mp ha
    refine accepts_element_iff.mpr ⟨?_, ?_, ?_⟩
    · rw [← hkinds]
      exact hadmits
    · exact hlevel.symm.trans hallowed
    · -- Both elements hand down the same rule, and it accepts what the child is similar to.
      intro child hchild
      obtain ⟨counterpart, hmem, hsimilar⟩ := hright child hchild
      rw [Rule.childRule_eq_ruleBelow, ← hkinds, ← Rule.childRule_eq_ruleBelow]
      exact ih counterpart hmem hsimilar (hchildren counterpart hmem)

theorem accepts_eq_of_similar (h : Similar options a b) (rule : Rule) :
    rule.accepts options a = rule.accepts options b := by
  rw [Bool.eq_iff_iff]
  exact ⟨accepts_of_similar h, accepts_of_similar h.symm⟩

/-! ## Depth -/

theorem depth_le_of_similar (h : Similar options a b) : a.depth ≤ b.depth := by
  induction a using Node.induction generalizing b with
  | text content =>
    obtain ⟨other, rfl⟩ := exists_text_of_similar h
    apply Nat.le_of_eq
    rw [Node.depth_text, Node.depth_text]
  | element tag children ih =>
    obtain ⟨other, others, rfl⟩ := exists_element_of_similar h
    obtain ⟨levels, hlevels, hothers⟩ := Node.exists_depth_element other others
    rw [hlevels]
    apply Node.depth_element_le_iff.mpr
    intro child hchild
    obtain ⟨counterpart, hmem, hsimilar⟩ := h.matching.left child hchild
    exact Nat.le_trans (ih child hchild hsimilar) (hothers counterpart hmem)

theorem depth_eq_of_similar (h : Similar options a b) : a.depth = b.depth :=
  Nat.le_antisymm (depth_le_of_similar h) (depth_le_of_similar h.symm)

/-! ## Rewriting -/

/-- A node written anew in a way that no rule looks at. -/
inductive Rewrite (options : Options) : Node → Node → Prop
  /-- The same children in another order or number. -/
  | siblings (tag : Tag) {children others : Chain Node} :
      (∀ child, child ∈ others ↔ child ∈ children) →
      Rewrite options (.element tag children) (.element tag others)
  | text (content other : String) : Rewrite options (.text content) (.text other)
  | target (target other : String) (children : Chain Node) :
      Rewrite options (.element (.anchor target) children) (.element (.anchor other) children)
  | level (level other : Int) (children : Chain Node) :
      options.checkHeadingLevels = false →
      Rewrite options (.element (.header level) children) (.element (.header other) children)

/-- A tree with one node written anew, wherever it stands. -/
def RewriteAt (options : Options) (tree edited : Node) : Prop :=
  ∃ path old new, tree.at? path = some old ∧ Rewrite options old new ∧
    tree.replaceAt? path new = some edited

/-- Elements with tags that count as the same are similar if they have the same children. -/
theorem similar_element {tag other : Tag} {children others : Chain Node}
    (hkind : tag.kind = other.kind)
    (hlevel : options.admitsLevel tag = options.admitsLevel other)
    (hchildren : ∀ child, child ∈ others ↔ child ∈ children) :
    Similar options (.element tag children) (.element other others) := by
  refine similar_of_matching ⟨hkind, hlevel, ?_, ?_⟩
  · intro child hmem
    exact ⟨child, (hchildren child).mpr hmem, .refl child⟩
  · intro child hmem
    exact ⟨child, (hchildren child).mp hmem, .refl child⟩

theorem similar_of_rewrite (h : Rewrite options old new) : Similar options old new := by
  cases h with
  | siblings tag hsame => exact similar_element rfl rfl hsame
  | text content other =>
    refine similar_of_matching ⟨rfl, rfl, ?_, ?_⟩
    · intro child hmem
      exact absurd hmem (Chain.not_mem_empty child)
    · intro child hmem
      exact absurd hmem (Chain.not_mem_empty child)
  | target target other children => exact similar_element rfl rfl fun _ => Iff.rfl
  | level level other children hunchecked =>
    have hlevel : options.admitsLevel (.header level) = options.admitsLevel (.header other) := by
      simp only [Options.admitsLevel, hunchecked, Bool.not_false, Bool.true_or]
    exact similar_element rfl hlevel fun _ => Iff.rfl

/-- One child in the place of a similar one. -/
theorem similar_set {tag : Tag} {children : Chain Node} {index : Nat} {child below : Node}
    (hchild : children.toList[index]? = some child) (h : Similar options child below) :
    Similar options (.element tag children)
      ((Node.element tag children).editChildren fun list => list.set index below) := by
  obtain ⟨hindex, -⟩ := List.getElem?_eq_some_iff.mp hchild
  refine similar_of_matching ⟨rfl, rfl, ?_, ?_⟩
  · -- The edited place is told by its index, since equal children may stand elsewhere.
    intro node hnode
    obtain ⟨place, hplace⟩ := List.mem_iff_getElem?.mp hnode
    by_cases heq : index = place
    · obtain rfl : child = node := by
        subst heq
        exact Option.some.inj (hchild.symm.trans hplace)
      exact ⟨below, Chain.mem_ofList.mpr (List.mem_set hindex below), h⟩
    · have hkept : node ∈ children.toList.set index below :=
        List.mem_of_getElem? ((List.getElem?_set_ne heq).trans hplace)
      exact ⟨node, Chain.mem_ofList.mpr hkept, .refl node⟩
  · intro node hnode
    rcases List.mem_or_eq_of_mem_set (Chain.mem_ofList.mp hnode) with hmem | rfl
    · exact ⟨node, hmem, .refl node⟩
    · exact ⟨child, List.mem_of_getElem? hchild, h⟩

/-- A tree is similar to what becomes of it when a similar node is put in the place of one. -/
theorem similar_replaceAt? {tree : Node} {path : Position} (hold : tree.at? path = some old)
    (h : Similar options old new) :
    ∃ edited, tree.replaceAt? path new = some edited ∧ Similar options tree edited :=
  Node.exists_replaceAt? (Similar options) similar_set hold h

theorem similar_of_rewriteAt (h : RewriteAt options a b) : Similar options a b := by
  obtain ⟨path, old, new, hold, hrewrite, hedited⟩ := h
  obtain ⟨edited, hedited', hsimilar⟩ := similar_replaceAt? hold (similar_of_rewrite hrewrite)
  rw [hedited] at hedited'
  cases hedited'
  exact hsimilar

theorem similar_of_rewrites (h : Relation.ReflTransGen (RewriteAt options) a b) :
    Similar options a b := by
  induction h with
  | refl => exact .refl a
  | tail _ hstep ih => exact ih.trans (similar_of_rewriteAt hstep)

/-! ## What similar trees share -/

/-- Similarity is the one relation on trees that relates exactly those whose roots agree and whose
    children it matches both ways.
    Similar trees get the same verdict from every rule and have the same depth.
    What is written anew at any position of a tree leaves a similar tree; any number of such
    rewritings, one after the other, changes neither a verdict nor the depth. -/
theorem verdict_depth_of_similar (options : Options) :
    (∀ related : Node → Node → Prop,
      related = Similar options ↔ ∀ a b, related a b ↔ Matching options related a b) ∧
    (∀ a b, Similar options a b →
      (∀ rule : Rule, rule.accepts options a = rule.accepts options b) ∧ a.depth = b.depth) ∧
    (∀ tree path old new, tree.at? path = some old → Rewrite options old new →
      ∃ edited, tree.replaceAt? path new = some edited ∧ Similar options tree edited) ∧
    (∀ a b, Relation.ReflTransGen (RewriteAt options) a b →
      (∀ rule : Rule, rule.accepts options a = rule.accepts options b) ∧ a.depth = b.depth) := by
  refine ⟨?_, ?_, ?_, ?_⟩
  · intro related
    exact eq_similar_iff
  · intro a b h
    exact ⟨accepts_eq_of_similar h, depth_eq_of_similar h⟩
  · intro tree path old new hold hrewrite
    exact similar_replaceAt? hold (similar_of_rewrite hrewrite)
  · intro a b h
    have hsimilar := similar_of_rewrites h
    exact ⟨accepts_eq_of_similar hsimilar, depth_eq_of_similar hsimilar⟩

/-- A paragraph before a division. -/
def draft : Node :=
  .element .body (Chain.ofList
    [.element .para (Chain.ofList [.text "a"]), .element .div .empty])

/-- The same blocks in another order, one of them twice, and another text. -/
def rearranged : Node :=
  .element .body (Chain.ofList
    [.element .div .empty, .element .para (Chain.ofList [.text "b"]), .element .div .empty])

theorem verdict_depth_of_rearranged :
    Relation.ReflTransGen (RewriteAt {}) draft rearranged ∧
      Rule.root.accepts {} rearranged = true ∧ rearranged.depth = draft.depth := by
  have htext : RewriteAt {} draft (.element .body (Chain.ofList
      [.element .para (Chain.ofList [.text "b"]), .element .div .empty])) :=
    ⟨[0, 0], .text "a", .text "b", rfl, .text _ _, rfl⟩
  have hsiblings : RewriteAt {} (.element .body (Chain.ofList
      [.element .para (Chain.ofList [.text "b"]), .element .div .empty])) rearranged := by
    refine ⟨[], _, rearranged, rfl, .siblings .body ?_, rfl⟩
    intro child
    simp only [Chain.ofList_cons, Chain.ofList_nil, Chain.mem_cons, Chain.not_mem_empty]
    tauto
  have hrewrites := (Relation.ReflTransGen.single htext).tail hsiblings
  obtain ⟨-, -, -, hshared⟩ := verdict_depth_of_similar {}
  obtain ⟨hverdict, hdepth⟩ := hshared draft rearranged hrewrites
  have hdraft : Rule.root.accepts {} draft = true := by decide
  exact ⟨hrewrites, (hverdict .root).symm.trans hdraft, hdepth.symm⟩

end Folio.Grammar
