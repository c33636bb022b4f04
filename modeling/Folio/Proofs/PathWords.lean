-- SUMMARY: A tree is a document exactly if the kinds along each of its paths spell a word of one regular language.
import Folio.Grammar.KindWord
import Folio.Grammar.Similarity
import Folio.Proofs.Derivability
import Folio.Proofs.Positions
import Mathlib.Computability.RegularExpressions

/-!
# Documents path by path

The grammar of documents can be checked on each way down from the root by itself:
a tree is a document exactly if all of its ways down spell words of

    Body Div* ((Para | Header) (Anchor | Bold | Italic)* Text?)?

and, if levels are checked, no heading has a bad one (`isWellFormed_iff_words`).

The words are read one letter at a time. A rule and the words that may follow where
it applies take the same step at an element (`word_cons_iff`), and so the verdict and
the words agree on all trees by induction. That the words are those of the expression
is Arden's lemma, once for the spans and once for the divisions.
-/

namespace Folio

open Grammar

/-! ## Words letter by letter -/

namespace Grammar

variable {kind : Kind} {word : List Kind}

theorem inlineWord_cons :
    InlineWord (kind :: word) ↔
      (kind ∈ [Kind.anchor, .bold, .italic] ∧ InlineWord word) ∨ (kind = .text ∧ word = []) := by
  constructor
  · intro h
    cases h with
    | text => exact .inr ⟨rfl, rfl⟩
    | span hkind hword => exact .inl ⟨hkind, hword⟩
  · rintro (⟨hkind, hword⟩ | ⟨rfl, rfl⟩)
    · exact .span hkind hword
    · exact .text

theorem blockWord_cons :
    BlockWord (kind :: word) ↔
      (kind = .div ∧ BlockWord word) ∨ (kind ∈ [Kind.para, .header] ∧ InlineWord word) := by
  constructor
  · intro h
    cases h with
    | div hword => exact .inl ⟨rfl, hword⟩
    | leafBlock hkind hword => exact .inr ⟨hkind, hword⟩
  · rintro (⟨rfl, hword⟩ | ⟨hkind, hword⟩)
    · exact .div hword
    · exact .leafBlock hkind hword

theorem documentWord_cons : DocumentWord (kind :: word) ↔ kind = .body ∧ BlockWord word := by
  constructor
  · intro h
    cases h with
    | body hword => exact ⟨rfl, hword⟩
  · rintro ⟨rfl, hword⟩
    exact .body hword

theorem not_documentWord_nil : ¬ DocumentWord [] := by
  intro h
  cases h

/-- Between a text and the block it is in there are spans only. -/
theorem spans_of_inlineWord (h : InlineWord (word ++ [.text])) :
    ∀ kind ∈ word, kind ∈ [Kind.anchor, .bold, .italic] := by
  induction word with
  | nil => exact fun _ hmem => absurd hmem List.not_mem_nil
  | cons first word ih =>
    rw [List.cons_append, inlineWord_cons] at h
    rcases h with ⟨hfirst, hword⟩ | ⟨-, hnil⟩
    · exact List.forall_mem_cons.mpr ⟨hfirst, ih hword⟩
    · simp at hnil

/-- Above a text there is one block of text, with divisions above it and spans below it. -/
theorem exists_leafBlock_of_blockWord (h : BlockWord (word ++ [.text])) :
    ∃ divs block spans, word = List.replicate divs .div ++ block :: spans ∧
      block ∈ [Kind.para, .header] ∧ ∀ kind ∈ spans, kind ∈ [Kind.anchor, .bold, .italic] := by
  induction word with
  | nil =>
    rw [List.nil_append, blockWord_cons] at h
    rcases h with ⟨hkind, -⟩ | ⟨hkind, -⟩
    · cases hkind
    · simp at hkind
  | cons first word ih =>
    rw [List.cons_append, blockWord_cons] at h
    rcases h with ⟨rfl, hword⟩ | ⟨hfirst, hword⟩
    · obtain ⟨divs, block, spans, rfl, hblock, hspans⟩ := ih hword
      exact ⟨divs + 1, block, spans, rfl, hblock, hspans⟩
    · exact ⟨0, first, word, rfl, hfirst, spans_of_inlineWord hword⟩

theorem body_not_mem_inlineWord (h : InlineWord word) : .body ∉ word := by
  induction h with
  | nil => exact List.not_mem_nil
  | text => decide
  | span hkind _ ih =>
    rw [List.mem_cons, not_or]
    refine ⟨?_, ih⟩
    rintro rfl
    simp at hkind

theorem body_not_mem_blockWord (h : BlockWord word) : .body ∉ word := by
  induction h with
  | nil => exact List.not_mem_nil
  | div _ ih =>
    rw [List.mem_cons, not_or]
    exact ⟨Kind.noConfusion, ih⟩
  | leafBlock hkind hword =>
    rw [List.mem_cons, not_or]
    refine ⟨?_, body_not_mem_inlineWord hword⟩
    rintro rfl
    simp at hkind

end Grammar

/-! ## Words as a regular language -/

namespace Rule

/-- The words that may be spelled from where a rule applies downwards. -/
def Word : Rule → List Kind → Prop
  | root => DocumentWord
  | block => BlockWord
  | inline => InlineWord

def words (rule : Rule) : Language Kind := { word | rule.Word word }

theorem mem_words {rule : Rule} {word : List Kind} : word ∈ rule.words ↔ rule.Word word := Iff.rfl

end Rule

namespace Grammar

open RegularExpression Computability

/-- Any one of the given kinds. -/
def oneOf (kinds : List Kind) : RegularExpression Kind :=
  (kinds.map char).sum

/-- `Body Div* ((Para | Header) (Anchor | Bold | Italic)* Text?)?` -/
def documentPattern : RegularExpression Kind :=
  oneOf [.body] * ((oneOf [.div]).star *
    (1 + oneOf [.para, .header] * ((oneOf [.anchor, .bold, .italic]).star * (1 + oneOf [.text]))))

theorem mem_oneOf {kinds : List Kind} {word : List Kind} :
    word ∈ (oneOf kinds).matches' ↔ ∃ kind ∈ kinds, word = [kind] := by
  induction kinds with
  | nil => simp [oneOf]
  | cons kind kinds ih =>
    have hcons : oneOf (kind :: kinds) = char kind + oneOf kinds := rfl
    have hchar : word ∈ (char kind).matches' ↔ word = [kind] := Iff.rfl
    rw [hcons, matches'_add, Language.mem_add, hchar, ih]
    simp

theorem nil_not_mem_oneOf (kinds : List Kind) : [] ∉ (oneOf kinds).matches' := by
  simp [mem_oneOf]

theorem nil_not_mem_oneOf_mul (kinds : List Kind) (words : Language Kind) :
    [] ∉ (oneOf kinds).matches' * words := by
  simp [Language.mem_mul, mem_oneOf]

theorem cons_mem_oneOf_mul {kinds : List Kind} {words : Language Kind} {kind : Kind}
    {word : List Kind} :
    kind :: word ∈ (oneOf kinds).matches' * words ↔ kind ∈ kinds ∧ word ∈ words := by
  simp only [Language.mem_mul, mem_oneOf]
  constructor
  · rintro ⟨_, ⟨first, hfirst, rfl⟩, rest, hrest, h⟩
    obtain ⟨rfl, rfl⟩ := List.cons.inj h
    exact ⟨hfirst, hrest⟩
  · rintro ⟨hkind, hword⟩
    exact ⟨[kind], ⟨kind, hkind, rfl⟩, word, hword, rfl⟩

theorem words_inline :
    Rule.inline.words =
      (oneOf [.anchor, .bold, .italic]).matches'∗ * (1 + (oneOf [.text]).matches') := by
  rw [← Language.self_eq_mul_add_iff (nil_not_mem_oneOf _)]
  ext word
  cases word with
  | nil => exact iff_of_true InlineWord.nil (.inr (.inl rfl))
  | cons kind word =>
    rw [Rule.mem_words, Rule.Word, inlineWord_cons, Language.mem_add, cons_mem_oneOf_mul,
      Language.mem_add, Language.mem_one, mem_oneOf, Rule.mem_words, Rule.Word]
    simp

theorem words_block :
    Rule.block.words =
      (oneOf [.div]).matches'∗ * (1 + (oneOf [.para, .header]).matches' * Rule.inline.words) := by
  rw [← Language.self_eq_mul_add_iff (nil_not_mem_oneOf _)]
  ext word
  cases word with
  | nil => exact iff_of_true BlockWord.nil (.inr (.inl rfl))
  | cons kind word =>
    rw [Rule.mem_words, Rule.Word, blockWord_cons, Language.mem_add, cons_mem_oneOf_mul,
      Language.mem_add, Language.mem_one, cons_mem_oneOf_mul, List.mem_singleton, Rule.mem_words,
      Rule.mem_words, Rule.Word, Rule.Word]
    simp

/-- The productions for words generate the language of the expression. -/
theorem words_root : Rule.root.words = documentPattern.matches' := by
  have hpattern : documentPattern.matches' = (oneOf [.body]).matches' * Rule.block.words := by
    rw [words_block, words_inline]
    simp only [documentPattern, matches'_mul, matches'_add, matches'_star, matches'_epsilon]
  rw [hpattern]
  ext word
  cases word with
  | nil => exact iff_of_false not_documentWord_nil (nil_not_mem_oneOf_mul _ _)
  | cons kind word =>
    rw [Rule.mem_words, Rule.Word, documentWord_cons, cons_mem_oneOf_mul, List.mem_singleton,
      Rule.mem_words, Rule.Word]

end Grammar

/-! ## Words along paths -/

namespace Node

@[simp] theorem kindsAlong?_nil (node : Node) : node.kindsAlong? [] = some [node.kind] := by
  rw [kindsAlong?]

theorem kindsAlong?_cons (node : Node) (index : Nat) (path : Position) :
    node.kindsAlong? (index :: path) =
      (node.child? index).bind fun child =>
        (child.kindsAlong? path).map fun kinds => node.kind :: kinds := by
  rw [kindsAlong?]

/-- The word of a path ends with the kind of the node that the path leads to. -/
theorem exists_kindsAlong? {node old : Node} {path : Position} (h : node.at? path = some old) :
    ∃ above, node.kindsAlong? path = some (above ++ [old.kind]) := by
  induction path generalizing node with
  | nil =>
    rw [at?_nil] at h
    cases h
    exact ⟨[], kindsAlong?_nil _⟩
  | cons index path ih =>
    rw [at?_cons] at h
    obtain ⟨child, hchild, hrest⟩ := Option.bind_eq_some_iff.mp h
    obtain ⟨above, habove⟩ := ih hrest
    refine ⟨node.kind :: above, ?_⟩
    rw [kindsAlong?_cons, hchild, Option.bind_some, habove]
    rfl

/-- What holds of all that is found along the paths of a tree holds of what is found at its root and
    of what is found below, when this is read from a child as `lift` says. -/
theorem forall_along_iff {α : Type} {follow : Node → Position → Option α} {lift : Node → α → α}
    (hcons : ∀ node index path, follow node (index :: path) =
      (node.child? index).bind fun child => (follow child path).map (lift node))
    (node : Node) (p : α → Prop) :
    (∀ path found, follow node path = some found → p found) ↔
      (∀ found, follow node [] = some found → p found) ∧
        ∀ child ∈ node.children, ∀ path found, follow child path = some found →
          p (lift node found) := by
  constructor
  · intro h
    refine ⟨h [], ?_⟩
    intro child hmem path found hfound
    obtain ⟨index, hchild⟩ := List.mem_iff_getElem?.mp hmem
    have hstep : node.child? index = some child := hchild
    apply h (index :: path)
    rw [hcons, hstep, Option.bind_some, hfound, Option.map_some]
  · rintro ⟨hroot, hbelow⟩ path found hfound
    cases path with
    | nil => exact hroot found hfound
    | cons index path =>
      rw [hcons] at hfound
      obtain ⟨child, hchild, hrest⟩ := Option.bind_eq_some_iff.mp hfound
      obtain ⟨below, hchildFound, rfl⟩ := Option.map_eq_some_iff.mp hrest
      exact hbelow child (List.mem_of_getElem? hchild) path below hchildFound

theorem forall_kindsAlong?_iff (node : Node) (p : List Kind → Prop) :
    (∀ path kinds, node.kindsAlong? path = some kinds → p kinds) ↔
      p [node.kind] ∧ ∀ child ∈ node.children, ∀ path kinds, child.kindsAlong? path = some kinds →
        p (node.kind :: kinds) := by
  refine (forall_along_iff kindsAlong?_cons node p).trans ?_
  simp only [kindsAlong?_nil, Option.some.injEq, forall_eq']

theorem forall_at?_iff (node : Node) (p : Node → Prop) :
    (∀ path old, node.at? path = some old → p old) ↔
      p node ∧ ∀ child ∈ node.children, ∀ path old, child.at? path = some old → p old := by
  have hcons : ∀ (node : Node) (index : Nat) (path : Position), node.at? (index :: path) =
      (node.child? index).bind fun child => (child.at? path).map id := by
    intro node index path
    simp only [at?_cons, Option.map_id, id]
  refine (forall_along_iff hcons node p).trans ?_
  simp only [at?_nil, Option.some.injEq, forall_eq', id]

end Node

/-! ## Rules and words -/

namespace Rule

variable {options : Options} {rule : Rule}

/-- At an element, a rule and its words take the same step. -/
theorem word_cons_iff {tag : Tag} {word : List Kind} :
    rule.Word (tag.kind :: word) ↔ rule.admits tag.kind = true ∧ tag.childRule.Word word := by
  cases rule with
  | root =>
    rw [Word, documentWord_cons]
    cases tag <;> simp [TagOf.kind, Tag.childRule, admits, Word]
  | block =>
    rw [Word, blockWord_cons]
    cases tag <;> simp [TagOf.kind, Tag.childRule, admits, Word]
  | inline =>
    rw [Word, inlineWord_cons]
    cases tag <;> simp [TagOf.kind, Tag.childRule, admits, Word]

/-- A text ends its word. -/
theorem word_text_iff : rule.Word [.text] ↔ rule.admits .text = true := by
  cases rule with
  | root => simp [Word, documentWord_cons, admits]
  | block => simp [Word, blockWord_cons, admits]
  | inline => simp [Word, inlineWord_cons, admits]

/-- No element asks for documents below it, so a word may end with it. -/
theorem word_nil_childRule (tag : Tag) : tag.childRule.Word [] := by
  cases tag with
  | body | div => exact BlockWord.nil
  | para | header | anchor | bold | italic => exact InlineWord.nil

/-- A rule accepts the trees with the right words along their paths and no heading at a level that
    is not allowed. -/
theorem accepts_iff_words {node : Node} :
    rule.accepts options node = true ↔
      (∀ path kinds, node.kindsAlong? path = some kinds → rule.Word kinds) ∧
        ∀ path old, node.at? path = some old → Grammar.levelAllowed options old = true := by
  induction node using Node.induction generalizing rule with
  | text content =>
    rw [accepts_text, Node.forall_kindsAlong?_iff, Node.forall_at?_iff]
    simp [Node.kind, Node.children, word_text_iff, Grammar.levelAllowed]
  | element tag children ih =>
    rw [accepts_element_iff, Node.forall_kindsAlong?_iff, Node.forall_at?_iff]
    simp only [Node.kind, Node.children, word_cons_iff, word_nil_childRule, and_true]
    constructor
    · rintro ⟨hadmits, hlevel, hchildren⟩
      refine ⟨⟨hadmits, ?_⟩, hlevel, ?_⟩
      · intro child hmem path kinds hkinds
        exact ⟨hadmits, ((ih child hmem).mp (hchildren child hmem)).1 path kinds hkinds⟩
      · intro child hmem
        exact ((ih child hmem).mp (hchildren child hmem)).2
    · rintro ⟨⟨hadmits, hwords⟩, hlevel, hlevels⟩
      refine ⟨hadmits, hlevel, ?_⟩
      intro child hmem
      apply (ih child hmem).mpr
      refine ⟨?_, hlevels child hmem⟩
      intro path kinds hkinds
      exact (hwords child hmem path kinds hkinds).2

end Rule

/-! ## Documents -/

namespace Grammar

variable {options : Options} {node : Node} {path : Position}

/-- Only the levels of headings matter, and these only if they are checked. -/
theorem forall_levelAllowed_iff :
    (∀ path old, node.at? path = some old → levelAllowed options old = true) ↔
      (options.checkHeadingLevels = true → ∀ path level children,
        node.at? path = some (.element (.header level) children) → 1 ≤ level ∧ level ≤ 6) := by
  constructor
  · intro h hcheck path level children hheading
    exact admitsLevel_header.mp (h path _ hheading) hcheck
  · intro h path old hold
    cases old with
    | text content => rfl
    | element tag children =>
      cases tag with
      | header level =>
        apply admitsLevel_header.mpr
        intro hcheck
        exact h hcheck path level children hold
      | body | div | para | anchor | bold | italic => rfl

/-- A document by the words along its paths and the levels of its headings. -/
theorem accepts_root_iff_words :
    Rule.root.accepts options node = true ↔
      (∀ path kinds, node.kindsAlong? path = some kinds → kinds ∈ documentPattern.matches') ∧
        (options.checkHeadingLevels = true → ∀ path level children,
          node.at? path = some (.element (.header level) children) → 1 ≤ level ∧ level ≤ 6) := by
  rw [Rule.accepts_iff_words, forall_levelAllowed_iff, ← words_root]
  rfl

/-- In a document a `Body` stands at the root and nowhere else. -/
theorem kind_eq_body_iff {old : Node} (h : Rule.root.accepts options node = true)
    (hold : node.at? path = some old) : old.kind = .body ↔ path = [] := by
  have hwords := (Rule.accepts_iff_words.mp h).1
  constructor
  · intro hbody
    cases path with
    | nil => rfl
    | cons index path =>
      rw [Node.at?_cons] at hold
      obtain ⟨child, hchild, hrest⟩ := Option.bind_eq_some_iff.mp hold
      obtain ⟨above, habove⟩ := Node.exists_kindsAlong? hrest
      have hkinds : node.kindsAlong? (index :: path) = some (node.kind :: (above ++ [old.kind])) := by
        rw [Node.kindsAlong?_cons, hchild, Option.bind_some, habove, Option.map_some]
      obtain ⟨-, hblock⟩ := documentWord_cons.mp (hwords _ _ hkinds)
      rw [hbody] at hblock
      exact absurd (List.mem_append_right above List.mem_cons_self) (body_not_mem_blockWord hblock)
  · rintro rfl
    rw [Node.at?_nil] at hold
    cases hold
    exact (documentWord_cons.mp (hwords [] _ (Node.kindsAlong?_nil _))).1

/-- In a document every text is in one `Para` or `Header`, below divisions and above spans only. -/
theorem exists_leafBlock_of_text {content : String} (h : Rule.root.accepts options node = true)
    (htext : node.at? path = some (.text content)) :
    ∃ divs block spans,
      node.kindsAlong? path =
        some (.body :: (List.replicate divs .div ++ block :: (spans ++ [.text]))) ∧
      block ∈ [Kind.para, .header] ∧ ∀ kind ∈ spans, kind ∈ [Kind.anchor, .bold, .italic] := by
  have hwords := (Rule.accepts_iff_words.mp h).1
  obtain ⟨above, habove⟩ := Node.exists_kindsAlong? htext
  have hword : DocumentWord (above ++ [.text]) := hwords path _ habove
  cases above with
  | nil => cases (documentWord_cons.mp hword).1
  | cons first above =>
    obtain ⟨rfl, hblock⟩ := documentWord_cons.mp hword
    obtain ⟨divs, block, spans, rfl, hmem, hspans⟩ := exists_leafBlock_of_blockWord hblock
    refine ⟨divs, block, spans, ?_, hmem, hspans⟩
    rw [habove]
    simp [Node.kind]

end Grammar

/-- With default options a tree is well-formed exactly if the kinds on the way from its root to any
    of its nodes spell a word of `Body Div* ((Para | Header) (Anchor | Bold | Italic)* Text?)?`,
    and with levels checked exactly if, besides, all headings have levels from 1 to 6.
    So under any options, in a well-formed tree only the root is a `Body`, and every text is in
    exactly one `Para` or `Header`, with the `Body` and divisions above that block and spans between
    it and the text. -/
theorem isWellFormed_iff_words (node : Node) :
    (node.isWellFormed = true ↔
      ∀ path kinds, node.kindsAlong? path = some kinds → kinds ∈ documentPattern.matches') ∧
    (∀ options, (Options.resolve options).checkHeadingLevels = true →
      (node.isWellFormed options = true ↔
        (∀ path kinds, node.kindsAlong? path = some kinds → kinds ∈ documentPattern.matches') ∧
        ∀ path level children, node.at? path = some (.element (.header level) children) →
          1 ≤ level ∧ level ≤ 6)) ∧
    (∀ options, node.isWellFormed options = true →
      (∀ path old, node.at? path = some old → (old.kind = .body ↔ path = [])) ∧
      (∀ path content, node.at? path = some (.text content) → ∃ divs block spans,
        node.kindsAlong? path =
          some (.body :: (List.replicate divs .div ++ block :: (spans ++ [.text]))) ∧
        block ∈ [Kind.para, .header] ∧
        ∀ kind ∈ spans, kind ∈ [Kind.anchor, .bold, .italic])) := by
  refine ⟨?_, ?_, ?_⟩
  · have hunchecked : (Options.resolve none).checkHeadingLevels = false := rfl
    unfold Node.isWellFormed
    rw [accepts_root_iff_words, hunchecked]
    simp
  · intro options hcheck
    unfold Node.isWellFormed
    rw [accepts_root_iff_words]
    simp only [hcheck, forall_const]
  · intro options h
    refine ⟨?_, ?_⟩
    · intro path old hold
      exact kind_eq_body_iff h hold
    · intro path content htext
      exact exists_leafBlock_of_text h htext

/-- A heading below a division. -/
def titled : Node :=
  .element .body (Chain.ofList
    [.element .div (Chain.ofList [.element (.header 2) (Chain.ofList [.text "a"])])])

theorem isWellFormed_iff_words_titled :
    titled.isWellFormed (some { checkHeadingLevels := true }) = true ∧
      (∀ path level children, titled.at? path = some (.element (.header level) children) →
        1 ≤ level ∧ level ≤ 6) ∧
      (∀ path old, titled.at? path = some old → (old.kind = .body ↔ path = [])) ∧
      ∃ divs block spans,
        titled.kindsAlong? [0, 0, 0] =
          some (.body :: (List.replicate divs .div ++ block :: (spans ++ [.text]))) ∧
        block ∈ [Kind.para, .header] ∧ ∀ kind ∈ spans, kind ∈ [Kind.anchor, .bold, .italic] := by
  have h : titled.isWellFormed (some { checkHeadingLevels := true }) = true := by decide
  obtain ⟨-, hchecked, hformed⟩ := isWellFormed_iff_words titled
  obtain ⟨-, hlevels⟩ := (hchecked _ rfl).mp h
  obtain ⟨hbody, htexts⟩ := hformed _ h
  exact ⟨h, hlevels, hbody, htexts [0, 0, 0] "a" rfl⟩

end Folio
