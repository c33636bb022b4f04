-- SUMMARY: A rule enters the nodes of a tree in document order, up to the first one that violates its rule.
import Folio.Grammar.Violation
import Folio.Proofs.Positions

/-!
# The walk up to the first violation

A rule is applied to the nodes of a tree in document order until one of them
violates the rule that applies to it; that node is the last one entered, and the
verdict is positive exactly if there is none (`trace_eq_upTo_violation`).

The walk is a nest of loops, each of which stops when the answer of a turn is
negative. `StopsAtFirst` is what such a walk has in common with each of its turns,
and `StopsAtFirst.allM` carries it from the turns to their loop.
-/

namespace Folio

/-! ## Cutting a list -/

section UpTo

variable {α : Type} {p : α → Prop} [DecidablePred p]

theorem upTo_eq_self {xs : List α} (h : ∀ x ∈ xs, ¬ p x) : upTo p xs = xs := by
  induction xs with
  | nil => rfl
  | cons x xs ih =>
    obtain ⟨hx, hxs⟩ := List.forall_mem_cons.mp h
    simp only [upTo, if_neg hx, ih hxs]

theorem upTo_append_of_none {xs : List α} (h : ∀ x ∈ xs, ¬ p x) (ys : List α) :
    upTo p (xs ++ ys) = xs ++ upTo p ys := by
  induction xs with
  | nil => rfl
  | cons x xs ih =>
    obtain ⟨hx, hxs⟩ := List.forall_mem_cons.mp h
    simp only [List.cons_append, upTo, if_neg hx, ih hxs]

theorem upTo_append_of_some {xs : List α} (h : ¬ ∀ x ∈ xs, ¬ p x) (ys : List α) :
    upTo p (xs ++ ys) = upTo p xs := by
  induction xs with
  | nil => simp at h
  | cons x xs ih =>
    simp only [List.cons_append, upTo]
    split
    · rfl
    · rename_i hx
      have hsome : ¬ ∀ y ∈ xs, ¬ p y := by
        intro hxs
        exact h (List.forall_mem_cons.mpr ⟨hx, hxs⟩)
      rw [ih hsome]

theorem upTo_prefix (xs : List α) : upTo p xs <+: xs := by
  induction xs with
  | nil => exact List.prefix_rfl
  | cons x xs ih =>
    unfold upTo
    split
    · exact ⟨xs, rfl⟩
    · exact List.cons_prefix_cons.mpr ⟨rfl, ih⟩

end UpTo

/-! ## Walks that stop at the first bad entry -/

namespace Traced

variable {ε α : Type} {bad : ε → Prop} [DecidablePred bad]

/-- Whatever was written before, the walk writes the given entries up to the first bad one, and
    it answers whether none of them is bad. -/
def StopsAtFirst (bad : ε → Prop) [DecidablePred bad] (entries : List ε) (act : Traced ε Bool) :
    Prop :=
  ∀ log, act.run log = (decide (∀ entry ∈ entries, ¬ bad entry), log ++ (upTo bad entries).toArray)

/-- The entries come from nothing else, so this is what the walk shows in the end. -/
theorem StopsAtFirst.result_eq {entries : List ε} {act : Traced ε Bool}
    (h : StopsAtFirst bad entries act) :
    result act = (decide (∀ entry ∈ entries, ¬ bad entry), upTo bad entries) := by
  unfold result
  rw [h]
  simp

/-- Nothing to write and nothing bad. -/
theorem StopsAtFirst.pure : StopsAtFirst bad [] (return true) := by
  intro log
  rw [run_pure, upTo]
  simp

/-- One entry, which says whether the walk goes on. -/
theorem StopsAtFirst.enter {entry : ε} {entries : List ε} {goOn : Bool} {act : Traced ε Bool}
    (hentry : goOn = true ↔ ¬ bad entry) (hact : StopsAtFirst bad entries act) :
    StopsAtFirst bad (entry :: entries) (do
      Traced.note entry
      if goOn then act else return false) := by
  intro log
  rw [run_bind, run_note]
  cases goOn with
  | false =>
    have hbad : bad entry := by
      by_contra hgood
      exact Bool.false_ne_true (hentry.mpr hgood)
    have hsome : ¬ ∀ e ∈ entry :: entries, ¬ bad e := by
      intro hall
      exact hall entry List.mem_cons_self hbad
    rw [upTo, if_pos hbad, decide_eq_false hsome, Array.push_eq_append]
    rfl
  | true =>
    have hgood : ¬ bad entry := hentry.mp rfl
    have hall : decide (∀ e ∈ entry :: entries, ¬ bad e) = decide (∀ e ∈ entries, ¬ bad e) := by
      apply decide_eq_decide.mpr
      rw [List.forall_mem_cons]
      exact and_iff_right hgood
    refine (hact _).trans ?_
    rw [upTo, if_neg hgood, hall, Array.push_eq_append, Array.append_assoc,
      List.append_toArray [entry]]
    rfl

/-- A loop that asks for one walk after the other, as long as the answers are positive. -/
theorem StopsAtFirst.allM {walk : α → Traced ε Bool} {entries : α → List ε} {xs : List α}
    (h : ∀ x ∈ xs, StopsAtFirst bad (entries x) (walk x)) :
    StopsAtFirst bad (xs.flatMap entries) (xs.allM walk) := by
  induction xs with
  | nil =>
    intro log
    rw [List.allM, run_pure]
    simp [upTo]
  | cons x xs ih =>
    obtain ⟨hx, hxs⟩ := List.forall_mem_cons.mp h
    intro log
    rw [List.allM, run_bind, hx log, List.flatMap_cons]
    by_cases hnone : ∀ entry ∈ entries x, ¬ bad entry
    · rw [upTo_append_of_none hnone, upTo_eq_self hnone, decide_eq_true hnone]
      have hall : decide (∀ entry ∈ entries x ++ xs.flatMap entries, ¬ bad entry) =
          decide (∀ entry ∈ xs.flatMap entries, ¬ bad entry) := by
        apply decide_eq_decide.mpr
        rw [List.forall_mem_append]
        exact and_iff_right hnone
      refine (ih hxs _).trans ?_
      rw [hall, Array.append_assoc, List.append_toArray (entries x)]
    · rw [upTo_append_of_some hnone, decide_eq_false hnone]
      have hsome : ¬ ∀ entry ∈ entries x ++ xs.flatMap entries, ¬ bad entry := by
        intro hall
        obtain ⟨hleft, -⟩ := List.forall_mem_append.mp hall
        exact hnone hleft
      rw [decide_eq_false hsome]
      rfl

end Traced

/-! ## Rules -/

namespace Rule

variable {options : Options} {rule : Rule}

/-- The kinds that a rule admits are those that may stand where it applies. -/
theorem admits_iff {kind : Kind} : rule.admits kind = true ↔ kind ∈ rule.kinds := by
  cases rule <;> cases kind <;> decide

theorem childRule_eq_ruleBelow (tag : Tag) : tag.childRule = tag.kind.ruleBelow := by
  cases tag <;> rfl

theorem admitsLevel_iff {tag : Tag} {children : Chain Node} :
    options.admitsLevel tag = true ↔
      ¬ (options.checkHeadingLevels = true ∧ (Node.element tag children).HasBadLevel) := by
  rw [Node.hasBadLevel_element]
  cases tag with
  | header level =>
    have hlevel : isHeadingLevel level = true ↔ ¬ (level < 1 ∨ 6 < level) := by
      unfold isHeadingLevel minHeadingLevel maxHeadingLevel
      rw [Bool.and_eq_true, decide_eq_true_iff, decide_eq_true_iff]
      omega
    cases hcheck : options.checkHeadingLevels <;> simp [Options.admitsLevel, hcheck, hlevel]
  | body | div | para | anchor | bold | italic => simp [Options.admitsLevel]

theorem violates_text {content : String} :
    rule.Violates options (.text content) ↔ .text ∉ rule.kinds := by
  simp [Violates, Node.kind]

/-- An element that does not violate its rule is one whose children are gone into. -/
theorem violates_element {tag : Tag} {children : Chain Node} :
    ¬ rule.Violates options (.element tag children) ↔
      (rule.admits tag.kind && options.admitsLevel tag) = true := by
  unfold Violates Node.kind
  rw [not_or, not_not, Bool.and_eq_true, admits_iff, admitsLevel_iff]

@[simp] theorem inForce_text (content : String) :
    rule.inForce (.text content) = [(rule, .text content)] := by
  simp [inForce]

@[simp] theorem inForce_element (tag : Tag) (children : Chain Node) :
    rule.inForce (.element tag children) =
      (rule, .element tag children) ::
        children.toList.flatMap tag.kind.ruleBelow.inForce := by
  simp only [inForce, Node.fold_element, Chain.toList_map, List.map_map, List.flatMap_def]
  rfl

/-- The rules apply to the nodes of the tree, each once and in document order. -/
theorem map_snd_inForce (rule : Rule) (node : Node) :
    (rule.inForce node).map Prod.snd = node.preorder := by
  induction node using Node.induction generalizing rule with
  | text content => simp
  | element tag children ih =>
    rw [inForce_element, Node.preorder_element, List.map_cons, List.map_flatMap,
      ← List.flatMap_def]
    congr 1
    apply List.flatMap_congr
    intro child hmem
    exact ih child hmem tag.kind.ruleBelow

/-- The same list, found by following the positions of the tree. -/
theorem map_inForceAt?_positions (rule : Rule) (node : Node) :
    node.positions.map (fun position => (rule.inForceAt? node position, node.at? position)) =
      (rule.inForce node).map (fun visit => (some visit.1, some visit.2)) := by
  induction node using Node.induction generalizing rule with
  | text content => simp [inForceAt?]
  | element tag children ih =>
    rw [Node.map_positions_element _
        (fun child => (tag.kind.ruleBelow.inForce child).map fun visit =>
          (some visit.1, some visit.2)),
      inForce_element, List.map_cons, List.map_flatMap]
    · simp [inForceAt?]
    · intro index child h
      rw [← ih child (List.mem_of_getElem? h)]
      apply List.map_congr_left
      intro path _
      rw [inForceAt?, Node.at?_cons, Node.child?_element, h]
      rfl

/-- Whatever the tree, the walk of a rule is one that stops at the first violation. -/
theorem walk_stopsAtFirst (options : Options) (rule : Rule) (node : Node) :
    Traced.StopsAtFirst (fun visit => visit.1.Violates options visit.2) (rule.inForce node)
      (rule.walk options (fun rule node => Traced.note (rule, node)) node) := by
  induction node using Node.induction generalizing rule with
  | text content =>
    have hadmits : rule.admits .text = true ↔ ¬ rule.Violates options (.text content) := by
      rw [violates_text, not_not, admits_iff]
    have hwalk : rule.walk options (fun rule node => Traced.note (rule, node)) (.text content) =
        (do
          Traced.note (rule, .text content)
          if rule.admits .text then return true else return false) := by
      rw [walk_text]
      cases rule.admits .text <;> rfl
    rw [hwalk, inForce_text]
    exact .enter hadmits .pure
  | element tag children ih =>
    rw [walk_element, inForce_element, childRule_eq_ruleBelow]
    have hgoOn : (rule.admits tag.kind && options.admitsLevel tag) = true ↔
        ¬ rule.Violates options (.element tag children) := violates_element.symm
    refine .enter hgoOn (.allM ?_)
    intro child hmem
    exact ih child hmem tag.kind.ruleBelow

/-- A tree is accepted exactly if no node of it violates the rule in force there. -/
theorem accepts_iff_forall_inForce {node : Node} :
    rule.accepts options node = true ↔
      ∀ visit ∈ rule.inForce node, ¬ visit.1.Violates options visit.2 := by
  induction node using Node.induction generalizing rule with
  | text content =>
    rw [accepts_text, inForce_text, List.forall_mem_singleton, violates_text, not_not, admits_iff]
  | element tag children ih =>
    rw [accepts_element, Bool.and_eq_true, Chain.all_eq_true, inForce_element,
      List.forall_mem_cons, violates_element, childRule_eq_ruleBelow]
    apply and_congr_right
    intro _
    constructor
    · intro hall visit hmem
      obtain ⟨child, hchild, hvisit⟩ := List.mem_flatMap.mp hmem
      exact (ih child hchild).mp (hall child hchild) visit hvisit
    · intro hall child hchild
      apply (ih child hchild).mpr
      intro visit hvisit
      exact hall visit (List.mem_flatMap.mpr ⟨child, hchild, hvisit⟩)

/-- A rule is applied to the nodes of a tree in document order, at each node as the rule in force
    there, up to and including the first node that violates it; the verdict is positive exactly
    if there is none. The nodes entered stand at the first positions of the tree, all different,
    so no node is entered twice. -/
theorem trace_eq_upTo_violation (options : Option Options) (rule : Rule) (node : Node) :
    (rule.trace (Options.resolve options) node).2 =
        upTo (fun visit => visit.1.Violates (Options.resolve options) visit.2)
          (rule.inForce node) ∧
      (rule.inForce node).map Prod.snd = node.preorder ∧
      ((rule.trace (Options.resolve options) node).1 = true ↔
        ∀ visit ∈ rule.inForce node, ¬ visit.1.Violates (Options.resolve options) visit.2) ∧
      rule.accepts (Options.resolve options) node =
        (rule.trace (Options.resolve options) node).1 ∧
      ∃ places : List Position, places <+: node.positions ∧ places.Nodup ∧
        places.map (fun place => (rule.inForceAt? node place, node.at? place)) =
          (rule.trace (Options.resolve options) node).2.map
            (fun visit => (some visit.1, some visit.2)) := by
  have hresult := (walk_stopsAtFirst (Options.resolve options) rule node).result_eq
  rw [trace, hresult]
  refine ⟨rfl, map_snd_inForce rule node, decide_eq_true_iff, ?_, ?_⟩
  · rw [Bool.eq_iff_iff, accepts_iff_forall_inForce, decide_eq_true_iff]
  · let entered := upTo (fun visit => visit.1.Violates (Options.resolve options) visit.2)
      (rule.inForce node)
    have hprefix : entered <+: rule.inForce node := upTo_prefix _
    refine ⟨node.positions.take entered.length, List.take_prefix _ _,
      (Node.nodup_positions node).sublist (List.take_sublist _ _), ?_⟩
    rw [List.map_take, map_inForceAt?_positions, ← List.map_take,
      ← List.prefix_iff_eq_take.mp hprefix]

end Rule

end Folio
