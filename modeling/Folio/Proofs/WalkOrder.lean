-- SUMMARY: Counting, measuring and reading a tree enter each of its nodes once, in document order.
import Folio.Node.Content
import Folio.Node.Measure
import Folio.Proofs.NodeCount

/-!
# The order of the walks

Counting the nodes of a tree, measuring its depth and reading its text are three walks
that put their results together in different ways: by adding up from the first child
on, by a maximum from the first child on, and from the last child back. None of this
shows in what they do on the way: each enters the nodes of the tree in document order,
every place once (`trace_eq_preorder`).

`Visits` says this of an action at any monad: it is no more than entering some nodes,
one after the other, and then answering. The rules for `Visits` follow the ways in
which the walks are put together, with one rule for each kind of loop.
-/

namespace Folio

universe u

/-! ## Entering and answering -/

section Visits

variable {m : Type → Type u} [Monad m] {enter : Node → m Unit} {α β γ : Type}

/-- The action enters these nodes, one after the other, and then gives this answer. -/
def Visits (enter : Node → m Unit) (nodes : List Node) (answer : α) (act : m α) : Prop :=
  act = do
    forM nodes enter
    return answer

namespace Visits

variable [LawfulMonad m] {nodes later : List Node} {answer : α} {act : m α}

theorem pure (answer : α) : Visits enter [] answer (return answer) := by
  unfold Visits
  rw [List.forM_nil, pure_bind]

theorem cons (node : Node) (h : Visits enter nodes answer act) :
    Visits enter (node :: nodes) answer (do enter node; act) := by
  unfold Visits at h ⊢
  rw [h, List.forM_cons, bind_assoc]

theorem bind {next : α → m β} {final : β} (h : Visits enter nodes answer act)
    (hnext : Visits enter later final (next answer)) :
    Visits enter (nodes ++ later) final (act >>= next) := by
  unfold Visits at h hnext ⊢
  rw [h, bind_assoc, pure_bind, hnext, List.forM_append, bind_assoc]

/-- Another answer, made of the one that the action gives. -/
theorem map (f : α → β) (h : Visits enter nodes answer act) :
    Visits enter nodes (f answer) (do return f (← act)) := by
  have hanswer : Visits enter (nodes ++ []) (f answer) (do return f (← act)) :=
    h.bind (.pure (f answer))
  rw [List.append_nil] at hanswer
  exact hanswer

variable {walk : γ → m α} {below : γ → List Node} {value : γ → α} {xs : List γ}

/-- A loop that puts the answer of each walk together with what came before. -/
theorem foldlM (op : β → α → β) (base : β)
    (h : ∀ x ∈ xs, Visits enter (below x) (value x) (walk x)) :
    Visits enter (xs.flatMap below) (xs.foldl (fun acc x => op acc (value x)) base)
      ((xs.map walk).foldlM (fun acc act => do return op acc (← act)) base) := by
  induction xs generalizing base with
  | nil => exact .pure base
  | cons x xs ih =>
    obtain ⟨hx, hxs⟩ := List.forall_mem_cons.mp h
    rw [List.map_cons, List.foldlM_cons, List.flatMap_cons, List.foldl_cons]
    exact (hx.map (op base)).bind (ih (op base (value x)) hxs)

/-- A loop that keeps the answer of each walk. -/
theorem mapM (h : ∀ x ∈ xs, Visits enter (below x) (value x) (walk x)) :
    Visits enter (xs.flatMap below) (xs.map value) ((xs.map walk).mapM id) := by
  induction xs with
  | nil => exact .pure []
  | cons x xs ih =>
    obtain ⟨hx, hxs⟩ := List.forall_mem_cons.mp h
    rw [List.flatMap_cons, List.map_cons, List.map_cons, List.mapM_cons]
    exact hx.bind ((ih hxs).map (value x :: ·))

end Visits

end Visits

/-! ## What a trace shows of a visit -/

namespace Traced

theorem run_forM_note {ε : Type} (entries : List ε) (log : Array ε) :
    (forM entries note : Traced ε Unit).run log = ((), log ++ entries.toArray) := by
  induction entries generalizing log with
  | nil =>
    rw [List.forM_nil, run_pure, Array.append_empty]
  | cons entry entries ih =>
    rw [List.forM_cons, run_bind, run_note, ih, Array.push_eq_append, Array.append_assoc,
      List.append_toArray [entry]]
    rfl

theorem result_of_visits {α : Type} {nodes : List Node} {answer : α} {act : Traced Node α}
    (h : Visits note nodes answer act) : result act = (answer, nodes) := by
  unfold Visits at h
  unfold result
  rw [h, run_bind, run_forM_note, run_pure]
  simp

end Traced

/-! ## The three walks -/

namespace Node

variable {m : Type → Type u} [Monad m] [LawfulMonad m] (enter : Node → m Unit)

theorem visits_countWith (node : Node) :
    Visits enter node.preorder node.count (node.countWith enter) := by
  induction node using Node.induction with
  | text content =>
    rw [countWith, fold_text, preorder_text, count_text]
    exact .cons _ (.pure 1)
  | element tag children ih =>
    rw [countWith, fold_element, preorder_element, ← List.flatMap_def, count_element,
      Chain.foldlM, Chain.toList_map]
    exact .cons _ (.foldlM (fun total count => total + count) 1 ih)

theorem visits_depthWith (node : Node) :
    Visits enter node.preorder node.depth (node.depthWith enter) := by
  induction node using Node.induction with
  | text content =>
    rw [depthWith, fold_text, preorder_text, depth_text]
    exact .cons _ (.pure 1)
  | element tag children ih =>
    rw [depthWith, fold_element, preorder_element, ← List.flatMap_def, depth_element,
      Chain.foldlM, Chain.toList_map]
    exact .cons _ ((Visits.foldlM (fun deepest depth => max deepest depth) 0 ih).map (1 + ·))

theorem visits_contentWith (joiner : String) (node : Node) :
    Visits enter node.preorder (node.content joiner) (node.contentWith joiner enter) := by
  induction node using Node.induction with
  | text content =>
    rw [contentWith, fold_text, preorder_text, content_text]
    exact .cons _ (.pure content)
  | element tag children ih =>
    rw [contentWith, fold_element, preorder_element, ← List.flatMap_def, content_element,
      Chain.mapM, Chain.toList_map, map_eq_pure_bind]
    -- All texts are there before any two are combined, so combining them enters nothing.
    have htexts := (Visits.mapM ih).map Chain.ofList
    exact .cons _ (htexts.map fun texts => texts.foldr (Text.combine joiner) "")

/-- The three walks enter the nodes of a tree in document order, as many as there are to count, and
    answer what they answer without a record. The nodes stand at the positions of the tree: each
    position is entered once, before those below it and before those to the right of it. -/
theorem trace_eq_preorder (node : Node) (joiner : String) :
    node.countTrace = (node.count, node.preorder) ∧
      node.depthTrace = (node.depth, node.preorder) ∧
      node.contentTrace joiner = (node.content joiner, node.preorder) ∧
      node.preorder.length = node.count ∧
      node.positions.map node.at? = node.preorder.map some ∧
      (∀ path, path ∈ node.positions ↔ ∃ found, node.at? path = some found) ∧
      node.positions.Pairwise (List.Lex (· < ·)) := by
  refine ⟨?_, ?_, ?_, length_preorder node, map_at?_positions node, fun _ => mem_positions_iff,
    pairwise_lex_positions node⟩
  · exact Traced.result_of_visits (visits_countWith Traced.note node)
  · exact Traced.result_of_visits (visits_depthWith Traced.note node)
  · exact Traced.result_of_visits (visits_contentWith Traced.note joiner node)

end Node

end Folio
