-- SUMMARY: What is left of a run of calls in a state that only some of them change: what the last of these made of it.

/-!
# The latest call that counts

Some calls of a run count for a part of the state and the others leave that part alone.
What is seen of it after the run is then what the last call that counts made of it, or
what was there before the run (`exists_latest_foldl`).
-/

namespace Folio

variable {σ κ : Type}

/-- The last call that counts, if there is one. -/
inductive Latest (counts : κ → Prop) (calls : List κ) : Option κ → Prop
  | never : (∀ call ∈ calls, ¬ counts call) → Latest counts calls none
  | last (before : List κ) (call : κ) (after : List κ) :
      calls = before ++ call :: after → counts call → (∀ later ∈ after, ¬ counts later) →
      Latest counts calls (some call)

variable {counts : κ → Prop} {calls : List κ} {latest : Option κ} {call : κ}

theorem latest_snoc (calls : List κ) (hcall : counts call) :
    Latest counts (calls ++ [call]) (some call) :=
  .last calls call [] rfl hcall (List.forall_mem_nil _)

theorem Latest.snoc (h : Latest counts calls latest) (hcall : ¬ counts call) :
    Latest counts (calls ++ [call]) latest := by
  have hlast : ∀ later ∈ [call], ¬ counts later := by
    intro later hlater
    rwa [List.mem_singleton.mp hlater]
  cases h with
  | never hnone => exact .never (List.forall_mem_append.mpr ⟨hnone, hlast⟩)
  | last before call after hcalls hcounts hnone =>
    refine .last before call (after ++ [_]) ?_ hcounts (List.forall_mem_append.mpr ⟨hnone, hlast⟩)
    rw [hcalls, List.append_assoc, List.cons_append]

/-- A call that counts makes the state look as it should after this call, and any other call leaves
    how the state looks. -/
theorem exists_latest_foldl {step : σ → κ → σ} {view : Option κ → σ → Prop}
    (hcounts : ∀ state call, counts call → view (some call) (step state call))
    (hother : ∀ state call latest, ¬ counts call → view latest state →
      view latest (step state call))
    {state : σ} (h : Latest counts calls latest) (hview : view latest state) (later : List κ) :
    ∃ latest, Latest counts (calls ++ later) latest ∧ view latest (later.foldl step state) := by
  induction later generalizing calls latest state with
  | nil =>
    rw [List.append_nil]
    exact ⟨latest, h, hview⟩
  | cons call later ih =>
    rw [← List.singleton_append, ← List.append_assoc]
    by_cases hcall : counts call
    · exact ih (latest_snoc calls hcall) (hcounts state call hcall)
    · exact ih (h.snoc hcall) (hother state call latest hcall hview)

end Folio
