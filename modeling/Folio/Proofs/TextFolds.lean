-- SUMMARY: What the folds of the two ways of joining texts come to: every word with its separator, and the same text however the words are grouped.
import Folio.Proofs.FlatJoin
import Folio.Proofs.FoldLaws

/-!
# Folds that join texts

Both ways of putting two texts together (`Folio.Text.Joining`) are used as the step of a
fold over a chain, and the two differ in what they do with a separator.

`joinedBy` writes it whatever the texts are. In a fold the base counts as a text of its own,
so every word has the separator behind it and the base stands at the end
(`fold_joinedBy_words`); the direction of the fold is the order of the words.

`combine` leaves it out beside an empty text, which makes the empty text a unit. As the step
is associative too, it makes no difference whether words are combined one by one or in
groups first (`combine_regroup`). So where the boundaries between groups lie cannot be seen
in the text, and a group without words is as good as none.
-/

namespace Folio

namespace Chain

universe u

variable {α : Type u}

/-- With an associative step that has a unit, folding groups and then what they came to is one fold
    over all elements. -/
theorem foldr_map_foldr (f : α → α → α) (unit : α) [Std.Associative f] [Std.LawfulIdentity f unit]
    (groups : Chain (Chain α)) :
    (groups.map fun group => group.foldr f unit).foldr f unit =
      (groups.toList.flatMap toList).foldr f unit := by
  induction groups with
  | empty => rfl
  | cons group rest ih =>
    let later : α := (rest.toList.flatMap toList).foldr f unit
    have hunit : f unit later = later := Std.LawfulLeftIdentity.left_id later
    calc ((Chain.cons group rest).map fun group => group.foldr f unit).foldr f unit
        = f (group.toList.foldr f unit) later := by rw [map_cons, foldr_cons, ih, foldr_eq]
      _ = group.toList.foldr f (f unit later) := List.foldr_assoc.symm
      _ = group.toList.foldr f later := by rw [hunit]
      _ = ((Chain.cons group rest).toList.flatMap toList).foldr f unit := by
        simp only [later, toList_cons, List.flatMap_cons, List.foldr_append]

end Chain

namespace Text

/-! ## A separator behind every word -/

section

variable (words : Chain String) (separator base : String)

theorem foldr_joinedBy :
    words.foldr (joinedBy separator) base =
      String.join (words.toList.map fun word => word ++ separator) ++ base := by
  induction words with
  | empty => simp
  | cons word rest ih => simp [joinedBy, ih, String.append_assoc]

theorem foldl_joinedBy :
    words.foldl (joinedBy separator) base =
      String.join (words.toList.reverse.map fun word => word ++ separator) ++ base := by
  have hreversed := foldr_joinedBy words.reversed separator base
  rwa [Chain.foldr_reversed, Chain.toList_reversed] at hreversed

/-- A word with its separator is in front of something in any case, if only of the base. -/
theorem join_separated_append (words : List String) :
    String.join (words.map fun word => word ++ separator) ++ base =
      separator.intercalate (words ++ [base]) := by
  induction words with
  | nil => simp
  | cons word rest ih =>
    have hrest : rest ++ [base] ≠ [] := by simp
    simp only [List.map_cons, String.join_cons, List.cons_append,
      String.intercalate_cons_of_ne_nil hrest, ← ih, String.append_assoc]

/-- Joining every word of a chain to what comes after it gives each word once with the separator
    behind it, in order, and then the base; done from the first word on, it gives the words in the
    opposite order. Nothing is left out if words, separator or base are empty. So the base is
    separated from the words just as they are from each other. -/
theorem fold_joinedBy_words :
    words.foldr (joinedBy separator) base =
      String.join (words.toList.map fun word => word ++ separator) ++ base ∧
    words.foldl (joinedBy separator) base =
      String.join (words.toList.reverse.map fun word => word ++ separator) ++ base ∧
    words.foldr (joinedBy separator) base = separator.intercalate (words.toList ++ [base]) ∧
    words.foldl (joinedBy separator) base =
      separator.intercalate (words.toList.reverse ++ [base]) := by
  have hright := foldr_joinedBy words separator base
  have hleft := foldl_joinedBy words separator base
  exact ⟨hright, hleft, hright.trans (join_separated_append separator base _),
    hleft.trans (join_separated_append separator base _)⟩

example : (Chain.ofList ["a", "", "c"]).foldr (joinedBy "-") "" = "a--c-" := by decide

end

/-! ## Grouping makes no difference -/

section

variable {joiner : String}

theorem combine_eq_empty_iff {part rest : String} :
    combine joiner part rest = "" ↔ part = "" ∧ rest = "" := by
  by_cases hpart : part = ""
  · simp [hpart, combine_empty_left]
  by_cases hrest : rest = ""
  · simp [hrest, combine_empty_right]
  simp [combine_of_ne_empty hpart hrest, hpart, hrest]

theorem combine_assoc (a b c : String) :
    combine joiner (combine joiner a b) c = combine joiner a (combine joiner b c) := by
  by_cases ha : a = ""
  · simp only [ha, combine_empty_left]
  by_cases hb : b = ""
  · simp only [hb, combine_empty_left, combine_empty_right]
  by_cases hc : c = ""
  · simp only [hc, combine_empty_right]
  -- No text is left out any more, on either side, so that all the joiner does is append.
  have hab : combine joiner a b ≠ "" := fun h => ha (combine_eq_empty_iff.mp h).1
  have hbc : combine joiner b c ≠ "" := fun h => hb (combine_eq_empty_iff.mp h).1
  rw [combine_of_ne_empty hab hc, combine_of_ne_empty ha hbc]
  simp only [combine_of_ne_empty ha hb, combine_of_ne_empty hb hc, String.append_assoc]

instance : Std.Associative (combine joiner) := ⟨combine_assoc⟩

instance : Std.LawfulIdentity (combine joiner) "" where
  left_id := combine_empty_left
  right_id := combine_empty_right

/-- Combining texts is associative and has the empty text as its unit, and nothing but empty texts
    combines to an empty one. Hence texts that are cut in any way into groups that follow one
    another, groups without texts included, combine group by group to what they combine to one by
    one. -/
theorem combine_regroup (joiner : String) :
    (∀ a b c, combine joiner a (combine joiner b c) = combine joiner (combine joiner a b) c) ∧
    (∀ a, combine joiner a "" = a ∧ combine joiner "" a = a) ∧
    (∀ a b, combine joiner a b = "" ↔ a = "" ∧ b = "") ∧
    ∀ (texts : Chain String) (groups : Chain (Chain String)),
      groups.toList.flatMap Chain.toList = texts.toList →
      (groups.map fun group => group.foldr (combine joiner) "").foldr (combine joiner) "" =
        texts.foldr (combine joiner) "" := by
  refine ⟨fun a b c => (combine_assoc a b c).symm,
    fun a => ⟨combine_empty_right a, combine_empty_left a⟩, fun a b => combine_eq_empty_iff, ?_⟩
  intro texts groups hcut
  rw [Chain.foldr_map_foldr, hcut, Chain.foldr_eq]

/-- Three texts, one of them empty, in groups with empty ones before, between and behind them. -/
def cutTexts : Chain (Chain String) :=
  Chain.ofList [.empty, Chain.ofList ["a"], .empty, Chain.ofList ["", "b"], .empty]

theorem combine_regroup_cut :
    cutTexts.toList.flatMap Chain.toList = (Chain.ofList ["a", "", "b"]).toList ∧
      (cutTexts.map fun group => group.foldr (combine "-") "").foldr (combine "-") "" =
        (Chain.ofList ["a", "", "b"]).foldr (combine "-") "" ∧
      (Chain.ofList ["a", "", "b"]).foldr (combine "-") "" = "a-b" := by
  obtain ⟨-, -, -, hregroup⟩ := combine_regroup "-"
  have hcut : cutTexts.toList.flatMap Chain.toList = (Chain.ofList ["a", "", "b"]).toList := rfl
  exact ⟨hcut, hregroup _ cutTexts hcut, by decide⟩

end

end Text

end Folio
