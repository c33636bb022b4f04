-- SUMMARY: Cutting text at every occurrence of a character.

/-!
# Splitting

`splitAt separator s` gives the parts of a text between the separators, empty
parts included: one part more than there are separators, none of which holds the
separator.
-/

namespace Folio.Text

/-- Puts a character in front of the first part. -/
def consFirst (c : Char) : List (List Char) → List (List Char)
  | [] => [[c]]
  | part :: parts => (c :: part) :: parts

def splitAt (separator : Char) (s : List Char) : List (List Char) :=
  s.foldr (fun c parts => if c = separator then [] :: parts else consFirst c parts) [[]]

@[simp] theorem splitAt_nil (separator : Char) : splitAt separator [] = [[]] := rfl

theorem splitAt_cons (separator c : Char) (s : List Char) :
    splitAt separator (c :: s) =
      if c = separator then [] :: splitAt separator s else consFirst c (splitAt separator s) := rfl

theorem consFirst_of_ne_nil {parts : List (List Char)} (h : parts ≠ []) (c : Char) :
    consFirst c parts = parts.modifyHead (c :: ·) := by
  cases parts with
  | nil => exact absurd rfl h
  | cons part parts => rfl

/-- Text is cut as any list is cut at an element. -/
theorem splitAt_eq_splitOn (separator : Char) (s : List Char) :
    splitAt separator s = s.splitOn separator := by
  induction s with
  | nil => rfl
  | cons c s ih =>
    have hparts : s.splitOn separator ≠ [] := List.splitOn_ne_nil separator s
    rw [splitAt_cons, List.splitOn_cons_eq_if_modifyHead, ih, consFirst_of_ne_nil hparts]
    simp only [beq_iff_eq]

end Folio.Text
