import Mathlib.Data.Finset.Card
import Mathlib.Data.List.Count

/-!
# Collecting a finite set

A collector wants every element of a finite set.  Elements arrive in any order and any number of
times, with other things (`none`) between them; when the set is complete the collector reports it and
starts anew.

* `run all seen as`     the reports of a run, one for each arrival;
* `count_run_le`        no more reports than arrivals of any one element;
* `report_of_all`       a report, if everything arrives.
-/

namespace Collect

variable {α : Type} [DecidableEq α] (all : Finset α)

def one (seen : Finset α) : Option α → Finset α × Bool
  | none => (seen, false)
  | some x => if insert x seen = all then (∅, true) else (insert x seen, false)

def run : Finset α → List (Option α) → List Bool
  | _, [] => []
  | seen, a :: as => (one all seen a).2 :: run (one all seen a).1 as

variable {all} {seen : Finset α} {x : α}

theorem run_none (as : List (Option α)) : run all seen (none :: as) = false :: run all seen as := rfl

theorem run_complete (h : insert x seen = all) (as : List (Option α)) :
    run all seen (some x :: as) = true :: run all ∅ as := by
  have hone : one all seen (some x) = (∅, true) := if_pos h
  rw [run, hone]

theorem run_open (h : insert x seen ≠ all) (as : List (Option α)) :
    run all seen (some x :: as) = false :: run all (insert x seen) as := by
  have hone : one all seen (some x) = (insert x seen, false) := if_neg h
  rw [run, hone]

/-- the collector is never at rest with everything seen -/
theorem one_open (hx : x ∈ all) (hsub : seen ⊆ all) :
    (one all seen (some x)).1 ⊆ all ∧ (one all seen (some x)).1 ≠ all := by
  by_cases h : insert x seen = all
  · have hone : one all seen (some x) = (∅, true) := if_pos h
    rw [hone]
    exact ⟨Finset.empty_subset all, (Finset.ne_empty_of_mem hx).symm⟩
  · have hone : one all seen (some x) = (insert x seen, false) := if_neg h
    rw [hone]
    exact ⟨Finset.insert_subset hx hsub, h⟩

theorem count_run_le (hx : x ∈ all) (as : List (Option α)) : ∀ seen,
    (run all seen as).count true ≤ as.count (some x) + if x ∈ seen then 1 else 0 := by
  induction as with
  | nil =>
    intro seen
    exact Nat.zero_le _
  | cons a as ih =>
    intro seen
    cases a with
    | none =>
      have hrest := ih seen
      rw [List.count_cons_of_ne (by simp)]
      rw [run_none, List.count_cons_of_ne (by simp)]
      exact hrest
    | some y =>
      by_cases hall : insert y seen = all
      · have hrest := ih ∅
        rw [if_neg (Finset.notMem_empty x)] at hrest
        rw [run_complete hall, List.count_cons_self, List.count_cons]
        -- the element is the new one, or was there
        rcases Finset.mem_insert.mp (hall.symm ▸ hx) with rfl | hin
        · rw [if_pos (by simp)]
          omega
        · rw [if_pos hin]
          omega
      · have hrest := ih (insert y seen)
        rw [run_open hall, List.count_cons_of_ne (by simp), List.count_cons]
        by_cases hyx : y = x
        · rw [if_pos (by simp [hyx])]
          split at hrest <;> omega
        · have hiff : x ∈ insert y seen ↔ x ∈ seen := by
            rw [Finset.mem_insert]
            exact ⟨fun h => h.resolve_left fun heq => hyx heq.symm, .inr⟩
          rw [if_congr hiff rfl rfl] at hrest
          omega

theorem report_of_all (as : List (Option α)) (hin : ∀ y, some y ∈ as → y ∈ all) : ∀ seen,
    seen ⊆ all → seen ≠ all → (∀ x ∈ all, x ∈ seen ∨ some x ∈ as) → true ∈ run all seen as := by
  induction as with
  | nil =>
    intro seen hsub hne hall
    refine absurd (Finset.Subset.antisymm hsub fun x hx => ?_) hne
    exact (hall x hx).resolve_right List.not_mem_nil
  | cons a as ih =>
    intro seen hsub hne hall
    have hrest := ih fun y hy => hin y (List.mem_cons_of_mem _ hy)
    cases a with
    | none =>
      rw [run_none]
      refine List.mem_cons_of_mem _ (hrest seen hsub hne fun x hx => ?_)
      exact (hall x hx).imp_right fun hmem => (List.mem_cons.mp hmem).resolve_left (by simp)
    | some y =>
      by_cases hcomplete : insert y seen = all
      · rw [run_complete hcomplete]
        exact List.mem_cons_self
      · rw [run_open hcomplete]
        refine List.mem_cons_of_mem _ (hrest _ ?_ hcomplete fun x hx => ?_)
        · exact Finset.insert_subset (hin y List.mem_cons_self) hsub
        · rcases hall x hx with hseen | hmem
          · exact .inl (Finset.mem_insert_of_mem hseen)
          · rcases List.mem_cons.mp hmem with heq | hmem
            · rw [Option.some.inj heq]
              exact .inl (Finset.mem_insert_self _ _)
            · exact .inr hmem

end Collect
