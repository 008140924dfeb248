import Mathlib.Data.List.Basic

/-!
# Counting in fixed windows

A limiter admits `max` events in a window of `period`.  The window starts with the first event that
it admits, and the next one with the first event after its end.

* `Limiter.accept`      one event;
* `Trace.step`         events, with the times of those that were admitted, the last one first;
* `Grouped`            the admitted times by windows;
* `admitted_bounded`   no interval of the length of the period has more than `2 * max - 1` of them.
-/

namespace FixedWindow

/-! ## the limiter -/

structure Limiter where
  count : Int
  window : Int
  deriving DecidableEq, Repr

/-- the window of an event -/
def Limiter.roll (period now : Int) (l : Limiter) : Limiter :=
  if l.count = 0 ∨ now < l.window ∨ period ≤ now - l.window then ⟨0, now⟩ else l

def Limiter.accept (max period now : Int) (l : Limiter) : Bool × Limiter :=
  if max ≤ (l.roll period now).count then (false, l.roll period now)
  else (true, { l.roll period now with count := (l.roll period now).count + 1 })

structure Trace where
  limiter : Limiter
  admitted : List Int

def Trace.step (max period : Int) (s : Trace) (now : Int) : Trace :=
  { limiter := (s.limiter.accept max period now).2
    admitted := if (s.limiter.accept max period now).1 then now :: s.admitted else s.admitted }

/-! ## windows -/

/-- the times of a window: `start` is the first, `later` the others, the last one first -/
structure Group where
  start : Int
  later : List Int

def Group.times (g : Group) : List Int := g.later ++ [g.start]

/-- windows, the last one first -/
def Grouped (max period : Int) : List Group → Prop
  | [] => True
  | g :: gs => (g.later.length : Int) + 1 ≤ max ∧ (∀ g' ∈ gs.head?, g'.start + period ≤ g.start)
      ∧ Grouped max period gs

/-- the limiter counts the last window -/
def Current (l : Limiter) : List Group → Prop
  | [] => l.count = 0
  | g :: _ => l.count = g.later.length + 1 ∧ l.window = g.start

/-- times that do not go backwards fall into windows -/
def TraceInv (max period : Int) (s : Trace) : Prop :=
  s.admitted.Pairwise (· ≥ ·) →
    ∃ groups, s.admitted = groups.flatMap Group.times ∧ Grouped max period groups
      ∧ Current s.limiter groups

variable {max period now a : Int} {s : Trace} {g : Group} {gs : List Group}

theorem start_mem (g : Group) (gs : List Group) : g.start ∈ (g :: gs).flatMap Group.times := by
  rw [List.flatMap_cons]
  exact List.mem_append_left _ (List.mem_append_right _ (List.mem_singleton_self _))

/-- a time that opens a window -/
theorem accept_opens (hroll : s.limiter.roll period now = ⟨0, now⟩) (hmax : 0 < max) :
    s.limiter.accept max period now = (true, ⟨1, now⟩) := by
  unfold Limiter.accept
  rw [hroll, if_neg (Int.not_le.mpr hmax)]
  rfl

theorem accept_stays (hroll : s.limiter.roll period now = s.limiter) (hlt : s.limiter.count < max) :
    s.limiter.accept max period now = (true, { s.limiter with count := s.limiter.count + 1 }) := by
  unfold Limiter.accept
  rw [hroll, if_neg (Int.not_le.mpr hlt)]

theorem accept_refuses (hle : max ≤ (s.limiter.roll period now).count) :
    s.limiter.accept max period now = (false, s.limiter.roll period now) := by
  unfold Limiter.accept
  rw [if_pos hle]

/-- one event -/
theorem trace_step (h : TraceInv max period s) (now : Int) : TraceInv max period (s.step max period now) := by
  by_cases hrefuse : max ≤ (s.limiter.roll period now).count
  · -- nothing is admitted, and a window in use is not given up
    unfold Trace.step TraceInv
    rw [accept_refuses hrefuse]
    intro hsorted
    obtain ⟨groups, hadm, hgrouped, hcur⟩ := h hsorted
    refine ⟨groups, hadm, hgrouped, ?_⟩
    unfold Limiter.roll at hrefuse ⊢
    split at hrefuse
    · next hroll =>
      rw [if_pos hroll]
      cases groups with
      | nil => rfl
      | cons g gs =>
        have hpos := hgrouped.1
        have hmax : max ≤ 0 := hrefuse
        omega
    · next hroll =>
      rw [if_neg hroll]
      exact hcur
  · unfold TraceInv
    have hpass : (s.limiter.accept max period now).1 = true := by
      unfold Limiter.accept
      rw [if_neg hrefuse]
    have hadmitted : (s.step max period now).admitted = now :: s.admitted := if_pos hpass
    rw [hadmitted]
    intro hsorted
    obtain ⟨hlast, hsorted⟩ := List.pairwise_cons.mp hsorted
    obtain ⟨groups, hadm, hgrouped, hcur⟩ := h hsorted
    by_cases hroll : s.limiter.count = 0 ∨ now < s.limiter.window ∨ period ≤ now - s.limiter.window
    · -- a new window: the clock did not go back, so the old one is over
      have hrolled : s.limiter.roll period now = ⟨0, now⟩ := if_pos hroll
      have hmax : 0 < max := by
        rw [hrolled] at hrefuse
        exact Int.not_le.mp hrefuse
      refine ⟨⟨now, []⟩ :: groups, ?_, ⟨?_, ?_, hgrouped⟩, ?_⟩
      · rw [hadm]
        rfl
      · show (0 : Int) + 1 ≤ max
        omega
      · intro g hg
        cases groups with
        | nil => cases hg
        | cons g' gs =>
          obtain rfl := Option.some.inj hg
          have hge : now ≥ g'.start := hlast g'.start (hadm ▸ start_mem g' gs)
          obtain ⟨hcount, hwindow⟩ := hcur
          rw [hcount, hwindow] at hroll
          show g'.start + period ≤ now
          omega
      · show Current (s.limiter.accept max period now).2 _
        rw [accept_opens hrolled hmax]
        exact ⟨rfl, rfl⟩
    · -- one more in the window
      have hrolled : s.limiter.roll period now = s.limiter := if_neg hroll
      rw [hrolled] at hrefuse
      have hlt := Int.not_le.mp hrefuse
      rw [not_or] at hroll
      cases groups with
      | nil => exact absurd hcur hroll.1
      | cons g gs =>
        obtain ⟨hcount, hwindow⟩ := hcur
        refine ⟨⟨g.start, now :: g.later⟩ :: gs, ?_, ⟨?_, hgrouped.2⟩, ?_⟩
        · rw [hadm]
          rfl
        · show ((g.later.length + 1 : Nat) : Int) + 1 ≤ max
          omega
        · show Current (s.limiter.accept max period now).2 _
          rw [accept_stays hrolled hlt]
          refine ⟨?_, hwindow⟩
          show s.limiter.count + 1 = ((g.later.length + 1 : Nat) : Int) + 1
          omega

/-! ## intervals -/

/-- the times of an interval of the length of the period -/
def inInterval (a period : Int) (t : Int) : Bool := decide (a ≤ t) && decide (t < a + period)

theorem inInterval_iff {t : Int} : inInterval a period t = true ↔ a ≤ t ∧ t < a + period := by
  unfold inInterval
  rw [Bool.and_eq_true, decide_eq_true_iff, decide_eq_true_iff]

theorem countP_eq_zero_of {l : List Int} (h : ∀ t ∈ l, ¬(a ≤ t ∧ t < a + period)) :
    l.countP (inInterval a period) = 0 :=
  List.countP_eq_zero.mpr fun t ht hin => h t ht (inInterval_iff.mp hin)

theorem countP_group_le (g : Group) : g.times.countP (inInterval a period) ≤ g.later.length + 1 := by
  have hlen : g.times.length = g.later.length + 1 := by
    unfold Group.times
    rw [List.length_append, List.length_singleton]
  rw [← hlen]
  exact List.countP_le_length

/-- the start of a window is before the interval, and so is all that is before the window -/
theorem countP_started (hg : Grouped max period (g :: gs))
    (hsorted : ((g :: gs).flatMap Group.times).Pairwise (· ≥ ·)) (hstart : g.start < a) :
    (((g :: gs).flatMap Group.times).countP (inInterval a period) : Int) ≤ max - 1 := by
  have hlen := hg.1
  have hfirst : [g.start].countP (inInterval a period) = 0 := by
    refine countP_eq_zero_of fun t ht hin => ?_
    rw [List.mem_singleton.mp ht] at hin
    omega
  have hrest : (gs.flatMap Group.times).countP (inInterval a period) = 0 := by
    refine countP_eq_zero_of fun t ht hin => ?_
    rw [List.flatMap_cons, List.pairwise_append] at hsorted
    have hle : g.start ≥ t :=
      hsorted.2.2 g.start (List.mem_append_right _ (List.mem_singleton_self _)) t ht
    omega
  have hlater : g.later.countP (inInterval a period) ≤ g.later.length := List.countP_le_length
  rw [List.flatMap_cons, List.countP_append, hrest, Group.times, List.countP_append, hfirst]
  omega

theorem grouped_bounded (hmax : 0 < max) : ∀ groups : List Group, Grouped max period groups →
    (groups.flatMap Group.times).Pairwise (· ≥ ·) →
    ((groups.flatMap Group.times).countP (inInterval a period) : Int) ≤ 2 * max - 1 := by
  intro groups
  induction groups with
  | nil =>
    intro _ _
    show (0 : Int) ≤ 2 * max - 1
    omega
  | cons g gs ih =>
    intro hg hsorted
    have happ := hsorted
    rw [List.flatMap_cons, List.pairwise_append] at happ
    obtain ⟨hgsorted, hgssorted, -⟩ := happ
    by_cases hbefore : g.start < a
    · have := countP_started hg hsorted hbefore
      omega
    by_cases hafter : a + period ≤ g.start
    · -- the whole window is behind the interval
      have hzero : g.times.countP (inInterval a period) = 0 := by
        refine countP_eq_zero_of fun t ht hin => ?_
        have hge : t ≥ g.start := by
          rcases List.mem_append.mp ht with ht | ht
          · exact (List.pairwise_append.mp hgsorted).2.2 t ht g.start (List.mem_singleton_self _)
          · exact Int.le_of_eq (List.mem_singleton.mp ht).symm
        omega
      rw [List.flatMap_cons, List.countP_append, hzero, Nat.zero_add]
      exact ih hg.2.2 hgssorted
    · -- it starts in the interval, so the window before it started earlier
      have hlen := hg.1
      have hwin : g.times.countP (inInterval a period) ≤ g.later.length + 1 := countP_group_le g
      have hrest : ((gs.flatMap Group.times).countP (inInterval a period) : Int) ≤ max - 1 := by
        cases gs with
        | nil =>
          show (0 : Int) ≤ max - 1
          omega
        | cons g' gs =>
          have hspace := hg.2.1 g' rfl
          exact countP_started hg.2.2 hgssorted (by omega)
      rw [List.flatMap_cons, List.countP_append]
      omega

/-- admitted times that do not go backwards: at most `2 * max - 1` in an interval -/
theorem admitted_bounded (h : TraceInv max period s) (hsorted : s.admitted.Pairwise (· ≥ ·)) (a : Int) :
    s.admitted.countP (inInterval a period) ≤ 2 * max.toNat - 1 := by
  obtain ⟨groups, hadm, hgrouped, -⟩ := h hsorted
  rw [hadm] at hsorted ⊢
  cases groups with
  | nil => exact Nat.zero_le _
  | cons g gs =>
    have hmax : 0 < max := by
      have := hgrouped.1
      omega
    have hle := grouped_bounded (a := a) hmax (g :: gs) hgrouped hsorted
    omega

/-- five events of a window at its end, and five of the next one: nine within one second -/
example : (([0, 299, 299, 299, 299, 300, 300, 300, 300, 300].foldl (Trace.step 5 300) ⟨⟨0, 0⟩, []⟩).admitted.countP
    (inInterval 299 300)) = 9 := by decide

end FixedWindow
