import Mathlib.Logic.Function.Basic
import Mathlib.Data.List.Basic

/-!
# Two parties and the messages between them

A system of two ends with every message that was sent so far: a message may arrive at any later time,
any number of times, or never.  A chart of such a system names joint phases; each says what the ends
are, and which messages can have been sent.

* `Sys`, `Sys.put`     the ends and the wire, and what one end has done;
* `Chart`, `Chart.At`  the phases, with one of the two sides as the first;
* `At.putFirst`, `At.putSecond`  one end goes on to the next phase;
* `Stage`           how far a request is.
-/

namespace TwoParty

inductive Side where
  | a
  | b
  deriving DecidableEq, Repr

def Side.other : Side → Side
  | .a => .b
  | .b => .a

@[simp] theorem Side.other_other (x : Side) : x.other.other = x := by
  cases x <;> rfl

theorem Side.other_ne (x : Side) : x.other ≠ x := by
  cases x <;> decide

theorem Side.eq_or_other (x y : Side) : y = x ∨ y = x.other := by
  cases x <;> cases y <;> decide

structure Sys (ε μ : Type) where
  ends : Side → ε
  /-- every message that was sent -/
  wire : List μ

/-- the end at `x` has gone to `out.1` and sent `out.2` -/
def Sys.put {ε μ : Type} (w : Sys ε μ) (x : Side) (out : ε × List μ) : Sys ε μ :=
  ⟨Function.update w.ends x out.1, out.2 ++ w.wire⟩

section
variable {ε μ : Type} (w : Sys ε μ) (x : Side) (out : ε × List μ)

theorem Sys.put_self : (w.put x out).ends x = out.1 := by
  show Function.update w.ends x out.1 x = out.1
  rw [Function.update_self]

theorem Sys.put_other : (w.put x out).ends x.other = w.ends x.other := by
  show Function.update w.ends x out.1 x.other = w.ends x.other
  rw [Function.update_of_ne x.other_ne]

/-- the end at `x` when the other one has acted -/
theorem Sys.put_of_other : (w.put x.other out).ends x = w.ends x := by
  show Function.update w.ends x.other out.1 x = w.ends x
  rw [Function.update_of_ne x.other_ne.symm]

variable {w x out} {l l' : List μ}

theorem Sys.put_wire (hw : ∀ m ∈ w.wire, m ∈ l) (hl : ∀ m ∈ l, m ∈ l') (hout : ∀ m ∈ out.2, m ∈ l') :
    ∀ m ∈ (w.put x out).wire, m ∈ l' := by
  intro m hm
  rcases List.mem_append.mp hm with hm | hm
  · exact hout m hm
  · exact hl m (hw m hm)

end

/-! ## charts -/

/-- what the ends are in each phase, with the side that is the first -/
structure Chart (ε μ π : Type) where
  first : Side → π → ε
  second : Side → π → ε
  sent : Side → π → List μ
  fine : Side → π → Prop

section
variable {ε μ π : Type} (C : Chart ε μ π)

/-- the ends are in the phase `p`, with `x` the first side -/
structure Chart.At (w : Sys ε μ) (x : Side) (p : π) : Prop where
  first : w.ends x = C.first x p
  second : w.ends x.other = C.second x p
  wire : ∀ m ∈ w.wire, m ∈ C.sent x p
  fine : C.fine x p

/-- the ends are in some phase -/
def Chart.Phased (w : Sys ε μ) : Prop := ∃ x p, C.At w x p

variable {C} {w : Sys ε μ} {x : Side} {p q : π} {out : ε × List μ}

/-- the same state, with the other side as the first -/
theorem Chart.At.turn (h : C.At w x p) (hfirst : C.first x.other q = C.second x p)
    (hsecond : C.second x.other q = C.first x p) (hsent : ∀ o ∈ C.sent x p, o ∈ C.sent x.other q)
    (hfine : C.fine x.other q) : C.At w x.other q where
  first := h.second.trans hfirst.symm
  second := by
    rw [Side.other_other]
    exact h.first.trans hsecond.symm
  wire := fun o ho => hsent o (h.wire o ho)
  fine := hfine

/-- the first side goes on to the phase `q` -/
theorem Chart.At.putFirst (h : C.At w x p) (hfirst : C.first x q = out.1)
    (hsecond : C.second x q = C.second x p) (hsent : ∀ o ∈ C.sent x p, o ∈ C.sent x q)
    (hout : ∀ o ∈ out.2, o ∈ C.sent x q) (hfine : C.fine x q) : C.At (w.put x out) x q where
  first := by rw [Sys.put_self, hfirst]
  second := by rw [Sys.put_other, h.second, hsecond]
  wire := Sys.put_wire h.wire hsent hout
  fine := hfine

/-- the second side does -/
theorem Chart.At.putSecond (h : C.At w x p) (hsecond : C.second x q = out.1)
    (hfirst : C.first x q = C.first x p) (hsent : ∀ o ∈ C.sent x p, o ∈ C.sent x q)
    (hout : ∀ o ∈ out.2, o ∈ C.sent x q) (hfine : C.fine x q) : C.At (w.put x.other out) x q where
  first := by rw [Sys.put_of_other, h.first, hfirst]
  second := by rw [Sys.put_self, hsecond]
  wire := Sys.put_wire h.wire hsent hout
  fine := hfine

/-- the second side does, and is the first one from now on -/
theorem Chart.At.putTurn (h : C.At w x p) (hfirst : C.first x.other q = out.1)
    (hsecond : C.second x.other q = C.first x p) (hsent : ∀ o ∈ C.sent x p, o ∈ C.sent x.other q)
    (hout : ∀ o ∈ out.2, o ∈ C.sent x.other q) (hfine : C.fine x.other q) :
    C.At (w.put x.other out) x.other q where
  first := by rw [Sys.put_self, hfirst]
  second := by rw [Side.other_other, Sys.put_of_other, h.first, hsecond]
  wire := Sys.put_wire h.wire hsent hout
  fine := hfine

/-- nothing changes at the first side -/
theorem Chart.At.stayFirst (h : C.At w x p) (hout : out = (C.first x p, [])) :
    C.Phased (w.put x out) := by
  refine ⟨x, p, h.putFirst ?_ rfl (fun _ ho => ho) (fun o ho => ?_) h.fine⟩
  · rw [hout]
  · rw [hout] at ho
    cases ho

theorem Chart.At.staySecond (h : C.At w x p) (hout : out = (C.second x p, [])) :
    C.Phased (w.put x.other out) := by
  refine ⟨x, p, h.putSecond ?_ rfl (fun _ ho => ho) (fun o ho => ?_) h.fine⟩
  · rw [hout]
  · rw [hout] at ho
    cases ho

variable (recv : Side → ε → ε × List μ) {z : Side}

/-- what the first side does is known from the phase -/
theorem Chart.At.atFirst (h : C.At w x p) (hz : z = x)
    (hgo : C.Phased (w.put x (recv x (C.first x p)))) :
    C.Phased (w.put z (recv z (w.ends z))) := by
  rw [hz, h.first]
  exact hgo

theorem Chart.At.atSecond (h : C.At w x p) (hz : z = x.other)
    (hgo : C.Phased (w.put x.other (recv x.other (C.second x p)))) :
    C.Phased (w.put z (recv z (w.ends z))) := by
  rw [hz, h.second]
  exact hgo

end

/-! ## one request -/

/-- how far a request is -/
inductive Stage where
  | sent
  | answered
  | ended
  deriving DecidableEq, Repr

namespace Stage

def isAnswered : Stage → Bool
  | .sent => false
  | _ => true

def answer : Stage → Stage
  | .sent => .answered
  | p => p

def finish : Stage → Stage
  | .sent => .sent
  | _ => .ended

/-- the response `m` -/
def replies {μ : Type} (p : Stage) (m : μ) : List μ := if p.isAnswered then [m] else []

variable {μ : Type} {d : Stage} {m o : μ}

theorem of_mem_replies (h : o ∈ d.replies m) : o = m ∧ d.isAnswered = true := by
  unfold Stage.replies at h
  split at h
  · next hd => exact ⟨List.mem_singleton.mp h, hd⟩
  · cases h

theorem replies_answer (h : o ∈ d.replies m) : o ∈ d.answer.replies m := by
  cases d with
  | sent => cases h
  | answered => exact h
  | ended => exact h

theorem replies_finish (h : o ∈ d.replies m) : o ∈ d.finish.replies m := by
  cases d with
  | sent => cases h
  | answered => exact h
  | ended => exact h

/-- what the request is answered with when it comes -/
def fresh (d : Stage) (m : μ) : List μ := if d.isAnswered then [] else [m]

theorem replies_fresh (h : o ∈ d.fresh m) : o ∈ d.answer.replies m := by
  cases d with
  | sent => exact h
  | answered => cases h
  | ended => cases h

variable {l : List μ}

theorem append_answer (h : o ∈ l ++ d.replies m) : o ∈ l ++ d.answer.replies m :=
  (List.mem_append.mp h).elim (List.mem_append_left _)
    fun h => List.mem_append_right _ (replies_answer h)

theorem append_finish (h : o ∈ l ++ d.replies m) : o ∈ l ++ d.finish.replies m :=
  (List.mem_append.mp h).elim (List.mem_append_left _)
    fun h => List.mem_append_right _ (replies_finish h)

end Stage

end TwoParty
