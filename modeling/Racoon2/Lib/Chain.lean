import Mathlib.Data.List.Induction
import Mathlib.Data.List.Nodup
import Mathlib.Logic.Function.Basic

/-!
# Linked lists and pointers to links

A singly linked list is a head pointer and the `next` field of each cell that is allocated.  A *place*
is where a pointer is kept: the head variable (`none`), or the `next` field of a cell.  A loop that
unlinks cells walks with a place, and writes through it.

* `Cells.Holds c l`    the cells of `l`, in this order and each once, are the list;
* `Holds.push`         a new cell in front;
* `Holds.seg_place`    what stands behind the place after a part of the list;
* `Holds.remove`       the cell behind that place goes;
* `follow_seg`          the list read from its cells.
-/

set_option linter.unusedSectionVars false

namespace Chain

variable {ι : Type} [DecidableEq ι]

structure Cells (ι : Type) where
  head : Option ι
  next : ι → Option (Option ι)

namespace Cells

/-- the pointer at a place -/
def deref (c : Cells ι) : Option ι → Option ι
  | none => c.head
  | some i => (c.next i).join

def assign (c : Cells ι) (place : Option ι) (p : Option ι) : Cells ι :=
  match place with
  | none => { c with head := p }
  | some i => { c with next := Function.update c.next i (some p) }

def push (c : Cells ι) (i : ι) : Cells ι := ⟨some i, Function.update c.next i (some c.head)⟩

def free (c : Cells ι) (i : ι) : Cells ι := { c with next := Function.update c.next i none }

end Cells

/-- the cells from a pointer on -/
def Seg (next : ι → Option (Option ι)) : Option ι → List ι → Prop
  | p, [] => p = none
  | p, i :: l => p = some i ∧ ∃ q, next i = some q ∧ Seg next q l

def Cells.Holds (c : Cells ι) (l : List ι) : Prop := Seg c.next c.head l ∧ l.Nodup

/-- at most `n` cells from a pointer on -/
def follow (next : ι → Option (Option ι)) : Nat → Option ι → List ι
  | 0, _ => []
  | _, none => []
  | n + 1, some i => i :: follow next n (next i).join

variable {next next' : ι → Option (Option ι)} {p q : Option ι} {i : ι} {a b l : List ι} {c : Cells ι}

theorem Seg.frame (h : Seg next p l) (hsame : ∀ i ∈ l, next' i = next i) : Seg next' p l := by
  induction l generalizing p with
  | nil => exact h
  | cons i l ih =>
    obtain ⟨hp, q, hq, hl⟩ := h
    refine ⟨hp, q, ?_, ih hl fun j hj => hsame j (List.mem_cons_of_mem i hj)⟩
    rw [hsame i List.mem_cons_self, hq]

theorem Seg.update (h : Seg next p l) (hi : i ∉ l) (v : Option (Option ι)) :
    Seg (Function.update next i v) p l := by
  apply h.frame
  intro j hj
  have hne : j ≠ i := by
    rintro rfl
    exact hi hj
  exact Function.update_of_ne hne v next

theorem follow_seg (h : Seg next p l) (n : Nat) (hn : l.length ≤ n) : follow next n p = l := by
  induction l generalizing p n with
  | nil =>
    rw [show p = none from h]
    cases n <;> rfl
  | cons i l ih =>
    obtain ⟨rfl, q, hq, hl⟩ := h
    cases n with
    | zero => cases hn
    | succ n =>
      show i :: follow next n (next i).join = i :: l
      rw [hq, Option.join_some, ih hl n (Nat.le_of_succ_le_succ hn)]

/-- the list after the cell `i` is exchanged -/
theorem Seg.reroute (h : Seg next p (a ++ i :: l)) (hsame : ∀ j ∈ a, next' j = next j)
    (hi : next' i = some q) (hb : Seg next' q b) : Seg next' p (a ++ i :: b) := by
  induction a generalizing p with
  | nil => exact ⟨h.1, q, hi, hb⟩
  | cons j a ih =>
    obtain ⟨hp, r, hr, hl⟩ := h
    refine ⟨hp, r, ?_, ih hl fun k hk => hsame k (List.mem_cons_of_mem j hk)⟩
    rw [hsame j List.mem_cons_self, hr]

theorem Seg.after (h : Seg next p (a ++ i :: b)) : ∃ q, next i = some q ∧ Seg next q b := by
  induction a generalizing p with
  | nil => exact h.2
  | cons j a ih =>
    obtain ⟨-, r, -, hl⟩ := h
    exact ih hl

namespace Cells.Holds

theorem push (h : c.Holds l) (hi : i ∉ l) : (c.push i).Holds (i :: l) :=
  ⟨⟨rfl, c.head, Function.update_self i _ _, h.1.update hi _⟩, List.nodup_cons.mpr ⟨hi, h.2⟩⟩

/-- the place after `a` leads to what follows it -/
theorem seg_place (h : c.Holds (a ++ b)) : Seg c.next (c.deref a.getLast?) b := by
  cases a using List.reverseRecOn with
  | nil => exact h.1
  | append_singleton a i =>
    have hseg := h.1
    rw [List.append_assoc] at hseg
    obtain ⟨q, hq, hb⟩ := hseg.after
    rw [List.getLast?_concat]
    show Seg c.next (c.next i).join b
    rw [hq]
    exact hb

/-- the cell behind the place after `a` goes -/
theorem remove (h : c.Holds (a ++ i :: b)) :
    ((c.assign a.getLast? (c.deref (some i))).free i).Holds (a ++ b) := by
  have hnodup : (a ++ b).Nodup :=
    h.2.sublist ((List.Sublist.refl a).append (List.sublist_cons_self i b))
  have hi := (List.nodup_middle.mp h.2)
  have hib : i ∉ a ++ b := (List.nodup_cons.mp hi).1
  obtain ⟨q, hq, hb⟩ := h.1.after
  have hd : c.deref (some i) = q := by
    show (c.next i).join = q
    rw [hq, Option.join_some]
  refine ⟨?_, hnodup⟩
  rw [hd]
  cases a using List.reverseRecOn with
  | nil => exact hb.update hib none
  | append_singleton a j =>
    rw [List.getLast?_concat]
    have hseg : Seg c.next c.head (a ++ j :: i :: b) := by
      have h1 := h.1
      rwa [List.append_assoc] at h1
    have hnd : (a ++ j :: b).Nodup := by rwa [List.append_assoc] at hnodup
    have hj := (List.nodup_cons.mp (List.nodup_middle.mp hnd)).1
    have hjb : j ∉ b := fun hm => hj (List.mem_append_right a hm)
    have hja : j ∉ a := fun hm => hj (List.mem_append_left b hm)
    have hsame : ∀ k ∈ a, Function.update c.next j (some q) k = c.next k := by
      intro k hk
      have hne : k ≠ j := by
        rintro rfl
        exact hja hk
      exact Function.update_of_ne hne _ _
    have hr : Seg (Function.update c.next j (some q)) c.head (a ++ j :: b) :=
      hseg.reroute hsame (Function.update_self j _ _) (hb.update hjb _)
    rw [List.append_assoc]
    apply hr.update
    rw [List.append_assoc] at hib
    exact hib

end Cells.Holds

end Chain
