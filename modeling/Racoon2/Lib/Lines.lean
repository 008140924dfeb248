import Racoon2.Lib.Bytes

/-!
# Lines that end in CR LF

A stream of octets is cut into lines. What comes behind the last CR LF waits for more.

* `Lines.split s`        the lines of a string, and what remains;
* `Lines.join ls`        the octets of lines;
* `split_append`         a string in two parts: what remains of the first goes before the second;
* `split_join`           the octets of lines split into these lines;
* `split_part`           a part of these octets: fewer lines, if any octet is missing.
-/

open Bytes

namespace Lines

def split : Bytes → List Bytes × Bytes
  | [] => ([], [])
  | [a] => ([], [a])
  | a :: b :: rest =>
    if a = 13 ∧ b = 10 then ([] :: (split rest).1, (split rest).2)
    else
      match split (b :: rest) with
      | ([], r) => ([], a :: r)
      | (l :: ls, r) => ((a :: l) :: ls, r)

def join (ls : List Bytes) : Bytes := ls.flatMap (· ++ [13, 10])

/-- no CR LF among the octets of a line -/
def IsLine (l : Bytes) : Prop := (split l).1 = []

theorem join_cons (l : Bytes) (ls : List Bytes) : join (l :: ls) = l ++ [13, 10] ++ join ls := rfl

theorem join_append (ls ls' : List Bytes) : join (ls ++ ls') = join ls ++ join ls' :=
  List.flatMap_append

section
variable {a b : UInt8} {rest l r : Bytes} {ls : List Bytes}

theorem split_crlf (rest : Bytes) :
    split (13 :: 10 :: rest) = ([] :: (split rest).1, (split rest).2) := by
  rw [split]
  exact if_pos ⟨rfl, rfl⟩

theorem split_none (h : ¬ (a = 13 ∧ b = 10)) (hs : split (b :: rest) = ([], r)) :
    split (a :: b :: rest) = ([], a :: r) := by
  rw [split, if_neg h, hs]

theorem split_some (h : ¬ (a = 13 ∧ b = 10)) (hs : split (b :: rest) = (l :: ls, r)) :
    split (a :: b :: rest) = ((a :: l) :: ls, r) := by
  rw [split, if_neg h, hs]

end

/-- the lines and what remains make up the string -/
theorem join_split (s : Bytes) : join (split s).1 ++ (split s).2 = s := by
  induction s using split.induct with
  | case1 => rfl
  | case2 a => rfl
  | case3 a b rest h ih =>
    obtain ⟨rfl, rfl⟩ := h
    rw [split_crlf, join_cons]
    simp only [List.nil_append, List.cons_append]
    rw [ih]
  | case4 a b rest h r hs ih =>
    rw [hs] at ih
    rw [split_none h hs]
    exact congrArg (a :: ·) ih
  | case5 a b rest h l ls r hs ih =>
    rw [hs] at ih
    rw [split_some h hs]
    exact congrArg (a :: ·) ih

/-- without lines everything remains -/
theorem split_eq_of_nil {s : Bytes} (h : (split s).1 = []) : split s = ([], s) := by
  have hjoin := join_split s
  rw [h] at hjoin
  exact Prod.ext h hjoin

theorem split_append (s t : Bytes) :
    split (s ++ t) = ((split s).1 ++ (split ((split s).2 ++ t)).1, (split ((split s).2 ++ t)).2) := by
  induction s using split.induct with
  | case1 => rfl
  | case2 a => rfl
  | case3 a b rest h ih =>
    obtain ⟨rfl, rfl⟩ := h
    rw [List.cons_append, List.cons_append, split_crlf, split_crlf, ih]
    rfl
  | case4 a b rest h r hs ih =>
    have hr : r = b :: rest := by
      have hjoin := join_split (b :: rest)
      rw [hs] at hjoin
      exact hjoin
    rw [split_none h hs, hr]
    rfl
  | case5 a b rest h l ls r hs ih =>
    rw [hs] at ih
    rw [split_some h hs]
    exact split_some h ih

/-- a line and its end -/
theorem split_line {l : Bytes} (h : IsLine l) (t : Bytes) :
    split (l ++ [13, 10] ++ t) = (l :: (split t).1, (split t).2) := by
  unfold IsLine at h
  induction l using split.induct with
  | case1 => exact split_crlf t
  | case2 a =>
    have hne : ¬ (a = 13 ∧ (13 : UInt8) = 10) := fun h => absurd h.2 (by decide)
    exact split_some hne (split_crlf t)
  | case3 a b rest hcrlf ih =>
    obtain ⟨rfl, rfl⟩ := hcrlf
    rw [split_crlf] at h
    cases h
  | case4 a b rest hcrlf r hs ih =>
    rw [hs] at ih
    exact split_some hcrlf (ih rfl)
  | case5 a b rest hcrlf l' ls r hs ih =>
    rw [split_some hcrlf hs] at h
    cases h

theorem split_join {ls : List Bytes} (h : ∀ l ∈ ls, IsLine l) : split (join ls) = (ls, []) := by
  induction ls with
  | nil => rfl
  | cons l ls ih =>
    obtain ⟨hl, hls⟩ := List.forall_mem_cons.mp h
    rw [join_cons, split_line hl, ih hls]

/-- a part of the octets of lines splits into the first of them, and not into all if an octet is
missing -/
theorem split_part {ls : List Bytes} (h : ∀ l ∈ ls, IsLine l) {s t : Bytes}
    (hs : s ++ t = join ls) :
    (split s).1 <+: ls ∧ (t ≠ [] → (split s).1.length < ls.length) := by
  have hsplit := split_append s t
  rw [hs, split_join h] at hsplit
  obtain ⟨hlines, hrest⟩ := Prod.mk.inj hsplit
  refine ⟨⟨_, hlines.symm⟩, fun ht => ?_⟩
  by_contra hge
  have hlen := congrArg List.length hlines
  rw [List.length_append] at hlen
  have hnil : (split ((split s).2 ++ t)).1 = [] := List.length_eq_zero_iff.mp (by omega)
  have hall := split_eq_of_nil hnil
  rw [hall] at hrest
  exact ht (List.append_eq_nil_iff.mp hrest.symm).2

end Lines
