import Racoon2.Lib.Keyed

/-!
# Walking a list that changes

A loop walks a table (`Racoon2.Lib.Keyed`) with a pointer to a record, and what it calls may put
records into the table and take others out.

* `onwards key l p`   the records that the pointer `p` still leads to;
* `first`, `next`     the pointer to the first record, and to the one behind a record;
* `onwards_first`     a walk begins with every record;
* `onwards_next`, `onwards_remove`     it goes on behind its record, whether that one stays or goes;
* `onwards_map`, `mem_onwards_insert`  a new record, or one that changes, does not lose any other.
-/

namespace Cursor
open Keyed

variable {α κ : Type} [DecidableEq κ] (key : α → κ)

def onwards (l : List α) : Option κ → List α
  | none => []
  | some k => l.dropWhile fun x => key x != k

def first (l : List α) : Option κ := l.head?.map key

def next (l : List α) (k : κ) : Option κ := first key (onwards key l (some k)).tail

variable {key} {l l₁ l₂ : List α} {x y : α} {k : κ} {p : Option κ}

theorem onwards_cons (x : α) (l : List α) (k : κ) :
    onwards key (x :: l) (some k) = if key x = k then x :: l else onwards key l (some k) := by
  show List.dropWhile (fun x => key x != k) (x :: l) = _
  rw [List.dropWhile_cons]
  by_cases h : key x = k
  · rw [if_pos h, if_neg (by simp [h])]
  · rw [if_neg h, if_pos (by simp [h])]
    rfl

theorem mem_of_mem_onwards (h : x ∈ onwards key l p) : x ∈ l := by
  cases p with
  | none => cases h
  | some k => exact (List.dropWhile_suffix _).mem h

theorem onwards_first (l : List α) : onwards key l (first key l) = l := by
  cases l with
  | nil => rfl
  | cons x l => exact (onwards_cons x l (key x)).trans (if_pos rfl)

theorem onwards_map {f : α → α} (hf : ∀ x, key (f x) = key x) (l : List α) (p : Option κ) :
    onwards key (l.map f) p = (onwards key l p).map f := by
  cases p with
  | none => rfl
  | some k =>
    induction l with
    | nil => rfl
    | cons x l ih =>
      rw [List.map_cons, onwards_cons, onwards_cons, hf]
      split
      · rfl
      · exact ih

/-- records before the one that is looked for do not count -/
theorem onwards_append (h : ∀ y ∈ l₁, key y ≠ k) :
    onwards key (l₁ ++ l₂) (some k) = onwards key l₂ (some k) := by
  induction l₁ with
  | nil => rfl
  | cons y l₁ ih =>
    rw [List.cons_append, onwards_cons, if_neg (h y List.mem_cons_self)]
    exact ih fun z hz => h z (List.mem_cons_of_mem y hz)

omit [DecidableEq κ] in
theorem ne_of_distinct_append (hd : Distinct key (l₁ ++ x :: l₂)) : ∀ y ∈ l₁, key y ≠ key x := by
  intro y hy heq
  unfold Distinct at hd
  rw [List.map_append, List.nodup_append] at hd
  exact hd.2.2 (key y) (List.mem_map_of_mem hy) (key x) (by simp) heq

theorem onwards_split (hd : Distinct key (l₁ ++ x :: l₂)) :
    onwards key (l₁ ++ x :: l₂) (some (key x)) = x :: l₂ := by
  rw [onwards_append (ne_of_distinct_append hd), onwards_cons, if_pos rfl]

theorem next_split (hd : Distinct key (l₁ ++ x :: l₂)) :
    next key (l₁ ++ x :: l₂) (key x) = first key l₂ := by
  unfold next
  rw [onwards_split hd]
  rfl

theorem onwards_append_first (hd : Distinct key (l₁ ++ l₂)) :
    onwards key (l₁ ++ l₂) (first key l₂) = l₂ := by
  cases l₂ with
  | nil => rfl
  | cons y l₂ => exact onwards_split hd

theorem remove_split (hd : Distinct key (l₁ ++ x :: l₂)) :
    remove key (l₁ ++ x :: l₂) (key x) = l₁ ++ l₂ := by
  have hbefore : ∀ y ∈ l₁, key y ≠ key x := ne_of_distinct_append hd
  have hbehind : ∀ y ∈ l₂, key y ≠ key x := by
    intro y hy heq
    have hcons : Distinct key (x :: l₂) := hd.sublist (List.sublist_append_right l₁ _)
    exact (List.nodup_cons.mp hcons).1 (heq ▸ List.mem_map_of_mem hy)
  unfold remove
  rw [List.filter_append, List.filter_cons, if_neg (by simp),
    List.filter_eq_self.mpr fun y hy => bne_iff_ne.mpr (hbefore y hy),
    List.filter_eq_self.mpr fun y hy => bne_iff_ne.mpr (hbehind y hy)]

omit [DecidableEq κ] in
theorem split_of_mem (h : k ∈ l.map key) : ∃ l₁ x l₂, l = l₁ ++ x :: l₂ ∧ key x = k := by
  obtain ⟨x, hx, rfl⟩ := List.mem_map.mp h
  obtain ⟨l₁, l₂, rfl⟩ := List.append_of_mem hx
  exact ⟨l₁, x, l₂, rfl, rfl⟩

theorem onwards_next (hd : Distinct key l) (h : k ∈ l.map key) :
    onwards key l (next key l k) = (onwards key l (some k)).tail := by
  obtain ⟨l₁, x, l₂, rfl, rfl⟩ := split_of_mem h
  rw [next_split hd, onwards_split hd]
  have hd' : Distinct key ((l₁ ++ [x]) ++ l₂) := by
    rw [List.append_assoc]
    exact hd
  have := onwards_append_first hd'
  rw [List.append_assoc] at this
  exact this

theorem onwards_remove (hd : Distinct key l) (h : k ∈ l.map key) :
    onwards key (remove key l k) (next key l k) = (onwards key l (some k)).tail := by
  obtain ⟨l₁, x, l₂, rfl, rfl⟩ := split_of_mem h
  rw [next_split hd, onwards_split hd, remove_split hd]
  refine onwards_append_first (hd.sublist ?_)
  exact (List.sublist_cons_self x l₂).append_left l₁

theorem mem_onwards_insert (hnew : ∀ k, p = some k → k ≠ key y) (h : x ∈ onwards key (l₁ ++ l₂) p) :
    x ∈ onwards key (l₁ ++ y :: l₂) p := by
  cases p with
  | none => cases h
  | some k =>
    have hk : key y ≠ k := fun heq => hnew k rfl heq.symm
    induction l₁ with
    | nil =>
      show x ∈ onwards key (y :: l₂) (some k)
      rw [onwards_cons, if_neg hk]
      exact h
    | cons z l₁ ih =>
      rw [List.cons_append, onwards_cons] at h ⊢
      split
      · rename_i heq
        rw [if_pos heq, ← List.cons_append, List.mem_append] at h
        rw [← List.cons_append, List.mem_append]
        exact h.imp id (List.mem_cons_of_mem y)
      · rename_i hne
        rw [if_neg hne] at h
        exact ih h

/-- a pointer leads to a record of the table -/
def Valid (key : α → κ) (l : List α) (p : Option κ) : Prop := ∀ k, p = some k → k ∈ l.map key

omit [DecidableEq κ] in
theorem valid_first (l : List α) : Valid key l (first key l) := by
  intro k hk
  obtain ⟨x, hx, rfl⟩ := Option.map_eq_some_iff.mp hk
  exact List.mem_map_of_mem (List.mem_of_mem_head? hx)

theorem valid_next (l : List α) (k : κ) : Valid key l (next key l k) := by
  intro k' hk'
  obtain ⟨x, hx, rfl⟩ := List.mem_map.mp (valid_first _ k' hk')
  exact List.mem_map_of_mem (mem_of_mem_onwards (List.mem_of_mem_tail hx))

theorem valid_remove (hd : Distinct key l) (h : k ∈ l.map key) :
    Valid key (remove key l k) (next key l k) := by
  obtain ⟨l₁, x, l₂, rfl, rfl⟩ := split_of_mem h
  rw [next_split hd, remove_split hd]
  intro k' hk'
  rw [List.map_append]
  exact List.mem_append_right _ (valid_first l₂ k' hk')

end Cursor
