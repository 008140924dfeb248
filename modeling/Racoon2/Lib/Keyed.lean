import Mathlib.Data.List.Basic
import Mathlib.Data.List.Nodup

/-!
# Lists of records with a key

A table is a list of records, looked up by a key: the first record that has it counts.

* `Distinct key l`     no two records share a key;
* `find key l k`       the record with key `k`;
* `replace key l x`    every record with the key of `x` becomes `x`;
* `remove key l k`     the records with key `k` go.

Each operation has a lemma for the lookup after it and one for `Distinct`.
-/

namespace Keyed

variable {α κ : Type} [DecidableEq κ] (key : α → κ)

def Distinct (l : List α) : Prop := (l.map key).Nodup

def find (l : List α) (k : κ) : Option α := l.find? fun x => key x == k

def replace (l : List α) (x : α) : List α := l.map fun y => if key y = key x then x else y

def remove (l : List α) (k : κ) : List α := l.filter fun y => key y != k

variable {key} {l : List α} {x y : α} {k k' : κ}

/-! ## lookup -/

theorem find_cons (x : α) (l : List α) (k : κ) :
    find key (x :: l) k = if key x = k then some x else find key l k := by
  unfold find
  rw [List.find?_cons]
  by_cases h : key x = k
  · rw [if_pos h, beq_iff_eq.mpr h]
  · rw [if_neg h, beq_eq_false_iff_ne.mpr h]

theorem mem_of_find (h : find key l k = some x) : x ∈ l ∧ key x = k := by
  unfold find at h
  have hkey := List.find?_some h
  exact ⟨List.mem_of_find?_eq_some h, beq_iff_eq.mp hkey⟩

theorem find_eq_none : find key l k = none ↔ ∀ x ∈ l, key x ≠ k := by
  unfold find
  rw [List.find?_eq_none]
  simp only [beq_iff_eq, ne_eq]

theorem find_append (x : α) (l : List α) (k : κ) :
    find key (l ++ [x]) k = (find key l k).or (if key x = k then some x else none) := by
  induction l with
  | nil => exact find_cons x [] k
  | cons y l ih =>
    rw [List.cons_append, find_cons, find_cons]
    split
    · rfl
    · exact ih

theorem find_filter (hd : Distinct key l) (p : α → Bool) (k : κ) :
    find key (l.filter p) k = (find key l k).filter p := by
  induction l with
  | nil => rfl
  | cons y l ih =>
    have hcons := List.nodup_cons.mp hd
    rw [List.filter_cons, find_cons]
    by_cases hk : key y = k
    · rw [if_pos hk]
      by_cases hp : p y = true
      · rw [if_pos hp, find_cons, if_pos hk, Option.filter_some, if_pos hp]
      · rw [if_neg hp, Option.filter_some, if_neg hp, find_eq_none]
        intro z hz heq
        exact hcons.1 (hk ▸ heq ▸ List.mem_map_of_mem (List.mem_filter.mp hz).1)
    · rw [if_neg hk, ← ih hcons.2]
      split
      · rw [find_cons, if_neg hk]
      · rfl

theorem find_replace (x : α) (l : List α) (k : κ) :
    find key (replace key l x) k
      = if k = key x then (find key l k).map fun _ => x else find key l k := by
  induction l with
  | nil => split <;> rfl
  | cons y l ih =>
    show find key ((if key y = key x then x else y) :: replace key l x) k = _
    rw [find_cons, find_cons, ih]
    by_cases hy : key y = key x
    · rw [if_pos hy, hy]
      by_cases hk : k = key x
      · rw [if_pos hk.symm, if_pos hk.symm, if_pos hk]
        rfl
      · have hne : ¬ key x = k := fun h => hk h.symm
        rw [if_neg hne, if_neg hne, if_neg hk]
    · rw [if_neg hy]
      by_cases hk : k = key x
      · rw [if_pos hk, if_pos hk, if_neg (fun h => hy (h.trans hk)),
          if_neg (fun h => hy (h.trans hk))]
      · rw [if_neg hk, if_neg hk]

theorem find_remove (l : List α) (k k' : κ) :
    find key (remove key l k) k' = if k' = k then none else find key l k' := by
  induction l with
  | nil => split <;> rfl
  | cons y l ih =>
    unfold remove at ih ⊢
    rw [List.filter_cons, find_cons]
    by_cases hy : key y = k
    · rw [if_neg (by simp [hy]), ih]
      by_cases hk : k' = k
      · rw [if_pos hk, if_pos hk]
      · rw [if_neg hk, if_neg hk, if_neg]
        intro heq
        exact hk (heq.symm.trans hy)
    · rw [if_pos (by simp [hy]), find_cons, ih]
      by_cases hk : key y = k'
      · rw [if_pos hk, if_pos hk, if_neg]
        intro heq
        exact hy (hk.trans heq)
      · rw [if_neg hk, if_neg hk]

/-! ## members -/

theorem mem_replace (h : y ∈ replace key l x) : y = x ∨ y ∈ l ∧ key y ≠ key x := by
  obtain ⟨z, hz, hzy⟩ := List.mem_map.mp h
  split at hzy
  · exact .inl hzy.symm
  · rename_i hne
    exact .inr (hzy ▸ ⟨hz, hne⟩)

theorem replace_mem (hy : y ∈ l) (hkey : key y = key x) : x ∈ replace key l x := by
  refine List.mem_map.mpr ⟨y, hy, ?_⟩
  rw [if_pos hkey]

theorem mem_remove (h : y ∈ remove key l k) : y ∈ l ∧ key y ≠ k := by
  obtain ⟨hmem, hne⟩ := List.mem_filter.mp h
  exact ⟨hmem, bne_iff_ne.mp hne⟩

theorem remove_mem (h : y ∈ l) (hne : key y ≠ k) : y ∈ remove key l k :=
  List.mem_filter.mpr ⟨h, bne_iff_ne.mpr hne⟩

theorem length_replace (l : List α) (x : α) : (replace key l x).length = l.length :=
  List.length_map _

theorem length_remove_le (l : List α) (k : κ) : (remove key l k).length ≤ l.length :=
  List.length_filter_le _ _

theorem replace_append (hnone : find key l k = none) (hx : key x = k) (hy : key y = k) :
    replace key (l ++ [y]) x = l ++ [x] := by
  unfold replace
  rw [List.map_append, List.map_congr_left (g := id), List.map_id]
  · show l ++ [if key y = key x then x else y] = l ++ [x]
    rw [if_pos (hy.trans hx.symm)]
  · intro z hz
    exact if_neg fun heq => find_eq_none.mp hnone z hz (heq.trans hx)

theorem remove_replace (l : List α) (x : α) :
    remove key (replace key l x) (key x) = remove key l (key x) := by
  induction l with
  | nil => rfl
  | cons y l ih =>
    unfold remove replace at ih ⊢
    rw [List.map_cons, List.filter_cons, List.filter_cons, ih]
    by_cases hy : key y = key x
    · rw [if_pos hy, if_neg (by simp), if_neg (by simp [hy])]
    · rw [if_neg hy]

theorem remove_append (hne : key x ≠ k) : remove key (l ++ [x]) k = remove key l k ++ [x] := by
  unfold remove
  rw [List.filter_append, List.filter_cons, if_pos (bne_iff_ne.mpr hne), List.filter_nil]

/-! ## distinct keys -/

omit [DecidableEq κ] in
theorem Distinct.sublist {l' : List α} (hd : Distinct key l) (h : l'.Sublist l) :
    Distinct key l' := List.Nodup.sublist (h.map key) hd

theorem Distinct.replace (hd : Distinct key l) (x : α) : Distinct key (replace key l x) := by
  have hkeys : (Keyed.replace key l x).map key = l.map key := by
    unfold Keyed.replace
    rw [List.map_map]
    apply List.map_congr_left
    intro y hy
    show key (if key y = key x then x else y) = key y
    split
    · rename_i heq
      exact heq.symm
    · rfl
  unfold Distinct
  rw [hkeys]
  exact hd

theorem Distinct.remove (hd : Distinct key l) (k : κ) : Distinct key (remove key l k) :=
  hd.sublist List.filter_sublist

theorem Distinct.append (hd : Distinct key l) (hnone : find key l (key x) = none) :
    Distinct key (l ++ [x]) := by
  unfold Distinct
  rw [List.map_append, List.nodup_append]
  refine ⟨hd, List.nodup_singleton _, ?_⟩
  intro a ha b hb heq
  obtain ⟨y, hy, rfl⟩ := List.mem_map.mp ha
  rw [List.map_singleton, List.mem_singleton] at hb
  exact find_eq_none.mp hnone y hy (heq.trans hb)

theorem Distinct.find_of_mem (hd : Distinct key l) (hx : x ∈ l) : find key l (key x) = some x := by
  cases hfind : find key l (key x) with
  | none => exact absurd rfl (find_eq_none.mp hfind x hx)
  | some y =>
    obtain ⟨hy, hkey⟩ := mem_of_find hfind
    rw [List.inj_on_of_nodup_map hd hy hx hkey]

omit [DecidableEq κ] in
theorem Distinct.perm {l' : List α} (hd : Distinct key l) (h : l.Perm l') : Distinct key l' :=
  (h.map key).nodup hd

/-- a record leaves, the others stay -/
theorem Distinct.remove_perm {r : List α} (hd : Distinct key l) (h : l.Perm (x :: r)) :
    (Keyed.remove key l (key x)).Perm r := by
  have hfresh : ∀ y ∈ r, key y ≠ key x := by
    intro y hy heq
    exact (List.nodup_cons.mp (hd.perm h)).1 (heq ▸ List.mem_map_of_mem hy)
  have hsame : Keyed.remove key (x :: r) (key x) = r := by
    unfold Keyed.remove
    rw [List.filter_cons, if_neg (by simp), List.filter_eq_self]
    intro y hy
    exact bne_iff_ne.mpr (hfresh y hy)
  have hperm : (Keyed.remove key l (key x)).Perm (Keyed.remove key (x :: r) (key x)) := h.filter _
  rw [hsame] at hperm
  exact hperm

/-- a record of the table, and the others -/
theorem Distinct.perm_cons_remove (hd : Distinct key l) (hx : x ∈ l) :
    l.Perm (x :: Keyed.remove key l (key x)) := by
  obtain ⟨l₁, l₂, rfl⟩ := List.append_of_mem hx
  have hperm : (l₁ ++ x :: l₂).Perm (x :: (l₁ ++ l₂)) := List.perm_middle
  exact hperm.trans ((hd.remove_perm hperm).symm.cons x)

theorem Distinct.replace_perm (hd : Distinct key l) (hy : y ∈ l) (hkey : key y = key x) :
    (Keyed.replace key l x).Perm (x :: Keyed.remove key l (key x)) := by
  have hperm := (hd.replace x).perm_cons_remove (replace_mem hy hkey)
  rwa [remove_replace] at hperm

/-- what a record keeps, the table keeps -/
theorem Distinct.map_replace {β : Type} {f : α → β} (hd : Distinct key l) (hy : y ∈ l)
    (hkey : key y = key x) (hf : f x = f y) : (Keyed.replace key l x).map f = l.map f := by
  unfold Keyed.replace
  rw [List.map_map]
  apply List.map_congr_left
  intro z hz
  show f (if key z = key x then x else z) = f z
  split
  · rename_i heq
    rw [List.inj_on_of_nodup_map hd hz hy (heq.trans hkey.symm), hf]
  · rfl

end Keyed
