import Mathlib.Data.List.ReduceOption
import Mathlib.Data.Set.Card
import Racoon2.Lib.Keyed

/-!
# Tables of slots

A table of a fixed size whose slots hold a record or nothing, and a key of the records.

* `used t`          the records of the table;
* `adjust p f t`    the first record that `p` finds becomes `f` of it, or goes;
* `fill x t`        the first free slot gets `x`;
* `view key val t`  the table as a partial function of the key.

`adjust_perm` and `fill_perm` say what the two operations do to the records, `ncard_view` how many
slots the partial function takes, and the `view_*` lemmas how it changes.
-/

namespace Slots

variable {α κ ν : Type}

/-- the records -/
def used (t : List (Option α)) : List α := t.reduceOption

def adjust (p : α → Bool) (f : α → Option α) : List (Option α) → List (Option α)
  | [] => []
  | none :: t => none :: adjust p f t
  | some x :: t => if p x then f x :: t else some x :: adjust p f t

def fill (x : α) : List (Option α) → Option (List (Option α))
  | [] => none
  | none :: t => some (some x :: t)
  | some y :: t => (fill x t).map (some y :: ·)

variable {p : α → Bool} {f : α → Option α} {t t' : List (Option α)} {x y : α}

/-! ## the two operations -/

theorem length_adjust (p : α → Bool) (f : α → Option α) (t : List (Option α)) :
    (adjust p f t).length = t.length := by
  induction t with
  | nil => rfl
  | cons s t ih =>
    cases s with
    | none => rw [adjust, List.length_cons, List.length_cons, ih]
    | some x =>
      rw [adjust]
      split
      · rfl
      · rw [List.length_cons, List.length_cons, ih]

/-- no record is found, or the first one is -/
theorem adjust_perm (p : α → Bool) (f : α → Option α) (t : List (Option α)) :
    ((∀ x ∈ used t, p x = false) ∧ adjust p f t = t)
      ∨ ∃ x r, p x = true ∧ (used t).Perm (x :: r)
        ∧ (used (adjust p f t)).Perm ((f x).toList ++ r) := by
  induction t with
  | nil => exact .inl ⟨fun x hx => (by cases hx), rfl⟩
  | cons s t ih =>
    cases s with
    | none =>
      rcases ih with ⟨hno, hsame⟩ | ⟨x, r, hx, ht, hadj⟩
      · refine .inl ⟨hno, ?_⟩
        rw [adjust, hsame]
      · exact .inr ⟨x, r, hx, ht, hadj⟩
    | some y =>
      rw [adjust]
      by_cases hy : p y = true
      · rw [if_pos hy]
        refine .inr ⟨y, used t, hy, List.Perm.refl _, ?_⟩
        cases f y with
        | none => exact List.Perm.refl _
        | some z => exact List.Perm.refl _
      · rw [if_neg hy]
        rcases ih with ⟨hno, hsame⟩ | ⟨x, r, hx, ht, hadj⟩
        · refine .inl ⟨fun x hx => ?_, by rw [hsame]⟩
          rcases List.mem_cons.mp hx with rfl | hx
          · exact Bool.eq_false_iff.mpr hy
          · exact hno x hx
        · refine .inr ⟨x, y :: r, hx, (ht.cons y).trans (List.Perm.swap x y r), ?_⟩
          exact (hadj.cons y).trans List.perm_middle.symm

theorem fill_perm (h : fill x t = some t') :
    (used t').Perm (x :: used t) ∧ t'.length = t.length := by
  induction t generalizing t' with
  | nil => cases h
  | cons s t ih =>
    cases s with
    | none =>
      cases h
      exact ⟨List.Perm.refl _, rfl⟩
    | some y =>
      obtain ⟨u, hu, rfl⟩ := Option.map_eq_some_iff.mp h
      obtain ⟨hperm, hlen⟩ := ih hu
      refine ⟨(hperm.cons y).trans (List.Perm.swap x y _), ?_⟩
      rw [List.length_cons, List.length_cons, hlen]

/-- a table is full when every slot has a record -/
theorem fill_eq_none_iff : fill x t = none ↔ (used t).length = t.length := by
  induction t with
  | nil => exact ⟨fun _ => rfl, fun _ => rfl⟩
  | cons s t ih =>
    cases s with
    | none =>
      have hle : (used t).length ≤ t.length := List.reduceOption_length_le t
      refine ⟨fun h => (by cases h), fun h => ?_⟩
      rw [List.length_cons] at h
      have hused : (used (none :: t)).length = (used t).length := rfl
      omega
    | some y =>
      show (fill x t).map (some y :: ·) = none ↔ (used t).length + 1 = t.length + 1
      rw [Option.map_eq_none_iff, ih]
      exact (Nat.add_right_cancel_iff).symm

/-! ## the table as a partial function -/

section
variable [DecidableEq κ] {key : α → κ} {val : α → ν} {l l' : List α} {k : κ}

def view (key : α → κ) (val : α → ν) (t : List (Option α)) : κ → Option ν :=
  fun k => (Keyed.find key (used t) k).map val

theorem find_perm (hd : Keyed.Distinct key l) (h : l.Perm l') (k : κ) :
    Keyed.find key l k = Keyed.find key l' k := by
  cases hfind : Keyed.find key l k with
  | none =>
    symm
    rw [Keyed.find_eq_none] at hfind ⊢
    exact fun x hx => hfind x (h.mem_iff.mpr hx)
  | some x =>
    obtain ⟨hx, rfl⟩ := Keyed.mem_of_find hfind
    exact ((hd.perm h).find_of_mem (h.mem_iff.mp hx)).symm

theorem view_eq_none : view key val t k = none ↔ ∀ x ∈ used t, key x ≠ k := by
  unfold view
  rw [Option.map_eq_none_iff, Keyed.find_eq_none]

theorem view_of_perm (hd : Keyed.Distinct key (used t)) (h : (used t).Perm l) :
    view key val t = fun k => (Keyed.find key l k).map val := by
  funext k
  unfold view
  rw [find_perm hd h]

/-- a record whose key is new -/
theorem view_put (hd : Keyed.Distinct key (used t')) (h : (used t').Perm (x :: used t)) :
    view key val t' = Function.update (view key val t) (key x) (some (val x)) := by
  rw [view_of_perm hd h]
  funext k
  rw [Keyed.find_cons]
  by_cases hk : k = key x
  · rw [if_pos hk.symm, hk, Function.update_self]
    rfl
  · rw [if_neg (Ne.symm hk), Function.update_of_ne hk]
    rfl

/-- a record with the key of another in its place -/
theorem view_change (hd : Keyed.Distinct key (used t)) (hd' : Keyed.Distinct key (used t'))
    (h : (used t).Perm (x :: l)) (h' : (used t').Perm (y :: l)) (hkey : key y = key x) :
    view key val t' = Function.update (view key val t) (key x) (some (val y)) := by
  rw [view_of_perm hd h, view_of_perm hd' h']
  funext k
  rw [Keyed.find_cons, hkey]
  by_cases hk : k = key x
  · rw [if_pos hk.symm, hk, Function.update_self]
    rfl
  · rw [if_neg (Ne.symm hk), Function.update_of_ne hk, Keyed.find_cons, if_neg (Ne.symm hk)]

/-- a record goes -/
theorem view_erase (hd : Keyed.Distinct key (used t)) (h : (used t).Perm (x :: l))
    (h' : (used t').Perm l) : view key val t' = Function.update (view key val t) (key x) none := by
  have hcons : Keyed.Distinct key (x :: l) := hd.perm h
  have hl : Keyed.Distinct key l := hcons.sublist (List.sublist_cons_self x l)
  rw [view_of_perm hd h, view_of_perm (hl.perm h'.symm) h']
  funext k
  by_cases hk : k = key x
  · rw [hk, Function.update_self, Option.map_eq_none_iff, Keyed.find_eq_none]
    intro y hy heq
    exact (List.nodup_cons.mp hcons).1 (heq ▸ List.mem_map_of_mem hy)
  · rw [Function.update_of_ne hk, Keyed.find_cons, if_neg (Ne.symm hk)]

/-- the keys in use take one slot each -/
theorem ncard_view (hd : Keyed.Distinct key (used t)) :
    {k | view key val t k ≠ none}.ncard = (used t).length := by
  have hset : {k | view key val t k ≠ none} = ((used t).map key).toFinset := by
    ext k
    show ¬view key val t k = none ↔ k ∈ ((used t).map key).toFinset
    rw [view_eq_none, List.mem_toFinset, List.mem_map]
    push Not
    exact Iff.rfl
  rw [hset, Set.ncard_coe_finset, List.toFinset_card_of_nodup hd, List.length_map]

end

end Slots
