import Racoon2.Lib.Bytes

/-!
# Records in a row, each with the type of the next one

A record begins with the octet that gives the type of the record behind it.  The type of the first one
stands in front of the row, and the last record has the octet that says that nothing follows.

* `Item`         a record: its type and its octets behind the first one;
* `octets`       records in a row;
* `front`        the same with the type of the first one in front;
* `place`        where the last type octet stands in it;
* `put_front`    that octet is the one that says what follows the row;
* `front_append` the row is made longer by writing the type of the next record there.
-/

namespace Rows
open Bytes

structure Item where
  type : UInt8
  rest : Bytes
  deriving DecidableEq, Repr

/-- the type octet in front of a row, `last` when it is empty -/
def headType (last : UInt8) : List Item → UInt8
  | [] => last
  | x :: _ => x.type

def octets (last : UInt8) : List Item → Bytes
  | [] => []
  | x :: xs => headType last xs :: (x.rest ++ octets last xs)

def front (last : UInt8) (xs : List Item) : Bytes := headType last xs :: octets last xs

/-- the place of the last type octet in `front` -/
def place (xs : List Item) : Nat :=
  if xs = [] then 0 else (front 0 xs.dropLast).length

variable (last : UInt8) (xs ys : List Item)

theorem headType_append : headType last (xs ++ ys) = headType (headType last ys) xs := by
  cases xs with
  | nil => rfl
  | cons x xs => rfl

theorem octets_append : octets last (xs ++ ys) = octets (headType last ys) xs ++ octets last ys := by
  induction xs with
  | nil => rfl
  | cons x xs ih =>
    rw [List.cons_append, octets, octets, ih, headType_append, List.cons_append, List.append_assoc]

theorem front_append : front last (xs ++ ys) = front (headType last ys) xs ++ octets last ys := by
  unfold front
  rw [headType_append, octets_append, List.cons_append]

theorem octets_length (last' : UInt8) : (octets last xs).length = (octets last' xs).length := by
  induction xs with
  | nil => rfl
  | cons x xs ih => rw [octets, octets, List.length_cons, List.length_cons, List.length_append,
      List.length_append, ih]

theorem front_length (last' : UInt8) : (front last xs).length = (front last' xs).length := by
  unfold front
  rw [List.length_cons, List.length_cons, octets_length last xs last']

/-- behind a row there is always the octet of one more -/
theorem place_append (hne : ys ≠ []) :
    place (xs ++ ys) = (front last xs).length + (octets last ys.dropLast).length := by
  unfold place
  rw [if_neg (fun h => hne (List.append_eq_nil_iff.mp h).2), List.dropLast_append_of_ne_nil hne,
    front_append, List.length_append, front_length _ xs last, octets_length 0 _ last]

/-- the last type octet is written, with other octets behind the row -/
theorem put_front (next : UInt8) (c : Bytes) :
    put (front last xs ++ c) (place xs) [next] = front next xs ++ c := by
  rcases List.eq_nil_or_concat xs with rfl | ⟨ys, x, rfl⟩
  · rfl
  · have hplace : place (ys ++ [x]) = (front x.type ys).length := by
      rw [place_append x.type ys [x] (List.cons_ne_nil x [])]
      rfl
    have hfront : ∀ t, front t (ys ++ [x]) ++ c = front x.type ys ++ ([t] ++ (x.rest ++ c)) := by
      intro t
      rw [front_append, List.append_assoc]
      show front x.type ys ++ (t :: (x.rest ++ []) ++ c) = _
      rw [List.append_nil]
      rfl
    rw [List.concat_eq_append, hplace, hfront, hfront]
    exact put_append (front x.type ys) (x.rest ++ c) rfl

end Rows
