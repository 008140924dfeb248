import Racoon2.Lib.Bytes

/-!
# Walks over octets in memory

A walk reads octets of a buffer and of what lies behind it, and keeps a log of where it read and of
the lengths that it subtracted.

* `Memory`: a buffer, and the octets behind its end;
* `usub`, `Memory.left`: an unsigned difference, and how far the end is away;
* `Outcome`: a walk gives a result, fails, or is stuck in a loop that its fuel cuts off;
* `Walk`: an outcome and the log; `Walk.Inside`: no read behind the buffer, no length below zero;
* `Walk.Gives`, `Walk.Meets`: what a walk ends with, and when it leaves the buffer.
-/

open Bytes

/-- a difference of `size_t` values -/
def usub (a b : Nat) : Nat := (a + 2 ^ 64 - b) % 2 ^ 64

theorem usub_of_le {a b : Nat} (ha : a < 2 ^ 64) (h : b ≤ a) : usub a b = a - b := by
  unfold usub
  rw [show a + 2 ^ 64 - b = a - b + 2 ^ 64 by omega, Nat.add_mod_right]
  exact Nat.mod_eq_of_lt (by omega)

theorem usub_lt (a b : Nat) : usub a b < 2 ^ 64 := Nat.mod_lt _ (by decide)

/-- octets with a known end, which an address can hold, and what follows them in memory -/
structure Memory where
  octets : Bytes
  beyond : Nat → UInt8
  octets_length : octets.length < 2 ^ 64

namespace Memory

variable (m : Memory)

def size : Nat := m.octets.length

def byte (p : Nat) : UInt8 :=
  if p < m.size then byteAt m.octets p else m.beyond (p - m.size)

/-- `n` octets from `p` on -/
def copy (p n : Nat) : Bytes := (List.range' p n).map m.byte

theorem byte_inside {p : Nat} (h : p < m.size) : m.byte p = byteAt m.octets p := if_pos h

theorem copy_inside {p n : Nat} (h : p + n ≤ m.size) : m.copy p n = slice m.octets p n := by
  unfold copy slice
  apply List.ext_getElem
  · rw [List.length_map, List.length_range', List.length_take, List.length_drop]
    unfold size at h
    omega
  · intro i hi _
    rw [List.length_map, List.length_range'] at hi
    have hp : p + i < m.octets.length := Nat.lt_of_lt_of_le (Nat.add_lt_add_left hi p) h
    simp only [List.getElem_map, List.getElem_range', Nat.one_mul, List.getElem_take,
      List.getElem_drop]
    rw [m.byte_inside hp]
    unfold byteAt
    rw [List.getD_eq_getElem?_getD, List.getElem?_eq_getElem hp]
    rfl

/-- how far the end is from `p`, as a difference of pointers taken as a `size_t` -/
def left (p : Nat) : Nat := usub m.size p

theorem left_of_le {p : Nat} (h : p ≤ m.size) : m.left p = m.size - p :=
  usub_of_le m.octets_length h

end Memory

inductive Outcome (α : Type) where
  | stuck
  | fail
  | done (a : α)
  deriving DecidableEq, Repr

/-- an octet that was read, or a subtraction of lengths -/
inductive Access where
  | read (p : Nat)
  | sub (a b : Nat)
  deriving DecidableEq, Repr

/-- the octet is one of the first `n`; the difference is not below zero -/
def Access.Safe (n : Nat) : Access → Prop
  | .read p => p < n
  | .sub a b => b ≤ a

/-- where a walk read and what it subtracted, and how it ended -/
structure Walk (α : Type) where
  log : List Access
  outcome : Outcome α

namespace Walk

variable {α β : Type}

/-- the walk fails without a read -/
def fail : Walk α := ⟨[], .fail⟩

/-- one octet -/
def read (m : Memory) (p : Nat) : Walk UInt8 := ⟨[.read p], .done (m.byte p)⟩

/-- `n` octets in a row -/
def copy (m : Memory) (p n : Nat) : Walk Bytes :=
  ⟨(List.range' p n).map .read, .done (m.copy p n)⟩

/-- a difference of lengths -/
def sub (a b : Nat) : Walk Nat := ⟨[.sub a b], .done (usub a b)⟩

instance : Monad Walk where
  pure a := ⟨[], .done a⟩
  bind x f :=
    match x.outcome with
    | .stuck => ⟨x.log, .stuck⟩
    | .fail => ⟨x.log, .fail⟩
    | .done a => ⟨x.log ++ (f a).log, (f a).outcome⟩

/-- every read is inside the first `n` octets, and no length is below zero -/
def Inside (n : Nat) (x : Walk α) : Prop := ∀ e ∈ x.log, e.Safe n

/-- a read behind the first `n` octets, or a length below zero -/
def Past (n : Nat) (x : Walk α) : Prop := ∃ e ∈ x.log, ¬ e.Safe n

theorem not_inside_iff {n : Nat} {x : Walk α} : ¬ x.Inside n ↔ x.Past n := by
  unfold Inside Past
  simp only [not_forall, exists_prop]

section
variable {x : Walk α} {f : α → Walk β} {n : Nat}

theorem bind_done {a : α} (h : x.outcome = .done a) :
    x >>= f = ⟨x.log ++ (f a).log, (f a).outcome⟩ := by
  show (match x.outcome with | .stuck => _ | .fail => _ | .done a => _) = _
  rw [h]

theorem bind_fail (h : x.outcome = .fail) : x >>= f = ⟨x.log, .fail⟩ := by
  show (match x.outcome with | .stuck => _ | .fail => _ | .done a => _) = _
  rw [h]

theorem bind_stuck (h : x.outcome = .stuck) : x >>= f = ⟨x.log, .stuck⟩ := by
  show (match x.outcome with | .stuck => _ | .fail => _ | .done a => _) = _
  rw [h]

theorem Past.bind (h : x.Past n) : (x >>= f).Past n := by
  obtain ⟨p, hp, hn⟩ := h
  cases hx : x.outcome with
  | stuck => exact bind_stuck (f := f) hx ▸ ⟨p, hp, hn⟩
  | fail => exact bind_fail (f := f) hx ▸ ⟨p, hp, hn⟩
  | done a => exact bind_done (f := f) hx ▸ ⟨p, List.mem_append_left _ hp, hn⟩

theorem Past.after {a : α} (hx : x.outcome = .done a) (h : (f a).Past n) : (x >>= f).Past n := by
  obtain ⟨p, hp, hn⟩ := h
  exact bind_done (f := f) hx ▸ ⟨p, List.mem_append_right _ hp, hn⟩

theorem Past.sub {a b : Nat} (h : a < b) : (Walk.sub a b).Past n :=
  ⟨.sub a b, List.mem_singleton_self _, Nat.not_le_of_lt h⟩

end

/-! ## walks that end -/

/-- no loop of the walk goes on for ever -/
def Ends (x : Walk α) : Prop := x.outcome ≠ .stuck

/-- the walk ends, and its results have the property -/
def Gives (P : α → Prop) (x : Walk α) : Prop := x.Ends ∧ ∀ a, x.outcome = .done a → P a

namespace Gives

variable {P : α → Prop} {Q : β → Prop}

theorem fail : (Walk.fail : Walk α).Gives P := ⟨fun h => (nomatch h), fun _ h => nomatch h⟩

theorem pure {a : α} (h : P a) : (Pure.pure a : Walk α).Gives P :=
  ⟨fun h => (nomatch h), fun _ hb => Outcome.done.inj hb ▸ h⟩

theorem bind {x : Walk α} {f : α → Walk β} (hx : x.Gives P) (hf : ∀ a, P a → (f a).Gives Q) :
    (x >>= f).Gives Q := by
  cases hout : x.outcome with
  | stuck => exact absurd hout hx.1
  | fail =>
    rw [bind_fail hout]
    exact ⟨fun h => (nomatch h), fun _ h => nomatch h⟩
  | done a =>
    rw [bind_done hout]
    exact hf a (hx.2 a hout)

theorem read (m : Memory) (p : Nat) : (Walk.read m p).Gives (fun _ => True) :=
  ⟨fun h => (nomatch h), fun _ _ => trivial⟩

theorem copy (m : Memory) (p n : Nat) : (Walk.copy m p n).Gives (fun b => b.length = n) := by
  refine ⟨fun h => (nomatch h), fun b hb => ?_⟩
  show b.length = n
  rw [← Outcome.done.inj hb]
  unfold Memory.copy
  rw [List.length_map, List.length_range']

theorem ite {c : Prop} [Decidable c] {x y : Walk α} (hx : c → x.Gives P)
    (hy : ¬ c → y.Gives P) : (if c then x else y).Gives P := by
  split
  · next h => exact hx h
  · next h => exact hy h

theorem sub (a b : Nat) : (Walk.sub a b).Gives (fun c => c = usub a b) :=
  ⟨fun h => (nomatch h), fun _ hc => (Outcome.done.inj hc).symm⟩

end Gives

/-- the walk keeps inside the first `n` octets as well -/
structure Within (n : Nat) (P : α → Prop) (x : Walk α) : Prop where
  gives : x.Gives P
  inside : x.Inside n

namespace Within

variable {n : Nat} {P : α → Prop} {Q : β → Prop}

theorem pure {a : α} (h : P a) : (Pure.pure a : Walk α).Within n P :=
  ⟨.pure h, fun _ he => nomatch he⟩

theorem bind {x : Walk α} {f : α → Walk β} (hx : x.Within n P)
    (hf : ∀ a, P a → (f a).Within n Q) : (x >>= f).Within n Q := by
  refine ⟨hx.gives.bind fun a ha => (hf a ha).gives, ?_⟩
  cases hout : x.outcome with
  | stuck => exact absurd hout hx.gives.1
  | fail =>
    rw [bind_fail hout]
    exact hx.inside
  | done a =>
    rw [bind_done hout]
    exact List.forall_mem_append.mpr ⟨hx.inside, (hf a (hx.gives.2 a hout)).inside⟩

theorem read {m : Memory} {p : Nat} (h : p < m.size) :
    (Walk.read m p).Within m.size (fun b => b = byteAt m.octets p) := by
  refine ⟨⟨fun h => (nomatch h), fun b hb => ?_⟩, List.forall_mem_singleton.mpr h⟩
  rw [← m.byte_inside h]
  exact (Outcome.done.inj hb).symm

theorem copy {m : Memory} {p k : Nat} (h : p + k ≤ m.size) :
    (Walk.copy m p k).Within m.size (fun b => b = slice m.octets p k) := by
  refine ⟨⟨fun h => (nomatch h), fun b hb => ?_⟩, fun e he => ?_⟩
  · rw [← m.copy_inside h]
    exact (Outcome.done.inj hb).symm
  · obtain ⟨q, hq, rfl⟩ := List.mem_map.mp he
    have hq' := List.mem_range'_1.mp hq
    show q < m.size
    omega

theorem sub {a b : Nat} (ha : a < 2 ^ 64) (h : b ≤ a) :
    (Walk.sub a b).Within n (fun c => c = a - b) := by
  refine ⟨⟨fun h => (nomatch h), fun c hc => ?_⟩, List.forall_mem_singleton.mpr h⟩
  rw [← usub_of_le ha h]
  exact (Outcome.done.inj hc).symm

theorem ite {c : Prop} [Decidable c] {x y : Walk α} (hx : c → x.Within n P)
    (hy : ¬ c → y.Within n P) : (if c then x else y).Within n P := by
  split
  · next h => exact hx h
  · next h => exact hy h

end Within

/-- the walk keeps inside the first `n` octets and gives `a` -/
structure Returns (n : Nat) (x : Walk α) (a : α) : Prop where
  inside : x.Inside n
  done : x.outcome = .done a

namespace Returns

variable {n : Nat}

theorem pure (a : α) : (Pure.pure a : Walk α).Returns n a :=
  ⟨fun _ he => (nomatch he), rfl⟩

theorem bind {x : Walk α} {f : α → Walk β} {a : α} {b : β} (hx : x.Returns n a)
    (hf : (f a).Returns n b) : (x >>= f).Returns n b := by
  rw [bind_done hx.done]
  exact ⟨List.forall_mem_append.mpr ⟨hx.inside, hf.inside⟩, hf.done⟩

theorem then_inside {x : Walk α} {f : α → Walk β} {a : α} (hx : x.Returns n a) :
    (x >>= f).Inside n ↔ (f a).Inside n := by
  rw [bind_done hx.done]
  exact ⟨fun h => (List.forall_mem_append.mp h).2,
    fun h => List.forall_mem_append.mpr ⟨hx.inside, h⟩⟩

theorem then_outcome {x : Walk α} {f : α → Walk β} {a : α} (hx : x.Returns n a) :
    (x >>= f).outcome = (f a).outcome := by
  rw [bind_done hx.done]

theorem read {m : Memory} {p : Nat} (h : p < m.size) :
    (Walk.read m p).Returns m.size (byteAt m.octets p) :=
  ⟨List.forall_mem_singleton.mpr h, congrArg Outcome.done (m.byte_inside h)⟩

theorem copy {m : Memory} {p k : Nat} (h : p + k ≤ m.size) :
    (Walk.copy m p k).Returns m.size (slice m.octets p k) :=
  ⟨(Within.copy h).inside, congrArg Outcome.done (m.copy_inside h)⟩

end Returns

/-! ## what a walk gives and when it leaves the buffer -/

/-- the walk reads behind `n` octets if `bad`; if not, its results are the good ones -/
structure Meets (n : Nat) (x : Walk α) (good : α → Prop) (bad : Prop) : Prop where
  past : bad → x.Past n
  inside : ¬ bad → x.Inside n
  done : ¬ bad → ∀ a, x.outcome = .done a ↔ good a

namespace Meets

variable {n : Nat} {x : Walk α} {good good' : α → Prop} {bad bad' : Prop}

theorem congr (h : x.Meets n good bad) (hgood : ∀ a, good a ↔ good' a) (hbad : bad ↔ bad') :
    x.Meets n good' bad' where
  past hb := h.past (hbad.mpr hb)
  inside hb := h.inside (fun hb' => hb (hbad.mp hb'))
  done hb a := (h.done (fun hb' => hb (hbad.mp hb')) a).trans (hgood a)

theorem fail : (Walk.fail : Walk α).Meets n (fun _ => False) False where
  past h := h.elim
  inside _ := fun _ hp => nomatch hp
  done _ _ := ⟨fun h => (nomatch h), False.elim⟩

theorem pure (b : α) : (Pure.pure b : Walk α).Meets n (fun a => a = b) False where
  past h := h.elim
  inside _ := fun _ hp => nomatch hp
  done _ _ := ⟨fun h => (Outcome.done.inj h).symm, fun h => h ▸ rfl⟩

theorem read (m : Memory) (p : Nat) :
    (Walk.read m p).Meets m.size (fun b => b = byteAt m.octets p) (m.size ≤ p) where
  past h := ⟨.read p, List.mem_singleton_self _, Nat.not_lt_of_le h⟩
  inside h := by
    intro e he
    rw [List.mem_singleton.mp he]
    exact Nat.lt_of_not_le h
  done h a := by
    show Outcome.done (m.byte p) = _ ↔ _
    rw [m.byte_inside (Nat.lt_of_not_le h), Outcome.done.injEq]
    exact eq_comm

theorem copy (m : Memory) {p k : Nat} (h : p + k ≤ m.size) :
    (Walk.copy m p k).Meets m.size (fun b => b = slice m.octets p k) False where
  past h := h.elim
  inside _ := by
    intro e he
    obtain ⟨q, hq, rfl⟩ := List.mem_map.mp he
    have hq' := List.mem_range'_1.mp hq
    show q < m.size
    omega
  done _ a := by
    show Outcome.done (m.copy p k) = _ ↔ _
    rw [m.copy_inside h, Outcome.done.injEq]
    exact eq_comm

/-- nothing follows a walk without a result -/
theorem bind_none {goodf : α → β → Prop} {badf : α → Prop} {o : Outcome β}
    (hx : x.Meets n good bad) (hbad : ¬ bad) (hnone : ∀ a, x.outcome ≠ .done a)
    (ho : ∀ b, o ≠ .done b) :
    (⟨x.log, o⟩ : Walk β).Meets n (fun b => ∃ a, good a ∧ goodf a b)
      (bad ∨ ∃ a, good a ∧ badf a) := by
  have hno : ∀ a, ¬ good a := fun a ha => hnone a ((hx.done hbad a).mpr ha)
  refine ⟨?_, fun _ => hx.inside hbad, fun _ b => ⟨fun h => absurd h (ho b), ?_⟩⟩
  · rintro (h | ⟨a, ha, _⟩)
    · exact absurd h hbad
    · exact absurd ha (hno a)
  · rintro ⟨a, ha, _⟩
    exact absurd ha (hno a)

theorem bind {f : α → Walk β} {goodf : α → β → Prop} {badf : α → Prop} (hx : x.Meets n good bad)
    (hf : ∀ a, good a → (f a).Meets n (goodf a) (badf a)) :
    (x >>= f).Meets n (fun b => ∃ a, good a ∧ goodf a b) (bad ∨ ∃ a, good a ∧ badf a) := by
  by_cases hbad : bad
  · exact ⟨fun _ => (hx.past hbad).bind, fun h => absurd (Or.inl hbad) h,
      fun h => absurd (Or.inl hbad) h⟩
  cases hout : x.outcome with
  | done a =>
    have hgood := (hx.done hbad a).mp hout
    have huniq : ∀ a', good a' → a' = a := by
      intro a' ha'
      have h' := (hx.done hbad a').mpr ha'
      rw [hout] at h'
      exact (Outcome.done.inj h').symm
    have hfa := hf a hgood
    rw [bind_done hout]
    refine ⟨?_, ?_, ?_⟩
    · rintro (h | ⟨a', ha', hb'⟩)
      · exact absurd h hbad
      · obtain ⟨p, hp, hn⟩ := hfa.past (huniq a' ha' ▸ hb')
        exact ⟨p, List.mem_append_right _ hp, hn⟩
    · intro hnot p hp
      rcases List.mem_append.mp hp with hp | hp
      · exact hx.inside hbad p hp
      · exact hfa.inside (fun hb => hnot (.inr ⟨a, hgood, hb⟩)) p hp
    · intro hnot b
      rw [hfa.done (fun hb => hnot (.inr ⟨a, hgood, hb⟩)) b]
      constructor
      · exact fun h => ⟨a, hgood, h⟩
      · rintro ⟨a', ha', h⟩
        exact huniq a' ha' ▸ h
  | fail =>
    rw [bind_fail hout]
    exact hx.bind_none hbad (fun a h => nomatch hout.symm.trans h) (fun b h => nomatch h)
  | stuck =>
    rw [bind_stuck hout]
    exact hx.bind_none hbad (fun a h => nomatch hout.symm.trans h) (fun b h => nomatch h)

theorem of_past (h : x.Past n) (hbad : bad) : x.Meets n good bad :=
  ⟨fun _ => h, fun hb => absurd hbad hb, fun hb => absurd hbad hb⟩

section
variable {m : Memory} {p : Nat} {goodf : β → Prop}

theorem read_bind {f : UInt8 → Walk β} (h : p < m.size)
    (hf : (f (byteAt m.octets p)).Meets m.size goodf bad) :
    (Walk.read m p >>= f).Meets m.size goodf bad := by
  have hnext : ∀ b, b = byteAt m.octets p → (f b).Meets m.size goodf bad := by
    rintro b rfl
    exact hf
  refine ((read m p).bind hnext).congr ?_ ?_
  · exact fun b => ⟨fun hb => hb.elim fun _ h => h.2, fun hb => ⟨_, rfl, hb⟩⟩
  · refine ⟨?_, fun hb => .inr ⟨_, rfl, hb⟩⟩
    rintro (hp | ⟨_, _, hb⟩)
    · exact absurd h (Nat.not_lt_of_le hp)
    · exact hb

theorem copy_bind {k : Nat} {f : Bytes → Walk β} (h : p + k ≤ m.size)
    (hf : (f (slice m.octets p k)).Meets m.size goodf bad) :
    (Walk.copy m p k >>= f).Meets m.size goodf bad := by
  have hnext : ∀ b, b = slice m.octets p k → (f b).Meets m.size goodf bad := by
    rintro b rfl
    exact hf
  refine ((copy m h).bind hnext).congr ?_ ?_
  · exact fun b => ⟨fun hb => hb.elim fun _ h => h.2, fun hb => ⟨_, rfl, hb⟩⟩
  · refine ⟨?_, fun hb => .inr ⟨_, rfl, hb⟩⟩
    rintro (hp | ⟨_, _, hb⟩)
    · exact hp.elim
    · exact hb

end

/-- a test that refuses -/
theorem refuse {c : Prop} [Decidable c] (hgood : ∀ a, good a → ¬ c) (hbad : bad → ¬ c)
    (hx : ¬ c → x.Meets n good bad) : (if c then Walk.fail else x).Meets n good bad := by
  by_cases h : c
  · rw [if_pos h]
    exact fail.congr (fun a => ⟨False.elim, fun ha => hgood a ha h⟩)
      ⟨False.elim, fun hb => hbad hb h⟩
  · rw [if_neg h]
    exact hx h

end Meets

end Walk
