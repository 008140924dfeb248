import Racoon2.Lib.Cursor
import Racoon2.Lib.Run

/-!
# The scheduler

`schedule.c` keeps the events of the daemon in a list that is sorted by the time they are due.
`scheduler` walks the list from its head and calls what is due.  A function that it calls may make
events and kill events, so the list changes while it is walked.

A run is a list of steps.  Code outside of the scheduler runs between two passes, and inside of the
functions that a pass calls; a pass is its own steps, one for each turn of its loop.

* `schedNew`, `schedAdd`, `schedKill`, `schedScrubParam`    what the code calls;
* `schedulerTurn`, `schedulerReturn`                        a turn of the loop, in its two halves;
* `SchedHistory`                                            what a history of calls and kills may be;
* `ScheduleInv`                                             the invariant of every run;
* `PassCovers`                                              what a pass has still before it.
-/

set_option linter.unusedVariables false

namespace Sched
open Keyed Cursor

/-! ## the table -/

/-- `struct sched`; a function is given by its number -/
structure Event where
  id : Nat
  xtime : Int
  func : Option Nat
  param : Nat
  dead : Bool
  deriving DecidableEq, Repr

/-- what has happened -/
inductive Entry where
  | made (e : Event)
  | called (id func param : Nat) (clock : Int)
  /-- `sched_kill` of an event that was pending -/
  | killed (id : Nat)
  | returned (timeout : Option Int)
  deriving DecidableEq, Repr

/-- the local variables of `scheduler` -/
structure Pass where
  now : Int
  p : Option Nat
  /-- the function of `p` is running -/
  calling : Bool
  deriving DecidableEq, Repr

structure Schedule where
  sctree : List Event
  /-- `current_time` -/
  clock : Int
  /-- the `id` of the next event -/
  id : Nat
  pass : Option Pass
  /-- the newest entry first -/
  log : List Entry
  deriving DecidableEq, Repr

/-- `sched_init` -/
def schedInit (clock : Int) : Schedule := ⟨[], clock, 1, none, []⟩

/-- `sched_add` -/
def schedAdd (sc : Event) : List Event → List Event
  | [] => [sc]
  | p :: l => if sc.xtime < p.xtime then sc :: p :: l else p :: schedAdd sc l

/-- `p->dead = 1` -/
def markDead (i : Nat) (e : Event) : Event := if e.id = i then { e with dead := true } else e

section
variable (s : Schedule)

/-- `sched_new`; without memory it does nothing -/
def schedNew (tick : Int) (func : Option Nat) (param : Nat) : Schedule :=
  let sc : Event := ⟨s.id, s.clock + tick, func, param, false⟩
  { s with sctree := schedAdd sc s.sctree, id := s.id + 1, log := .made sc :: s.log }

/-- the event is in the list and not dead -/
def isPending (i : Nat) : Bool := (find Event.id s.sctree i).any fun e => !e.dead

/-- `sched_kill`; the caller holds a pointer that `scheduler` has not freed -/
def schedKill (i : Nat) : Schedule :=
  { s with
    sctree := s.sctree.map (markDead i)
    log := if isPending s i then .killed i :: s.log else s.log }

/-- `sched_scrub_param` -/
def schedScrubParam (param : Nat) : Schedule :=
  ((s.sctree.filter fun e => e.param == param).map Event.id).foldl schedKill s

/-! ## a pass -/

/-- the call, up to the loop -/
def schedulerEnter : Schedule :=
  { s with pass := some ⟨s.clock, first Event.id s.sctree, false⟩ }

/-- `next_schedule`: `p` goes, and the loop goes on behind it -/
def schedulerReturn (pass : Pass) (i : Nat) : Schedule :=
  { s with
    sctree := remove Event.id s.sctree i
    pass := some ⟨pass.now, next Event.id s.sctree i, false⟩ }

/-- the time to block until the next event -/
def schedulerTimeout : Option Int := s.sctree.head?.map fun p => max (p.xtime - s.clock) 0

/-- a turn of the loop, up to the call of the function -/
def schedulerTurn (pass : Pass) : Schedule :=
  match pass.p with
  | none => { s with pass := none, log := .returned (schedulerTimeout s) :: s.log }
  | some i =>
    match find Event.id s.sctree i with
    | none => s
    | some e =>
      if e.dead then schedulerReturn s pass i
      else if pass.now < e.xtime then
        { s with pass := some ⟨pass.now, next Event.id s.sctree i, false⟩ }
      else
        match e.func with
        | none => schedulerReturn { s with sctree := s.sctree.map (markDead i) } pass i
        | some func =>
          { s with
            sctree := s.sctree.map (markDead i)
            pass := some ⟨pass.now, some i, true⟩
            log := .called i func e.param s.clock :: s.log }

end

/-! ## runs -/

inductive Op where
  /-- the clock goes on -/
  | wait (seconds : Nat)
  | new (tick : Int) (func : Option Nat) (param : Nat)
  | kill (i : Nat)
  | scrub (param : Nat)
  /-- `scheduler` is called -/
  | scheduler
  /-- a turn of its loop -/
  | turn
  /-- the function that it called is done -/
  | done
  deriving DecidableEq, Repr

/-- a pass is between two turns: no other code runs -/
def busy (s : Schedule) : Bool := s.pass.any fun pass => !pass.calling

/-- a step; one that cannot be made here changes nothing -/
def step (s : Schedule) : Op → Schedule
  | .wait seconds => { s with clock := s.clock + seconds }
  | .new tick func param => if busy s then s else schedNew s tick func param
  | .kill i => if busy s then s else schedKill s i
  | .scrub param => if busy s then s else schedScrubParam s param
  | .scheduler => if s.pass = none then schedulerEnter s else s
  | .turn =>
    match s.pass with
    | none => s
    | some pass => if pass.calling then s else schedulerTurn s pass
  | .done =>
    match s.pass with
    | some ⟨now, some i, true⟩ => schedulerReturn s ⟨now, some i, true⟩ i
    | _ => s

/-! ## histories -/

namespace Entry

def madeId : Entry → Option Nat
  | .made e => some e.id
  | _ => none

def calledId : Entry → Option Nat
  | .called i _ _ _ => some i
  | _ => none

def killedId : Entry → Option Nat
  | .killed i => some i
  | _ => none

end Entry

def madeIds (log : List Entry) : List Nat := log.filterMap Entry.madeId

def calledIds (log : List Entry) : List Nat := log.filterMap Entry.calledId

def killedIds (log : List Entry) : List Nat := log.filterMap Entry.killedId

/-- an event is made once and called at most once, with its own function and parameter, when it is
due, and not after it was killed -/
structure SchedHistory (log : List Entry) : Prop where
  madeOnce : (madeIds log).Nodup
  once : (calledIds log).Nodup
  timed : ∀ i func param t, .called i func param t ∈ log →
    ∃ e, .made e ∈ log ∧ e.id = i ∧ e.func = some func ∧ e.param = param ∧ e.xtime ≤ t
  kept : log.Pairwise fun later earlier =>
    ∀ i, earlier.killedId = some i → later.calledId ≠ some i

/-- the list is sorted -/
def Ordered (l : List Event) : Prop := l.Pairwise fun a b => a.xtime ≤ b.xtime

structure ScheduleInv (s : Schedule) : Prop where
  sorted : Ordered s.sctree
  distinct : Distinct Event.id s.sctree
  below : ∀ i, i ∈ madeIds s.log ∨ i ∈ calledIds s.log ∨ i ∈ killedIds s.log → i < s.id
  made : ∀ e ∈ s.sctree, .made { e with dead := false } ∈ s.log
  pending : ∀ e ∈ s.sctree, e.dead = false → e.id ∉ calledIds s.log ∧ e.id ∉ killedIds s.log
  history : SchedHistory s.log
  now : ∀ pass, s.pass = some pass → pass.now ≤ s.clock
  cursor : ∀ pass, s.pass = some pass → Valid Event.id s.sctree pass.p
  /-- the event that is called is dead -/
  calling : ∀ pass, s.pass = some pass → pass.calling = true →
    ∀ e ∈ s.sctree, pass.p = some e.id → e.dead = true

/-! ## the operations on the list -/

section
variable {sc e : Event} {l : List Event} {i : Nat} {s : Schedule}

theorem schedAdd_split (sc : Event) (l : List Event) :
    ∃ l₁ l₂, l = l₁ ++ l₂ ∧ schedAdd sc l = l₁ ++ sc :: l₂ := by
  induction l with
  | nil => exact ⟨[], [], rfl, rfl⟩
  | cons p l ih =>
    unfold schedAdd
    split
    · exact ⟨[], p :: l, rfl, rfl⟩
    · obtain ⟨l₁, l₂, hl, hadd⟩ := ih
      refine ⟨p :: l₁, l₂, ?_, ?_⟩
      · rw [hl, List.cons_append]
      · rw [hadd, List.cons_append]

theorem schedAdd_perm (sc : Event) (l : List Event) : (schedAdd sc l).Perm (sc :: l) := by
  obtain ⟨l₁, l₂, rfl, hadd⟩ := schedAdd_split sc l
  rw [hadd]
  exact List.perm_middle

theorem mem_schedAdd : e ∈ schedAdd sc l ↔ e = sc ∨ e ∈ l := by
  rw [(schedAdd_perm sc l).mem_iff, List.mem_cons]

theorem schedAdd_ordered (h : Ordered l) : Ordered (schedAdd sc l) := by
  induction l with
  | nil => exact List.pairwise_singleton _ _
  | cons p l ih =>
    obtain ⟨hp, hl⟩ := List.pairwise_cons.mp h
    unfold schedAdd
    split
    · rename_i hlt
      refine List.pairwise_cons.mpr ⟨?_, h⟩
      intro b hb
      rcases List.mem_cons.mp hb with rfl | hb
      · exact Int.le_of_lt hlt
      · exact Int.le_trans (Int.le_of_lt hlt) (hp b hb)
    · rename_i hge
      refine List.pairwise_cons.mpr ⟨?_, ih hl⟩
      intro b hb
      rcases mem_schedAdd.mp hb with rfl | hb
      · exact Int.not_lt.mp hge
      · exact hp b hb

theorem schedAdd_distinct (hd : Distinct Event.id l) (hnew : ∀ e ∈ l, e.id ≠ sc.id) :
    Distinct Event.id (schedAdd sc l) := by
  unfold Distinct
  rw [((schedAdd_perm sc l).map Event.id).nodup_iff, List.map_cons, List.nodup_cons]
  refine ⟨?_, hd⟩
  intro hmem
  obtain ⟨e, he, heq⟩ := List.mem_map.mp hmem
  exact hnew e he heq

@[simp] theorem markDead_id (i : Nat) (e : Event) : (markDead i e).id = e.id := by
  unfold markDead
  split <;> rfl

@[simp] theorem markDead_xtime (i : Nat) (e : Event) : (markDead i e).xtime = e.xtime := by
  unfold markDead
  split <;> rfl

theorem markDead_alive (i : Nat) (e : Event) :
    { markDead i e with dead := false } = { e with dead := false } := by
  unfold markDead
  split <;> rfl

/-- what is left alive is as it was -/
theorem markDead_dead (h : (markDead i e).dead = false) : markDead i e = e ∧ e.id ≠ i := by
  unfold markDead at h ⊢
  split at h
  · cases h
  · rename_i hne
    exact ⟨if_neg hne, hne⟩

theorem dead_of_markDead (h : e.id = i) : (markDead i e).dead = true := by
  unfold markDead
  rw [if_pos h]

theorem ids_markDead (i : Nat) (l : List Event) :
    (l.map (markDead i)).map Event.id = l.map Event.id := by
  rw [List.map_map]
  exact List.map_congr_left fun e _ => markDead_id i e

theorem markDead_ordered (h : Ordered l) : Ordered (l.map (markDead i)) := by
  unfold Ordered
  rw [List.pairwise_map]
  simp only [markDead_xtime]
  exact h

theorem markDead_distinct (h : Distinct Event.id l) : Distinct Event.id (l.map (markDead i)) := by
  unfold Distinct
  rw [ids_markDead]
  exact h

theorem isPending_iff (hd : Distinct Event.id s.sctree) (he : e ∈ s.sctree) :
    isPending s e.id = !e.dead := by
  unfold isPending
  rw [hd.find_of_mem he]
  rfl

end

/-! ## the operations keep the invariant -/

section
variable {s : Schedule} {pass : Pass} {i : Nat} {log : List Entry}

/-- an entry that is neither an event that is made nor one that is called -/
theorem SchedHistory.other (h : SchedHistory log) {x : Entry} (hmade : x.madeId = none)
    (hcalled : x.calledId = none) : SchedHistory (x :: log) := by
  refine ⟨?_, ?_, ?_, ?_⟩
  · unfold madeIds
    rw [List.filterMap_cons_none hmade]
    exact h.madeOnce
  · unfold calledIds
    rw [List.filterMap_cons_none hcalled]
    exact h.once
  · intro i func param t hmem
    rcases List.mem_cons.mp hmem with rfl | hmem
    · cases hcalled
    · obtain ⟨e, he, hrest⟩ := h.timed i func param t hmem
      exact ⟨e, List.mem_cons_of_mem x he, hrest⟩
  · refine List.pairwise_cons.mpr ⟨?_, h.kept⟩
    intro y _ i _
    rw [hcalled]
    exact nofun

theorem SchedHistory.made (h : SchedHistory log) {e : Event} (hnew : e.id ∉ madeIds log) :
    SchedHistory (.made e :: log) := by
  refine ⟨List.nodup_cons.mpr ⟨hnew, h.madeOnce⟩, h.once, ?_, ?_⟩
  · intro i func param t hmem
    rcases List.mem_cons.mp hmem with heq | hmem
    · cases heq
    · obtain ⟨e', he', hrest⟩ := h.timed i func param t hmem
      exact ⟨e', List.mem_cons_of_mem _ he', hrest⟩
  · refine List.pairwise_cons.mpr ⟨?_, h.kept⟩
    intro y _ i _
    exact nofun

theorem SchedHistory.called (h : SchedHistory log) {e : Event} {func : Nat} {t : Int}
    (hmade : .made e ∈ log) (hfunc : e.func = some func) (hdue : e.xtime ≤ t)
    (honce : e.id ∉ calledIds log) (hkept : e.id ∉ killedIds log) :
    SchedHistory (.called e.id func e.param t :: log) := by
  refine ⟨h.madeOnce, List.nodup_cons.mpr ⟨honce, h.once⟩, ?_, ?_⟩
  · intro i func' param t' hmem
    rcases List.mem_cons.mp hmem with heq | hmem
    · cases heq
      exact ⟨e, List.mem_cons_of_mem _ hmade, rfl, hfunc, rfl, hdue⟩
    · obtain ⟨e', he', hrest⟩ := h.timed i func' param t' hmem
      exact ⟨e', List.mem_cons_of_mem _ he', hrest⟩
  · refine List.pairwise_cons.mpr ⟨?_, h.kept⟩
    intro y hy i hi heq
    cases heq
    exact hkept (List.mem_filterMap.mpr ⟨y, hy, hi⟩)

theorem ScheduleInv.id_lt (h : ScheduleInv s) {e : Event} (he : e ∈ s.sctree) : e.id < s.id :=
  h.below e.id (.inl (List.mem_filterMap.mpr ⟨_, h.made e he, rfl⟩))

theorem ScheduleInv.init (clock : Int) : ScheduleInv (schedInit clock) where
  sorted := List.Pairwise.nil
  distinct := List.nodup_nil
  below i hi := by rcases hi with hi | hi | hi <;> cases hi
  made e he := by cases he
  pending e he := by cases he
  history := ⟨List.nodup_nil, List.nodup_nil, fun _ _ _ _ h => (List.not_mem_nil h).elim,
    List.Pairwise.nil⟩
  now _ h := by cases h
  cursor _ h := by cases h
  calling _ h := by cases h

theorem ScheduleInv.wait (h : ScheduleInv s) (seconds : Nat) :
    ScheduleInv { s with clock := s.clock + seconds } :=
  { h with now := fun pass hpass => Int.le_trans (h.now pass hpass) (Int.le_add_of_nonneg_right
      (Int.natCast_nonneg seconds)) }

theorem ScheduleInv.schedNew (h : ScheduleInv s) (tick : Int) (func : Option Nat) (param : Nat) :
    ScheduleInv (schedNew s tick func param) where
  sorted := schedAdd_ordered h.sorted
  distinct := schedAdd_distinct h.distinct fun e he => Nat.ne_of_lt (h.id_lt he)
  below i hi := by
    rcases hi with hi | hi | hi
    · rcases List.mem_cons.mp hi with rfl | hi
      · exact Nat.lt_succ_self s.id
      · exact Nat.lt_succ_of_lt (h.below i (.inl hi))
    · exact Nat.lt_succ_of_lt (h.below i (.inr (.inl hi)))
    · exact Nat.lt_succ_of_lt (h.below i (.inr (.inr hi)))
  made e he := by
    rcases mem_schedAdd.mp he with rfl | he
    · exact List.mem_cons_self
    · exact List.mem_cons_of_mem _ (h.made e he)
  pending e he hdead := by
    rcases mem_schedAdd.mp he with rfl | he
    · exact ⟨fun hmem => Nat.lt_irrefl _ (h.below s.id (.inr (.inl hmem))),
        fun hmem => Nat.lt_irrefl _ (h.below s.id (.inr (.inr hmem)))⟩
    · exact h.pending e he hdead
  history := h.history.made fun hmem => Nat.lt_irrefl _ (h.below s.id (.inl hmem))
  now := h.now
  cursor pass hpass k hk := by
    obtain ⟨e, he, rfl⟩ := List.mem_map.mp (h.cursor pass hpass k hk)
    exact List.mem_map_of_mem (mem_schedAdd.mpr (.inr he))
  calling pass hpass hcalling e he hp := by
    rcases mem_schedAdd.mp he with rfl | he
    · -- `p` is an event of the list, and the new one has an `id` of its own
      obtain ⟨e', he', heq⟩ := List.mem_map.mp (h.cursor pass hpass _ hp)
      exact absurd heq (Nat.ne_of_lt (h.id_lt he'))
    · exact h.calling pass hpass hcalling e he hp

/-- `p->dead = 1`, by `sched_kill` or by a pass -/
theorem ScheduleInv.mark (h : ScheduleInv s) (i : Nat) :
    ScheduleInv { s with sctree := s.sctree.map (markDead i) } where
  sorted := markDead_ordered h.sorted
  distinct := markDead_distinct h.distinct
  below := h.below
  made e he := by
    obtain ⟨e', he', rfl⟩ := List.mem_map.mp he
    rw [markDead_alive]
    exact h.made e' he'
  pending e he hdead := by
    obtain ⟨e', he', rfl⟩ := List.mem_map.mp he
    obtain ⟨heq, -⟩ := markDead_dead hdead
    rw [heq] at hdead ⊢
    exact h.pending e' he' hdead
  history := h.history
  now := h.now
  cursor pass hpass k hk := by
    rw [ids_markDead]
    exact h.cursor pass hpass k hk
  calling pass hpass hcalling e he hp := by
    obtain ⟨e', he', rfl⟩ := List.mem_map.mp he
    cases hdead : (markDead i e').dead with
    | true => rfl
    | false =>
      obtain ⟨heq, -⟩ := markDead_dead hdead
      rw [heq] at hdead hp
      exact absurd (h.calling pass hpass hcalling e' he' hp) (by simp [hdead])

/-- an entry is logged about an event that is dead -/
theorem ScheduleInv.entry (h : ScheduleInv s) {x : Entry} (hhistory : SchedHistory (x :: s.log))
    (hmade : x.madeId = none)
    (hdead : ∀ e ∈ s.sctree, x.calledId = some e.id ∨ x.killedId = some e.id → e.dead = true)
    (hbelow : ∀ i, x.calledId = some i ∨ x.killedId = some i → i < s.id) :
    ScheduleInv { s with log := x :: s.log } := by
  have hids : ∀ (f : Entry → Option Nat) (i : Nat), i ∈ (x :: s.log).filterMap f →
      f x = some i ∨ i ∈ s.log.filterMap f := by
    intro f i hi
    obtain ⟨y, hy, hfy⟩ := List.mem_filterMap.mp hi
    rcases List.mem_cons.mp hy with rfl | hy
    · exact .inl hfy
    · exact .inr (List.mem_filterMap.mpr ⟨y, hy, hfy⟩)
  refine { h with below := ?_, made := ?_, pending := ?_, history := hhistory }
  · intro i hi
    rcases hi with hi | hi | hi
    · rcases hids Entry.madeId i hi with heq | hi
      · rw [hmade] at heq
        cases heq
      · exact h.below i (.inl hi)
    · rcases hids Entry.calledId i hi with heq | hi
      · exact hbelow i (.inl heq)
      · exact h.below i (.inr (.inl hi))
    · rcases hids Entry.killedId i hi with heq | hi
      · exact hbelow i (.inr heq)
      · exact h.below i (.inr (.inr hi))
  · exact fun e he => List.mem_cons_of_mem x (h.made e he)
  · intro e he halive
    obtain ⟨hcalled, hkilled⟩ := h.pending e he halive
    refine ⟨fun hmem => ?_, fun hmem => ?_⟩
    · rcases hids Entry.calledId e.id hmem with heq | hmem
      · exact absurd (hdead e he (.inl heq)) (by simp [halive])
      · exact hcalled hmem
    · rcases hids Entry.killedId e.id hmem with heq | hmem
      · exact absurd (hdead e he (.inr heq)) (by simp [halive])
      · exact hkilled hmem

theorem ScheduleInv.schedKill (h : ScheduleInv s) (i : Nat) : ScheduleInv (schedKill s i) := by
  by_cases hpending : isPending s i = true
  · have heq : Sched.schedKill s i
        = { { s with sctree := s.sctree.map (markDead i) } with log := .killed i :: s.log } := by
      unfold Sched.schedKill
      rw [if_pos hpending]
    rw [heq]
    refine (h.mark i).entry (h.history.other rfl rfl) rfl ?_ ?_
    · intro e he hid
      obtain ⟨e', he', rfl⟩ := List.mem_map.mp he
      rw [markDead_id] at hid
      rcases hid with hid | hid
      · cases hid
      · exact dead_of_markDead (Option.some.inj hid).symm
    · intro j hj
      rcases hj with hj | hj
      · cases hj
      · cases hj
        cases hfind : find Event.id s.sctree i with
        | none =>
          unfold isPending at hpending
          rw [hfind] at hpending
          cases hpending
        | some e =>
          obtain ⟨he, rfl⟩ := mem_of_find hfind
          exact h.id_lt he
  · have heq : Sched.schedKill s i = { s with sctree := s.sctree.map (markDead i) } := by
      unfold Sched.schedKill
      rw [if_neg hpending]
    rw [heq]
    exact h.mark i

theorem ScheduleInv.schedScrubParam (h : ScheduleInv s) (param : Nat) :
    ScheduleInv (schedScrubParam s param) := by
  unfold Sched.schedScrubParam
  generalize (s.sctree.filter fun e => e.param == param).map Event.id = is
  induction is generalizing s with
  | nil => exact h
  | cons i is ih => exact ih (h.schedKill i)

/-! ## the turns of a pass keep it -/

theorem ScheduleInv.schedulerEnter (h : ScheduleInv s) : ScheduleInv (schedulerEnter s) :=
  { h with
    now := fun pass hpass => by
      cases hpass
      exact Int.le_refl s.clock
    cursor := fun pass hpass => by
      cases hpass
      exact valid_first s.sctree
    calling := fun pass hpass hcalling => by
      cases hpass
      cases hcalling }

theorem ScheduleInv.schedulerReturn (h : ScheduleInv s) (hpass : s.pass = some pass)
    (hp : pass.p = some i) : ScheduleInv (schedulerReturn s pass i) where
  sorted := List.Pairwise.sublist List.filter_sublist h.sorted
  distinct := h.distinct.remove i
  below := h.below
  made e he := h.made e (mem_remove he).1
  pending e he := h.pending e (mem_remove he).1
  history := h.history
  now pass' hpass' := by
    cases hpass'
    exact h.now pass hpass
  cursor pass' hpass' := by
    cases hpass'
    exact valid_remove h.distinct (h.cursor pass hpass i hp)
  calling pass' hpass' hcalling := by
    cases hpass'
    cases hcalling

/-- the loop goes on behind an event that is not due -/
theorem ScheduleInv.skip (h : ScheduleInv s) (hpass : s.pass = some pass) (i : Nat) :
    ScheduleInv { s with pass := some ⟨pass.now, next Event.id s.sctree i, false⟩ } :=
  { h with
    now := fun pass' hpass' => by
      cases hpass'
      exact h.now pass hpass
    cursor := fun pass' hpass' => by
      cases hpass'
      exact valid_next s.sctree i
    calling := fun pass' hpass' hcalling => by
      cases hpass'
      cases hcalling }

theorem ScheduleInv.callFunc (h : ScheduleInv s) (hpass : s.pass = some pass) {e : Event}
    (he : e ∈ s.sctree) (hdead : e.dead = false) (hdue : e.xtime ≤ pass.now) {func : Nat}
    (hfunc : e.func = some func) :
    ScheduleInv
      { s with
        sctree := s.sctree.map (markDead e.id)
        pass := some ⟨pass.now, some e.id, true⟩
        log := .called e.id func e.param s.clock :: s.log } := by
  obtain ⟨honce, hkept⟩ := h.pending e he hdead
  have hlog : SchedHistory (.called e.id func e.param s.clock :: s.log) :=
    h.history.called (e := { e with dead := false }) (h.made e he) hfunc (Int.le_trans hdue (h.now pass hpass)) honce hkept
  have hentry : ScheduleInv { s with
      sctree := s.sctree.map (markDead e.id)
      log := .called e.id func e.param s.clock :: s.log } := by
    refine (h.mark e.id).entry hlog rfl ?_ ?_
    · intro e' he' hid
      obtain ⟨e'', he'', rfl⟩ := List.mem_map.mp he'
      rw [markDead_id] at hid
      rcases hid with hid | hid
      · exact dead_of_markDead (Option.some.inj hid).symm
      · cases hid
    · intro j hj
      rcases hj with hj | hj
      · cases hj
        exact h.id_lt he
      · cases hj
  refine { hentry with now := ?_, cursor := ?_, calling := ?_ }
  · intro pass' hpass'
    cases hpass'
    exact h.now pass hpass
  · intro pass' hpass' k hk
    cases hpass'
    cases hk
    show e.id ∈ (s.sctree.map (markDead e.id)).map Event.id
    rw [ids_markDead]
    exact List.mem_map_of_mem he
  · intro pass' hpass' hcalling e' he' hp
    cases hpass'
    obtain ⟨e'', he'', rfl⟩ := List.mem_map.mp he'
    rw [markDead_id] at hp
    exact dead_of_markDead (Option.some.inj hp).symm

/-- what a turn can do -/
theorem schedulerTurn_cases (s : Schedule) (pass : Pass) :
    (pass.p = none ∧ schedulerTurn s pass
      = { s with pass := none, log := .returned (schedulerTimeout s) :: s.log }) ∨
    (∃ i, pass.p = some i ∧ find Event.id s.sctree i = none ∧ schedulerTurn s pass = s) ∨
    ∃ e ∈ s.sctree, pass.p = some e.id ∧
      ((e.dead = true ∧ schedulerTurn s pass = schedulerReturn s pass e.id) ∨
      (e.dead = false ∧ pass.now < e.xtime ∧ schedulerTurn s pass
        = { s with pass := some ⟨pass.now, next Event.id s.sctree e.id, false⟩ }) ∨
      (e.dead = false ∧ e.xtime ≤ pass.now ∧ e.func = none ∧ schedulerTurn s pass
        = schedulerReturn { s with sctree := s.sctree.map (markDead e.id) } pass e.id) ∨
      ∃ func, e.dead = false ∧ e.xtime ≤ pass.now ∧ e.func = some func ∧ schedulerTurn s pass
        = { s with
            sctree := s.sctree.map (markDead e.id)
            pass := some ⟨pass.now, some e.id, true⟩
            log := .called e.id func e.param s.clock :: s.log }) := by
  unfold schedulerTurn
  cases hp : pass.p with
  | none => exact .inl ⟨rfl, rfl⟩
  | some i =>
    dsimp only
    cases hfind : find Event.id s.sctree i with
    | none => exact .inr (.inl ⟨i, rfl, hfind, rfl⟩)
    | some e =>
      obtain ⟨he, rfl⟩ := mem_of_find hfind
      refine .inr (.inr ⟨e, he, rfl, ?_⟩)
      dsimp only
      cases hdead : e.dead with
      | true => exact .inl ⟨rfl, if_pos rfl⟩
      | false =>
        rw [if_neg Bool.false_ne_true]
        by_cases hdue : pass.now < e.xtime
        · exact .inr (.inl ⟨rfl, hdue, if_pos hdue⟩)
        · rw [if_neg hdue]
          have hdue : e.xtime ≤ pass.now := Int.not_lt.mp hdue
          cases hfunc : e.func with
          | none => exact .inr (.inr (.inl ⟨rfl, hdue, rfl, rfl⟩))
          | some func => exact .inr (.inr (.inr ⟨func, rfl, hdue, rfl, rfl⟩))

theorem ScheduleInv.schedulerTurn (h : ScheduleInv s) (hpass : s.pass = some pass) :
    ScheduleInv (schedulerTurn s pass) := by
  obtain ⟨-, heq⟩ | ⟨i, -, -, heq⟩ | ⟨e, he, hp, hcases⟩ := schedulerTurn_cases s pass
  · rw [heq]
    have hentry := h.entry (x := .returned (schedulerTimeout s)) (h.history.other rfl rfl) rfl
      (fun e he hid => by rcases hid with hid | hid <;> cases hid)
      (fun i hi => by rcases hi with hi | hi <;> cases hi)
    exact { hentry with
      now := fun pass' hpass' => by cases hpass'
      cursor := fun pass' hpass' => by cases hpass'
      calling := fun pass' hpass' => by cases hpass' }
  · rw [heq]
    exact h
  · obtain ⟨-, heq⟩ | ⟨-, -, heq⟩ | ⟨-, -, -, heq⟩ | ⟨func, hdead, hdue, hfunc, heq⟩ := hcases
    · rw [heq]
      exact h.schedulerReturn hpass hp
    · rw [heq]
      exact h.skip hpass e.id
    · rw [heq]
      exact (h.mark e.id).schedulerReturn hpass hp
    · rw [heq]
      exact h.callFunc hpass he hdead hdue hfunc

/-- what a step can do -/
theorem step_cases (s : Schedule) (op : Op) :
    step s op = s ∨
    (∃ seconds : Nat, step s op = { s with clock := s.clock + seconds }) ∨
    (∃ tick func param, step s op = schedNew s tick func param) ∨
    (∃ i, step s op = schedKill s i) ∨
    (∃ param, step s op = schedScrubParam s param) ∨
    (s.pass = none ∧ op = .scheduler ∧ step s op = schedulerEnter s) ∨
    (∃ pass, s.pass = some pass ∧ step s op = schedulerTurn s pass) ∨
    ∃ pass i, s.pass = some pass ∧ pass.p = some i ∧ pass.calling = true ∧
      step s op = schedulerReturn s pass i := by
  cases op with
  | wait seconds => exact .inr (.inl ⟨seconds, rfl⟩)
  | new tick func param =>
    simp only [step]
    split
    · exact .inl rfl
    · exact .inr (.inr (.inl ⟨tick, func, param, rfl⟩))
  | kill i =>
    simp only [step]
    split
    · exact .inl rfl
    · exact .inr (.inr (.inr (.inl ⟨i, rfl⟩)))
  | scrub param =>
    simp only [step]
    split
    · exact .inl rfl
    · exact .inr (.inr (.inr (.inr (.inl ⟨param, rfl⟩))))
  | scheduler =>
    simp only [step]
    split
    · rename_i hpass
      exact .inr (.inr (.inr (.inr (.inr (.inl ⟨hpass, trivial, rfl⟩)))))
    · exact .inl rfl
  | turn =>
    simp only [step]
    split
    · exact .inl rfl
    · rename_i pass hpass
      split
      · exact .inl rfl
      · exact .inr (.inr (.inr (.inr (.inr (.inr (.inl ⟨pass, hpass, rfl⟩))))))
  | done =>
    simp only [step]
    split
    · rename_i now i hpass
      exact .inr (.inr (.inr (.inr (.inr (.inr (.inr ⟨_, i, hpass, rfl, rfl, rfl⟩))))))
    · exact .inl rfl

theorem ScheduleInv.step (h : ScheduleInv s) (op : Op) : ScheduleInv (step s op) := by
  obtain heq | ⟨seconds, heq⟩ | ⟨tick, func, param, heq⟩ | ⟨i, heq⟩ | ⟨param, heq⟩ | ⟨-, -, heq⟩ |
    ⟨pass, hpass, heq⟩ | ⟨pass, i, hpass, hp, -, heq⟩ := step_cases s op
  · rw [heq]
    exact h
  · rw [heq]
    exact h.wait seconds
  · rw [heq]
    exact h.schedNew tick func param
  · rw [heq]
    exact h.schedKill i
  · rw [heq]
    exact h.schedScrubParam param
  · rw [heq]
    exact h.schedulerEnter
  · rw [heq]
    exact h.schedulerTurn hpass
  · rw [heq]
    exact h.schedulerReturn hpass hp

theorem scheduleInv_run (clock : Int) (ops : List Op) :
    ∀ s ∈ Run.states Sched.step (schedInit clock) ops, ScheduleInv s :=
  Run.states_inv_all (fun s op h => h.step op) ops (ScheduleInv.init clock)

/-! ## what a pass calls -/

/-- alive and due, with a function to call -/
structure IsDue (s : Schedule) (e : Event) : Prop where
  mem : e ∈ s.sctree
  alive : e.dead = false
  due : e.xtime ≤ s.clock
  func : e.func ≠ none

/-- the event is called, or it is killed -/
def Served (since : List Entry) (e : Event) : Prop :=
  e.id ∈ calledIds since ∨ e.id ∈ killedIds since

/-- in a pass that began in `s`: an event that was due is served, or the pass still comes to it -/
def PassCovers (s s' : Schedule) : Prop :=
  ∃ since pass, s'.log = since ++ s.log ∧ s'.pass = some pass ∧ pass.now = s.clock ∧
    ∀ e, IsDue s e → Served since e ∨ e ∈ onwards Event.id s'.sctree pass.p

theorem Served.cons {since : List Entry} {e : Event} (h : Served since e) (x : Entry) :
    Served (x :: since) e := by
  have hmem : ∀ f : Entry → Option Nat, e.id ∈ since.filterMap f →
      e.id ∈ (x :: since).filterMap f := by
    intro f hf
    obtain ⟨y, hy, hfy⟩ := List.mem_filterMap.mp hf
    exact List.mem_filterMap.mpr ⟨y, List.mem_cons_of_mem x hy, hfy⟩
  exact h.imp (hmem _) (hmem _)

variable {s₀ : Schedule}

theorem passCovers_enter (s : Schedule) : PassCovers s (schedulerEnter s) := by
  refine ⟨[], _, rfl, rfl, rfl, ?_⟩
  intro e hdue
  refine .inr ?_
  show e ∈ onwards Event.id s.sctree (first Event.id s.sctree)
  rw [onwards_first]
  exact hdue.mem

theorem PassCovers.wait (h : PassCovers s₀ s) (seconds : Nat) :
    PassCovers s₀ { s with clock := s.clock + seconds } := h

theorem PassCovers.schedNew (h : PassCovers s₀ s) (hinv : ScheduleInv s) (tick : Int)
    (func : Option Nat) (param : Nat) : PassCovers s₀ (schedNew s tick func param) := by
  obtain ⟨since, pass, hlog, hpass, hnow, hcover⟩ := h
  refine ⟨.made ⟨s.id, s.clock + tick, func, param, false⟩ :: since, pass, ?_, hpass, hnow, ?_⟩
  · exact congrArg (List.cons _) hlog
  · intro e hdue
    refine (hcover e hdue).imp (fun hserved => hserved.cons _) fun hmem => ?_
    obtain ⟨l₁, l₂, hl, hadd⟩ :=
      schedAdd_split ⟨s.id, s.clock + tick, func, param, false⟩ s.sctree
    show e ∈ onwards Event.id (schedAdd _ s.sctree) pass.p
    rw [hadd]
    refine mem_onwards_insert ?_ (hl ▸ hmem)
    intro k hk heq
    obtain ⟨e', he', rfl⟩ := List.mem_map.mp (hinv.cursor pass hpass k hk)
    exact Nat.ne_of_lt (hinv.id_lt he') heq

/-- what the pass comes to stays as it is when another event is marked -/
theorem mem_onwards_mark {l : List Event} {e : Event} {p : Option Nat} {i : Nat}
    (h : e ∈ onwards Event.id l p) (hne : e.id ≠ i) :
    e ∈ onwards Event.id (l.map (markDead i)) p := by
  rw [onwards_map (markDead_id i)]
  have heq : markDead i e = e := if_neg hne
  exact heq ▸ List.mem_map_of_mem h

theorem PassCovers.schedKill (h : PassCovers s₀ s) (hinv : ScheduleInv s) (i : Nat) :
    PassCovers s₀ (schedKill s i) := by
  obtain ⟨since, pass, hlog, hpass, hnow, hcover⟩ := h
  by_cases hpending : isPending s i = true
  · refine ⟨.killed i :: since, pass, ?_, hpass, hnow, ?_⟩
    · show (if isPending s i then .killed i :: s.log else s.log) = _
      rw [if_pos hpending, hlog, List.cons_append]
    · intro e hdue
      by_cases hid : e.id = i
      · exact .inl (.inr (hid ▸ List.mem_cons_self))
      · exact (hcover e hdue).imp (fun hserved => hserved.cons _) fun hmem =>
          mem_onwards_mark hmem hid
  · refine ⟨since, pass, ?_, hpass, hnow, ?_⟩
    · show (if isPending s i then .killed i :: s.log else s.log) = _
      rw [if_neg hpending, hlog]
    · intro e hdue
      refine (hcover e hdue).imp id fun hmem => mem_onwards_mark hmem ?_
      rintro rfl
      rw [isPending_iff hinv.distinct (mem_of_mem_onwards hmem), hdue.alive] at hpending
      exact hpending rfl

theorem PassCovers.schedScrubParam (h : PassCovers s₀ s) (hinv : ScheduleInv s) (param : Nat) :
    PassCovers s₀ (schedScrubParam s param) := by
  unfold Sched.schedScrubParam
  generalize (s.sctree.filter fun e => e.param == param).map Event.id = is
  induction is generalizing s with
  | nil => exact h
  | cons i is ih => exact ih (h.schedKill hinv i) (hinv.schedKill i)

theorem schedScrubParam_pass (s : Schedule) (param : Nat) :
    (schedScrubParam s param).pass = s.pass := by
  unfold schedScrubParam
  generalize (s.sctree.filter fun e => e.param == param).map Event.id = is
  induction is generalizing s with
  | nil => rfl
  | cons i is ih => exact ih (schedKill s i)

/-- the event at the cursor is the first that the pass comes to -/
theorem onwards_cursor (hd : Distinct Event.id s.sctree) {e e' : Event} (he : e ∈ s.sctree)
    (hmem : e' ∈ onwards Event.id s.sctree (some e.id)) :
    e' = e ∨ e' ∈ (onwards Event.id s.sctree (some e.id)).tail := by
  obtain ⟨l₁, l₂, hl⟩ := List.append_of_mem he
  rw [hl] at hd hmem ⊢
  rw [onwards_split hd] at hmem ⊢
  exact List.mem_cons.mp hmem

theorem PassCovers.schedulerReturn (h : PassCovers s₀ s) (hinv : ScheduleInv s)
    (hpass : s.pass = some pass) {e : Event} (he : e ∈ s.sctree) (hp : pass.p = some e.id)
    (hdead : e.dead = true) : PassCovers s₀ (schedulerReturn s pass e.id) := by
  obtain ⟨since, pass', hlog, hpass', hnow, hcover⟩ := h
  cases hpass.symm.trans hpass'
  refine ⟨since, _, hlog, rfl, hnow, ?_⟩
  intro e' hdue
  refine (hcover e' hdue).imp id fun hmem => ?_
  show e' ∈ onwards Event.id (remove Event.id s.sctree e.id) (next Event.id s.sctree e.id)
  rw [onwards_remove hinv.distinct (List.mem_map_of_mem he)]
  rw [hp] at hmem
  rcases onwards_cursor hinv.distinct he hmem with rfl | htail
  · exact absurd hdue.alive (by simp [hdead])
  · exact htail

theorem PassCovers.skip (h : PassCovers s₀ s) (hinv : ScheduleInv s) (hpass : s.pass = some pass)
    {e : Event} (he : e ∈ s.sctree) (hp : pass.p = some e.id) (hlate : pass.now < e.xtime) :
    PassCovers s₀ { s with pass := some ⟨pass.now, next Event.id s.sctree e.id, false⟩ } := by
  obtain ⟨since, pass', hlog, hpass', hnow, hcover⟩ := h
  cases hpass.symm.trans hpass'
  refine ⟨since, _, hlog, rfl, hnow, ?_⟩
  intro e' hdue
  refine (hcover e' hdue).imp id fun hmem => ?_
  show e' ∈ onwards Event.id s.sctree (next Event.id s.sctree e.id)
  rw [onwards_next hinv.distinct (List.mem_map_of_mem he)]
  rw [hp] at hmem
  rcases onwards_cursor hinv.distinct he hmem with rfl | htail
  · exact absurd hdue.due (Int.not_le.mpr (hnow ▸ hlate))
  · exact htail

theorem PassCovers.callFunc (h : PassCovers s₀ s) (hpass : s.pass = some pass) {e : Event}
    (hp : pass.p = some e.id) (func : Nat) :
    PassCovers s₀
      { s with
        sctree := s.sctree.map (markDead e.id)
        pass := some ⟨pass.now, some e.id, true⟩
        log := .called e.id func e.param s.clock :: s.log } := by
  obtain ⟨since, pass', hlog, hpass', hnow, hcover⟩ := h
  cases hpass.symm.trans hpass'
  refine ⟨.called e.id func e.param s.clock :: since, _, congrArg (List.cons _) hlog, rfl, hnow, ?_⟩
  intro e' hdue
  by_cases hid : e'.id = e.id
  · exact .inl (.inl (hid ▸ List.mem_cons_self))
  · refine (hcover e' hdue).imp (fun hserved => hserved.cons _) fun hmem => ?_
    exact mem_onwards_mark (hp ▸ hmem) hid

/-- an event without a function is not called -/
theorem PassCovers.markNoFunc (h : PassCovers s₀ s) (hinv : ScheduleInv s) {e : Event}
    (he : e ∈ s.sctree) (hfunc : e.func = none) :
    PassCovers s₀ { s with sctree := s.sctree.map (markDead e.id) } := by
  obtain ⟨since, pass, hlog, hpass, hnow, hcover⟩ := h
  refine ⟨since, pass, hlog, hpass, hnow, ?_⟩
  intro e' hdue
  refine (hcover e' hdue).imp id fun hmem => mem_onwards_mark hmem ?_
  intro hid
  have heq : e' = e := List.inj_on_of_nodup_map hinv.distinct (mem_of_mem_onwards hmem) he hid
  exact hdue.func (heq ▸ hfunc)

theorem PassCovers.schedulerTurn (h : PassCovers s₀ s) (hinv : ScheduleInv s)
    (hpass : s.pass = some pass) (hgoes : (schedulerTurn s pass).pass ≠ none) :
    PassCovers s₀ (schedulerTurn s pass) := by
  obtain ⟨-, heq⟩ | ⟨i, -, -, heq⟩ | ⟨e, he, hp, hcases⟩ := schedulerTurn_cases s pass
  · rw [heq] at hgoes
    exact absurd rfl hgoes
  · rw [heq]
    exact h
  · obtain ⟨hdead, heq⟩ | ⟨-, hlate, heq⟩ | ⟨-, -, hfunc, heq⟩ | ⟨func, -, -, -, heq⟩ := hcases
    · rw [heq]
      exact h.schedulerReturn hinv hpass he hp hdead
    · rw [heq]
      exact h.skip hinv hpass he hp hlate
    · rw [heq]
      have hmarked := (h.markNoFunc hinv he hfunc).schedulerReturn (hinv.mark e.id) hpass
        (e := markDead e.id e) (List.mem_map_of_mem he) (hp.trans (by rw [markDead_id]))
        (dead_of_markDead rfl)
      rw [markDead_id] at hmarked
      exact hmarked
    · rw [heq]
      exact h.callFunc hpass hp func

theorem PassCovers.step (h : PassCovers s₀ s) (hinv : ScheduleInv s) (op : Op)
    (hgoes : (step s op).pass ≠ none) : PassCovers s₀ (step s op) := by
  obtain heq | ⟨seconds, heq⟩ | ⟨tick, func, param, heq⟩ | ⟨i, heq⟩ | ⟨param, heq⟩ | ⟨hpass, -, -⟩ |
    ⟨pass, hpass, heq⟩ | ⟨pass, i, hpass, hp, hcalling, heq⟩ := step_cases s op
  · rw [heq]
    exact h
  · rw [heq]
    exact h.wait seconds
  · rw [heq]
    exact h.schedNew hinv tick func param
  · rw [heq]
    exact h.schedKill hinv i
  · rw [heq]
    exact h.schedScrubParam hinv param
  · obtain ⟨since, pass, -, hpass', -⟩ := h
    rw [hpass] at hpass'
    cases hpass'
  · rw [heq] at hgoes ⊢
    exact h.schedulerTurn hinv hpass hgoes
  · rw [heq]
    obtain ⟨e, he, rfl⟩ := List.mem_map.mp (hinv.cursor pass hpass i hp)
    exact h.schedulerReturn hinv hpass he hp (hinv.calling pass hpass hcalling e he hp)

/-- a pass returns when it has come to the end of the list -/
theorem PassCovers.returns (h : PassCovers s₀ s) (op : Op) (hpass : (Sched.step s op).pass = none) :
    ∃ since, (Sched.step s op).log = since ++ s₀.log ∧ ∀ e, IsDue s₀ e → Served since e := by
  obtain ⟨since, pass, hlog, hsome, hnow, hcover⟩ := h
  have hstays : ∀ s' : Schedule, s'.pass = s.pass → s'.pass ≠ none := by
    intro s' heq hnone
    rw [heq, hsome] at hnone
    cases hnone
  obtain heq | ⟨seconds, heq⟩ | ⟨tick, func, param, heq⟩ | ⟨i, heq⟩ | ⟨param, heq⟩ | ⟨hnone, -, -⟩ |
    ⟨pass', hpass', heq⟩ | ⟨pass', i, -, -, -, heq⟩ := step_cases s op
  · exact absurd hpass (hstays _ (by rw [heq]))
  · exact absurd hpass (hstays _ (by rw [heq]))
  · exact absurd hpass (hstays _ (by rw [heq]; rfl))
  · exact absurd hpass (hstays _ (by rw [heq]; rfl))
  · exact absurd hpass (hstays _ (by rw [heq, schedScrubParam_pass]))
  · exact absurd hnone (hstays s rfl)
  · cases hsome.symm.trans hpass'
    rw [heq] at hpass ⊢
    obtain ⟨hp, heq⟩ | ⟨i, -, -, heq⟩ | ⟨e, -, -, hcases⟩ := schedulerTurn_cases s pass
    · refine ⟨.returned (schedulerTimeout s) :: since, ?_, ?_⟩
      · rw [heq]
        exact congrArg (List.cons _) hlog
      · intro e hdue
        rcases hcover e hdue with hserved | hmem
        · exact hserved.cons _
        · rw [hp] at hmem
          cases hmem
    · exact absurd hpass (hstays _ (by rw [heq]))
    · obtain ⟨-, heq⟩ | ⟨-, -, heq⟩ | ⟨-, -, -, heq⟩ | ⟨func, -, -, -, heq⟩ := hcases <;>
      · rw [heq] at hpass
        cases hpass
  · rw [heq] at hpass
    cases hpass

end

/-! ## every run -/

/-- a pass that is entered in `s` makes the steps `mid`, and returns with `op` -/
structure PassReturns (s : Schedule) (mid : List Op) (op : Op) : Prop where
  enters : s.pass = none
  goes : ∀ s' ∈ Run.states step (schedulerEnter s) mid, s'.pass ≠ none
  returns : (step (mid.foldl step (schedulerEnter s)) op).pass = none

theorem passCovers_run {s₀ : Schedule} (mid : List Op) :
    ∀ s, ScheduleInv s → PassCovers s₀ s →
    (∀ s' ∈ Run.states step s mid, s'.pass ≠ none) → PassCovers s₀ (mid.foldl step s) := by
  induction mid with
  | nil => exact fun s _ h _ => h
  | cons op mid ih =>
    intro s hinv h hgoes
    have hrest : ∀ s' ∈ Run.states step (step s op) mid, s'.pass ≠ none :=
      fun s' hs' => hgoes s' (List.mem_cons_of_mem s hs')
    have hhead : step s op ∈ Run.states step (step s op) mid := by
      cases mid <;> exact List.mem_cons_self
    exact ih (step s op) (hinv.step op) (h.step hinv op (hrest _ hhead)) hrest

/-- in every state of every run the list is sorted and the history is right; and a pass that begins
there and returns has called all that was due, but for what was killed meanwhile -/
theorem scheduler_serves (clock : Int) (ops : List Op) (s : Schedule)
    (hs : s ∈ Run.states step (schedInit clock) ops) :
    Ordered s.sctree ∧ SchedHistory s.log ∧
    ∀ mid op, PassReturns s mid op →
      ∃ since, (step (mid.foldl step (schedulerEnter s)) op).log = since ++ s.log ∧
        ∀ e, IsDue s e → e.id ∈ calledIds since ∨ e.id ∈ killedIds since := by
  have hinv : ScheduleInv s := scheduleInv_run clock ops s hs
  refine ⟨hinv.sorted, hinv.history, ?_⟩
  intro mid op hpass
  have hcovers : PassCovers s (mid.foldl step (schedulerEnter s)) :=
    passCovers_run mid (schedulerEnter s) hinv.schedulerEnter (passCovers_enter s) hpass.goes
  exact hcovers.returns op hpass.returns

/-- three events, two of them due -/
def threeEvents : List Op := [.new 0 (some 7) 1, .new 0 (some 8) 2, .new 5 (some 9) 3]

/-- the first of them kills the second, and makes one that is due as well -/
def onePass : List Op :=
  [.turn, .kill 2, .new 0 (some 7) 1, .done, .turn, .turn, .done, .turn]

theorem scheduler_serves_three :
    PassReturns (threeEvents.foldl step (schedInit 100)) onePass .turn ∧
    ∃ since, (step (onePass.foldl step (schedulerEnter (threeEvents.foldl step (schedInit 100))))
        .turn).log = since ++ (threeEvents.foldl step (schedInit 100)).log ∧
      ∀ e, IsDue (threeEvents.foldl step (schedInit 100)) e →
        e.id ∈ calledIds since ∨ e.id ∈ killedIds since := by
  have hreturns : PassReturns (threeEvents.foldl step (schedInit 100)) onePass .turn :=
    ⟨by decide, by decide, by decide⟩
  have hs : threeEvents.foldl step (schedInit 100) ∈ Run.states step (schedInit 100) threeEvents :=
    Run.foldl_mem_states threeEvents (schedInit 100)
  obtain ⟨-, -, hserves⟩ := scheduler_serves 100 threeEvents _ hs
  exact ⟨hreturns, hserves onePass .turn hreturns⟩

/-- the calls of that pass -/
example : calledIds (step (onePass.foldl step (schedulerEnter (threeEvents.foldl step (schedInit 100))))
    .turn).log = [4, 1] := by decide

end Sched
