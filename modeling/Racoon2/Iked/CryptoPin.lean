import Racoon2.Lib.Run
import Racoon2.Iked.Sa

/-!
# The pin of an SA while Diffie-Hellman jobs are away

A Diffie-Hellman computation is a job of `crypto_workers.c`: it waits in a queue, a worker runs it,
and its callback runs later on the main loop.  Meanwhile `crypto_pending` of the SA keeps
`ikev2_sa_periodic_task` from it.  The pin is one flag, which every callback clears, whichever
other job of the SA is still away.

The children of all SAs are one list, with the serial number of their parent.

* `PinEvent`               what the main loop and the workers do;
* `clearsOwn`              an event clears no pin that another job needs;
* `Daemon.Pinned`          every SA with a job away is pinned;
* `pinStep_pinned`         an event (the step);
* `periodic_keeps_pinned`  what the periodic task leaves alone (the run).
-/

set_option linter.unusedVariables false

namespace Ikev2

/-! ## SAs, children and jobs -/

structure PinSa where
  serial : Nat
  state : State
  cryptoPending : Bool
  eapRoundPending : Bool
  deriving DecidableEq, Repr

structure PinChild where
  childId : Nat
  /-- the serial number of `parent` -/
  parent : Nat
  state : ChildState
  deriving DecidableEq, Repr

/-- the places that submit a job, with what they submit it for -/
inductive DhJob where
  /-- `ikev2_initiator_start` -/
  | saInitInitiator (sa : Nat)
  /-- `responder_state0_recv` -/
  | saInitResponder (sa : Nat)
  /-- `compute_skeyseed_submit` -/
  | skeyseed (sa : Nat)
  /-- `ikev2_create_child_responder` -/
  | childResponder (sa child : Nat)
  /-- `ikev2_createchild_initiator_send` -/
  | childInitiator (sa child : Nat)
  /-- `ikev2_rekey_ikesa_init_send` -/
  | rekeyInitSend (sa : Nat)
  /-- `ikev2_rekey_ikesa_responder`, which pins the new SA as well -/
  | rekeyResponder (sa newSa : Nat)
  /-- `ikev2_rekey_ikesa_init_recv` -/
  | rekeyInitRecv (sa : Nat)
  deriving DecidableEq, Repr

def DhJob.pins : DhJob → List Nat
  | .saInitInitiator sa => [sa]
  | .saInitResponder sa => [sa]
  | .skeyseed sa => [sa]
  | .childResponder sa _ => [sa]
  | .childInitiator sa _ => [sa]
  | .rekeyInitSend sa => [sa]
  | .rekeyResponder sa newSa => [sa, newSa]
  | .rekeyInitRecv sa => [sa]

def DhJob.child : DhJob → Option Nat
  | .childResponder _ child => some child
  | .childInitiator _ child => some child
  | _ => none

structure Daemon where
  sas : List PinSa
  children : List PinChild
  /-- there are worker threads -/
  enabled : Bool
  /-- `qhead` -/
  queue : List DhJob
  /-- with the workers -/
  running : List DhJob
  /-- `dhead` -/
  finished : List DhJob
  nextSerial : Nat
  nextChild : Nat
  deriving DecidableEq, Repr

def Daemon.start (enabled : Bool) : Daemon := ⟨[], [], enabled, [], [], [], 0, 0⟩

/-- the jobs whose callback has not run -/
def Daemon.inFlight (d : Daemon) : List DhJob := d.queue ++ d.running ++ d.finished

/-- the job was submitted for the SA, or for a child it has now -/
def Daemon.jobFor (d : Daemon) (j : DhJob) (sa : PinSa) : Prop :=
  sa.serial ∈ j.pins ∨ ∃ c ∈ d.children, j.child = some c.childId ∧ c.parent = sa.serial

instance (d : Daemon) (j : DhJob) (sa : PinSa) : Decidable (d.jobFor j sa) :=
  inferInstanceAs (Decidable (_ ∨ _))

/-! ## events -/

section
variable (d : Daemon)

def setPins (serials : List Nat) (pending : Bool) (sas : List PinSa) : List PinSa :=
  sas.map fun sa => if sa.serial ∈ serials then { sa with cryptoPending := pending } else sa

/-- what a submission finds: its SAs, and the child with its parent -/
def Daemon.submits (j : DhJob) : Bool :=
  j.pins.all (fun s => d.sas.any fun sa => sa.serial == s) &&
    match j.child with
    | none => true
    | some c => d.children.any (fun ch => ch.childId == c) &&
        d.children.all fun ch => ch.childId != c || decide (ch.parent ∈ j.pins)

/-- the pin is set, and taken back where `crypto_job_submit` fails; without workers the job and its
callback run at once -/
def Daemon.submit (j : DhJob) (accepted : Bool) : Daemon :=
  if d.submits j then
    if d.enabled && accepted then
      { d with sas := setPins j.pins true d.sas, queue := d.queue ++ [j] }
    else { d with sas := setPins j.pins false d.sas }
  else d

/-- `responder_state0_after_gen` goes on with a job for SKEYSEED and leaves the pin; every other
callback clears the pins of its job -/
def Daemon.callback (skeyseed : Bool) : Daemon :=
  match d.finished with
  | [] => d
  | .saInitResponder sa :: rest =>
    if skeyseed then { d with finished := rest, queue := d.queue ++ [.skeyseed sa] }
    else { d with sas := setPins [sa] false d.sas, finished := rest }
  | j :: rest => { d with sas := setPins j.pins false d.sas, finished := rest }

/-- the children `ikev2_child_adopt` takes along -/
def PinChild.movable (c : PinChild) : Bool :=
  c.state != .waitResponse && c.state != .requestSent

/-- `ikev2_child_adopt` -/
def Daemon.adopt (old new : Nat) : Daemon :=
  { d with children := d.children.map fun c =>
      if c.parent = old ∧ c.movable = true then { c with parent := new } else c }

/-- no pin holds the periodic task off -/
def PinSa.reaped (sa : PinSa) : Bool := !sa.cryptoPending && !sa.eapRoundPending

/-- `ikev2_sa_periodic_task` -/
def Daemon.periodicTask : Daemon :=
  let children := d.children.filter fun c =>
    !(c.state == .expired && d.sas.any fun sa => sa.serial == c.parent && sa.reaped)
  { d with
    children := children
    sas := d.sas.filter fun sa =>
      !(sa.reaped && (sa.state == .dying || sa.state == .dead)
        && children.all fun c => c.parent != sa.serial) }

/-- `worker_main` before the job -/
def Daemon.take : Daemon :=
  match d.queue with
  | [] => d
  | j :: rest => { d with queue := rest, running := d.running ++ [j] }

/-- `worker_main` after the job -/
def Daemon.finish (k : Nat) : Daemon :=
  match d.running[k]? with
  | none => d
  | some j => { d with running := d.running.eraseIdx k, finished := d.finished ++ [j] }

inductive PinEvent where
  | newSa
  | newChild (parent : Nat) (state : ChildState)
  /-- `ikev2_set_state` by a handler, an abort or a timer -/
  | setState (serial : Nat) (st : State)
  | setChildState (child : Nat) (st : ChildState)
  /-- the pin of a RADIUS round -/
  | setEapRound (serial : Nat) (pending : Bool)
  | submit (j : DhJob) (accepted : Bool)
  /-- a worker takes the first job of the queue -/
  | take
  /-- a worker is through with its job -/
  | finish (k : Nat)
  /-- `crypto_workers_drain` runs the next callback -/
  | callback (skeyseed : Bool)
  /-- IKE_SESSION_RESUME writes the flag without a job -/
  | clearPin (serial : Nat)
  | adopt (old new : Nat)
  | periodicTask

def pinStep : PinEvent → Daemon
  | .newSa => { d with
      sas := d.sas ++ [⟨d.nextSerial, .idling, false, false⟩], nextSerial := d.nextSerial + 1 }
  | .newChild parent state => { d with
      children := d.children ++ [⟨d.nextChild, parent, state⟩], nextChild := d.nextChild + 1 }
  | .setState serial st => { d with
      sas := d.sas.map fun sa => if sa.serial = serial then { sa with state := st } else sa }
  | .setChildState child st => { d with
      children := d.children.map fun c => if c.childId = child then { c with state := st } else c }
  | .setEapRound serial pending => { d with
      sas := d.sas.map fun sa =>
        if sa.serial = serial then { sa with eapRoundPending := pending } else sa }
  | .submit j accepted => d.submit j accepted
  | .take => d.take
  | .finish k => d.finish k
  | .callback skeyseed => d.callback skeyseed
  | .clearPin serial => { d with sas := setPins [serial] false d.sas }
  | .adopt old new => d.adopt old new
  | .periodicTask => d.periodicTask

end

/-! ## no pin is cleared that another job needs -/

section
variable (d : Daemon)

/-- the SAs whose pin the event clears -/
def Daemon.clears : PinEvent → List Nat
  | .submit j accepted => if d.enabled && accepted then [] else j.pins
  | .callback skeyseed =>
    match d.finished with
    | [] => []
    | .saInitResponder sa :: _ => if skeyseed then [] else [sa]
    | j :: _ => j.pins
  | .clearPin serial => [serial]
  | _ => []

/-- the jobs that are away, the one whose callback runs apart -/
def Daemon.others : PinEvent → List DhJob
  | .callback _ => d.queue ++ d.running ++ d.finished.tail
  | _ => d.inFlight

/-- the child is moved to another SA -/
def PinEvent.moves (c : PinChild) : PinEvent → Bool
  | .adopt old _ => decide (c.parent = old) && c.movable
  | _ => false

/-- a pin is cleared only when no other job of the SA is away, and a child with a job away is not
moved to another SA -/
def clearsOwn (ev : PinEvent) : Prop :=
  (∀ j ∈ d.others ev, ∀ s ∈ j.pins, s ∉ d.clears ev) ∧
  ∀ j ∈ d.inFlight, ∀ c ∈ d.children, j.child = some c.childId → ev.moves c = false

instance (ev : PinEvent) : Decidable (clearsOwn d ev) := inferInstanceAs (Decidable (_ ∧ _))

end

/-! ## every SA with a job away is pinned -/

structure Daemon.Pinned (d : Daemon) : Prop where
  sa : ∀ j ∈ d.inFlight, ∀ s ∈ j.pins, ∃ sa ∈ d.sas, sa.serial = s
  pending : ∀ j ∈ d.inFlight, ∀ s ∈ j.pins, ∀ sa ∈ d.sas, sa.serial = s → sa.cryptoPending = true
  child : ∀ j ∈ d.inFlight, ∀ c, j.child = some c → ∃ ch ∈ d.children, ch.childId = c
  parent : ∀ j ∈ d.inFlight, ∀ ch ∈ d.children, j.child = some ch.childId → ch.parent ∈ j.pins
  freshSa : ∀ sa ∈ d.sas, sa.serial < d.nextSerial
  freshChild : ∀ ch ∈ d.children, ch.childId < d.nextChild

section
variable {d : Daemon}

theorem mem_setPins {serials : List Nat} {pending : Bool} {sas : List PinSa} {sa : PinSa}
    (h : sa ∈ setPins serials pending sas) :
    ∃ sa' ∈ sas, sa.serial = sa'.serial ∧
      sa.cryptoPending = if sa.serial ∈ serials then pending else sa'.cryptoPending := by
  obtain ⟨sa', hmem, rfl⟩ := List.mem_map.mp h
  refine ⟨sa', hmem, ?_⟩
  split <;> exact ⟨rfl, rfl⟩

/-- the records of the SAs change, their serial numbers and the pins of jobs that are away stay -/
theorem Daemon.Pinned.mapSas (h : d.Pinned) {f : PinSa → PinSa}
    (hserial : ∀ sa, (f sa).serial = sa.serial)
    (hpending : ∀ j ∈ d.inFlight, ∀ sa ∈ d.sas, sa.serial ∈ j.pins →
      (f sa).cryptoPending = sa.cryptoPending) :
    Daemon.Pinned { d with sas := d.sas.map f } := by
  constructor
  · intro j hj s hs
    obtain ⟨sa, hmem, hsa⟩ := h.sa j hj s hs
    exact ⟨f sa, List.mem_map_of_mem hmem, (hserial sa).trans hsa⟩
  · intro j hj s hs sa hmem hsa
    obtain ⟨sa', hmem', rfl⟩ := List.mem_map.mp hmem
    rw [hserial] at hsa
    rw [hpending j hj sa' hmem' (hsa ▸ hs)]
    exact h.pending j hj s hs sa' hmem' hsa
  · exact h.child
  · exact h.parent
  · intro sa hmem
    obtain ⟨sa', hmem', rfl⟩ := List.mem_map.mp hmem
    rw [hserial]
    exact h.freshSa sa' hmem'
  · exact h.freshChild

theorem Daemon.Pinned.mapChildren (h : d.Pinned) {f : PinChild → PinChild}
    (hid : ∀ c, (f c).childId = c.childId)
    (hparent : ∀ j ∈ d.inFlight, ∀ c ∈ d.children, j.child = some c.childId →
      (f c).parent = c.parent) :
    Daemon.Pinned { d with children := d.children.map f } := by
  constructor
  · exact h.sa
  · exact h.pending
  · intro j hj c hc
    obtain ⟨ch, hmem, hch⟩ := h.child j hj c hc
    exact ⟨f ch, List.mem_map_of_mem hmem, (hid ch).trans hch⟩
  · intro j hj ch hmem hc
    obtain ⟨ch', hmem', rfl⟩ := List.mem_map.mp hmem
    rw [hid] at hc
    rw [hparent j hj ch' hmem' hc]
    exact h.parent j hj ch' hmem' hc
  · exact h.freshSa
  · intro ch hmem
    obtain ⟨ch', hmem', rfl⟩ := List.mem_map.mp hmem
    rw [hid]
    exact h.freshChild ch' hmem'

/-- jobs move on, end, or are followed by one that pins the same -/
theorem Daemon.Pinned.jobs (h : d.Pinned) {queue running finished : List DhJob}
    (hsub : ∀ j ∈ queue ++ running ++ finished, ∃ j' ∈ d.inFlight, j'.pins = j.pins
      ∧ (j.child = none ∨ j'.child = j.child)) :
    Daemon.Pinned { d with queue := queue, running := running, finished := finished } := by
  constructor
  · intro j hj s hs
    obtain ⟨j', hj', hpins, _⟩ := hsub j hj
    exact h.sa j' hj' s (hpins ▸ hs)
  · intro j hj s hs
    obtain ⟨j', hj', hpins, _⟩ := hsub j hj
    exact h.pending j' hj' s (hpins ▸ hs)
  · intro j hj c hc
    obtain ⟨j', hj', _, hnone | hchild⟩ := hsub j hj
    · rw [hnone] at hc
      cases hc
    · exact h.child j' hj' c (hchild.trans hc)
  · intro j hj ch hmem hc
    obtain ⟨j', hj', hpins, hnone | hchild⟩ := hsub j hj
    · rw [hnone] at hc
      cases hc
    · exact hpins ▸ h.parent j' hj' ch hmem (hchild.trans hc)
  · exact h.freshSa
  · exact h.freshChild

theorem Daemon.Pinned.unpin (h : d.Pinned) {serials : List Nat}
    (hown : ∀ j ∈ d.inFlight, ∀ s ∈ j.pins, s ∉ serials) :
    Daemon.Pinned { d with sas := setPins serials false d.sas } := by
  apply h.mapSas
  · intro sa
    split <;> rfl
  · intro j hj sa _ hin
    rw [if_neg (hown j hj _ hin)]

theorem Daemon.Pinned.take (h : d.Pinned) : d.take.Pinned := by
  unfold Daemon.take
  split
  · exact h
  · rename_i j rest hq
    apply h.jobs
    intro x hx
    refine ⟨x, ?_, rfl, Or.inr rfl⟩
    unfold Daemon.inFlight
    rw [hq]
    simp only [List.mem_append, List.mem_cons, List.not_mem_nil] at hx ⊢
    tauto

theorem Daemon.Pinned.finish (h : d.Pinned) (k : Nat) : (d.finish k).Pinned := by
  unfold Daemon.finish
  split
  · exact h
  · rename_i j hk
    apply h.jobs
    intro x hx
    refine ⟨x, ?_, rfl, Or.inr rfl⟩
    unfold Daemon.inFlight
    simp only [List.mem_append, List.mem_singleton] at hx ⊢
    rcases hx with (hx | hx) | hx | rfl
    · exact Or.inl (Or.inl hx)
    · exact Or.inl (Or.inr (List.mem_of_mem_eraseIdx hx))
    · exact Or.inr hx
    · exact Or.inl (Or.inr (List.mem_of_getElem? hk))

theorem submits_pins {j : DhJob} (h : d.submits j = true) : ∀ s ∈ j.pins,
    ∃ sa ∈ d.sas, sa.serial = s := by
  intro s hs
  have hall := ((Bool.and_eq_true _ _).mp h).1
  obtain ⟨sa, hmem, hsa⟩ := List.any_eq_true.mp (List.all_eq_true.mp hall s hs)
  exact ⟨sa, hmem, beq_iff_eq.mp hsa⟩

theorem submits_child {j : DhJob} (h : d.submits j = true) {c : Nat} (hc : j.child = some c) :
    (∃ ch ∈ d.children, ch.childId = c) ∧
      ∀ ch ∈ d.children, ch.childId = c → ch.parent ∈ j.pins := by
  have hchild := ((Bool.and_eq_true _ _).mp h).2
  rw [hc] at hchild
  obtain ⟨hany, hall⟩ := (Bool.and_eq_true _ _).mp hchild
  constructor
  · obtain ⟨ch, hmem, hch⟩ := List.any_eq_true.mp hany
    exact ⟨ch, hmem, beq_iff_eq.mp hch⟩
  · intro ch hmem hch
    have := List.all_eq_true.mp hall ch hmem
    rw [hch] at this
    simpa using this

theorem Daemon.Pinned.submit (h : d.Pinned) (j : DhJob) (accepted : Bool)
    (hown : clearsOwn d (.submit j accepted)) : (d.submit j accepted).Pinned := by
  unfold Daemon.submit
  split
  · rename_i hsub
    split
    · have hjobs : ∀ x ∈ d.queue ++ [j] ++ d.running ++ d.finished, x ∈ d.inFlight ∨ x = j := by
        intro x hx
        unfold Daemon.inFlight
        simp only [List.mem_append, List.mem_singleton] at hx ⊢
        tauto
      have hold : ∀ s, (∃ sa ∈ d.sas, sa.serial = s) →
          ∃ sa ∈ setPins j.pins true d.sas, sa.serial = s := by
        intro s hs
        obtain ⟨sa, hmem, hsa⟩ := hs
        refine ⟨_, List.mem_map_of_mem hmem, ?_⟩
        split <;> exact hsa
      constructor
      · intro x hx s hs
        rcases hjobs x hx with hx | rfl
        · exact hold s (h.sa x hx s hs)
        · exact hold s (submits_pins hsub s hs)
      · intro x hx s hs sa hmem hsa
        obtain ⟨sa', hmem', hserial, hpend⟩ := mem_setPins hmem
        rw [hpend]
        split
        · rfl
        · rename_i hin
          rcases hjobs x hx with hx | rfl
          · exact h.pending x hx s hs sa' hmem' (hserial.symm.trans hsa)
          · exact absurd (hsa ▸ hs) hin
      · intro x hx c hc
        rcases hjobs x hx with hx | rfl
        · exact h.child x hx c hc
        · exact (submits_child hsub hc).1
      · intro x hx ch hmem hc
        rcases hjobs x hx with hx | rfl
        · exact h.parent x hx ch hmem hc
        · exact (submits_child hsub hc).2 ch hmem rfl
      · intro sa hmem
        obtain ⟨sa', hmem', hserial, _⟩ := mem_setPins hmem
        rw [hserial]
        exact h.freshSa sa' hmem'
      · exact h.freshChild
    · rename_i hno
      have hclear := hown.1
      simp only [Daemon.clears, if_neg hno] at hclear
      exact h.unpin hclear
  · exact h

theorem Daemon.Pinned.callback (h : d.Pinned) (skeyseed : Bool)
    (hown : clearsOwn d (.callback skeyseed)) : (d.callback skeyseed).Pinned := by
  have hclear := hown.1
  unfold Daemon.clears at hclear
  unfold Daemon.callback
  -- the job whose callback runs is away no more
  have hrest : ∀ rest, d.finished.tail = rest → ∀ j ∈ d.queue ++ d.running ++ rest,
      ∃ j' ∈ d.inFlight, j'.pins = j.pins ∧ (j.child = none ∨ j'.child = j.child) := by
    intro rest hr j hj
    refine ⟨j, ?_, rfl, Or.inr rfl⟩
    rcases List.mem_append.mp hj with hj | hj
    · exact List.mem_append_left _ hj
    · apply List.mem_append_right
      rw [← hr] at hj
      exact List.mem_of_mem_tail hj
  have hdone : ∀ rest serials, d.finished.tail = rest →
      (∀ j ∈ d.queue ++ d.running ++ rest, ∀ s ∈ j.pins, s ∉ serials) →
      Daemon.Pinned { d with sas := setPins serials false d.sas, finished := rest } := by
    intro rest serials hr hno
    exact (h.jobs (hrest rest hr)).unpin hno
  split
  · exact h
  · rename_i sa rest hfin
    rw [hfin] at hclear
    dsimp only at hclear
    split
    · apply h.jobs
      intro j hj
      have hcases : j ∈ d.queue ++ d.running ++ rest ∨ j = .skeyseed sa := by
        simp only [List.mem_append, List.mem_singleton] at hj ⊢
        tauto
      rcases hcases with hj | rfl
      · exact hrest rest (by rw [hfin]; rfl) j hj
      · refine ⟨.saInitResponder sa, ?_, rfl, Or.inl rfl⟩
        apply List.mem_append_right
        rw [hfin]
        exact List.mem_cons_self
    · rename_i hno
      rw [if_neg hno] at hclear
      refine hdone rest [sa] (by rw [hfin]; rfl) ?_
      simpa only [Daemon.others, hfin, List.tail_cons] using hclear
  · rename_i j rest hne hfin
    refine hdone rest j.pins (by rw [hfin]; rfl) ?_
    rw [hfin] at hclear
    dsimp only [Daemon.others] at hclear
    rw [hfin] at hclear
    cases j with
    | saInitResponder sa => exact absurd rfl (hne sa)
    | saInitInitiator sa => exact hclear
    | skeyseed sa => exact hclear
    | childResponder sa child => exact hclear
    | childInitiator sa child => exact hclear
    | rekeyInitSend sa => exact hclear
    | rekeyResponder sa newSa => exact hclear
    | rekeyInitRecv sa => exact hclear

/-- an SA with a job away is not reaped, nor are its children -/
theorem Daemon.Pinned.not_reaped (h : d.Pinned) {j : DhJob} (hj : j ∈ d.inFlight) {sa : PinSa}
    (hmem : sa ∈ d.sas) (hpin : sa.serial ∈ j.pins) : sa.reaped = false := by
  unfold PinSa.reaped
  rw [h.pending j hj _ hpin sa hmem rfl]
  rfl

theorem Daemon.Pinned.sa_kept (h : d.Pinned) {j : DhJob} (hj : j ∈ d.inFlight) {sa : PinSa}
    (hmem : sa ∈ d.sas) (hpin : sa.serial ∈ j.pins) : sa ∈ d.periodicTask.sas := by
  apply List.mem_filter.mpr
  refine ⟨hmem, ?_⟩
  rw [h.not_reaped hj hmem hpin]
  rfl

theorem Daemon.Pinned.child_kept (h : d.Pinned) {j : DhJob} (hj : j ∈ d.inFlight) {c : PinChild}
    (hmem : c ∈ d.children) (hpin : c.parent ∈ j.pins) : c ∈ d.periodicTask.children := by
  apply List.mem_filter.mpr
  refine ⟨hmem, ?_⟩
  have hnone : (d.sas.any fun sa => sa.serial == c.parent && sa.reaped) = false := by
    rw [List.any_eq_false]
    intro sa hsa
    rw [Bool.and_eq_true, beq_iff_eq]
    rintro ⟨hserial, hreaped⟩
    rw [h.not_reaped hj hsa (hserial ▸ hpin)] at hreaped
    cases hreaped
  rw [hnone, Bool.and_false]
  rfl

theorem Daemon.Pinned.periodicTask (h : d.Pinned) : d.periodicTask.Pinned := by
  constructor
  · intro j hj s hs
    obtain ⟨sa, hmem, hsa⟩ := h.sa j hj s hs
    exact ⟨sa, h.sa_kept hj hmem (hsa ▸ hs), hsa⟩
  · intro j hj s hs sa hmem hsa
    exact h.pending j hj s hs sa (List.mem_filter.mp hmem).1 hsa
  · intro j hj c hc
    obtain ⟨ch, hmem, hch⟩ := h.child j hj c hc
    have hparent := h.parent j hj ch hmem (hch ▸ hc)
    exact ⟨ch, h.child_kept hj hmem hparent, hch⟩
  · intro j hj ch hmem hc
    exact h.parent j hj ch (List.mem_filter.mp hmem).1 hc
  · intro sa hmem
    exact h.freshSa sa (List.mem_filter.mp hmem).1
  · intro ch hmem
    exact h.freshChild ch (List.mem_filter.mp hmem).1

/-- a new IKE SA has a serial number of its own, which no job has -/
theorem Daemon.Pinned.newSa (h : d.Pinned) : (pinStep d .newSa).Pinned := by
  have hnew : ∀ sa ∈ d.sas ++ [(⟨d.nextSerial, .idling, false, false⟩ : PinSa)],
      sa ∈ d.sas ∨ sa.serial = d.nextSerial := by
    intro sa hsa
    rcases List.mem_append.mp hsa with hsa | hsa
    · exact Or.inl hsa
    · rw [List.mem_singleton.mp hsa]
      exact Or.inr rfl
  refine ⟨?_, ?_, h.child, h.parent, ?_, h.freshChild⟩
  · intro j hj s hs
    obtain ⟨sa, hmem, hsa⟩ := h.sa j hj s hs
    exact ⟨sa, List.mem_append_left _ hmem, hsa⟩
  · intro j hj s hs sa hmem hsa
    rcases hnew sa hmem with hmem | hfresh
    · exact h.pending j hj s hs sa hmem hsa
    · obtain ⟨sa', hmem', hsa'⟩ := h.sa j hj s hs
      have := h.freshSa sa' hmem'
      omega
  · intro sa hmem
    show sa.serial < d.nextSerial + 1
    rcases hnew sa hmem with hmem | hfresh
    · have := h.freshSa sa hmem
      omega
    · omega

/-- and a new Child SA its own id -/
theorem Daemon.Pinned.newChild (h : d.Pinned) (parent : Nat) (state : ChildState) :
    (pinStep d (.newChild parent state)).Pinned := by
  have hnew : ∀ ch ∈ d.children ++ [(⟨d.nextChild, parent, state⟩ : PinChild)],
      ch ∈ d.children ∨ ch.childId = d.nextChild := by
    intro ch hch
    rcases List.mem_append.mp hch with hch | hch
    · exact Or.inl hch
    · rw [List.mem_singleton.mp hch]
      exact Or.inr rfl
  refine ⟨h.sa, h.pending, ?_, ?_, h.freshSa, ?_⟩
  · intro j hj c hc
    obtain ⟨ch, hmem, hch⟩ := h.child j hj c hc
    exact ⟨ch, List.mem_append_left _ hmem, hch⟩
  · intro j hj ch hmem hc
    rcases hnew ch hmem with hmem | hfresh
    · exact h.parent j hj ch hmem hc
    · obtain ⟨ch', hmem', hch'⟩ := h.child j hj _ hc
      have := h.freshChild ch' hmem'
      omega
  · intro ch hmem
    show ch.childId < d.nextChild + 1
    rcases hnew ch hmem with hmem | hfresh
    · have := h.freshChild ch hmem
      omega
    · omega

theorem pinStep_pinned (ev : PinEvent) (h : d.Pinned) (hown : clearsOwn d ev) :
    (pinStep d ev).Pinned := by
  cases ev with
  | newSa => exact h.newSa
  | newChild parent state => exact h.newChild parent state
  | setState serial st =>
    apply h.mapSas
    · intro sa
      split <;> rfl
    · intro j hj sa _ _
      split <;> rfl
  | setChildState child st =>
    apply h.mapChildren
    · intro c
      split <;> rfl
    · intro j hj c _ _
      split <;> rfl
  | setEapRound serial pending =>
    apply h.mapSas
    · intro sa
      split <;> rfl
    · intro j hj sa _ _
      split <;> rfl
  | submit j accepted => exact h.submit j accepted hown
  | take => exact h.take
  | finish k => exact h.finish k
  | callback skeyseed => exact h.callback skeyseed hown
  | clearPin serial => exact h.unpin hown.1
  | adopt old new =>
    apply h.mapChildren
    · intro c
      split <;> rfl
    · intro j hj c hmem hc
      have hstay := hown.2 j hj c hmem hc
      rw [if_neg]
      rintro ⟨hparent, hmov⟩
      simp [PinEvent.moves, hparent, hmov] at hstay
  | periodicTask => exact h.periodicTask

end

/-- in every interleaving of the main loop and the workers that clears no pin another job needs:
every SA that a job was submitted for is still there, and the periodic task disposes of no SA with
a job away, nor of a child of it -/
theorem periodic_keeps_pinned (enabled : Bool) (evs : List PinEvent)
    (hrun : Run.Meets pinStep clearsOwn (Daemon.start enabled) evs) :
    ∀ d ∈ Run.states pinStep (Daemon.start enabled) evs, ∀ j ∈ d.inFlight,
      (∀ s ∈ j.pins, ∃ sa ∈ d.sas, sa.serial = s)
      ∧ ∀ sa ∈ d.sas, d.jobFor j sa → sa ∈ d.periodicTask.sas
        ∧ ∀ c ∈ d.children, c.parent = sa.serial → c ∈ d.periodicTask.children := by
  intro d hmem j hj
  have hinit : (Daemon.start enabled).Pinned := by
    refine ⟨?_, ?_, ?_, ?_, ?_, ?_⟩ <;> exact fun x hx => absurd hx List.not_mem_nil
  have h : d.Pinned :=
    Run.states_inv (fun d ev h hown => pinStep_pinned ev h hown) evs _ hinit hrun d hmem
  refine ⟨h.sa j hj, fun sa hsa hfor => ?_⟩
  have hpin : sa.serial ∈ j.pins := by
    rcases hfor with hpin | ⟨c, hc, hchild, hparent⟩
    · exact hpin
    · rw [← hparent]
      exact h.parent j hj c hc hchild
  refine ⟨h.sa_kept hj hsa hpin, fun c hc hparent => ?_⟩
  exact h.child_kept hj hc (hparent ▸ hpin)

/-- a child of the peer's request is computed and its SA deleted meanwhile; the periodic task comes
before and after the callback -/
def abortedChild : List PinEvent := [.newSa, .setState 0 .established, .newChild 0 .idling,
  .submit (.childResponder 0 0) true, .take, .setState 0 .dead, .setChildState 0 .expired,
  .periodicTask, .finish 0, .callback false, .periodicTask]

theorem periodic_keeps_pinned_child :
    ∃ d ∈ Run.states pinStep (Daemon.start true) abortedChild,
      ∃ j ∈ d.inFlight, ∃ sa ∈ d.sas, d.jobFor j sa ∧ sa.state = .dead
        ∧ sa ∈ d.periodicTask.sas := by
  have hreach : ∃ d ∈ Run.states pinStep (Daemon.start true) abortedChild,
      ∃ j ∈ d.inFlight, ∃ sa ∈ d.sas, d.jobFor j sa ∧ sa.state = .dead := by
    decide +kernel
  obtain ⟨d, hd, j, hj, sa, hsa, hfor, hdead⟩ := hreach
  have hkept := periodic_keeps_pinned true abortedChild (by decide +kernel) d hd j hj
  exact ⟨d, hd, j, hj, sa, hsa, hfor, hdead, (hkept.2 sa hsa hfor).1⟩

/-- a CREATE_CHILD_SA of the peer's and one of ours, a job for each: the callback of the first
clears the pin, and the SA that is deleted then is disposed of with the second job running -/
theorem periodic_disposes_busy :
    ∃ d ∈ Run.states pinStep (Daemon.start true) [.newSa, .setState 0 .established,
        .newChild 0 .idling, .newChild 0 .getspiDone, .submit (.childResponder 0 0) true,
        .submit (.childInitiator 0 1) true, .take, .take, .finish 0, .callback false,
        .setState 0 .dead, .setChildState 0 .expired, .setChildState 1 .expired],
      .childInitiator 0 1 ∈ d.inFlight ∧ (∃ sa ∈ d.sas, d.jobFor (.childInitiator 0 1) sa)
        ∧ d.periodicTask.sas = [] ∧ d.periodicTask.children = [] := by
  decide +kernel

end Ikev2
