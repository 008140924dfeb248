import Racoon2.Lib.Run
import Racoon2.Iked.Sa

/-!
# The counter of half-open SAs

`ikev2_half_open_sa` is what the cookie defence looks at.  It goes up in `ikev2_allocate_sa` and
down in `ikev2_set_state`, on an edge between two states and not once for an SA: the edge from
DYING to DEAD counts an SA down that was counted down already when it became ESTABLISHED.

A record stays in the list when its SA is freed, so that the list has every SA there ever was.

* `setState_counts`     a call of `ikev2_set_state`;
* `halfOpenStep_counts` an event (the step);
* `half_open_counts`    the counter along a run that counts no SA down twice (the run).
-/

set_option linter.unusedVariables false

namespace Ikev2

/-! ## SAs and the counter -/

structure SaEntry where
  isInitiator : Bool
  state : State
  /-- allocated with the initiator's SPI -/
  responder : Bool
  /-- it was ESTABLISHED or DEAD at some time -/
  settled : Bool
  /-- how often the counter went down for it -/
  subtracted : Nat
  deriving DecidableEq, Repr

structure HalfOpen where
  sas : List SaEntry
  /-- `ikev2_half_open_sa` -/
  counter : Int
  /-- `ikev2_under_attack` -/
  underAttack : Bool
  deriving DecidableEq, Repr

def HalfOpen.init : HalfOpen := ⟨[], 0, false⟩

/-- the SA was allocated for a request of the peer, and has never been ESTABLISHED nor killed -/
def SaEntry.halfOpen (sa : SaEntry) : Bool := sa.responder && !sa.settled

def settles (st : State) : Bool := st == .established || st == .dead

section
variable (threshold : Int)

/-- `ikev2_allocate_sa` -/
def allocateSa (initiatorSpi : Bool) (h : HalfOpen) : HalfOpen :=
  if initiatorSpi then
    { h with sas := h.sas ++ [⟨false, .idling, true, false, 0⟩], counter := h.counter + 1 }
  else { h with sas := h.sas ++ [⟨true, .idling, false, false, 0⟩] }

/-- `ikev2_input` creates an SA for the request of a new peer -/
def newPeer (h : HalfOpen) : HalfOpen :=
  { allocateSa true h with
    underAttack := h.underAttack || decide (threshold ≤ (allocateSa true h).counter) }

/-- the edges on which `ikev2_set_state` counts down -/
def countsDown (sa : SaEntry) (st : State) : Bool :=
  !sa.isInitiator && sa.state != .established && settles st

/-- `ikev2_set_state` -/
def setState (k : Nat) (st : State) (h : HalfOpen) : HalfOpen :=
  match h.sas[k]? with
  | none => h
  | some sa =>
    if countsDown sa st then
      { sas := h.sas.set k { sa with
          state := st, settled := true, subtracted := sa.subtracted + 1 }
        counter := h.counter - 1
        underAttack := h.underAttack && decide (threshold ≤ h.counter - 1) }
    else
      { h with sas := h.sas.set k { sa with state := st, settled := sa.settled || settles st } }

/-- `restore_one`: the SA is allocated as a responder's, counted down at once and set to
ESTABLISHED, or freed where the restart finds its record unusable -/
def restoreOne (isInitiator restored : Bool) (h : HalfOpen) : HalfOpen :=
  let st := if restored then State.established else .idling
  if 0 < h.counter + 1 then { h with sas := h.sas ++ [⟨isInitiator, st, true, true, 1⟩] }
  else { h with
    sas := h.sas ++ [⟨isInitiator, st, true, true, 0⟩], counter := h.counter + 1 }

/-! ## events -/

inductive SaEvent where
  | newPeer
  /-- for a rekey of the peer's, or a rekey or an acquire of ours -/
  | allocate (initiatorSpi : Bool)
  /-- a handler moves the SA on, completes it or gives it up -/
  | handler (k : Nat) (st : { st : State // st ≠ .dying })
  /-- `ikev2_abort` -/
  | abort (k : Nat)
  /-- `ikev2_sa_expire` and `ikev2_shutdown_sa` -/
  | expire (k : Nat)
  /-- `ikev2_initial_contact_flush_cb` -/
  | flush (k : Nat)
  | restore (isInitiator restored : Bool)

/-- the calls of `ikev2_set_state` that `ikev2_abort` makes -/
def abortCalls (k : Nat) : List (Nat × State) := [(k, .dying), (k, .dead)]

/-- the `switch` of `ikev2_sa_expire` -/
def expireCalls (k : Nat) : State → List (Nat × State)
  | .iniIkeSaInitSent | .resIkeSaInitSent | .iniIkeAuthSent | .resIkeAuthRcvd | .iniIkeAuthRcvd
  | .resIkeAuthEap | .resIkeAuthEapFinal => abortCalls k
  | .established => [(k, .dying)]
  | .dying => [(k, .dead)]
  | .dead => []
  | .idling | .iniIkeIntermediateSent | .iniIkeSessionResumeSent => []

def SaEvent.calls (h : HalfOpen) : SaEvent → List (Nat × State)
  | .newPeer => []
  | .allocate _ => []
  | .handler k st => [(k, st.1)]
  | .abort k => abortCalls k
  | .expire k => ((h.sas[k]?).map fun sa => expireCalls k sa.state).getD []
  | .flush k =>
    ((h.sas[k]?).map fun sa => if sa.state = .established then abortCalls k else []).getD []
  | .restore _ _ => []

def setStates (calls : List (Nat × State)) (h : HalfOpen) : HalfOpen :=
  calls.foldl (fun h c => setState threshold c.1 c.2 h) h

def halfOpenStep (h : HalfOpen) (ev : SaEvent) : HalfOpen :=
  match ev with
  | .newPeer => newPeer threshold h
  | .allocate initiatorSpi => allocateSa initiatorSpi h
  | .restore isInitiator restored => restoreOne isInitiator restored h
  | ev => setStates threshold (ev.calls h) h

/-! ## no SA is counted down twice -/

/-- the call does not take an SA of ours as responder that was ESTABLISHED or DEAD before from
another state than ESTABLISHED to one of the two -/
def callOnce (h : HalfOpen) (k : Nat) (st : State) : Bool :=
  match h.sas[k]? with
  | none => true
  | some sa => !(countsDown sa st && sa.settled)

def callsOnce : List (Nat × State) → HalfOpen → Bool
  | [], _ => true
  | c :: cs, h => callOnce h c.1 c.2 && callsOnce cs (setState threshold c.1 c.2 h)

def subtractsOnce (h : HalfOpen) (ev : SaEvent) : Prop := callsOnce threshold (ev.calls h) h = true

instance (h : HalfOpen) (ev : SaEvent) : Decidable (subtractsOnce threshold h ev) :=
  inferInstanceAs (Decidable (_ = true))

end

/-! ## the counter counts -/

structure SaEntry.Sound (sa : SaEntry) : Prop where
  settled : settles sa.state = true → sa.settled = true
  open_responder : sa.settled = false → sa.isInitiator = !sa.responder
  initiator : sa.responder = false → sa.isInitiator = true
  once : sa.responder = true → sa.subtracted = if sa.settled then 1 else 0

structure HalfOpen.Counts (h : HalfOpen) : Prop where
  sound : ∀ sa ∈ h.sas, sa.Sound
  counter : h.counter = (h.sas.countP SaEntry.halfOpen : Int)

section
variable {threshold : Int} {h : HalfOpen}

theorem HalfOpen.Counts.append (hc : h.Counts) {sa : SaEntry} (hs : sa.Sound) {counter : Int}
    (hcounter : counter = h.counter + if sa.halfOpen then 1 else 0) (attack : Bool) :
    HalfOpen.Counts ⟨h.sas ++ [sa], counter, attack⟩ := by
  constructor
  · intro x hx
    rcases List.mem_append.mp hx with hx | hx
    · exact hc.sound x hx
    · rw [List.mem_singleton.mp hx]
      exact hs
  · show counter = ((h.sas ++ [sa]).countP SaEntry.halfOpen : Int)
    rw [hcounter, hc.counter, List.countP_append, List.countP_singleton]
    split <;> simp

/-- the record of one SA changes -/
theorem HalfOpen.Counts.set (hc : h.Counts) {k : Nat} {sa sa' : SaEntry}
    (hk : h.sas[k]? = some sa) (hs : sa'.Sound) {counter : Int}
    (hcounter : counter + (if sa.halfOpen then 1 else 0)
      = h.counter + if sa'.halfOpen then 1 else 0) (attack : Bool) :
    HalfOpen.Counts ⟨h.sas.set k sa', counter, attack⟩ := by
  obtain ⟨hlt, hget⟩ := List.getElem?_eq_some_iff.mp hk
  constructor
  · intro x hx
    rcases List.mem_or_eq_of_mem_set hx with hx | rfl
    · exact hc.sound x hx
    · exact hs
  · show counter = ((h.sas.set k sa').countP SaEntry.halfOpen : Int)
    have hpos : sa.halfOpen = true → 0 < h.sas.countP SaEntry.halfOpen := by
      intro hopen
      exact List.countP_pos_iff.mpr ⟨sa, List.mem_of_getElem? hk, hopen⟩
    have hcount := hc.counter
    rw [List.countP_set hlt, hget]
    by_cases hopen : sa.halfOpen = true
    · have := hpos hopen
      rw [if_pos hopen] at hcounter ⊢
      split at hcounter <;> rename_i hopen' <;> simp only [hopen'] <;> simp <;> omega
    · rw [if_neg hopen] at hcounter ⊢
      split at hcounter <;> rename_i hopen' <;> simp only [hopen'] <;> simp <;> omega

/-- a call that does not count down: the SA is ours as initiator, was ESTABLISHED, or goes to a
state that settles nothing -/
theorem SaEntry.Sound.settled_same {sa : SaEntry} (hs : sa.Sound) {st : State}
    (hdown : ¬ countsDown sa st = true) (hresp : sa.responder = true) :
    (sa.settled || settles st) = sa.settled := by
  cases hset : sa.settled with
  | true => rfl
  | false =>
    have hrole := hs.open_responder hset
    rw [hresp] at hrole
    have hstate : settles sa.state = false := by
      by_contra hst
      exact absurd ((hs.settled (by simpa using hst)).symm.trans hset) (by simp)
    unfold settles at hstate
    rw [Bool.or_eq_false_iff, beq_eq_false_iff_ne] at hstate
    unfold countsDown at hdown
    rw [hrole] at hdown
    simpa [hstate.1] using hdown

/-- `ikev2_set_state` keeps the count where it does not count an SA down again -/
theorem setState_counts (hc : h.Counts) {k : Nat} {st : State}
    (honce : callOnce h k st = true) : (setState threshold k st h).Counts := by
  unfold setState
  cases hk : h.sas[k]? with
  | none => exact hc
  | some sa =>
    have hsound := hc.sound sa (List.mem_of_getElem? hk)
    unfold callOnce at honce
    rw [hk] at honce
    dsimp only at honce ⊢
    by_cases hdown : countsDown sa st = true
    · rw [if_pos hdown]
      rw [hdown, Bool.true_and, Bool.not_eq_true'] at honce
      unfold countsDown at hdown
      rw [Bool.and_eq_true, Bool.and_eq_true, Bool.not_eq_true'] at hdown
      have hresp : sa.responder = true := by
        have hrole := hsound.open_responder honce
        rw [hdown.1.1] at hrole
        simpa using hrole.symm
      have hzero : sa.subtracted = 0 := by
        have hsub := hsound.once hresp
        rwa [honce] at hsub
      refine hc.set hk ⟨fun _ => rfl, fun hs => absurd hs (by simp), ?_, ?_⟩ ?_ _
      · intro hr
        exact absurd (hresp.symm.trans hr) (by simp)
      · intro _
        show sa.subtracted + 1 = 1
        omega
      · simp [SaEntry.halfOpen, hresp, honce]
    · rw [if_neg hdown]
      have hsame := hsound.settled_same hdown
      have hs : SaEntry.Sound { sa with state := st, settled := sa.settled || settles st } := by
        refine ⟨?_, ?_, hsound.initiator, ?_⟩
        · intro hst
          show (sa.settled || settles st) = true
          have hst' : settles st = true := hst
          rw [hst', Bool.or_true]
        · intro hopen
          exact hsound.open_responder (Bool.or_eq_false_iff.mp hopen).1
        · intro hresp
          show sa.subtracted = if (sa.settled || settles st) then 1 else 0
          rw [hsame hresp]
          exact hsound.once hresp
      have hopen : SaEntry.halfOpen { sa with
          state := st, settled := sa.settled || settles st } = sa.halfOpen := by
        unfold SaEntry.halfOpen
        cases hresp : sa.responder with
        | true =>
          show (true && !(sa.settled || settles st)) = (true && !sa.settled)
          rw [hsame hresp]
        | false => rfl
      exact hc.set hk hs (by rw [hopen]) _

theorem setStates_counts (calls : List (Nat × State)) :
    ∀ h : HalfOpen, h.Counts → callsOnce threshold calls h = true →
      (setStates threshold calls h).Counts := by
  induction calls with
  | nil => exact fun h hc _ => hc
  | cons c cs ih =>
    intro h hc honce
    obtain ⟨h1, h2⟩ := (Bool.and_eq_true _ _).mp honce
    exact ih _ (setState_counts hc h1) h2

theorem allocateSa_counts (hc : h.Counts) (initiatorSpi : Bool) :
    (allocateSa initiatorSpi h).Counts := by
  unfold allocateSa
  split
  · refine hc.append ⟨?_, ?_, ?_, ?_⟩ (by simp [SaEntry.halfOpen]) _ <;> simp [settles]
  · refine hc.append ⟨?_, ?_, ?_, ?_⟩ (by simp [SaEntry.halfOpen]) _ <;> simp [settles]

theorem restoreOne_counts (hc : h.Counts) (isInitiator restored : Bool) :
    (restoreOne isInitiator restored h).Counts := by
  have hpos : 0 < h.counter + 1 := by
    rw [hc.counter]
    omega
  unfold restoreOne
  rw [if_pos hpos]
  refine hc.append ⟨?_, ?_, ?_, ?_⟩ (by simp [SaEntry.halfOpen]) _ <;> simp

theorem halfOpenStep_counts (ev : SaEvent) (hc : h.Counts) (hok : subtractsOnce threshold h ev) :
    (halfOpenStep threshold h ev).Counts := by
  cases ev with
  | newPeer =>
    have hnew := allocateSa_counts hc true
    exact ⟨hnew.sound, hnew.counter⟩
  | allocate initiatorSpi => exact allocateSa_counts hc initiatorSpi
  | restore isInitiator restored => exact restoreOne_counts hc isInitiator restored
  | handler k st => exact setStates_counts _ h hc hok
  | abort k => exact setStates_counts _ h hc hok
  | expire k => exact setStates_counts _ h hc hok
  | flush k => exact setStates_counts _ h hc hok

end

/-- in every run that counts no SA down twice, the counter is the number of half-open SAs, and
each SA was counted down once, or not yet -/
theorem half_open_counts (threshold : Int) (evs : List SaEvent)
    (hrun : Run.Meets (halfOpenStep threshold) (subtractsOnce threshold) HalfOpen.init evs) :
    ∀ h ∈ Run.states (halfOpenStep threshold) HalfOpen.init evs,
      h.counter = (h.sas.countP SaEntry.halfOpen : Int) ∧ 0 ≤ h.counter
      ∧ ∀ sa ∈ h.sas, sa.responder = true → sa.subtracted = if sa.settled then 1 else 0 := by
  intro h hmem
  have hinit : HalfOpen.init.Counts := ⟨fun sa hsa => absurd hsa List.not_mem_nil, rfl⟩
  have hc : h.Counts :=
    Run.states_inv (fun h ev hc hok => halfOpenStep_counts ev hc hok) evs _ hinit hrun h hmem
  refine ⟨hc.counter, ?_, fun sa hsa => (hc.sound sa hsa).once⟩
  rw [hc.counter]
  omega

/-- one peer gives up before IKE_AUTH, one is established, one was restored, one is still there -/
def mixedEvents : List SaEvent := [.newPeer, .handler 0 ⟨.resIkeSaInitSent, by decide⟩, .abort 0,
  .newPeer, .handler 1 ⟨.resIkeAuthRcvd, by decide⟩, .handler 1 ⟨.established, by decide⟩,
  .restore false true, .newPeer]

theorem half_open_counts_mixed :
    ∃ h ∈ Run.states (halfOpenStep 1000) HalfOpen.init mixedEvents,
      h.sas.length = 4 ∧ h.counter = 1 ∧ h.counter = (h.sas.countP SaEntry.halfOpen : Int) := by
  have hreach : ∃ h ∈ Run.states (halfOpenStep 1000) HalfOpen.init mixedEvents,
      h.sas.length = 4 ∧ h.counter = 1 := by
    decide +kernel
  obtain ⟨h, hmem, hlen, hone⟩ := hreach
  have hcounts := half_open_counts 1000 mixedEvents (by decide +kernel) h hmem
  exact ⟨h, hmem, hlen, hone, hcounts.1⟩

/-- one SA is established and then deleted: ESTABLISHED, DYING, DEAD -/
theorem half_open_negative :
    ∃ h ∈ Run.states (halfOpenStep 1000) HalfOpen.init [.newPeer,
        .handler 0 ⟨.resIkeSaInitSent, by decide⟩, .handler 0 ⟨.resIkeAuthRcvd, by decide⟩,
        .handler 0 ⟨.established, by decide⟩, .abort 0],
      h.counter = -1 ∧ h.sas.countP SaEntry.halfOpen = 0 ∧ ∃ sa ∈ h.sas, sa.subtracted = 2 := by
  decide +kernel

end Ikev2
