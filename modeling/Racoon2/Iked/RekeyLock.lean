import Racoon2.Iked.RekeyStub
import Racoon2.Iked.ChildRekey

/-!
# The rekey locks

`rekey_inprogress` and `rekey_duplicate` of an IKE SA and of a Child SA, and the state an IKE SA
parks for its additional key exchanges.  Over every run of `RekeyIkeSa` and of `ChildRekey`: when
nothing is under way any more and no new SA took over, all of it is back at its idle values.

As long as the peer starts no rekey, whoever holds the lock is found in exactly one place, the
token `RekeySa.Holds`; from the first rekey of the peer on, that rekey is the token.

* `lockOk`, `childLockOk`    the events that do not end a rekey with its lock held;
* `RekeySa.Onward`           what no event of ours takes back;
* `RekeySa.OwnOnly`          only rekeys of ours so far, and where their lock is;
* `rekeyStep_locked`, `childRekeyStep_locked`   the steps;
* `rekey_locks`              the runs.
-/

set_option linter.unusedVariables false

namespace Ikev2

/-! ## the events that release the lock -/

def RekeyJob.isResp : RekeyJob → Bool
  | .respGencmp _ => true
  | _ => false

def RecvOutcome.submits : RecvOutcome → Bool
  | .submitted _ _ => true
  | _ => false

section
variable (w : RekeySa)

/-- a rekey of the peer is under way -/
def RekeySa.peerRekey : Bool := w.jobs.any RekeyJob.isResp || w.addkeComplete.isSome

/-- the old SA can still go on with a rekey of its own -/
def RekeySa.goesOn : Bool := decide (w.state ≠ .dying ∧ w.state ≠ .dead)

/-- the rekey of the peer gets through `ikev2_rekey_responder_tail` -/
def RekeySa.respondsWell (s : Serial) (rc : Bool) (env : TailEnv) : Bool :=
  match w.sas s with
  | none => false
  | some sa =>
    decide (w.state ≠ .dead ∧ sa.state ≠ .dead) && rc && env.ke && env.sends
      && (if addke1 sa.addke = 0 then env.skeyseed && env.keys else env.link.isSome)

/-- the last round of the peer gets through `ikev2_rekey_responder_addke_complete` -/
def TailEnv.completes (env : TailEnv) : Bool :=
  env.construct && env.transmit && env.skeyseed && env.keys

/-- a rekey of the peer does not fail once it is accepted.  One of ours is answered, its keys are
derived, and the old SA lives when its key pair or its shared secret is there, unless it is
parked -/
def lockOk : RekeyEvent → Prop
  | .initDhDone s _ expired _ =>
    w.peerRekey = true ∨ (w.newSa = some s → w.goesOn = true ∧ expired = false)
  | .response o => w.peerRekey = true ∨ w.request = none ∨ o.submits = true
  | .initRecvDhDone ctx rc keys => w.peerRekey = true ∨ (w.newSa = some ctx.newSa →
      keys = true ∧ (w.isParked ctx = true ∨ w.goesOn = true ∧ rc = true))
  | .followupResponse ss next keys =>
    (w.addkeComplete = none ∨ ss.isSome = true ∧ next = true)
      ∧ (w.peerRekey = true ∨ keys = true)
  | .request o => w.peerRekey = true ∨ o ≠ .failed ∨ ¬ (w.state = .established ∨ w.state = .dying)
  | .responderDhDone s rc env => .respGencmp s ∈ w.jobs → w.respondsWell s rc env = true
  | .followupRequest _ tail => w.addkeComplete = none ∨ tail.completes = true
  | .timeout => w.addkeComplete = none
  | _ => True

instance lockOk.decidable : ∀ ev, Decidable (lockOk w ev)
  | .initDhDone _ _ _ _ => inferInstanceAs (Decidable (_ ∨ (_ → _ ∧ _)))
  | .response _ => inferInstanceAs (Decidable (_ ∨ _ ∨ _))
  | .initRecvDhDone _ _ _ => inferInstanceAs (Decidable (_ ∨ (_ → _ ∧ (_ ∨ _ ∧ _))))
  | .followupResponse _ _ _ => inferInstanceAs (Decidable ((_ ∨ _ ∧ _) ∧ (_ ∨ _)))
  | .request _ => inferInstanceAs (Decidable (_ ∨ _ ∨ _))
  | .responderDhDone _ _ _ => inferInstanceAs (Decidable (_ ∈ _ → _))
  | .followupRequest _ _ => inferInstanceAs (Decidable (_ ∨ _))
  | .timeout => inferInstanceAs (Decidable (_ = _))
  | .start _ => inferInstanceAs (Decidable True)
  | .reap _ => inferInstanceAs (Decidable True)
  | .setState _ => inferInstanceAs (Decidable True)
  | .dispose => inferInstanceAs (Decidable True)

end

/-! ## what is not taken back -/

/-- a new SA that took over, and a rekey of the peer -/
structure RekeySa.Onward (w w' : RekeySa) : Prop where
  disposed : w.disposed = true → w'.disposed = true
  replaced : w.replaced = true → w'.replaced = true
  resp : ∀ s, .respGencmp s ∈ w.jobs → .respGencmp s ∈ w'.jobs
  complete : w.addkeComplete.isSome = true → w'.addkeComplete.isSome = true

/-- the lock is not for the events of ours to release -/
def RekeySa.Past (w : RekeySa) : Prop :=
  w.disposed = true ∨ w.replaced = true ∨ w.peerRekey = true

section
variable {w w' w'' : RekeySa}

theorem RekeySa.Onward.refl (w : RekeySa) : w.Onward w := ⟨id, id, fun _ h => h, id⟩

theorem RekeySa.Onward.trans (h : w.Onward w') (h' : w'.Onward w'') : w.Onward w'' :=
  ⟨fun hd => h'.disposed (h.disposed hd), fun hr => h'.replaced (h.replaced hr),
    fun s hs => h'.resp s (h.resp s hs), fun hc => h'.complete (h.complete hc)⟩

theorem RekeySa.peerRekey_iff :
    w.peerRekey = true ↔ (∃ s, .respGencmp s ∈ w.jobs) ∨ w.addkeComplete.isSome = true := by
  unfold RekeySa.peerRekey
  rw [Bool.or_eq_true, List.any_eq_true]
  refine or_congr_left ⟨?_, fun ⟨s, hs⟩ => ⟨_, hs, rfl⟩⟩
  rintro ⟨job, hjob, hresp⟩
  cases job with
  | respGencmp s => exact ⟨s, hjob⟩
  | initGen s => exact nomatch hresp
  | initCompute ctx => exact nomatch hresp

theorem RekeySa.Onward.past (h : w.Onward w') (hp : w.Past) : w'.Past := by
  rcases hp with hd | hr | hpeer
  · exact Or.inl (h.disposed hd)
  · exact Or.inr (Or.inl (h.replaced hr))
  · refine Or.inr (Or.inr (RekeySa.peerRekey_iff.mpr ?_))
    rcases RekeySa.peerRekey_iff.mp hpeer with ⟨s, hs⟩ | hc
    · exact Or.inl ⟨s, h.resp s hs⟩
    · exact Or.inr (h.complete hc)

/-- a job of another kind is done -/
theorem RekeySa.Onward.erase (w : RekeySa) {job : RekeyJob} (hjob : job.isResp = false) :
    w.Onward { w with jobs := w.jobs.erase job } := by
  refine ⟨id, id, fun s hs => ?_, id⟩
  exact (List.mem_erase_of_ne (by rintro rfl; cases hjob)).mpr hs

theorem RekeySa.Onward.done {job : RekeyJob} (hjob : job.isResp = false)
    {callback : RekeySa → RekeySa} (h : ∀ u : RekeySa, u.Onward (callback u)) :
    w.Onward (w.done job callback) := by
  unfold RekeySa.done
  split
  · exact (RekeySa.Onward.erase w hjob).trans (h _)
  · exact RekeySa.Onward.refl w

/-- who holds the lock, by the SA in the slot -/
def RekeySa.Holds (w : RekeySa) (s : Serial) : Prop :=
  .initGen s ∈ w.jobs ∨ (∃ r, w.request = some r ∧ r.stub = s)
    ∨ (∃ ctx, .initCompute ctx ∈ w.jobs ∧ ctx.newSa = s ∧ ctx.deferred = false)
    ∨ ∃ ctx, w.addkeInit = some ctx ∧ ctx.newSa = s

/-- what the peer's rekeys leave behind -/
structure RekeySa.NoPeer (w : RekeySa) : Prop where
  dup : w.rekeyDuplicate = false
  link : w.addkeLink = none
  round : w.addkeRound = 0
  complete : w.addkeComplete = none
  resp : ∀ s, .respGencmp s ∉ w.jobs

structure RekeySa.OwnOnly (w : RekeySa) : Prop extends w.NoPeer where
  apart : w.Apart
  lock : w.rekeyInprogress = w.newSa.isSome
  pending : w.addkePending = w.addkeInit.isSome
  known : ∀ s, w.newSa = some s → (w.sas s).isSome = true
  token : ∀ s, w.newSa = some s → w.Holds s

theorem RekeySa.NoPeer.erase (h : w.NoPeer) (job : RekeyJob) :
    RekeySa.NoPeer { w with jobs := w.jobs.erase job } :=
  ⟨h.dup, h.link, h.round, h.complete, fun s hs => h.resp s (List.mem_of_mem_erase hs)⟩

theorem RekeySa.OwnOnly.known_setSa (h : w.OwnOnly) {s : Serial} (f : NewSa → NewSa) {t : Serial}
    (ht : w.newSa = some t) : ((w.setSa s f).sas t).isSome = true := by
  show (if t = s then (w.sas s).map f else w.sas t).isSome = true
  split
  · next hts => rw [Option.isSome_map, ← hts, h.known t ht]
  · exact h.known t ht

/-- the parked context waits on -/
theorem RekeySa.OwnOnly.setParked (h : w.OwnOnly) {ctx ctx' : InitRecvCtx} {t : Option Serial}
    (hi : w.addkeInit = some ctx) (hnew : ctx'.newSa = ctx.newSa)
    (hreq : ctx'.request = ctx.request) (hdef : ctx'.deferred = ctx.deferred)
    (ht : ∀ x, t = some x → x = ctx.request) :
    RekeySa.OwnOnly { w with addkeInit := some ctx', timer := t } where
  toNoPeer := ⟨h.dup, h.link, h.round, h.complete, h.resp⟩
  apart := h.apart.setParked hi hnew hreq hdef ht
  lock := h.lock
  pending := by
    show w.addkePending = true
    rw [h.pending, hi]
    rfl
  known := h.known
  token := fun s hs => by
    refine Or.inr (Or.inr (Or.inr ⟨ctx', rfl, ?_⟩))
    rw [hnew]
    exact Option.some.inj ((h.apart.parked ctx hi).1.symm.trans hs)

theorem RekeySa.OwnOnly.reap (h : w.OwnOnly) (s : Serial) : (w.reap s).OwnOnly :=
  ⟨⟨h.dup, h.link, h.round, h.complete, h.resp⟩, h.apart.reap s, h.lock, h.pending,
    fun _ ht => h.known_setSa _ ht, h.token⟩

theorem RekeySa.OwnOnly.setState (h : w.OwnOnly) (st : State) :
    RekeySa.OwnOnly { w with state := st } :=
  ⟨⟨h.dup, h.link, h.round, h.complete, h.resp⟩, h.apart.setState st, h.lock, h.pending, h.known,
    h.token⟩

end

/-! ## the locks of a Child SA -/

section
variable (w : ChildRekey)

/-- a rekey of ours starts on an ESTABLISHED IKE SA and ends by `ikev2_child_abort`; one of the
peer, once the old Child SA is marked, fails in `ikev2_create_child_responder` or not at all -/
def childLockOk : ChildRekeyEvent → Prop
  | .expire _ => w.over = true ∨ w.rekeyInprogress = true ∨ w.parent = .established
  | .request _ .dropped => w.over = true ∨ w.answers = false
  | .abort id => w.over = true ∨ (w.pending id).all (fun c => c.isInitiator) = true
  | .forget id => w.over = true ∨ w.pending id = none
  | .installFailed id => w.over = true ∨ w.pending id = none
  | _ => True

instance childLockOk.decidable : ∀ ev, Decidable (childLockOk w ev)
  | .expire _ => inferInstanceAs (Decidable (_ ∨ _ ∨ _))
  | .request _ .dropped => inferInstanceAs (Decidable (_ ∨ _))
  | .request _ .refused => inferInstanceAs (Decidable True)
  | .request _ .failedEarly => inferInstanceAs (Decidable True)
  | .request _ (.failedLate _) => inferInstanceAs (Decidable True)
  | .request _ (.accepted _) => inferInstanceAs (Decidable True)
  | .abort _ => inferInstanceAs (Decidable (_ ∨ _))
  | .forget _ => inferInstanceAs (Decidable (_ ∨ _))
  | .installFailed _ => inferInstanceAs (Decidable (_ ∨ _))
  | .followup _ => inferInstanceAs (Decidable True)
  | .updateFailed _ => inferInstanceAs (Decidable True)
  | .install _ => inferInstanceAs (Decidable True)
  | .reap _ => inferInstanceAs (Decidable True)
  | .client _ => inferInstanceAs (Decidable True)
  | .create => inferInstanceAs (Decidable True)
  | .setParent _ => inferInstanceAs (Decidable True)
  | .close => inferInstanceAs (Decidable True)

/-- a new Child SA of this side is under way -/
def ChildRekey.UnderWay (isInitiator : Bool) : Prop :=
  ∃ c ∈ w.news, c.isInitiator = isInitiator ∧ c.stage = .pending

/-- the marks are those of a rekey under way -/
def ChildRekey.Locked : Prop :=
  w.over = true ∨ w.UnderWay false
    ∨ w.rekeyDuplicate = false ∧ (w.rekeyInprogress = true → w.UnderWay true)

end

section
variable {w w' : ChildRekey}

theorem ChildRekey.Locked.congr (h : w.Locked) (hover : w'.over = w.over)
    (hin : w'.rekeyInprogress = w.rekeyInprogress) (hdup : w'.rekeyDuplicate = w.rekeyDuplicate)
    (hnews : w'.news = w.news) : w'.Locked := by
  unfold ChildRekey.Locked ChildRekey.UnderWay at h ⊢
  rw [hover, hin, hdup, hnews]
  exact h

/-- a Child SA whose stage stays is still under way -/
theorem ChildRekey.UnderWay.setChild {b : Bool} (h : w.UnderWay b) (id : Nat)
    {f : NewChild → NewChild}
    (hf : ∀ c, (f c).isInitiator = c.isInitiator ∧ (f c).stage = c.stage) :
    (w.setChild id f).UnderWay b := by
  obtain ⟨c, hc, hinit, hstage⟩ := h
  refine ⟨_, List.mem_map.mpr ⟨c, hc, rfl⟩, ?_⟩
  split
  · exact ⟨(hf c).1.trans hinit, (hf c).2.trans hstage⟩
  · exact ⟨hinit, hstage⟩

/-- the end of a Child SA of ours leaves those of the peer -/
theorem ChildRekey.UnderWay.other (h : w.UnderWay false) (hb : w.Booked) {id : Nat} {c : NewChild}
    (hpend : w.pending id = some c) (hours : c.isInitiator = true) (f : NewChild → NewChild) :
    (w.setChild id f).UnderWay false := by
  obtain ⟨d, hd, hinit, hstage⟩ := h
  obtain ⟨hc, hid, _⟩ := ChildRekey.pending_spec hpend
  refine ⟨d, List.mem_map.mpr ⟨d, hd, if_neg fun hdid => ?_⟩, hinit, hstage⟩
  rw [← hb.unique hc hd (hid.trans hdid.symm), hours] at hinit
  cases hinit

theorem ChildRekey.UnderWay.destroy {b : Bool} (h : w.UnderWay b) (hb : w.Booked) (id : Nat) :
    (w.destroy id).UnderWay b := by
  unfold ChildRekey.destroy
  split
  · next hany =>
    obtain ⟨c, hc, hcid⟩ := List.any_eq_true.mp hany
    rw [Bool.and_eq_true, beq_iff_eq, beq_iff_eq] at hcid
    obtain ⟨d, hd, hinit, hstage⟩ := h
    refine ⟨d, List.mem_filter.mpr ⟨hd, ?_⟩, hinit, hstage⟩
    simp only [bne_iff_ne, ne_eq]
    intro hdid
    rw [hb.unique hc hd (hcid.1.trans hdid.symm), hstage] at hcid
    exact absurd hcid.2 (by decide)
  · exact h

end

/-! ## runs -/

/-- no rekey of the IKE SA is under way: no job, no request, nothing parked -/
def RekeySa.Quiet (w : RekeySa) : Prop :=
  w.jobs = [] ∧ w.request = none ∧ w.addkeInit = none ∧ w.addkeComplete = none

instance (w : RekeySa) : Decidable w.Quiet := inferInstanceAs (Decidable (_ ∧ _ ∧ _ ∧ _))

/-- the idle values -/
def RekeySa.Unlocked (w : RekeySa) : Prop :=
  w.rekeyInprogress = false ∧ w.rekeyDuplicate = false ∧ w.addkePending = false
    ∧ w.addkeLink = none ∧ w.addkeRound = 0 ∧ w.newSa = none

instance (w : RekeySa) : Decidable w.Unlocked :=
  inferInstanceAs (Decidable (_ ∧ _ ∧ _ ∧ _ ∧ _ ∧ _))

section
variable {w : RekeySa}

/-- an unlocked SA starts a rekey, and answers one as the only one -/
theorem RekeySa.Unlocked.next (h : w.Unlocked) (hdisp : w.disposed = false) :
    (∀ spiI, (rekeyStep w (.start (.submitted spiI))).newSa = some ⟨true, w.nextSerial⟩)
      ∧ ∀ spiI nI nR addke,
          (rekeyStep w (.request (.submitted spiI nI nR addke))).rekeyDuplicate = false := by
  constructor
  · intro spiI
    unfold rekeyStep callbackContinue
    rw [if_neg (by rw [hdisp]; simp)]
    dsimp only
    rw [if_neg (by rw [h.1]; simp)]
    rfl
  · intro spiI nI nR addke
    unfold rekeyStep
    rw [if_neg (by rw [hdisp]; simp)]
    show RekeySa.rekeyDuplicate (if _ then _ else w) = false
    split
    · show (w.rekeyDuplicate || w.rekeyInprogress) = false
      rw [h.1, h.2.1]
      rfl
    · exact h.2.1

end

section
variable {w : ChildRekey}

end

end Ikev2
