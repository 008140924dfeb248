import Racoon2.Iked.RekeyIkeSa

/-!
# The stub of our own rekey and the rekeys of the peer

Over every interleaving of the events of `RekeyIkeSa`: the response to a request of ours is applied
to the SA the request was made with, and no exchange completes, kills, frees or displaces the SA of
another.  The two exchanges share the slot `new_sa`, the pending flag and the timer, so this needs
that whoever writes the slot finds it empty.

* `stubOk`              the events after which the exchanges stay apart;
* `RekeySa.Apart`       whose SA the slot holds, by what is under way;
* `rekeyStep_apart`     the step;
* `stub_apart`          the run.
-/

set_option linter.unusedVariables false

namespace Ikev2

section
variable (w : RekeySa)

/-- `ikev2_rekey_responder_tail` gets as far as the slot -/
def RekeySa.defers (s : Serial) (rc : Bool) (env : TailEnv) : Bool :=
  match w.sas s with
  | none => false
  | some sa => decide (w.state ≠ .dead ∧ sa.state ≠ .dead ∧ addke1 sa.addke ≠ 0) && rc && env.ke
      && env.link.isSome

/-- the request is taken for a round of the parked rekey of the peer -/
def RekeySa.matchesLink (env : RoundEnv) : Bool :=
  match w.addkeLink with
  | none => false
  | some link => w.addkePending && link.bytes == env.link

/-- a rekey is started, and one with additional key exchanges is answered, only while the slot is
empty; a round of IKE_FOLLOWUP_KE is taken only while one is parked -/
def stubOk : RekeyEvent → Prop
  | .start o => w.rekeyInprogress = false → w.newSa = none
  | .responderDhDone s rc env => w.defers s rc env = true → w.newSa = none
  | .followupRequest env tail => w.matchesLink env = true → w.addkeComplete.isSome = true
  | _ => True

instance stubOk.decidable : ∀ ev, Decidable (stubOk w ev)
  | .responderDhDone s rc env => inferInstanceAs (Decidable (_ = _ → _ = _))
  | .followupRequest env tail => inferInstanceAs (Decidable (_ = _ → _ = _))
  | .start o => inferInstanceAs (Decidable (_ = _ → _ = _))
  | .initDhDone s dhpriv expired n_i => inferInstanceAs (Decidable True)
  | .response o => inferInstanceAs (Decidable True)
  | .initRecvDhDone ctx rc keys => inferInstanceAs (Decidable True)
  | .followupResponse ss next keys => inferInstanceAs (Decidable True)
  | .request o => inferInstanceAs (Decidable True)
  | .timeout => inferInstanceAs (Decidable True)
  | .reap s => inferInstanceAs (Decidable True)
  | .setState st => inferInstanceAs (Decidable True)
  | .dispose => inferInstanceAs (Decidable True)

/-! ## whose SA is in the slot -/

/-- the stub holds what was sent -/
def RekeySa.holdsSent (sent : Sent) : Prop :=
  ∃ sa, w.sas sent.stub = some sa ∧ sa.spiI = sent.spiI ∧ sa.nI = some sent.nI
    ∧ sa.dhpriv = some sent.dhpriv

structure RekeySa.Apart : Prop where
  jobs : w.jobs.Nodup
  timer : ∀ x, w.timer = some x → w.newSa = some x
  gen : ∀ s, .initGen s ∈ w.jobs → w.newSa = some s ∧ s.ours = true ∧ w.request = none
    ∧ w.addkeInit = none ∧ w.timer = none
  sent : ∀ r, w.request = some r → w.newSa = some r.stub ∧ r.stub.ours = true ∧ w.holdsSent r
    ∧ w.addkeInit = none ∧ w.timer = none
  compute : ∀ ctx, .initCompute ctx ∈ w.jobs → ctx.request = ctx.newSa ∧ ctx.newSa.ours = true
    ∧ ctx.newSa.n < w.nextSerial ∧ .initGen ctx.newSa ∉ w.jobs
    ∧ ∀ r, w.request = some r → r.stub ≠ ctx.newSa
  /-- a context without additional key exchanges is not parked -/
  plain : ∀ ctx, .initCompute ctx ∈ w.jobs → w.newSa = some ctx.newSa → ctx.deferred = false →
    w.addkeInit = none ∧ w.timer = none
  once : ∀ ctx, .initCompute ctx ∈ w.jobs → ∀ ctx', .initCompute ctx' ∈ w.jobs →
    ctx.newSa = ctx'.newSa → ctx = ctx'
  resp : ∀ s, .respGencmp s ∈ w.jobs → s.ours = false ∧ s.n < w.nextSerial
  slot_lt : ∀ s, w.newSa = some s → s.n < w.nextSerial
  parked : ∀ ctx, w.addkeInit = some ctx → w.newSa = some ctx.newSa ∧ ctx.request = ctx.newSa
    ∧ ctx.newSa.ours = true ∧ ctx.deferred = true
  kept : ∀ c, w.addkeComplete = some c → w.newSa = some c ∧ c.ours = false
    ∧ ∀ link, w.addkeLink = some link → link.mintedFor = c
  applied : ∀ p ∈ w.applied, ∃ sa, p.2 = some (p.1.stub, sa) ∧ sa.spiI = p.1.spiI
    ∧ sa.nI = some p.1.nI ∧ sa.dhpriv = some p.1.dhpriv
  fates : ∀ p ∈ w.fates, p.1 = p.2

end

section
variable {w : RekeySa}

/-- nothing under way holds the slot -/
structure RekeySa.Vacant (w : RekeySa) : Prop where
  newSa : w.newSa = none
  timer : w.timer = none
  request : w.request = none
  addkeInit : w.addkeInit = none
  addkeComplete : w.addkeComplete = none
  gen : ∀ s, .initGen s ∉ w.jobs

/-- what is left to show when the slot is empty -/
theorem RekeySa.Vacant.apart (h : w.Vacant) (hjobs : w.jobs.Nodup)
    (honce : ∀ ctx, .initCompute ctx ∈ w.jobs → ∀ ctx', .initCompute ctx' ∈ w.jobs →
      ctx.newSa = ctx'.newSa → ctx = ctx')
    (hresp : ∀ s, .respGencmp s ∈ w.jobs → s.ours = false ∧ s.n < w.nextSerial)
    (hcompute : ∀ ctx, .initCompute ctx ∈ w.jobs → ctx.request = ctx.newSa ∧ ctx.newSa.ours = true
      ∧ ctx.newSa.n < w.nextSerial)
    (happlied : ∀ p ∈ w.applied, ∃ sa, p.2 = some (p.1.stub, sa) ∧ sa.spiI = p.1.spiI
      ∧ sa.nI = some p.1.nI ∧ sa.dhpriv = some p.1.dhpriv)
    (hfates : ∀ p ∈ w.fates, p.1 = p.2) : w.Apart where
  jobs := hjobs
  timer := fun x hx => by rw [h.timer] at hx; exact nomatch hx
  gen := fun s hs => absurd hs (h.gen s)
  sent := fun r hr => by rw [h.request] at hr; exact nomatch hr
  compute := fun ctx hctx => by
    obtain ⟨heq, hours, hlt⟩ := hcompute ctx hctx
    exact ⟨heq, hours, hlt, h.gen _, fun r hr => by rw [h.request] at hr; exact nomatch hr⟩
  plain := fun ctx _ hslot => by rw [h.newSa] at hslot; exact nomatch hslot
  once := honce
  resp := hresp
  slot_lt := fun s hs => by rw [h.newSa] at hs; exact nomatch hs
  parked := fun ctx hctx => by rw [h.addkeInit] at hctx; exact nomatch hctx
  kept := fun c hc => by rw [h.addkeComplete] at hc; exact nomatch hc
  applied := happlied
  fates := hfates

theorem RekeySa.Apart.vacant (h : w.Apart) (hslot : w.newSa = none) : w.Vacant where
  newSa := hslot
  timer := by
    cases ht : w.timer with
    | none => rfl
    | some x => exact absurd (h.timer x ht) (by rw [hslot]; simp)
  request := by
    cases hr : w.request with
    | none => rfl
    | some r => exact absurd (h.sent r hr).1 (by rw [hslot]; simp)
  addkeInit := by
    cases hi : w.addkeInit with
    | none => rfl
    | some ctx => exact absurd (h.parked ctx hi).1 (by rw [hslot]; simp)
  addkeComplete := by
    cases hc : w.addkeComplete with
    | none => rfl
    | some c => exact absurd (h.kept c hc).1 (by rw [hslot]; simp)
  gen := fun s hs => absurd (h.gen s hs).1 (by rw [hslot]; simp)

/-- the slot is ours: nothing of the peer is parked -/
theorem RekeySa.Apart.not_kept (h : w.Apart) {s : Serial} (hslot : w.newSa = some s)
    (hours : s.ours = true) : w.addkeComplete = none := by
  cases hc : w.addkeComplete with
  | none => rfl
  | some c =>
    obtain ⟨hc', hpeer, _⟩ := h.kept c hc
    rw [hslot] at hc'
    cases hc'
    rw [hours] at hpeer
    exact nomatch hpeer

/-! ## what a function does to the slot -/

/-- what was sent stays where it is -/
theorem RekeySa.holdsSent_setSa {r : Sent} (h : w.holdsSent r) {s : Serial} {f : NewSa → NewSa}
    (hf : ∀ sa, (f sa).spiI = sa.spiI ∧ (f sa).nI = sa.nI ∧ (f sa).dhpriv = sa.dhpriv) :
    (w.setSa s f).holdsSent r := by
  obtain ⟨sa, hsa, hspi, hnI, hpriv⟩ := h
  by_cases hs : r.stub = s
  · refine ⟨f sa, ?_, (hf sa).1.trans hspi, (hf sa).2.1.trans hnI, (hf sa).2.2.trans hpriv⟩
    show (if r.stub = s then _ else _) = _
    rw [if_pos hs, ← hs, hsa]
    rfl
  · refine ⟨sa, ?_, hspi, hnI, hpriv⟩
    show (if r.stub = s then _ else _) = _
    rw [if_neg hs]
    exact hsa

/-- the new SAs change, apart from what a request carried -/
theorem RekeySa.Apart.setSa (h : w.Apart) (s : Serial) {f : NewSa → NewSa}
    (hf : ∀ sa, (f sa).spiI = sa.spiI ∧ (f sa).nI = sa.nI ∧ (f sa).dhpriv = sa.dhpriv) :
    (w.setSa s f).Apart where
  jobs := h.jobs
  timer := h.timer
  gen := h.gen
  sent := fun r hr => by
    obtain ⟨hslot, hours, hsent, hrest⟩ := h.sent r hr
    exact ⟨hslot, hours, RekeySa.holdsSent_setSa hsent hf, hrest⟩
  compute := h.compute
  plain := h.plain
  once := h.once
  resp := h.resp
  slot_lt := h.slot_lt
  parked := h.parked
  kept := h.kept
  applied := h.applied
  fates := h.fates

/-- the marks that the order does not rest on -/
theorem RekeySa.Apart.marks (h : w.Apart) (inprogress replaced : Bool) (round : Nat)
    (sk : Option Bytes) :
    RekeySa.Apart { w with rekeyInprogress := inprogress, replaced := replaced, addkeRound := round,
                           addkeSk := sk } :=
  ⟨h.jobs, h.timer, h.gen, h.sent, h.compute, h.plain, h.once, h.resp, h.slot_lt, h.parked, h.kept,
    h.applied, h.fates⟩

theorem RekeySa.Apart.setState (h : w.Apart) (st : State) : RekeySa.Apart { w with state := st } :=
  ⟨h.jobs, h.timer, h.gen, h.sent, h.compute, h.plain, h.once, h.resp, h.slot_lt, h.parked, h.kept,
    h.applied, h.fates⟩

theorem RekeySa.Apart.reap (h : w.Apart) (s : Serial) : (w.reap s).Apart := by
  refine h.setSa s fun sa => ?_
  split <;> exact ⟨rfl, rfl, rfl⟩

/-- an exchange ends its own SA -/
theorem RekeySa.Apart.ownFate (h : w.Apart) {w' : RekeySa} (s : Serial) (hw : w'.Apart)
    (hf : w'.fates = w.fates) : RekeySa.Apart { w' with fates := (s, s) :: w.fates } where
  jobs := hw.jobs
  timer := hw.timer
  gen := hw.gen
  sent := hw.sent
  compute := hw.compute
  plain := hw.plain
  once := hw.once
  resp := hw.resp
  slot_lt := hw.slot_lt
  parked := hw.parked
  kept := hw.kept
  applied := hw.applied
  fates := List.forall_mem_cons.mpr ⟨rfl, h.fates⟩

theorem RekeySa.Apart.kill (h : w.Apart) (s : Serial) : (w.kill s s).Apart :=
  h.ownFate s (h.setSa s fun _ => ⟨rfl, rfl, rfl⟩) rfl

theorem RekeySa.Apart.establish (h : w.Apart) (s : Serial) : (w.establish s s).Apart :=
  h.ownFate s (h.setSa s fun _ => ⟨rfl, rfl, rfl⟩) rfl

/-- the children move -/
theorem RekeySa.Apart.childAdopt (h : w.Apart) (s : Serial) : (w.childAdopt s).Apart := by
  have hset := h.setSa s (f := fun sa => { sa with
    children := sa.children ++ w.children.filter fun c => c.state.adopts }) fun _ => ⟨rfl, rfl, rfl⟩
  exact ⟨hset.jobs, hset.timer, hset.gen, hset.sent, hset.compute, hset.plain, hset.once, hset.resp,
    hset.slot_lt, hset.parked, hset.kept, hset.applied, hset.fates⟩

theorem RekeySa.Apart.responderFinish (h : w.Apart) (s : Serial) :
    (w.responderFinish s s).Apart := by
  unfold RekeySa.responderFinish
  split
  · exact h.establish s
  · exact (h.childAdopt s).establish s

/-- what is recorded when the slot is written -/
theorem RekeySa.setSlot_fates (hfates : ∀ p ∈ w.fates, p.1 = p.2) {x : Serial} {o : Option Serial}
    (hslot : ∀ t, w.newSa = some t → some t ≠ o → t = x) :
    ∀ p ∈ (w.setSlot x o).fates, p.1 = p.2 := by
  intro p hp
  rcases List.mem_append.mp hp with hp | hp
  · obtain ⟨t, ht, rfl⟩ := List.mem_map.mp hp
    obtain ⟨ht, hne⟩ := List.mem_filter.mp ht
    exact (hslot t (Option.mem_toList.mp ht) (by simpa using hne)).symm
  · exact hfates p hp

/-- a job that is done leaves the others -/
theorem RekeySa.Apart.erase (h : w.Apart) (job : RekeyJob) :
    RekeySa.Apart { w with jobs := w.jobs.erase job } where
  jobs := h.jobs.erase job
  timer := h.timer
  gen := fun s hs => h.gen s (List.mem_of_mem_erase hs)
  sent := h.sent
  compute := fun ctx hctx => by
    obtain ⟨heq, hours, hlt, hgen, hreq⟩ := h.compute ctx (List.mem_of_mem_erase hctx)
    exact ⟨heq, hours, hlt, fun hmem => hgen (List.mem_of_mem_erase hmem), hreq⟩
  plain := fun ctx hctx => h.plain ctx (List.mem_of_mem_erase hctx)
  once := fun ctx hctx ctx' hctx' =>
    h.once ctx (List.mem_of_mem_erase hctx) ctx' (List.mem_of_mem_erase hctx')
  resp := fun s hs => h.resp s (List.mem_of_mem_erase hs)
  slot_lt := h.slot_lt
  parked := h.parked
  kept := h.kept
  applied := h.applied
  fates := h.fates

/-- the slot is cleared, and with it everything that held it -/
theorem RekeySa.Apart.vacate {w' : RekeySa} (h : w.Apart) (hv : w'.Vacant)
    (hjobs : w'.jobs = w.jobs) (hserial : w.nextSerial ≤ w'.nextSerial)
    (happlied : w'.applied = w.applied) (hfates : ∀ p ∈ w'.fates, p.1 = p.2) : w'.Apart := by
  refine hv.apart (hjobs ▸ h.jobs) (hjobs ▸ h.once) ?_ ?_ (happlied ▸ h.applied) hfates
  · intro s hs
    rw [hjobs] at hs
    exact ⟨(h.resp s hs).1, Nat.lt_of_lt_of_le (h.resp s hs).2 hserial⟩
  · intro ctx hctx
    rw [hjobs] at hctx
    obtain ⟨heq, hours, hlt, _⟩ := h.compute ctx hctx
    exact ⟨heq, hours, Nat.lt_of_lt_of_le hlt hserial⟩

/-! ## the rekey we start -/

/-- a new stub, in an empty slot -/
theorem RekeySa.Apart.stub (h : w.Apart) (hslot : w.newSa = none) (spiI : Bytes) :
    RekeySa.Apart { w.stub spiI with jobs := .initGen ⟨true, w.nextSerial⟩ :: w.jobs } := by
  have hv := h.vacant hslot
  have hfresh : ∀ ctx, .initCompute ctx ∈ w.jobs → (⟨true, w.nextSerial⟩ : Serial) ≠ ctx.newSa := by
    intro ctx hctx heq
    have hlt := (h.compute ctx hctx).2.2.1
    rw [← heq] at hlt
    exact Nat.lt_irrefl _ hlt
  have hcompute : ∀ ctx, .initCompute ctx ∈ RekeyJob.initGen ⟨true, w.nextSerial⟩ :: w.jobs →
      .initCompute ctx ∈ w.jobs := by
    intro ctx hctx
    simpa using hctx
  refine ⟨List.nodup_cons.mpr ⟨hv.gen _, h.jobs⟩, ?_, ?_, ?_, ?_, ?_, ?_, ?_, ?_, ?_, ?_, h.applied, ?_⟩
  · intro x hx
    exact absurd (hv.timer.symm.trans hx) (by simp)
  · intro s hs
    rcases List.mem_cons.mp hs with hs | hs
    · cases hs
      exact ⟨rfl, rfl, hv.request, hv.addkeInit, hv.timer⟩
    · exact absurd hs (hv.gen s)
  · intro r hr
    exact absurd (hv.request.symm.trans hr) (by simp)
  · intro ctx hctx
    have hctx := hcompute ctx hctx
    obtain ⟨heq, hours, hlt, hgen, hreq⟩ := h.compute ctx hctx
    refine ⟨heq, hours, Nat.lt_succ_of_lt hlt, fun hmem => ?_, hreq⟩
    rcases List.mem_cons.mp hmem with hmem | hmem
    · exact hfresh ctx hctx (RekeyJob.initGen.inj hmem).symm
    · exact hgen hmem
  · intro ctx hctx hslot'
    exact absurd (Option.some.inj hslot') (hfresh ctx (hcompute ctx hctx))
  · exact fun ctx hctx ctx' hctx' => h.once ctx (hcompute ctx hctx) ctx' (hcompute ctx' hctx')
  · intro s hs
    have hs : .respGencmp s ∈ w.jobs := by simpa using hs
    exact ⟨(h.resp s hs).1, Nat.lt_succ_of_lt (h.resp s hs).2⟩
  · intro s hs
    cases hs
    exact Nat.lt_succ_self _
  · intro ctx hctx
    exact absurd (hv.addkeInit.symm.trans hctx) (by simp)
  · intro c hc
    exact absurd (hv.addkeComplete.symm.trans hc) (by simp)
  · refine RekeySa.setSlot_fates h.fates fun t ht => ?_
    rw [hslot] at ht
    exact nomatch ht

/-- `ikev2_rekey_init_abort` of the stub in the slot -/
theorem RekeySa.Apart.initAbort {u : RekeySa} (h : w.Apart) {s : Serial} (hslot : u.newSa = some s)
    (htimer : u.timer = none) (hrequest : u.request = none) (hinit : u.addkeInit = none)
    (hcomplete : u.addkeComplete = none) (hgen : ∀ s, .initGen s ∉ u.jobs)
    (hjobs : u.jobs = w.jobs) (hserial : w.nextSerial ≤ u.nextSerial)
    (happlied : u.applied = w.applied) (hfates : ∀ p ∈ u.fates, p.1 = p.2) :
    (initAbort u (some s)).Apart := by
  refine h.vacate ⟨?_, htimer, hrequest, hinit, hcomplete, hgen⟩ hjobs hserial happlied
    (List.forall_mem_cons.mpr ⟨rfl, hfates⟩)
  exact if_pos hslot

theorem callbackContinue_apart (h : w.Apart) (o : SendOutcome) (hok : stubOk w (.start o)) :
    (callbackContinue w o).Apart := by
  unfold callbackContinue
  split
  · exact h
  · rename_i hno
    have hslot := hok (by simpa using hno)
    have hv := h.vacant hslot
    have hu : RekeySa.Apart { w with rekeyInprogress := true } := h.marks true _ _ _
    cases o with
    | nomem =>
      exact h.vacate ⟨if_pos hslot, hv.timer, hv.request, hv.addkeInit, hv.addkeComplete, hv.gen⟩ rfl
        (Nat.le_refl _) rfl h.fates
    | failed spiI =>
      refine h.initAbort rfl hv.timer hv.request hv.addkeInit hv.addkeComplete hv.gen rfl
        (Nat.le_succ _) rfl (RekeySa.setSlot_fates h.fates fun t ht => ?_)
      exact absurd (hslot.symm.trans ht) (by simp)
    | submitted spiI => exact hu.stub hslot spiI

/-- while a key pair is generated, the slot is the stub's and nothing else of ours is under way -/
theorem RekeySa.Apart.gen_erased (h : w.Apart) {s : Serial} (hjob : .initGen s ∈ w.jobs) :
    ∀ s', .initGen s' ∉ w.jobs.erase (.initGen s) := by
  intro s' hs'
  have hslot := (h.gen s hjob).1
  have hslot' := (h.gen s' (List.mem_of_mem_erase hs')).1
  rw [hslot] at hslot'
  cases hslot'
  exact h.jobs.not_mem_erase hs'

theorem initAbort_apart (h : w.Apart) {s : Serial} (hjob : .initGen s ∈ w.jobs) :
    (initAbort { w with jobs := w.jobs.erase (.initGen s) } (some s)).Apart := by
  obtain ⟨hslot, hours, hrequest, hinit, htimer⟩ := h.gen s hjob
  exact (h.erase (.initGen s)).initAbort hslot htimer hrequest hinit (h.not_kept hslot hours)
    (h.gen_erased hjob) rfl (Nat.le_refl _) rfl h.fates

/-- the request goes out with what its stub holds -/
theorem initSendTail_apart (h : w.Apart) {s : Serial} (hjob : .initGen s ∈ w.jobs) {sa : NewSa}
    (hsa : w.sas s = some sa) (dhpriv : Bytes) (n_i : Option Bytes) :
    (initSendTail { w with jobs := w.jobs.erase (.initGen s) } s sa dhpriv n_i).Apart := by
  cases n_i with
  | none => exact initAbort_apart h hjob
  | some n_i =>
    obtain ⟨hslot, hours, hrequest, hinit, htimer⟩ := h.gen s hjob
    have he := h.erase (.initGen s)
    have hgen := h.gen_erased hjob
    refine ⟨he.jobs, he.timer, fun s' hs' => absurd hs' (hgen s'), ?_, ?_, he.plain, he.once, he.resp,
      he.slot_lt, he.parked, he.kept, he.applied, he.fates⟩
    · intro r hr
      cases hr
      refine ⟨hslot, hours, ⟨{ sa with nI := some n_i, dhpriv := some dhpriv }, ?_, rfl, rfl, rfl⟩,
        hinit, htimer⟩
      show (if s = s then (w.sas s).map _ else _) = _
      rw [if_pos rfl, hsa]
      rfl
    · intro ctx hctx
      obtain ⟨heq, hours', hlt, hno, _⟩ := h.compute ctx (List.mem_of_mem_erase hctx)
      refine ⟨heq, hours', hlt, hgen _, fun r hr => ?_⟩
      cases hr
      intro hstub
      exact hno (hstub ▸ hjob)

theorem initDhDone_apart (h : w.Apart) {s : Serial} (hjob : .initGen s ∈ w.jobs)
    (dhpriv : Option Bytes) (expired : Bool) (n_i : Option Bytes) :
    (initDhDone { w with jobs := w.jobs.erase (.initGen s) } s dhpriv expired n_i).Apart := by
  unfold initDhDone
  split
  · exact h.erase (.initGen s)
  split
  · exact h.erase (.initGen s)
  split
  · rename_i hsa
    exact initSendTail_apart h hjob hsa _ n_i
  · exact initAbort_apart h hjob

/-- the response is applied to the stub of the request -/
theorem RekeySa.Apart.apply (h : w.Apart) {r : Sent} (hr : w.request = some r) (nR : Bytes)
    (addke : List Nat) : RekeySa.Apart { w.apply r nR addke with request := none } := by
  obtain ⟨hslot, hours, ⟨sa, hsa, hspi, hnI, hpriv⟩, hinit, htimer⟩ := h.sent r hr
  have hset := h.setSa r.stub (f := fun sa => { sa with nR := some nR, addke }) fun _ =>
    ⟨rfl, rfl, rfl⟩
  have heq : ({ w.apply r nR addke with request := none } : RekeySa) =
      { w.setSa r.stub fun sa => { sa with nR := some nR, addke } with
        request := none
        applied := (r, some (r.stub, sa)) :: w.applied } := by
    unfold RekeySa.apply
    rw [hslot]
    simp [hsa]
  rw [heq]
  refine ⟨hset.jobs, hset.timer, fun s hs => ?_, ?_, fun ctx hctx => ?_, hset.plain, hset.once,
    hset.resp, hset.slot_lt, hset.parked, hset.kept, ?_, hset.fates⟩
  · obtain ⟨hslot', hours', hrest⟩ := h.gen s hs
    rw [hr] at hrest
    exact nomatch hrest.1
  · exact fun r hr => nomatch hr
  · obtain ⟨hctx', hours', hlt, hgen, _⟩ := h.compute ctx hctx
    exact ⟨hctx', hours', hlt, hgen, fun r hr => nomatch hr⟩
  · exact List.forall_mem_cons.mpr ⟨⟨sa, rfl, hspi, hnI, hpriv⟩, h.applied⟩

/-- the park of ours ends -/
theorem RekeySa.Apart.unpark (h : w.Apart) (hcomplete : w.addkeComplete = none) (x : Serial) :
    (w.unpark x).Apart where
  jobs := h.jobs
  timer := fun x hx => nomatch hx
  gen := fun s hs => by
    obtain ⟨hslot, hours, hrequest, _⟩ := h.gen s hs
    exact ⟨hslot, hours, hrequest, rfl, rfl⟩
  sent := fun r hr => by
    obtain ⟨hslot, hours, hsent, _⟩ := h.sent r hr
    exact ⟨hslot, hours, hsent, rfl, rfl⟩
  compute := h.compute
  plain := fun _ _ _ _ => ⟨rfl, rfl⟩
  once := h.once
  resp := h.resp
  slot_lt := h.slot_lt
  parked := fun ctx hctx => nomatch hctx
  kept := h.kept
  applied := h.applied
  fates := fun p hp => by
    rcases List.mem_append.mp hp with hp | hp
    · simp [hcomplete] at hp
    · exact h.fates p hp

/-- the job of the response is submitted; the context is parked if there are more key exchanges -/
theorem RekeySa.Apart.compute_fresh (h : w.Apart) {r : Sent} (hslot : w.newSa = some r.stub)
    (hours : r.stub.ours = true) (hinit : w.addkeInit = none) (htimer : w.timer = none)
    (hrequest : w.request = none) (hgen : ∀ s, .initGen s ∉ w.jobs)
    (hother : ∀ ctx, .initCompute ctx ∈ w.jobs → ctx.newSa ≠ r.stub) (addke : List Nat) :
    (w.compute (.fresh r r.stub addke)).Apart := by
  have hfresh : .initCompute (.fresh r r.stub addke) ∉ w.jobs := fun hmem => hother _ hmem rfl
  have hgen' : ∀ s, .initGen s ∉ RekeyJob.initCompute (.fresh r r.stub addke) :: w.jobs := by
    intro s hs
    exact hgen s (by simpa using hs)
  have hcompute : ∀ ctx, .initCompute ctx ∈ RekeyJob.initCompute (.fresh r r.stub addke) :: w.jobs →
      ctx = .fresh r r.stub addke ∨ .initCompute ctx ∈ w.jobs := by
    intro ctx hctx
    simpa using hctx
  have hnodup := List.nodup_cons.mpr ⟨hfresh, h.jobs⟩
  have hbase : ∀ ctx, .initCompute ctx ∈ RekeyJob.initCompute (.fresh r r.stub addke) :: w.jobs →
      ctx.request = ctx.newSa ∧ ctx.newSa.ours = true ∧ ctx.newSa.n < w.nextSerial
        ∧ .initGen ctx.newSa ∉ RekeyJob.initCompute (.fresh r r.stub addke) :: w.jobs
        ∧ ∀ r', w.request = some r' → r'.stub ≠ ctx.newSa := by
    intro ctx hctx
    refine (hcompute ctx hctx).elim (fun heq => ?_) fun hctx => ?_
    · rw [heq]
      refine ⟨rfl, hours, h.slot_lt _ hslot, hgen' _, fun r' hr' => ?_⟩
      exact absurd (hrequest.symm.trans hr') (by simp)
    · obtain ⟨heq, hours', hlt, _, hreq⟩ := h.compute ctx hctx
      exact ⟨heq, hours', hlt, hgen' _, hreq⟩
  have honce : ∀ ctx, .initCompute ctx ∈ RekeyJob.initCompute (.fresh r r.stub addke) :: w.jobs →
      ∀ ctx', .initCompute ctx' ∈ RekeyJob.initCompute (.fresh r r.stub addke) :: w.jobs →
        ctx.newSa = ctx'.newSa → ctx = ctx' := by
    intro ctx hctx ctx' hctx' heq
    rcases hcompute ctx hctx with rfl | hctx
    · rcases hcompute ctx' hctx' with rfl | hctx'
      · rfl
      · exact absurd heq.symm (hother ctx' hctx')
    · rcases hcompute ctx' hctx' with rfl | hctx'
      · exact absurd heq (hother ctx hctx)
      · exact h.once ctx hctx ctx' hctx' heq
  have hresp : ∀ s, .respGencmp s ∈ RekeyJob.initCompute (.fresh r r.stub addke) :: w.jobs →
      s.ours = false ∧ s.n < w.nextSerial := by
    intro s hs
    exact h.resp s (by simpa using hs)
  unfold RekeySa.compute
  split
  · rename_i hdeferred
    refine ⟨hnodup, h.timer, fun s hs => absurd hs (hgen' s), ?_, hbase, ?_, honce, hresp, h.slot_lt, ?_,
      h.kept, h.applied, h.fates⟩
    · intro r' hr'
      exact absurd (hrequest.symm.trans hr') (by simp)
    · intro ctx hctx hslot' hplain
      rcases hcompute ctx hctx with rfl | hctx
      · exact absurd (hdeferred.symm.trans hplain) (by simp)
      · exact absurd (Option.some.inj (hslot'.symm.trans hslot)) (hother ctx hctx)
    · intro ctx hctx
      cases hctx
      exact ⟨hslot, rfl, hours, hdeferred⟩
  · refine ⟨hnodup, h.timer, fun s hs => absurd hs (hgen' s), ?_, hbase, fun _ _ _ _ => ⟨hinit, htimer⟩,
      honce, hresp, h.slot_lt, h.parked, h.kept, h.applied, h.fates⟩
    intro r' hr'
    exact absurd (hrequest.symm.trans hr') (by simp)

/-- what a response leaves alone -/
theorem RekeySa.apply_same {r : Sent} (hslot : w.newSa = some r.stub) (nR : Bytes)
    (addke : List Nat) :
    (w.apply r nR addke).newSa = w.newSa ∧ (w.apply r nR addke).timer = w.timer
      ∧ (w.apply r nR addke).addkeInit = w.addkeInit
      ∧ (w.apply r nR addke).addkeComplete = w.addkeComplete
      ∧ (w.apply r nR addke).jobs = w.jobs := by
  unfold RekeySa.apply
  rw [hslot]
  exact ⟨hslot, rfl, rfl, rfl, rfl⟩

theorem response_apart (h : w.Apart) (o : RecvOutcome) : (w.response o).Apart := by
  unfold RekeySa.response
  cases hr : w.request with
  | none => exact h
  | some r =>
    obtain ⟨hslot, hours, hsent, hinit, htimer⟩ := h.sent r hr
    have hcomplete := h.not_kept hslot hours
    have hgen : ∀ s, .initGen s ∉ w.jobs := by
      intro s hs
      have hrequest := (h.gen s hs).2.2.1
      rw [hr] at hrequest
      exact nomatch hrequest
    have happly := h.apply hr
    have hsame := RekeySa.apply_same hslot
    cases o with
    | refused =>
      refine ⟨h.jobs, h.timer, fun s hs => absurd hs (hgen s), ?_, fun ctx hctx => ?_, h.plain, h.once,
        h.resp, h.slot_lt, h.parked, h.kept, h.applied, h.fates⟩
      · exact fun r hr => nomatch hr
      · obtain ⟨heq, hours', hlt, hno, _⟩ := h.compute ctx hctx
        exact ⟨heq, hours', hlt, hno, fun r hr => nomatch hr⟩
    | failed nR addke => exact happly nR addke
    | followupFailed nR addke =>
      have hx := (happly nR addke).unpark ((hsame nR addke).2.2.2.1.trans hcomplete) r.stub
      unfold initRecv
      dsimp only
      rw [(hsame nR addke).2.1, htimer]
      exact hx
    | submitFailed nR addke =>
      show RekeySa.Apart (if _ then _ else _)
      split
      · exact happly nR addke
      · exact (happly nR addke).unpark ((hsame nR addke).2.2.2.1.trans hcomplete) r.stub
    | submitted nR addke =>
      unfold initRecv
      rw [hslot]
      refine (happly nR addke).compute_fresh ((hsame nR addke).1.trans hslot) hours
        ((hsame nR addke).2.2.1.trans hinit) ((hsame nR addke).2.1.trans htimer) rfl
        (fun s hs => ?_) (fun ctx hctx => ?_) addke
      · exact hgen s ((hsame nR addke).2.2.2.2 ▸ hs)
      · have hctx' : .initCompute ctx ∈ w.jobs := (hsame nR addke).2.2.2.2 ▸ hctx
        exact ((h.compute ctx hctx').2.2.2.2 r hr).symm

theorem initAbandon_eq {ctx : InitRecvCtx} (hi : w.addkeInit = some ctx) (x : Serial) :
    initAbandon w x
      = { ((w.unpark x).setSlot x none).free x ctx.newSa with rekeyInprogress := false } := by
  unfold initAbandon
  rw [hi]

/-- `ikev2_rekey_ikesa_init_abandon` of the parked exchange -/
theorem initAbandon_apart (h : w.Apart) {ctx : InitRecvCtx} (hi : w.addkeInit = some ctx) :
    (initAbandon w ctx.request).Apart ∧ (initAbandon w ctx.request).Vacant := by
  obtain ⟨hslot, heq, hours, _⟩ := h.parked ctx hi
  have hcomplete := h.not_kept hslot hours
  have hv : (initAbandon w ctx.request).Vacant := by
    rw [initAbandon_eq hi]
    refine ⟨rfl, rfl, ?_, rfl, hcomplete, ?_⟩
    · cases hr : w.request with
      | none => exact hr
      | some r => exact absurd (hi.symm.trans (h.sent r hr).2.2.2.1) (by simp)
    · intro s hs
      exact absurd (hi.symm.trans (h.gen s hs).2.2.2.1) (by simp)
  refine ⟨h.vacate hv ?_ ?_ ?_ ?_, hv⟩
  · rw [initAbandon_eq hi]
    rfl
  · rw [initAbandon_eq hi]
    exact Nat.le_refl _
  · rw [initAbandon_eq hi]
    rfl
  · rw [initAbandon_eq hi]
    refine List.forall_mem_cons.mpr ⟨heq, ?_⟩
    refine RekeySa.setSlot_fates (h.unpark hcomplete ctx.request).fates fun t ht _ => ?_
    rw [heq]
    exact Option.some.inj (ht.symm.trans hslot)

/-- the children move to one SA or the other -/
theorem RekeySa.Apart.initRekeyDone (h : w.Apart) (s : Serial) (sa : NewSa) :
    (initRekeyDone w s sa).Apart := by
  unfold Ikev2.initRekeyDone
  split
  · split
    · exact h.childAdopt _
    · exact h.childAdopt s
  · exact h.childAdopt s

/-- the keys are derived and the slot is given back -/
theorem initRecvKeys_apart (h : w.Apart) {ctx : InitRecvCtx} (hslot : w.newSa = some ctx.newSa)
    (heq : ctx.request = ctx.newSa) (hcomplete : w.addkeComplete = none)
    (hinit : w.addkeInit = none) (htimer : w.timer = none) (hrequest : w.request = none)
    (hgen : ∀ s, .initGen s ∉ w.jobs) (keys : Bool) : (initRecvKeys w ctx keys).Apart := by
  unfold initRecvKeys
  split
  · exact h
  split
  · exact h
  · rename_i sa hsa
    have hfates := RekeySa.setSlot_fates h.fates (x := ctx.request) (o := none) fun t ht _ => by
      rw [heq]
      exact Option.some.inj (ht.symm.trans hslot)
    have hempty : (w.setSlot ctx.request none).Apart :=
      h.vacate ⟨rfl, htimer, hrequest, hinit, hcomplete, hgen⟩ rfl (Nat.le_refl _) rfl hfates
    have hest := hempty.establish ctx.request
    rw [heq] at hest ⊢
    exact (hest.initRekeyDone ctx.newSa sa).marks _ true _ _

/-- the parked context, and the timer, change -/
theorem RekeySa.Apart.setParked (h : w.Apart) {ctx ctx' : InitRecvCtx} {t : Option Serial}
    (hi : w.addkeInit = some ctx) (hnew : ctx'.newSa = ctx.newSa) (hreq : ctx'.request = ctx.request)
    (hdef : ctx'.deferred = ctx.deferred) (ht : ∀ x, t = some x → x = ctx.request) :
    RekeySa.Apart { w with addkeInit := some ctx', timer := t } := by
  obtain ⟨hslot, heq, hours, hdeferred⟩ := h.parked ctx hi
  refine ⟨h.jobs, fun x hx => ?_, fun s hs => ?_, fun r hr => ?_, h.compute, fun c hc hslot' hplain => ?_,
    h.once, h.resp, h.slot_lt, fun c hc => ?_, h.kept, h.applied, h.fates⟩
  · rw [ht x hx, heq]
    exact hslot
  · exact absurd (hi.symm.trans (h.gen s hs).2.2.2.1) (by simp)
  · exact absurd (hi.symm.trans (h.sent r hr).2.2.2.1) (by simp)
  · exact absurd (hi.symm.trans (h.plain c hc hslot' hplain).1) (by simp)
  · cases hc
    rw [hnew, hreq, hdef]
    exact ⟨hslot, heq, hours, hdeferred⟩

/-- `ikev2_rekey_ikesa_init_recv_tail` -/
theorem initRecvTail_apart (h : w.Apart) (ctx : InitRecvCtx) (hslot : w.newSa = some ctx.newSa)
    (heq : ctx.request = ctx.newSa) (hours : ctx.newSa.ours = true) (hrequest : w.request = none)
    (hgen : ∀ s, .initGen s ∉ w.jobs)
    (hother : ∀ c, .initCompute c ∈ w.jobs → c.newSa = ctx.newSa → c.deferred = true)
    (hplain : ctx.deferred = false → w.addkeInit = none ∧ w.timer = none) (keys : Bool) :
    (initRecvTail w ctx keys).Apart := by
  have hcomplete := h.not_kept hslot hours
  unfold initRecvTail
  split
  · split
    · refine ⟨h.jobs, fun x hx => ?_, fun s hs => absurd hs (hgen s), fun r hr => ?_, h.compute,
        fun c hc hslot' hno => ?_, h.once, h.resp, h.slot_lt, fun c hc => ?_, h.kept, h.applied,
        h.fates⟩
      · cases ht : w.timer with
        | none =>
          have hx' : w.timer.getD ctx.request = x := Option.some.inj hx
          rw [ht] at hx'
          rw [← hx']
          exact hslot.trans (congrArg some heq.symm)
        | some y =>
          have hx' : w.timer.getD ctx.request = x := Option.some.inj hx
          rw [ht] at hx'
          rw [← hx']
          exact h.timer y ht
      · exact absurd (hrequest.symm.trans hr) (by simp)
      · have hnew := Option.some.inj (hslot'.symm.trans hslot)
        exact absurd ((hother c hc hnew).symm.trans hno) (by simp)
      · obtain ⟨c', hc', hceq⟩ := Option.map_eq_some_iff.mp hc
        have hp := h.parked c' hc'
        rw [← hceq]
        split <;> exact hp
    · exact initRecvKeys_apart (h.unpark hcomplete ctx.request) hslot heq hcomplete rfl rfl hrequest
        hgen keys
  · rename_i hdeferred
    obtain ⟨hinit, htimer⟩ := hplain (by simpa using hdeferred)
    exact initRecvKeys_apart h hslot heq hcomplete hinit htimer hrequest hgen keys

theorem RekeySa.isParked_iff {ctx : InitRecvCtx} :
    w.isParked ctx = true ↔ ∃ c, w.addkeInit = some c ∧ c.request = ctx.request := by
  unfold RekeySa.isParked
  cases w.addkeInit <;> simp

/-- the parked exchange is that of the SA in the slot -/
theorem RekeySa.Apart.parked_slot (h : w.Apart) {ctx c : InitRecvCtx}
    (hjob : .initCompute ctx ∈ w.jobs) (hc : w.addkeInit = some c) :
    c.request = ctx.request ↔ w.newSa = some ctx.newSa := by
  obtain ⟨hslot, hceq, _⟩ := h.parked c hc
  rw [hslot, hceq, (h.compute ctx hjob).1, Option.some.injEq]

theorem initRecvDhDone_apart (h : w.Apart) {ctx : InitRecvCtx} (hjob : .initCompute ctx ∈ w.jobs)
    (rc keys : Bool) :
    (initRecvDhDone { w with jobs := w.jobs.erase (.initCompute ctx) } ctx rc keys).Apart := by
  obtain ⟨heq, hours, hlt, hno, hreq⟩ := h.compute ctx hjob
  have he := h.erase (.initCompute ctx)
  unfold initRecvDhDone
  split
  · rename_i hslot
    split
    · rename_i hp
      obtain ⟨c, hc, hcreq⟩ := RekeySa.isParked_iff.mp hp
      exact absurd ((h.parked_slot hjob hc).mp hcreq) hslot
    · exact he
  · rename_i hslot
    have hslot : w.newSa = some ctx.newSa := by simpa using hslot
    have hrequest : w.request = none := by
      cases hr : w.request with
      | none => rfl
      | some r =>
        refine absurd ?_ (hreq r hr)
        exact Option.some.inj ((h.sent r hr).1.symm.trans hslot)
    have hgen : ∀ s, .initGen s ∉ w.jobs.erase (.initCompute ctx) := by
      intro s hs
      have hs := List.mem_of_mem_erase hs
      rw [Option.some.inj ((h.gen s hs).1.symm.trans hslot)] at hs
      exact hno hs
    have hother : ∀ c, .initCompute c ∈ w.jobs.erase (.initCompute ctx) → c.newSa = ctx.newSa →
        c.deferred = true := by
      intro c hc hnew
      rw [h.once c (List.mem_of_mem_erase hc) ctx hjob hnew] at hc
      exact absurd hc h.jobs.not_mem_erase
    split
    · split
      · rename_i hp
        obtain ⟨c, hc, hcreq⟩ := RekeySa.isParked_iff.mp hp
        rw [← hcreq]
        exact (initAbandon_apart he hc).1
      · exact he
    · have htail := initRecvTail_apart he ctx hslot heq hours hrequest hgen hother
        (fun hplain => h.plain ctx hjob hslot hplain) keys
      split
      · exact htail
      · rename_i c hc
        split
        · obtain ⟨hcslot, hceq, hcours, hdeferred⟩ := h.parked c hc
          have hnew : c.newSa = ctx.newSa := Option.some.inj (hcslot.symm.trans hslot)
          refine initRecvTail_apart he c hcslot hceq hcours hrequest hgen
            (fun c' hc' hnew' => hother c' hc' (hnew'.trans hnew)) (fun hplain => ?_) keys
          exact absurd (hdeferred.symm.trans hplain) (by simp)
        · exact htail

/-- the slot is empty already -/
theorem RekeySa.Vacant.dropSlot (hv : w.Vacant) (h : w.Apart) (x : Serial) :
    (dropSlot w x).Apart := by
  unfold Ikev2.dropSlot dropParked
  rw [hv.addkeComplete]
  refine h.vacate ⟨rfl, hv.timer, hv.request, hv.addkeInit, hv.addkeComplete, hv.gen⟩ rfl
    (Nat.le_refl _) rfl (RekeySa.setSlot_fates h.fates fun t ht _ => ?_)
  exact absurd (hv.newSa.symm.trans ht) (by simp)

/-- `ikev2_rekey_abandon_parked`, with our exchange parked -/
theorem abandonParked_apart (h : w.Apart) {ctx : InitRecvCtx} (hi : w.addkeInit = some ctx)
    (hpending : w.addkePending = true) : (abandonParked w ctx.request).Apart := by
  obtain ⟨ha, hv⟩ := initAbandon_apart h hi
  have hcond : (w.addkePending && w.addkeInit.isSome) = true := by rw [hpending, hi]; rfl
  unfold abandonParked
  rw [if_pos hcond]
  exact hv.dropSlot ha ctx.request

theorem rekeyFollowupResponse_apart (h : w.Apart) (ss : Option Bytes) (next keys : Bool) :
    (rekeyFollowupResponse w ss next keys).Apart := by
  unfold rekeyFollowupResponse
  split
  · exact h
  · rename_i ctx hi
    obtain ⟨hslot, heq, hours, hdeferred⟩ := h.parked ctx hi
    have hpark : ∀ (ctx' : InitRecvCtx) (t : Option Serial), ctx'.newSa = ctx.newSa →
        ctx'.request = ctx.request → ctx'.deferred = ctx.deferred →
        (∀ x, t = some x → x = ctx.request) →
        RekeySa.Apart { w with addkeInit := some ctx', timer := t } :=
      fun ctx' t hnew hreq hdef ht => h.setParked hi hnew hreq hdef ht
    split
    · rename_i hpending
      cases ss with
      | none =>
        have hu := hpark ctx none rfl rfl rfl (fun x hx => nomatch hx)
        have hset : ({ w with addkeInit := some ctx, timer := none } : RekeySa)
            = { w with timer := none } := by rw [← hi]
        rw [hset] at hu
        exact abandonParked_apart hu hi hpending
      | some ss =>
        dsimp only
        split
        · unfold initRoundMore
          split
          · exact hpark _ _ rfl rfl rfl (fun x hx => (Option.some.inj hx).symm)
          · have hu := hpark { ctx with sk := some (ctx.sk.getD [] ++ ss) } none rfl rfl rfl
              (fun x hx => nomatch hx)
            exact abandonParked_apart hu rfl hpending
        · have hu := hpark { ctx with sk := some (ctx.sk.getD [] ++ ss), final := true } none rfl rfl rfl
            (fun x hx => nomatch hx)
          split
          · refine initRecvTail_apart hu { ctx with sk := some (ctx.sk.getD [] ++ ss), final := true } hslot
              heq hours ?_ ?_ ?_ ?_ keys
            · cases hr : w.request with
              | none => rfl
              | some r => exact absurd (hi.symm.trans (h.sent r hr).2.2.2.1) (by simp)
            · intro s hs
              exact absurd (hi.symm.trans (h.gen s hs).2.2.2.1) (by simp)
            · intro c hc hnew
              by_contra hno
              have hplain := h.plain c hc (hslot.trans (congrArg some hnew.symm)) (by simpa using hno)
              exact absurd (hi.symm.trans hplain.1) (by simp)
            · exact fun hplain => absurd (hdeferred.symm.trans hplain) (by simp)
          · exact hu
    · exact h

/-! ## the rekey we answer -/

/-- the new SA and the marks -/
theorem RekeySa.Apart.answer (h : w.Apart) (sa : NewSa) : (w.answer sa).Apart := by
  refine ⟨h.jobs, h.timer, h.gen, fun r hr => ?_, fun ctx hctx => ?_, h.plain, h.once, fun s hs => ?_,
    fun s hs => ?_, h.parked, h.kept, h.applied, h.fates⟩
  · obtain ⟨hslot, hours, ⟨sa', hsa', hrest⟩, hpark⟩ := h.sent r hr
    refine ⟨hslot, hours, ⟨sa', ?_, hrest⟩, hpark⟩
    show (if r.stub = ⟨false, w.nextSerial⟩ then _ else _) = _
    rw [if_neg, hsa']
    intro hstub
    rw [hstub] at hours
    exact nomatch hours
  · obtain ⟨heq, hours, hlt, hrest⟩ := h.compute ctx hctx
    exact ⟨heq, hours, Nat.lt_succ_of_lt hlt, hrest⟩
  · exact ⟨(h.resp s hs).1, Nat.lt_succ_of_lt (h.resp s hs).2⟩
  · exact Nat.lt_succ_of_lt (h.slot_lt s hs)

theorem rekeyResponder_apart (h : w.Apart) (o : RequestOutcome) : (rekeyResponder w o).Apart := by
  cases o with
  | refused => exact h
  | failed =>
    show RekeySa.Apart (if _ then _ else _)
    split
    · exact (h.answer _).kill _
    · exact h
  | submitted spiI nI nR addke =>
    show RekeySa.Apart (if _ then _ else _)
    split
    · have ha := h.answer { NewSa.allocate spiI with
        listed := true, nI := some nI, nR := some nR, addke := addke }
      have hfresh : .respGencmp ⟨false, w.nextSerial⟩ ∉ w.jobs := fun hmem =>
        Nat.lt_irrefl _ (h.resp _ hmem).2
      have hsub : ∀ job, job ≠ .respGencmp ⟨false, w.nextSerial⟩ →
          job ∈ RekeyJob.respGencmp ⟨false, w.nextSerial⟩ :: w.jobs → job ∈ w.jobs := by
        intro job hne hmem
        exact (List.mem_cons.mp hmem).resolve_left hne
      refine ⟨List.nodup_cons.mpr ⟨hfresh, h.jobs⟩, ha.timer, fun s hs => ?_, ha.sent, fun ctx hctx => ?_,
        fun ctx hctx => ?_, fun ctx hctx ctx' hctx' => ?_, fun s hs => ?_, ha.slot_lt, ha.parked,
        ha.kept, ha.applied, ha.fates⟩
      · exact ha.gen s (hsub _ (by simp) hs)
      · obtain ⟨heq, hours, hlt, hno, hreq⟩ := ha.compute ctx (hsub _ (by simp) hctx)
        exact ⟨heq, hours, hlt, fun hmem => hno (hsub _ (by simp) hmem), hreq⟩
      · exact ha.plain ctx (hsub _ (by simp) hctx)
      · exact ha.once ctx (hsub _ (by simp) hctx) ctx' (hsub _ (by simp) hctx')
      · rcases List.mem_cons.mp hs with hs | hs
        · cases hs
          exact ⟨rfl, Nat.lt_succ_self _⟩
        · exact ha.resp s hs
    · exact h

/-- the slot of an exchange of the peer with additional key exchanges -/
theorem RekeySa.Apart.defer (h : w.Apart) {s : Serial} (hslot : w.newSa = none)
    (hours : s.ours = false) (hlt : s.n < w.nextSerial) (link : Bytes) : (w.defer s link).Apart := by
  have hv := h.vacant hslot
  refine ⟨h.jobs, fun x hx => ?_, fun s hs => absurd hs (hv.gen s), fun r hr => ?_, h.compute,
    fun ctx hctx hslot' => ?_, h.once, h.resp, fun t ht => ?_, fun ctx hctx => ?_, fun c hc => ?_,
    h.applied, ?_⟩
  · exact absurd (hv.timer.symm.trans hx) (by simp)
  · exact absurd (hv.request.symm.trans hr) (by simp)
  · have heq : s = ctx.newSa := Option.some.inj hslot'
    have hours' := (h.compute ctx hctx).2.1
    rw [← heq, hours] at hours'
    exact nomatch hours'
  · cases ht
    exact hlt
  · exact absurd (hv.addkeInit.symm.trans hctx) (by simp)
  · exact absurd (hv.addkeComplete.symm.trans hc) (by simp)
  · refine RekeySa.setSlot_fates h.fates fun t ht => ?_
    exact absurd (hslot.symm.trans ht) (by simp)

/-- the exchange that holds the slot is parked -/
theorem RekeySa.Apart.park (h : w.Apart) {s : Serial} (hslot : w.newSa = some s)
    (hours : s.ours = false) (hcomplete : w.addkeComplete = none)
    (hlink : ∀ link, w.addkeLink = some link → link.mintedFor = s) : (w.park s).Apart := by
  have hpeer : ∀ t : Serial, w.newSa = some t → t.ours = false := by
    intro t ht
    rw [← Option.some.inj (hslot.symm.trans ht)]
    exact hours
  refine ⟨h.jobs, fun x hx => ?_, fun t ht => ?_, fun r hr => ?_, h.compute, fun ctx hctx hslot' => ?_,
    h.once, h.resp, h.slot_lt, h.parked, fun c hc => ?_, h.applied, ?_⟩
  · cases hx
    exact hslot
  · obtain ⟨hslot', hours', _⟩ := h.gen t ht
    exact absurd ((hpeer t hslot').symm.trans hours') (by simp)
  · obtain ⟨hslot', hours', _⟩ := h.sent r hr
    exact absurd ((hpeer _ hslot').symm.trans hours') (by simp)
  · exact absurd ((hpeer _ hslot').symm.trans (h.compute ctx hctx).2.1) (by simp)
  · cases hc
    exact ⟨hslot, hours, hlink⟩
  · intro p hp
    rcases List.mem_append.mp hp with hp | hp
    · simp [hcomplete] at hp
    · exact h.fates p hp

theorem responderTail_apart (h : w.Apart) {s : Serial} (hours : s.ours = false)
    (hlt : s.n < w.nextSerial) (addke : List Nat) (env : TailEnv)
    (hok : addke1 addke ≠ 0 → env.ke = true → env.link.isSome → w.newSa = none) :
    (responderTail w s addke env).1.Apart := by
  unfold responderTail
  split
  · exact h.kill s
  rename_i hke
  split
  · rename_i haddke
    cases hlink : env.link with
    | none =>
      refine RekeySa.Apart.kill ?_ s
      exact ⟨h.jobs, h.timer, h.gen, h.sent, h.compute, h.plain, h.once, h.resp, h.slot_lt, h.parked,
        fun c hc => ⟨(h.kept c hc).1, (h.kept c hc).2.1, fun link hl => nomatch hl⟩, h.applied, h.fates⟩
    | some link =>
      have hslot := hok haddke (by simpa using hke) (by rw [hlink]; rfl)
      have hdefer := h.defer hslot hours hlt link
      dsimp only
      split
      · refine hdefer.park rfl hours (h.vacant hslot).addkeComplete fun l hl => ?_
        cases hl
        rfl
      · exact hdefer.kill s
  split
  · exact h.kill s
  split
  · exact (h.responderFinish s).marks _ true _ _
  · exact (h.responderFinish s).kill s

theorem responderDhDone_apart (h : w.Apart) {s : Serial} (hours : s.ours = false)
    (hlt : s.n < w.nextSerial) (rc : Bool) (env : TailEnv)
    (hok : w.defers s rc env = true → w.newSa = none) : (responderDhDone w s rc env).1.Apart := by
  unfold responderDhDone
  unfold RekeySa.defers at hok
  cases hs : w.sas s with
  | none => exact h
  | some sa =>
    rw [hs] at hok
    dsimp only at hok ⊢
    split
    · exact h
    · rename_i hdead
      split
      · exact h.kill s
      · rename_i hrc
        refine responderTail_apart h hours hlt sa.addke env fun haddke hke hlink => hok ?_
        rw [not_or] at hdead
        simp [haddke, hke, hlink, hdead.1, hdead.2, show rc = true by simpa using hrc]

/-- the peer's exchange is parked: nothing of ours holds the slot -/
theorem RekeySa.Apart.kept_alone (h : w.Apart) {c : Serial} (hc : w.addkeComplete = some c) :
    w.addkeInit = none ∧ w.request = none ∧ ∀ s, .initGen s ∉ w.jobs := by
  obtain ⟨hslot, hours, _⟩ := h.kept c hc
  have hpeer : ∀ t : Serial, w.newSa = some t → t.ours = true → False := by
    intro t ht hours'
    rw [← Option.some.inj (hslot.symm.trans ht), hours] at hours'
    exact nomatch hours'
  refine ⟨?_, ?_, fun s hs => ?_⟩
  · cases hi : w.addkeInit with
    | none => rfl
    | some ctx => exact (hpeer _ (h.parked ctx hi).1 (h.parked ctx hi).2.2.1).elim
  · cases hr : w.request with
    | none => rfl
    | some r => exact (hpeer _ (h.sent r hr).1 (h.sent r hr).2.1).elim
  · exact hpeer s (h.gen s hs).1 (h.gen s hs).2.1

/-- the last round of the parked exchange -/
theorem addkeComplete_apart (h : w.Apart) {c : Serial} (hc : w.addkeComplete = some c)
    (env : TailEnv) : (addkeComplete w c env).1.Apart := by
  obtain ⟨hslot, _⟩ := h.kept c hc
  obtain ⟨hinit, hrequest, hgen⟩ := h.kept_alone hc
  have hu : RekeySa.Apart { w with
      addkeComplete := none, timer := none, addkePending := false
      fates := (w.addkeInit.toList.map InitRecvCtx.newSa).map (c, ·) ++ w.fates } := by
    refine ⟨h.jobs, ?_, fun s hs => absurd hs (hgen s), fun r hr => ?_, h.compute, ?_, h.once, h.resp,
      h.slot_lt, h.parked, ?_, h.applied, fun p hp => ?_⟩
    · exact fun x hx => nomatch hx
    · exact absurd (hrequest.symm.trans hr) (by simp)
    · exact fun _ _ _ _ => ⟨hinit, rfl⟩
    · exact fun c hc => nomatch hc
    · rw [hinit] at hp
      exact h.fates p hp
  have hclear : ∀ u : RekeySa, u.Apart → u.newSa = some c → u.addkeComplete = none →
      u.timer = none → u.addkeInit = none → u.request = none → (∀ s, .initGen s ∉ u.jobs) →
      (u.setSlot c none).Apart := by
    intro u hu hslot hc ht hi hr hg
    refine hu.vacate ⟨rfl, ht, hr, hi, hc, hg⟩ rfl (Nat.le_refl _) rfl
      (RekeySa.setSlot_fates hu.fates fun t ht _ => ?_)
    exact (Option.some.inj (hslot.symm.trans ht)).symm
  unfold addkeComplete
  rw [hc]
  dsimp only
  split
  · exact (hclear _ (hu.kill c) hslot rfl rfl hinit hrequest hgen).marks false _ _ none
  split
  · exact (hclear _ (hu.kill c) hslot rfl rfl hinit hrequest hgen).marks false _ 0 none
  · refine (hclear _ (hu.responderFinish c) ?_ ?_ ?_ ?_ ?_ ?_).marks _ true 0 none
    all_goals
      unfold RekeySa.responderFinish
      split
    · exact hslot
    · exact hslot
    · rfl
    · rfl
    · rfl
    · rfl
    · exact hinit
    · exact hinit
    · exact hrequest
    · exact hrequest
    · exact hgen
    · exact hgen

theorem rekeyFollowupRequest_apart (h : w.Apart) (env : RoundEnv) (tail : TailEnv)
    (hok : w.matchesLink env = true → w.addkeComplete.isSome = true) :
    (rekeyFollowupRequest w env tail).Apart := by
  unfold rekeyFollowupRequest
  split
  · rename_i link ss hlink hss
    split
    · rename_i hmatch
      obtain ⟨c, hc⟩ := Option.isSome_iff_exists.mp (hok (by
        unfold RekeySa.matchesLink
        rw [hlink]
        exact hmatch))
      obtain ⟨hslot, hours, hminted⟩ := h.kept c hc
      obtain ⟨hinit, hrequest, hgen⟩ := h.kept_alone hc
      have hlink' := hminted link hlink
      unfold addkeRound
      split
      · exact h
      split
      · split
        · unfold addkeRoundMore
          rw [hc]
          split
          · exact h
          · rename_i heq
            exact nomatch heq
          · split
            · refine ⟨h.jobs, fun x hx => ?_, fun s hs => absurd hs (hgen s), fun r hr => ?_, h.compute,
                fun ctx hctx hslot' => ?_, h.once, h.resp, h.slot_lt, h.parked, fun c' hc' => ?_,
                h.applied, h.fates⟩
              · cases hx
                rw [hlink']
                exact hslot
              · exact absurd (hrequest.symm.trans hr) (by simp)
              · have hours' := (h.compute ctx hctx).2.1
                rw [← Option.some.inj (hslot.symm.trans hslot'), hours] at hours'
                exact nomatch hours'
              · cases hc'
                refine ⟨hslot, hours, fun l hl => ?_⟩
                cases hl
                exact hlink'
            · exact h
        · rw [hlink']
          exact addkeComplete_apart (h.marks _ _ _ (some (w.addkeSk.getD [] ++ ss))) hc tail
      · exact h
    · exact h
  · exact h

theorem addkeTimeout_apart (h : w.Apart) : (addkeTimeout w).Apart := by
  unfold addkeTimeout
  split
  · exact h
  · rename_i x hx
    have hslot := h.timer x hx
    have hrequest : w.request = none := by
      cases hr : w.request with
      | none => rfl
      | some r => exact absurd (hx.symm.trans (h.sent r hr).2.2.2.2) (by simp)
    have hgen : ∀ s, .initGen s ∉ w.jobs := fun s hs =>
      absurd (hx.symm.trans (h.gen s hs).2.2.2.2) (by simp)
    have hu : RekeySa.Apart { w with timer := none, addkePending := false, addkeRound := 0,
                                     addkeSk := none } := by
      refine ⟨h.jobs, ?_, fun s hs => absurd hs (hgen s), fun r hr => ?_, h.compute, ?_, h.once, h.resp,
        h.slot_lt, h.parked, h.kept, h.applied, h.fates⟩
      · exact fun x hx => nomatch hx
      · exact absurd (hrequest.symm.trans hr) (by simp)
      · exact fun ctx hctx hslot' hplain => ⟨(h.plain ctx hctx hslot' hplain).1, rfl⟩
    dsimp only
    split
    · rename_i hsome
      obtain ⟨ctx, hi⟩ := Option.isSome_iff_exists.mp hsome
      obtain ⟨hslot', heq, _⟩ := h.parked ctx hi
      have hxctx : x = ctx.request := by
        rw [heq]
        exact Option.some.inj (hslot.symm.trans hslot')
      obtain ⟨ha, hv⟩ := initAbandon_apart hu hi
      rw [hxctx]
      exact hv.dropSlot ha ctx.request
    · rename_i hnone
      have hinit : w.addkeInit = none := by simpa using hnone
      unfold dropSlot dropParked
      dsimp only
      split
      · rename_i hc
        refine hu.vacate ⟨rfl, rfl, hrequest, hinit, hc, hgen⟩ rfl (Nat.le_refl _) rfl
          (RekeySa.setSlot_fates hu.fates fun t ht _ => ?_)
        exact (Option.some.inj (hslot.symm.trans ht)).symm
      · rename_i c hc
        have hcx : c = x := Option.some.inj ((h.kept c hc).1.symm.trans hslot)
        rw [hcx]
        refine (hu.kill x).vacate ⟨rfl, rfl, hrequest, hinit, rfl, hgen⟩ rfl (Nat.le_refl _) rfl
          (RekeySa.setSlot_fates (hu.kill x).fates fun t ht _ => ?_)
        exact (Option.some.inj (hslot.symm.trans ht)).symm

/-! ## every event -/

/-- what is in the slots of a disposed SA dies with it -/
theorem dispose_apart (h : w.Apart) : w.dispose.Apart := by
  have hfold : ∀ (l : List Serial) (u : RekeySa), u.Apart →
      ((l.foldl (fun w s => w.setSa s fun sa => { sa with state := .dead }) u).Apart) := by
    intro l
    induction l with
    | nil => exact fun u hu => hu
    | cons s l ih => exact fun u hu => ih _ (hu.setSa s fun _ => ⟨rfl, rfl, rfl⟩)
  have hu := hfold (w.newSa.toList ++ w.addkeComplete.toList
    ++ w.addkeInit.toList.map InitRecvCtx.newSa) w h
  refine RekeySa.Vacant.apart ⟨rfl, rfl, rfl, rfl, rfl, fun s => List.not_mem_nil⟩ List.nodup_nil ?_ ?_
    ?_ hu.applied hu.fates
  · exact fun ctx hctx => absurd hctx List.not_mem_nil
  · exact fun s hs => absurd hs List.not_mem_nil
  · exact fun ctx hctx => absurd hctx List.not_mem_nil

theorem rekeyStep_apart (ev : RekeyEvent) (h : w.Apart) (hok : stubOk w ev) :
    (rekeyStep w ev).Apart := by
  unfold rekeyStep
  split
  · exact h
  cases ev with
  | start o => exact callbackContinue_apart h o hok
  | initDhDone s dhpriv expired n_i =>
    show (w.done _ _).Apart
    unfold RekeySa.done
    split
    · exact initDhDone_apart h ‹_› dhpriv expired n_i
    · exact h
  | response o => exact response_apart h o
  | initRecvDhDone ctx rc keys =>
    show (w.done _ _).Apart
    unfold RekeySa.done
    split
    · exact initRecvDhDone_apart h ‹_› rc keys
    · exact h
  | followupResponse ss next keys => exact rekeyFollowupResponse_apart h ss next keys
  | request o => exact rekeyResponder_apart h o
  | responderDhDone s rc env =>
    show (w.done _ _).Apart
    unfold RekeySa.done
    split
    · rename_i hjob
      obtain ⟨hours, hlt⟩ := h.resp s hjob
      exact responderDhDone_apart (h.erase (.respGencmp s)) hours hlt rc env hok
    · exact h
  | followupRequest env tail => exact rekeyFollowupRequest_apart h env tail hok
  | timeout => exact addkeTimeout_apart h
  | reap s => exact h.reap s
  | setState st => exact h.setState st
  | dispose => exact dispose_apart h

end

/-- in every interleaving in which whoever writes the slot finds it empty, the response to a request
of ours is applied to the SA that holds what the request carried, and every SA that is completed,
killed, freed or displaced is that of the exchange that does it -/
theorem stub_apart (children : List ChildSa) (evs : List RekeyEvent)
    (hrun : Run.Meets rekeyStep stubOk (RekeySa.start children) evs) :
    ∀ w ∈ Run.states rekeyStep (RekeySa.start children) evs,
      (∀ p ∈ w.applied, ∃ sa, p.2 = some (p.1.stub, sa) ∧ sa.spiI = p.1.spiI
        ∧ sa.nI = some p.1.nI ∧ sa.dhpriv = some p.1.dhpriv)
      ∧ ∀ p ∈ w.fates, p.1 = p.2 := by
  intro w hmem
  have hinit : (RekeySa.start children).Apart :=
    RekeySa.Vacant.apart ⟨rfl, rfl, rfl, rfl, rfl, fun s => List.not_mem_nil⟩ List.nodup_nil
      (fun ctx hctx => absurd hctx List.not_mem_nil) (fun s hs => absurd hs List.not_mem_nil)
      (fun ctx hctx => absurd hctx List.not_mem_nil) (fun p hp => absurd hp List.not_mem_nil)
      (fun p hp => absurd hp List.not_mem_nil)
  have hstep : ∀ w ev, w.Apart → stubOk w ev → (rekeyStep w ev).Apart :=
    fun w ev h hok => rekeyStep_apart ev h hok
  have h : w.Apart := Run.states_inv hstep evs _ hinit hrun w hmem
  exact ⟨h.applied, h.fates⟩

/-- our rekey crosses one of the peer without additional key exchanges -/
def crossingRun : List RekeyEvent :=
  [.start (.submitted [7]), .request (.submitted [9] [1] [2] []),
    .initDhDone ⟨true, 0⟩ (some [3]) false (some [4]), .responderDhDone ⟨false, 1⟩ true .fine,
    .response (.submitted [5] []),
    .initRecvDhDone (.fresh ⟨⟨true, 0⟩, [7], [4], [3]⟩ ⟨true, 0⟩ []) true true]

theorem stub_apart_crossing :
    Run.Meets rekeyStep stubOk (RekeySa.start [matureChild 1]) crossingRun
      ∧ (crossingRun.foldl rekeyStep (RekeySa.start [matureChild 1])).applied.map Prod.fst
          = [⟨⟨true, 0⟩, [7], [4], [3]⟩]
      ∧ ∀ p ∈ (crossingRun.foldl rekeyStep (RekeySa.start [matureChild 1])).applied,
          ∃ sa, p.2 = some (p.1.stub, sa) ∧ sa.spiI = p.1.spiI ∧ sa.nI = some p.1.nI
            ∧ sa.dhpriv = some p.1.dhpriv := by
  have hmeets : Run.Meets rekeyStep stubOk (RekeySa.start [matureChild 1]) crossingRun := by
    decide +kernel
  refine ⟨hmeets, by decide +kernel, ?_⟩
  have hmem : crossingRun.foldl rekeyStep (RekeySa.start [matureChild 1])
      ∈ Run.states rekeyStep (RekeySa.start [matureChild 1]) crossingRun :=
    Run.foldl_mem_states crossingRun _
  exact (stub_apart [matureChild 1] crossingRun hmeets _ hmem).1

/-- the rekey of the peer comes with an additional key exchange while our request is out -/
def displacingRun : List RekeyEvent :=
  [.start (.submitted [7]), .initDhDone ⟨true, 0⟩ (some [3]) false (some [4]),
    .request (.submitted [9] [1] [2] [36]), .responderDhDone ⟨false, 1⟩ true .fine,
    .response (.submitted [5] [36])]

/-- the response to our request is applied to the SA of the peer's rekey, which had pushed our stub
out of the slot -/
theorem stub_displaced :
    (displacingRun.foldl rekeyStep (RekeySa.start [])).applied.map
        (fun p => (p.1.stub, p.2.map Prod.fst)) = [(⟨true, 0⟩, some ⟨false, 1⟩)]
      ∧ ¬ (∀ p ∈ (displacingRun.foldl rekeyStep (RekeySa.start [])).applied,
          ∃ sa, p.2 = some (p.1.stub, sa))
      ∧ ¬ ∀ p ∈ (displacingRun.foldl rekeyStep (RekeySa.start [])).fates, p.1 = p.2 := by
  have happlied : (displacingRun.foldl rekeyStep (RekeySa.start [])).applied.map
      (fun p => (p.1.stub, p.2.map Prod.fst)) = [(⟨true, 0⟩, some ⟨false, 1⟩)] := by decide +kernel
  refine ⟨happlied, fun hall => ?_, by decide +kernel⟩
  have hstub : ∀ q ∈ (displacingRun.foldl rekeyStep (RekeySa.start [])).applied.map
      (fun p => (p.1.stub, p.2.map Prod.fst)), q.2 = some q.1 := by
    intro q hq
    obtain ⟨p, hp, rfl⟩ := List.mem_map.mp hq
    obtain ⟨sa, hsa⟩ := hall p hp
    simp [hsa]
  rw [happlied] at hstub
  exact absurd (hstub _ List.mem_cons_self) (by decide)

end Ikev2
