import Racoon2.Iked.RekeyStub

/-!
# The rounds of a rekey we answer

The additional key exchanges of a rekey of the peer, over every order of rekey requests, IKE_FOLLOWUP_KE
requests (repeated, duplicated, out of order), responses that cannot be sent, time-outs and expiries.
A round is entered in the trace when its response goes out; the accumulator of the old SA is compared with
the trace when the last round is there.

* `RekeySa.completing`        the old SA as `ikev2_rekey_responder_addke_complete` gets it;
* `RoundTrace.Sound`          what the trace says of a parked rekey;
* `roundStep_sound`           the step;
* `rekey_rounds_accumulate`   the run, and what a failure leaves.
-/

set_option linter.unusedVariables false

namespace Ikev2

/-! ## the two ends of a round -/

section
variable (w : RekeySa)

/-- the request is taken for the round at hand: the link, the shared secret, the SA in the slot -/
def RekeySa.roundOf (env : RoundEnv) : Option (Link × Bytes × NewSa) :=
  match w.addkeLink, env.ss, w.newSa.bind w.sas with
  | some link, some ss, some sa =>
    if (w.addkePending && link.bytes == env.link) = true
        ∧ (roundMethods sa.addke)[w.addkeRound]? = some env.method then
      some (link, ss, sa)
    else none
  | _, _, _ => none

/-- the response of a round that is not the last one goes out: its method and its secret -/
def RekeySa.answered (env : RoundEnv) : Option (Nat × Bytes) :=
  match w.roundOf env with
  | none => none
  | some (_, ss, sa) =>
    if w.addkeRound + 1 < sa.addke.length ∧ env.newLink.isSome = true ∧ w.addkeComplete.isSome = true
        ∧ (env.construct && env.transmit) = true then some (env.method, ss)
    else none

/-- the last round is there: the old SA as `ikev2_rekey_responder_addke_complete` gets it -/
def RekeySa.completing (env : RoundEnv) : Option RekeySa :=
  match w.roundOf env with
  | none => none
  | some (_, ss, sa) =>
    if w.addkeRound + 1 < sa.addke.length then none
    else some { w with addkeSk := some (w.addkeSk.getD [] ++ ss) }

end

/-- the old SA, the rounds of the parked rekey whose responses went out, and whether the peer was sent
the link -/
structure RoundTrace where
  w : RekeySa
  done : List (Nat × Bytes)
  sent : Bool

def RoundTrace.start (children : List ChildSa) : RoundTrace := ⟨.start children, [], false⟩

/-- the event, and what it does to the trace: a rekey that is parked begins it anew -/
def roundStep (t : RoundTrace) (ev : RekeyEvent) : RoundTrace :=
  if t.w.disposed then t
  else
    match ev with
    | .responderDhDone s rc env =>
      if .respGencmp s ∈ t.w.jobs ∧ t.w.defers s rc env = true then
        ⟨rekeyStep t.w ev, [], env.sends⟩
      else ⟨rekeyStep t.w ev, t.done, t.sent⟩
    | .followupRequest env tail => ⟨rekeyStep t.w ev, t.done ++ (t.w.answered env).toList, t.sent⟩
    | _ => ⟨rekeyStep t.w ev, t.done, t.sent⟩

/-- the events of the rekeys of the peer; it does not know a link that it was not sent -/
def roundOk (t : RoundTrace) : RekeyEvent → Prop
  | .request _ => True
  | .responderDhDone _ _ _ => True
  | .followupRequest env _ => t.w.matchesLink env = true → t.sent = true
  | .timeout => True
  | .reap _ => True
  | .setState _ => True
  | .dispose => True
  | _ => False

instance roundOk.decidable (t : RoundTrace) : ∀ ev, Decidable (roundOk t ev)
  | .request _ => inferInstanceAs (Decidable True)
  | .responderDhDone _ _ _ => inferInstanceAs (Decidable True)
  | .followupRequest _ _ => inferInstanceAs (Decidable (_ = _ → _ = _))
  | .timeout => inferInstanceAs (Decidable True)
  | .reap _ => inferInstanceAs (Decidable True)
  | .setState _ => inferInstanceAs (Decidable True)
  | .dispose => inferInstanceAs (Decidable True)
  | .start _ => inferInstanceAs (Decidable False)
  | .initDhDone _ _ _ _ => inferInstanceAs (Decidable False)
  | .response _ => inferInstanceAs (Decidable False)
  | .initRecvDhDone _ _ _ => inferInstanceAs (Decidable False)
  | .followupResponse _ _ _ => inferInstanceAs (Decidable False)

/-! ## one request -/

section
variable {w : RekeySa} {env : RoundEnv} {link : Link} {ss : Bytes} {sa : NewSa}

theorem RekeySa.roundOf_some (h : w.roundOf env = some (link, ss, sa)) :
    w.addkeLink = some link ∧ env.ss = some ss ∧ w.newSa.bind w.sas = some sa
      ∧ w.addkePending = true ∧ link.bytes = env.link
      ∧ (roundMethods sa.addke)[w.addkeRound]? = some env.method := by
  unfold RekeySa.roundOf at h
  split at h
  · next link' ss' sa' hlink hss hsa =>
    split at h
    · next hmatch =>
      obtain ⟨rfl, heq⟩ := Prod.mk.inj (Option.some.inj h)
      obtain ⟨rfl, rfl⟩ := Prod.mk.inj heq
      obtain ⟨hboth, hmethod⟩ := hmatch
      obtain ⟨hpending, hbytes⟩ := (Bool.and_eq_true _ _).mp hboth
      exact ⟨hlink, hss, hsa, hpending, eq_of_beq hbytes, hmethod⟩
    · cases h
  · cases h

theorem RekeySa.roundOf_matches (h : w.roundOf env = some (link, ss, sa)) : w.matchesLink env = true := by
  obtain ⟨hlink, -, -, hpending, hbytes, -⟩ := RekeySa.roundOf_some h
  unfold RekeySa.matchesLink
  rw [hlink, hpending]
  exact beq_iff_eq.mpr hbytes

theorem rekeyFollowupRequest_round (h : w.roundOf env = some (link, ss, sa)) (tail : TailEnv) :
    rekeyFollowupRequest w env tail =
      if w.addkeRound + 1 < sa.addke.length then addkeRoundMore w env link ss
      else (addkeComplete { w with addkeSk := some (w.addkeSk.getD [] ++ ss) } link.mintedFor tail).1 := by
  obtain ⟨hlink, hss, hsa, hpending, hbytes, hmethod⟩ := RekeySa.roundOf_some h
  have hmatch : (w.addkePending && link.bytes == env.link) = true := by
    rw [hpending]
    exact beq_iff_eq.mpr hbytes
  have hreq : rekeyFollowupRequest w env tail = addkeRound w env tail link ss := by
    unfold rekeyFollowupRequest
    rw [hlink, hss]
    exact if_pos hmatch
  rw [hreq]
  unfold addkeRound
  rw [hsa]
  exact if_pos hmethod

/-- a request that is not taken changes nothing -/
theorem rekeyFollowupRequest_other (h : w.roundOf env = none) (tail : TailEnv) :
    rekeyFollowupRequest w env tail = w := by
  unfold rekeyFollowupRequest
  split
  · next link ss hlink hss =>
    split
    · next hmatch =>
      unfold addkeRound
      split
      · rfl
      · next sa hsa =>
        refine if_neg fun hmethod => ?_
        have hsome : w.roundOf env = some (link, ss, sa) := by
          unfold RekeySa.roundOf
          rw [hlink, hss, hsa]
          exact if_pos ⟨hmatch, hmethod⟩
        rw [hsome] at h
        cases h
    · rfl
  · rfl

/-- the commit behind a response that went out -/
theorem rekeyFollowupRequest_answered {r : Nat × Bytes} (h : w.answered env = some r) (tail : TailEnv) :
    ∃ link sa fresh, w.roundOf env = some (link, r.2, sa) ∧ r.1 = env.method
      ∧ w.addkeRound + 1 < sa.addke.length
      ∧ rekeyFollowupRequest w env tail = { w with
          addkeSk := some (w.addkeSk.getD [] ++ r.2), addkeLink := some ⟨fresh, link.mintedFor⟩
          addkeRound := w.addkeRound + 1, timer := some link.mintedFor } := by
  unfold RekeySa.answered at h
  split at h
  · cases h
  · next link ss sa hround =>
    split at h
    · next hall =>
      obtain ⟨hmore, hnew, hparked, hsent⟩ := hall
      obtain rfl := Option.some.inj h
      obtain ⟨fresh, hfresh⟩ := Option.isSome_iff_exists.mp hnew
      obtain ⟨s, hs⟩ := Option.isSome_iff_exists.mp hparked
      refine ⟨link, sa, fresh, hround, rfl, hmore, ?_⟩
      rw [rekeyFollowupRequest_round hround, if_pos hmore]
      unfold addkeRoundMore
      rw [hfresh, hs]
      exact if_pos hsent
    · cases h

/-- a round that is not answered, and not the last one -/
theorem rekeyFollowupRequest_failed (hanswered : w.answered env = none)
    (hcompleting : w.completing env = none) (hparked : w.matchesLink env = true →
      w.addkeComplete.isSome = true) (tail : TailEnv) : rekeyFollowupRequest w env tail = w := by
  cases hround : w.roundOf env with
  | none => exact rekeyFollowupRequest_other hround tail
  | some r =>
    obtain ⟨link, ss, sa⟩ := r
    obtain ⟨s, hs⟩ := Option.isSome_iff_exists.mp (hparked (RekeySa.roundOf_matches hround))
    unfold RekeySa.answered at hanswered
    unfold RekeySa.completing at hcompleting
    rw [hround] at hanswered hcompleting
    have hmore : w.addkeRound + 1 < sa.addke.length := by
      by_contra hlast
      dsimp only at hcompleting
      rw [if_neg hlast] at hcompleting
      cases hcompleting
    rw [rekeyFollowupRequest_round hround, if_pos hmore]
    unfold addkeRoundMore
    rw [hs]
    cases hnew : env.newLink with
    | none => rfl
    | some fresh =>
      refine if_neg fun hsent => ?_
      dsimp only at hanswered
      rw [if_pos ⟨hmore, by rw [hnew]; rfl, by rw [hs]; rfl, hsent⟩] at hanswered
      cases hanswered

/-- the last round -/
theorem rekeyFollowupRequest_completing {w' : RekeySa} (h : w.completing env = some w') (tail : TailEnv) :
    ∃ link ss sa, w.roundOf env = some (link, ss, sa) ∧ w.addkeRound + 1 = sa.addke.length
      ∧ w' = { w with addkeSk := some (w.addkeSk.getD [] ++ ss) }
      ∧ rekeyFollowupRequest w env tail = (addkeComplete w' link.mintedFor tail).1 := by
  unfold RekeySa.completing at h
  split at h
  · cases h
  · next link ss sa hround =>
    split at h
    · cases h
    · next hlast =>
      obtain ⟨-, -, -, -, -, hmethod⟩ := RekeySa.roundOf_some hround
      have hlt := (List.getElem?_eq_some_iff.mp hmethod).1
      rw [roundMethods_length] at hlt
      refine ⟨link, ss, sa, hround, by omega, (Option.some.inj h).symm, ?_⟩
      rw [rekeyFollowupRequest_round hround, if_neg hlast, Option.some.inj h]

end

/-! ## what the trace says -/

/-- the rekey that is parked: the rounds done are the first ones that were negotiated, and the
accumulator has their secrets one behind the other -/
def RoundTrace.Parked (t : RoundTrace) : Prop :=
  ∃ s sa, t.w.newSa = some s ∧ t.w.addkeComplete = some s ∧ t.w.sas s = some sa
    ∧ t.w.addkeRound = t.done.length
    ∧ t.done.map Prod.fst = (roundMethods sa.addke).take t.w.addkeRound
    ∧ t.w.addkeSk.getD [] = (t.done.map Prod.snd).flatten

structure RoundTrace.Sound (t : RoundTrace) : Prop where
  slot : ∀ s, t.w.newSa = some s → s.n < t.w.nextSerial
  jobs : ∀ s, .respGencmp s ∈ t.w.jobs → s.n < t.w.nextSerial
  parked : t.w.addkePending = true → t.w.addkeLink.isSome = true → t.sent = true → t.Parked

/-- the SAs keep what was negotiated, and the parked rekey is not touched -/
structure RekeySa.SameRounds (w w' : RekeySa) : Prop where
  newSa : w'.newSa = w.newSa
  complete : w'.addkeComplete = w.addkeComplete
  pending : w'.addkePending = w.addkePending
  link : w'.addkeLink = w.addkeLink
  round : w'.addkeRound = w.addkeRound
  sk : w'.addkeSk = w.addkeSk
  serial : w.nextSerial ≤ w'.nextSerial
  sas : ∀ s sa, s.n < w.nextSerial → w.sas s = some sa →
    ∃ sa', w'.sas s = some sa' ∧ sa'.addke = sa.addke
  jobs : ∀ s, .respGencmp s ∈ w'.jobs → .respGencmp s ∈ w.jobs ∨ s.n < w'.nextSerial

section
variable {w w' w'' : RekeySa}

theorem RekeySa.SameRounds.refl (w : RekeySa) : w.SameRounds w where
  newSa := rfl
  complete := rfl
  pending := rfl
  link := rfl
  round := rfl
  sk := rfl
  serial := Nat.le_refl _
  sas := fun s sa _ h => ⟨sa, h, rfl⟩
  jobs := fun s h => .inl h

theorem RekeySa.SameRounds.trans (h : w.SameRounds w') (h' : w'.SameRounds w'') : w.SameRounds w'' where
  newSa := h'.newSa.trans h.newSa
  complete := h'.complete.trans h.complete
  pending := h'.pending.trans h.pending
  link := h'.link.trans h.link
  round := h'.round.trans h.round
  sk := h'.sk.trans h.sk
  serial := Nat.le_trans h.serial h'.serial
  sas := by
    intro s sa hlt hs
    obtain ⟨sa', hs', heq⟩ := h.sas s sa hlt hs
    obtain ⟨sa'', hs'', heq'⟩ := h'.sas s sa' (Nat.lt_of_lt_of_le hlt h.serial) hs'
    exact ⟨sa'', hs'', heq'.trans heq⟩
  jobs := by
    intro s hs
    rcases h'.jobs s hs with hjob | hlt
    · exact (h.jobs s hjob).imp_right fun hlt => Nat.lt_of_lt_of_le hlt h'.serial
    · exact .inr hlt

/-- an SA changes in what the rounds do not read -/
theorem RekeySa.SameRounds.setSa (w : RekeySa) (s : Serial) (f : NewSa → NewSa)
    (hf : ∀ sa, (f sa).addke = sa.addke) : w.SameRounds (w.setSa s f) where
  newSa := rfl
  complete := rfl
  pending := rfl
  link := rfl
  round := rfl
  sk := rfl
  serial := Nat.le_refl _
  sas := by
    intro t sa _ ht
    show ∃ sa', (if t = s then (w.sas s).map f else w.sas t) = some sa' ∧ sa'.addke = sa.addke
    split
    · next heq =>
      rw [← heq, ht]
      exact ⟨f sa, rfl, hf sa⟩
    · exact ⟨sa, ht, rfl⟩
  jobs := fun t h => .inl h

theorem RekeySa.SameRounds.kill (w : RekeySa) (x s : Serial) : w.SameRounds (w.kill x s) :=
  { RekeySa.SameRounds.setSa w s (fun sa => { sa with state := .dead }) fun _ => rfl with }

theorem RekeySa.SameRounds.establish (w : RekeySa) (x s : Serial) : w.SameRounds (w.establish x s) :=
  { RekeySa.SameRounds.setSa w s (fun sa => { sa with listed := true, state := .established })
      fun _ => rfl with }

theorem RekeySa.SameRounds.childAdopt (w : RekeySa) (s : Serial) : w.SameRounds (w.childAdopt s) :=
  { RekeySa.SameRounds.setSa w s (fun sa => { sa with
      children := sa.children ++ w.children.filter fun c => c.state.adopts }) fun _ => rfl with }

theorem RekeySa.SameRounds.responderFinish (w : RekeySa) (x s : Serial) :
    w.SameRounds (w.responderFinish x s) := by
  unfold RekeySa.responderFinish
  split
  · exact .establish w x s
  · exact (RekeySa.SameRounds.childAdopt w s).trans (.establish _ x s)

/-- the peer's request: its SA is a new one -/
theorem RekeySa.SameRounds.answer (w : RekeySa) (sa : NewSa) : w.SameRounds (w.answer sa) where
  newSa := rfl
  complete := rfl
  pending := rfl
  link := rfl
  round := rfl
  sk := rfl
  serial := Nat.le_succ _
  sas := by
    intro s sa' hlt hs
    refine ⟨sa', ?_, rfl⟩
    show (if s = ⟨false, w.nextSerial⟩ then some sa else w.sas s) = some sa'
    rw [if_neg fun heq => Nat.lt_irrefl _ (heq ▸ hlt)]
    exact hs
  jobs := fun s h => .inl h

theorem rekeyResponder_rounds (w : RekeySa) (o : RequestOutcome) : w.SameRounds (rekeyResponder w o) := by
  cases o with
  | refused => exact .refl w
  | failed =>
    show w.SameRounds (if _ then _ else _)
    split
    · exact (RekeySa.SameRounds.answer w _).trans (.kill _ _ _)
    · exact .refl w
  | submitted spiI nI nR addke =>
    show w.SameRounds (if _ then _ else _)
    split
    · refine { RekeySa.SameRounds.answer w { NewSa.allocate spiI with
        listed := true, nI := some nI, nR := some nR, addke } with jobs := fun s hs => ?_ }
      rcases List.mem_cons.mp hs with heq | hin
      · obtain rfl := RekeyJob.respGencmp.inj heq
        exact .inr (Nat.lt_succ_self _)
      · exact .inl hin
    · exact .refl w

/-- no rekey is parked any more, and the slot is empty -/
structure RekeySa.Ends (w w' : RekeySa) : Prop where
  newSa : w'.newSa = none
  pending : w'.addkePending = false
  serial : w'.nextSerial = w.nextSerial
  jobs : w'.jobs = w.jobs

/-- an exchange that is completed or given up -/
theorem addkeComplete_ends {s : Serial} (hs : w.addkeComplete = some s) (x : Serial) (env : TailEnv) :
    w.Ends (addkeComplete w x env).1 ∧ (addkeComplete w x env).1.addkeSk = none := by
  unfold addkeComplete
  rw [hs]
  dsimp only
  split
  · exact ⟨⟨rfl, rfl, rfl, rfl⟩, rfl⟩
  · split
    · exact ⟨⟨rfl, rfl, rfl, rfl⟩, rfl⟩
    · unfold RekeySa.responderFinish
      split <;> exact ⟨⟨rfl, rfl, rfl, rfl⟩, rfl⟩

theorem dropSlot_ends (x : Serial) (h : w.addkePending = false) : w.Ends (dropSlot w x) := by
  unfold dropSlot dropParked
  split
  · exact ⟨rfl, h, rfl, rfl⟩
  · exact ⟨rfl, rfl, rfl, rfl⟩

theorem addkeTimeout_ends {x : Serial} (h : w.timer = some x) : w.Ends (addkeTimeout w) := by
  unfold addkeTimeout
  rw [h]
  dsimp only
  split
  · have hidle : ∀ u : RekeySa, (initAbandon u x).addkePending = false
        ∧ (initAbandon u x).nextSerial = u.nextSerial ∧ (initAbandon u x).jobs = u.jobs := by
      intro u
      unfold initAbandon
      split <;> exact ⟨rfl, rfl, rfl⟩
    obtain ⟨hpending, hserial, hjobs⟩ := hidle { w with
      timer := none, addkePending := false, addkeRound := 0, addkeSk := none }
    have hends := dropSlot_ends x hpending
    exact ⟨hends.newSa, hends.pending, hends.serial.trans hserial, hends.jobs.trans hjobs⟩
  · have hends := @dropSlot_ends { w with
      timer := none, addkePending := false, addkeRound := 0, addkeSk := none } x rfl
    exact ⟨hends.newSa, hends.pending, hends.serial, hends.jobs⟩

end

section
variable {t : RoundTrace} {w' : RekeySa}

theorem RoundTrace.Sound.same (h : t.Sound) (hs : t.w.SameRounds w') :
    RoundTrace.Sound ⟨w', t.done, t.sent⟩ where
  slot := by
    intro s hslot
    exact Nat.lt_of_lt_of_le (h.slot s (hs.newSa.symm.trans hslot)) hs.serial
  jobs := by
    intro s hjob
    rcases hs.jobs s hjob with hin | hlt
    · exact Nat.lt_of_lt_of_le (h.jobs s hin) hs.serial
    · exact hlt
  parked := by
    intro hpending hlink hsent
    obtain ⟨s, sa, hslot, hcomplete, hsa, hround, hmethods, hsk⟩ :=
      h.parked (hs.pending.symm.trans hpending) (by rw [← hs.link]; exact hlink) hsent
    obtain ⟨sa', hsa', haddke⟩ := hs.sas s sa (h.slot s hslot) hsa
    refine ⟨s, sa', hs.newSa.trans hslot, hs.complete.trans hcomplete, hsa', hs.round.trans hround, ?_, ?_⟩
    · show t.done.map Prod.fst = (roundMethods sa'.addke).take w'.addkeRound
      rw [haddke, hs.round]
      exact hmethods
    · show w'.addkeSk.getD [] = _
      rw [hs.sk]
      exact hsk

theorem RoundTrace.Sound.ends (h : t.Sound) (hs : t.w.Ends w') (done : List (Nat × Bytes)) :
    RoundTrace.Sound ⟨w', done, t.sent⟩ where
  slot := by
    intro s hslot
    rw [hs.newSa] at hslot
    cases hslot
  jobs := by
    intro s hjob
    show s.n < w'.nextSerial
    rw [hs.serial]
    exact h.jobs s (hs.jobs ▸ hjob)
  parked := by
    intro hpending
    rw [hs.pending] at hpending
    cases hpending

/-- a request of the peer that is taken finds its rekey parked -/
theorem RoundTrace.Sound.of_matches (h : t.Sound) {env : RoundEnv} {tail : TailEnv}
    (hok : roundOk t (.followupRequest env tail)) (hmatch : t.w.matchesLink env = true) : t.Parked := by
  have hsent := hok hmatch
  unfold RekeySa.matchesLink at hmatch
  split at hmatch
  · cases hmatch
  · next link hlink =>
    refine h.parked ((Bool.and_eq_true _ _).mp hmatch).1 ?_ hsent
    rw [hlink]
    rfl

/-- one more round is done -/
theorem RoundTrace.Parked.next (h : t.Parked) {env : RoundEnv} {link : Link} {ss : Bytes} {sa : NewSa}
    (hround : t.w.roundOf env = some (link, ss, sa)) :
    ∃ s, t.w.newSa = some s ∧ t.w.addkeComplete = some s ∧ t.w.sas s = some sa
      ∧ t.w.addkeRound = t.done.length
      ∧ (t.done ++ [(env.method, ss)]).map Prod.fst = (roundMethods sa.addke).take (t.w.addkeRound + 1)
      ∧ t.w.addkeSk.getD [] ++ ss = ((t.done ++ [(env.method, ss)]).map Prod.snd).flatten := by
  obtain ⟨s, sa', hslot, hcomplete, hsa', hlen, hmethods, hsk⟩ := h
  obtain ⟨-, -, hsa, -, -, hmethod⟩ := RekeySa.roundOf_some hround
  rw [hslot, Option.bind_some, hsa'] at hsa
  obtain rfl := Option.some.inj hsa
  refine ⟨s, hslot, hcomplete, hsa', hlen, ?_, ?_⟩
  · obtain ⟨hlt, hget⟩ := List.getElem?_eq_some_iff.mp hmethod
    rw [List.map_append, hmethods, List.take_succ_eq_append_getElem hlt, hget]
    rfl
  · rw [hsk, List.map_append, List.flatten_append]
    congr 1
    exact (List.append_nil ss).symm

end

/-! ## a rekey that is answered -/

section
variable {w : RekeySa} {s : Serial} {rc : Bool} {env : TailEnv}

/-- the slots are filled for the rounds -/
theorem responderDhDone_defers (h : w.defers s rc env = true) :
    ∃ sa link, w.sas s = some sa ∧ env.link = some link ∧ (responderDhDone w s rc env).1 =
      if env.sends then (w.defer s link).park s else (w.defer s link).kill s s := by
  unfold RekeySa.defers at h
  split at h
  · cases h
  · next sa hsa =>
    simp only [Bool.and_eq_true, decide_eq_true_eq] at h
    obtain ⟨⟨⟨⟨hlive, hsaLive, haddke⟩, hrc⟩, hke⟩, hlink⟩ := h
    obtain ⟨link, hlink⟩ := Option.isSome_iff_exists.mp hlink
    refine ⟨sa, link, hsa, hlink, ?_⟩
    unfold responderDhDone
    rw [hsa]
    dsimp only
    rw [if_neg (not_or.mpr ⟨hlive, hsaLive⟩), hrc, if_neg (by decide)]
    unfold responderTail
    rw [hke, if_neg (by decide), if_pos haddke, hlink]
    dsimp only
    split <;> rfl

/-- they are not: the parked rekey stays, or is left without a link -/
theorem responderDhDone_other (h : w.defers s rc env = false) :
    w.SameRounds (responderDhDone w s rc env).1 ∨
      ((responderDhDone w s rc env).1.addkeLink = none ∧ (responderDhDone w s rc env).1.newSa = w.newSa
        ∧ (responderDhDone w s rc env).1.nextSerial = w.nextSerial
        ∧ (responderDhDone w s rc env).1.jobs = w.jobs) := by
  unfold responderDhDone
  cases hsa : w.sas s with
  | none => exact .inl (.refl w)
  | some sa =>
    dsimp only
    split
    · exact .inl (.refl w)
    · next hlive =>
      split
      · exact .inl (.kill w s s)
      · next hrc =>
        unfold responderTail
        split
        · exact .inl (.kill w s s)
        · next hke =>
          split
          · next haddke =>
            cases hlink : env.link with
            | none => exact .inr ⟨rfl, rfl, rfl, rfl⟩
            | some link =>
              -- then the slots would be filled
              unfold RekeySa.defers at h
              rw [hsa, hlink] at h
              rw [not_or] at hlive
              simp only [Bool.not_eq_eq_eq_not, Bool.not_true, Bool.not_eq_false] at hrc hke
              simp [hrc, hke, hlive.1, hlive.2, haddke] at h
          · split
            · exact .inl (.kill w s s)
            · split
              · exact .inl { RekeySa.SameRounds.responderFinish w s s with }
              · exact .inl ((RekeySa.SameRounds.responderFinish w s s).trans (.kill _ s s))

end

section
variable {t : RoundTrace}

theorem roundStep_dhDone (h : t.Sound) {s : Serial} (hjob : .respGencmp s ∈ t.w.jobs) (rc : Bool)
    (env : TailEnv) :
    RoundTrace.Sound (if t.w.defers s rc env = true then
        ⟨(responderDhDone { t.w with jobs := t.w.jobs.erase (.respGencmp s) } s rc env).1, [], env.sends⟩
      else ⟨(responderDhDone { t.w with jobs := t.w.jobs.erase (.respGencmp s) } s rc env).1, t.done,
        t.sent⟩) := by
  have herase : t.w.SameRounds { t.w with jobs := t.w.jobs.erase (.respGencmp s) } :=
    { RekeySa.SameRounds.refl t.w with jobs := fun s' hs' => .inl (List.mem_of_mem_erase hs') }
  have hsound := h.same herase
  have hsame : RekeySa.defers { t.w with jobs := t.w.jobs.erase (.respGencmp s) } s rc env
      = t.w.defers s rc env := rfl
  cases hdefers : t.w.defers s rc env with
  | true =>
    obtain ⟨sa, link, hsa, hlink, hstep⟩ := responderDhDone_defers (hsame.trans hdefers)
    have hlt := h.jobs s hjob
    rw [if_pos rfl, hstep]
    cases env.sends with
    | true =>
      refine ⟨?_, hsound.jobs, fun _ _ _ => ⟨s, sa, rfl, rfl, hsa, rfl, rfl, rfl⟩⟩
      rintro s' ⟨⟩
      exact hlt
    | false =>
      refine ⟨?_, hsound.jobs, fun _ _ hsent => by cases hsent⟩
      rintro s' ⟨⟩
      exact hlt
  | false =>
    rw [if_neg (by decide)]
    rcases responderDhDone_other (hsame.trans hdefers) with hrounds | ⟨hlink, hslot, hserial, hjobs⟩
    · exact hsound.same hrounds
    · refine ⟨fun s' hs' => ?_, fun s' hs' => ?_, fun _ hsome => ?_⟩
      · show s'.n < RekeySa.nextSerial _
        rw [hserial]
        exact hsound.slot s' (hslot ▸ hs')
      · show s'.n < RekeySa.nextSerial _
        rw [hserial]
        exact hsound.jobs s' (hjobs ▸ hs')
      · rw [hlink] at hsome
        cases hsome

theorem roundStep_followup (h : t.Sound) {env : RoundEnv} {tail : TailEnv}
    (hok : roundOk t (.followupRequest env tail)) :
    RoundTrace.Sound ⟨rekeyFollowupRequest t.w env tail, t.done ++ (t.w.answered env).toList, t.sent⟩ := by
  cases hanswered : t.w.answered env with
  | some r =>
    obtain ⟨link, sa, fresh, hround, hmethod, hmore, hstep⟩ :=
      rekeyFollowupRequest_answered hanswered tail
    obtain ⟨method, ss⟩ := r
    obtain rfl : method = env.method := hmethod
    obtain ⟨s, hslot, hcomplete, hsa, hlen, hmethods, hsk⟩ :=
      (h.of_matches hok (RekeySa.roundOf_matches hround)).next hround
    rw [hstep]
    refine ⟨h.slot, h.jobs, fun _ _ _ => ⟨s, sa, hslot, hcomplete, hsa, ?_, hmethods, hsk⟩⟩
    show t.w.addkeRound + 1 = (t.done ++ [(env.method, ss)]).length
    rw [List.length_append, hlen]
    rfl
  | none =>
    rw [Option.toList_none, List.append_nil]
    cases hcompleting : t.w.completing env with
    | some w' =>
      obtain ⟨link, ss, sa, hround, -, rfl, hstep⟩ := rekeyFollowupRequest_completing hcompleting tail
      obtain ⟨s, -, hcomplete, -⟩ := (h.of_matches hok (RekeySa.roundOf_matches hround)).next hround
      rw [hstep]
      have hends := (@addkeComplete_ends { t.w with addkeSk := some (t.w.addkeSk.getD [] ++ ss) } s
        hcomplete link.mintedFor tail).1
      exact h.ends ⟨hends.newSa, hends.pending, hends.serial, hends.jobs⟩ t.done
    | none =>
      rw [rekeyFollowupRequest_failed hanswered hcompleting]
      · exact h
      · intro hmatch
        obtain ⟨s, -, -, hcomplete, -⟩ := h.of_matches hok hmatch
        rw [hcomplete]
        rfl

theorem RoundTrace.Sound.timeout (h : t.Sound) : RoundTrace.Sound ⟨addkeTimeout t.w, t.done, t.sent⟩ := by
  cases htimer : t.w.timer with
  | none =>
    have hnone : addkeTimeout t.w = t.w := by
      unfold addkeTimeout
      rw [htimer]
    rw [hnone]
    exact h
  | some x => exact h.ends (addkeTimeout_ends htimer) t.done

/-- nothing is parked and nothing is computed -/
theorem RoundTrace.Sound.of_empty (hslot : t.w.newSa = none) (hjobs : t.w.jobs = [])
    (hpending : t.w.addkePending = false) : t.Sound := by
  refine ⟨fun s hs => ?_, fun s hs => ?_, fun hp => ?_⟩
  · rw [hslot] at hs
    cases hs
  · rw [hjobs] at hs
    cases hs
  · rw [hpending] at hp
    cases hp

/-- the step -/
theorem roundStep_sound (ev : RekeyEvent) (h : t.Sound) (hok : roundOk t ev) : (roundStep t ev).Sound := by
  unfold roundStep
  cases hdisposed : t.w.disposed with
  | true => exact h
  | false =>
    rw [if_neg (by decide)]
    have hlive : ¬ t.w.disposed = true := by
      rw [hdisposed]
      decide
    cases ev with
    | responderDhDone s rc env =>
      have hstep : rekeyStep t.w (.responderDhDone s rc env) =
          t.w.done (.respGencmp s) fun w => (responderDhDone w s rc env).1 := if_neg hlive
      dsimp only
      rw [hstep]
      by_cases hjob : .respGencmp s ∈ t.w.jobs
      · have hdone := roundStep_dhDone h hjob rc env
        unfold RekeySa.done
        rw [if_pos hjob, if_congr (and_iff_right hjob) rfl rfl]
        exact hdone
      · unfold RekeySa.done
        rw [if_neg hjob, if_neg fun hc => hjob hc.1]
        exact h
    | followupRequest env tail =>
      have hstep : rekeyStep t.w (.followupRequest env tail) = rekeyFollowupRequest t.w env tail :=
        if_neg hlive
      dsimp only
      rw [hstep]
      exact roundStep_followup h hok
    | request o =>
      have hstep : rekeyStep t.w (.request o) = rekeyResponder t.w o := if_neg hlive
      dsimp only
      rw [hstep]
      exact h.same (rekeyResponder_rounds t.w o)
    | timeout =>
      have hstep : rekeyStep t.w .timeout = addkeTimeout t.w := if_neg hlive
      dsimp only
      rw [hstep]
      exact h.timeout
    | reap s =>
      have hstep : rekeyStep t.w (.reap s) = t.w.reap s := if_neg hlive
      dsimp only
      rw [hstep]
      refine h.same (.setSa t.w s _ fun sa => ?_)
      split <;> rfl
    | setState st =>
      have hstep : rekeyStep t.w (.setState st) = { t.w with state := st } := if_neg hlive
      dsimp only
      rw [hstep]
      exact h.same { RekeySa.SameRounds.refl t.w with }
    | dispose =>
      have hstep : rekeyStep t.w .dispose = t.w.dispose := if_neg hlive
      dsimp only
      rw [hstep]
      exact .of_empty rfl rfl rfl
    | start o => exact absurd hok id
    | initDhDone s dhpriv expired n_i => exact absurd hok id
    | response o => exact absurd hok id
    | initRecvDhDone ctx rc keys => exact absurd hok id
    | followupResponse ss next keys => exact absurd hok id

end

/-! ## runs -/

/-- the trace does not change what happens -/
theorem roundStep_w (t : RoundTrace) (ev : RekeyEvent) : (roundStep t ev).w = rekeyStep t.w ev := by
  unfold roundStep
  cases hdisposed : t.w.disposed with
  | true =>
    rw [if_pos rfl]
    exact (if_pos hdisposed).symm
  | false =>
    rw [if_neg (by decide)]
    cases ev with
    | responderDhDone s rc env =>
      dsimp only
      split <;> rfl
    | _ => rfl

theorem RoundTrace.start_sound (children : List ChildSa) : (RoundTrace.start children).Sound :=
  .of_empty rfl rfl rfl

/-- what an IKE_FOLLOWUP_KE request finds and leaves: the last round has the secrets of all rounds, one
for each negotiated method and in this order; a round that fails leaves the counter, the secret and the link
as they are; a completion, failed or not, drops the secret and accepts no request any more -/
structure RoundTrace.Accumulates (t : RoundTrace) (env : RoundEnv) (tail : TailEnv) : Prop where
  completes : ∀ w', t.w.completing env = some w' → ∃ s sa ss, env.ss = some ss
    ∧ w'.addkeComplete = some s ∧ w'.newSa = some s ∧ w'.sas s = some sa
    ∧ (t.done ++ [(env.method, ss)]).map Prod.fst = roundMethods sa.addke
    ∧ w'.addkeSk = some ((t.done ++ [(env.method, ss)]).map Prod.snd).flatten
  fails : t.w.completing env = none → t.w.answered env = none →
    rekeyFollowupRequest t.w env tail = t.w
  ends : ∀ w', t.w.completing env = some w' →
    (rekeyFollowupRequest t.w env tail).addkeSk = none
      ∧ (rekeyFollowupRequest t.w env tail).addkePending = false
      ∧ (rekeyFollowupRequest t.w env tail).newSa = none

/-- a rekey that is parked starts with the first round, an empty accumulator and a link of its own -/
def RoundTrace.StartsAnew (t : RoundTrace) : Prop :=
  ∀ s rc env, t.w.defers s rc env = true → ∃ link, env.link = some link
    ∧ (responderDhDone t.w s rc env).1.addkeRound = 0
    ∧ (responderDhDone t.w s rc env).1.addkeSk = none
    ∧ (responderDhDone t.w s rc env).1.addkeLink = some ⟨link, s⟩

section
variable {t : RoundTrace}

theorem RoundTrace.Sound.accumulates (h : t.Sound) {env : RoundEnv} {tail : TailEnv}
    (hok : roundOk t (.followupRequest env tail)) : t.Accumulates env tail where
  completes := by
    intro w' hcompleting
    obtain ⟨link, ss, sa, hround, hlast, rfl, -⟩ := rekeyFollowupRequest_completing hcompleting tail
    obtain ⟨s, hslot, hcomplete, hsa, hlen, hmethods, hsk⟩ :=
      (h.of_matches hok (RekeySa.roundOf_matches hround)).next hround
    rw [hlast, ← roundMethods_length, List.take_length] at hmethods
    exact ⟨s, sa, ss, (RekeySa.roundOf_some hround).2.1, hcomplete, hslot, hsa, hmethods,
      congrArg some hsk⟩
  fails := by
    intro hcompleting hanswered
    refine rekeyFollowupRequest_failed hanswered hcompleting (fun hmatch => ?_) tail
    obtain ⟨s, -, -, hcomplete, -⟩ := h.of_matches hok hmatch
    rw [hcomplete]
    rfl
  ends := by
    intro w' hcompleting
    obtain ⟨link, ss, sa, hround, -, rfl, hstep⟩ := rekeyFollowupRequest_completing hcompleting tail
    obtain ⟨s, -, hcomplete, -⟩ := (h.of_matches hok (RekeySa.roundOf_matches hround)).next hround
    obtain ⟨hends, hsk⟩ := @addkeComplete_ends { t.w with addkeSk := some (t.w.addkeSk.getD [] ++ ss) } s
      hcomplete link.mintedFor tail
    rw [hstep]
    exact ⟨hsk, hends.pending, hends.newSa⟩

theorem RoundTrace.startsAnew (t : RoundTrace) : t.StartsAnew := by
  intro s rc env hdefers
  obtain ⟨sa, link, -, hlink, hstep⟩ := responderDhDone_defers hdefers
  refine ⟨link, hlink, ?_⟩
  rw [hstep]
  split <;> exact ⟨rfl, rfl, rfl⟩

end

/-- Over every run of the rekeys of the peer: when the last round is there, the accumulator has the secrets
of all rounds, each once and in the order of the negotiated methods; a failed round changes nothing; a
failed completion drops the secret and ends the exchange; and the next rekey starts anew. -/
theorem rekey_rounds_accumulate (children : List ChildSa) (evs : List RekeyEvent)
    (hevs : Run.Meets roundStep roundOk (.start children) evs) :
    ∀ t ∈ Run.states roundStep (.start children) evs,
      t.w ∈ Run.states rekeyStep (.start children) evs
        ∧ (∀ env tail, roundOk t (.followupRequest env tail) → t.Accumulates env tail) ∧ t.StartsAnew := by
  intro t ht
  have hsound := Run.states_inv (fun t ev => roundStep_sound ev) evs _ (RoundTrace.start_sound children)
    hevs t ht
  refine ⟨?_, fun env tail hok => hsound.accumulates hok, t.startsAnew⟩
  have hrun := Run.map_states roundStep_w evs (RoundTrace.start children)
  exact hrun ▸ List.mem_map_of_mem ht

/-- a round whose response goes out, or not -/
def roundEnv (link : UInt8) (method : Nat) (ss : UInt8) (transmit : Bool) : RoundEnv :=
  ⟨[link], method, some [ss], some [link + 1], true, transmit⟩

/-- a rekey with additional key exchanges that is parked with the link 1 -/
def parkedRun (methods : List Nat) : List RekeyEvent := [
  .request (.submitted [1] [2] [3] methods),
  .responderDhDone ⟨false, 0⟩ true { TailEnv.fine with link := some [1] }]

/-- the first response is not sent, the request comes again, and once more -/
def repeatedRun : List RekeyEvent := parkedRun [36, 35] ++ [
  .followupRequest (roundEnv 1 36 6 false) .fine,
  .followupRequest (roundEnv 1 36 7 true) .fine,
  .followupRequest (roundEnv 1 36 8 true) .fine]

theorem rekey_rounds_repeated :
    Run.Meets roundStep roundOk (.start []) repeatedRun ∧
      (∃ w', (repeatedRun.foldl roundStep (.start [])).w.completing (roundEnv 2 35 9 true) = some w'
        ∧ w'.addkeSk = some [7, 9]) ∧
      (repeatedRun.foldl roundStep (.start [])).Accumulates (roundEnv 2 35 9 true) .fine := by
  have hevs : Run.Meets roundStep roundOk (.start []) repeatedRun := by decide
  have hlast := rekey_rounds_accumulate [] repeatedRun hevs _ (Run.foldl_mem_states repeatedRun _)
  exact ⟨hevs, ⟨_, rfl, by decide⟩, hlast.2.1 _ _ (by decide)⟩

/-- the first of three rounds is done -/
def secondOfThree : RekeySa :=
  rekeyStep ((parkedRun [36, 35, 37]).foldl rekeyStep (.start []))
    (.followupRequest (roundEnv 1 36 7 true) .fine)

/-- the response of the second round is not sent, and nothing is reset -/
theorem failed_round_kept :
    secondOfThree.answered (roundEnv 2 35 8 false) = none
      ∧ (secondOfThree.completing (roundEnv 2 35 8 false)).isNone = true
      ∧ (rekeyStep secondOfThree (.followupRequest (roundEnv 2 35 8 false) .fine)).addkeRound = 1
      ∧ (rekeyStep secondOfThree (.followupRequest (roundEnv 2 35 8 false) .fine)).addkeSk = some [7]
      ∧ (rekeyStep secondOfThree (.followupRequest (roundEnv 2 35 8 false) .fine)).addkeLink
        = some ⟨[2], ⟨false, 0⟩⟩ := by
  decide

end Ikev2
