import Racoon2.Iked.EapRelay

/-!
# The EAP relay inside the authentication

`AuthResponder` has the relay too, as far as the authentication needs it: a RADIUS round is one
event there, with its result.  Here the runs of the full relay are runs of that responder.

* `EapSa.onto`                the fields the two have in common;
* `eapRecv_simulated`, `resume_simulated`   a request of the peer, and the end of a round;
* `relay_runs_in_responder`   every run.
-/

set_option linter.unusedVariables false

namespace Eap
open Bytes Radius

/-! ## the fields in common -/

/-- the state of the responder -/
def EapState.onto : EapState → Ikev2.State
  | .eap => .resIkeAuthEap
  | .eapFinal => .resIkeAuthEapFinal
  | .dead => .dead

/-- a responder's SA with the fields of the relay -/
def EapSa.onto (e : EapSa) (sa : Ikev2.ResponderSa) : Ikev2.ResponderSa :=
  { sa with
    state := e.state.onto, eapRelay := some ⟨e.relay.finished, e.relay.eapPending⟩
    eapRoundInFlight := e.round.isSome, eapMethod := e.method, eapMsk := e.msk
    eapOnlyHonored := e.onlyHonored }

/-- identity, server and secret of the Access-Request are in order -/
def EapSa.radiusReady (e : EapSa) (io : RequestIo) (eap : Bytes) : Bool :=
  decide (((e.user.or (identityString eap)).getD []).length ≤ maxValue) && io.server
    && io.secretFile.any fun file => !(readSecret file).isEmpty

/-- the two readers of the type agree -/
theorem eapResponseType_eq (eap : Bytes) :
    Ikev2.eapResponseType eap = (responseType eap).map UInt8.toNat := by
  unfold Ikev2.eapResponseType responseType decode
  by_cases hcode : byteAt eap 0 = codeResponse
  · have htype : hasType (byteAt eap 0) = true := by
      rw [hcode]
      rfl
    by_cases hlen : 5 ≤ be16 eap 2 ∧ be16 eap 2 ≤ eap.length
    · rw [if_pos ⟨hlen.1, hlen.2, hcode⟩, if_neg (by omega), if_neg (by omega), if_pos htype,
        if_neg (by omega)]
      dsimp only
      rw [if_pos hcode]
      rfl
    · rw [if_neg (fun h => hlen ⟨h.1, h.2.1⟩)]
      split
      · rfl
      next p hp =>
      split at hp
      · cases hp
      split at hp
      · cases hp
      split at hp
      · cases hp
      · omega
  · rw [if_neg (fun h => hcode h.2.2)]
    split
    · rfl
    next p hp =>
    have hp : p.code = byteAt eap 0 := by
      split at hp
      · cases hp
      split at hp
      · cases hp
      split at hp
      · split at hp
        · cases hp
        · rw [← Option.some.inj hp]
      · rw [← Option.some.inj hp]
    rw [hp, if_neg hcode]
    rfl

/-! ## a request of the peer -/

section
variable {e : EapSa} {sa : Ikev2.ResponderSa} {env : Ikev2.AuthEnv} {io : RequestIo}

theorem succeed_onto (messageId : Nat) (eap : Bytes) :
    (e.succeed io.sent messageId eap).onto sa
      = if io.sent then { e.onto sa with state := .resIkeAuthEapFinal } else e.onto sa := by
  unfold EapSa.succeed
  cases io.sent <;> rfl

theorem submit_onto (eap secret : Bytes) : (e.submit io eap secret).onto sa =
    if e.round.isSome then e.onto sa
    else if !io.submitted then (e.onto sa).abort
    else { e.onto sa with eapRoundInFlight := true, eapMethod := methodOr e.method eap } := by
  unfold EapSa.submit
  dsimp only
  split
  · rfl
  split
  · rfl
  · rfl

theorem configured_onto (eap : Bytes) : (e.configured io eap).onto sa =
    if !(io.server && io.secretFile.any fun file => !(readSecret file).isEmpty) then (e.onto sa).abort
    else if e.round.isSome then e.onto sa
    else if !io.submitted then (e.onto sa).abort
    else { e.onto sa with eapRoundInFlight := true, eapMethod := methodOr e.method eap } := by
  unfold EapSa.configured
  cases hserver : io.server with
  | false => rfl
  | true =>
    cases hfile : io.secretFile with
    | none => rfl
    | some file =>
      show EapSa.onto (if (readSecret file).isEmpty = true then e.abort else _) sa
        = if (!(!(readSecret file).isEmpty)) = true then _ else _
      rw [Bool.not_not]
      split
      · rfl
      · exact submit_onto eap _

/-- the Identifier is checked alike -/
theorem stale_iff (eap : Bytes) : stale e.relay eap = true ↔
    ∃ pending, e.relay.eapPending = some pending ∧ 2 ≤ eap.length ∧ 2 ≤ pending.length
      ∧ byteAt eap 1 ≠ byteAt pending 1 := by
  unfold stale
  cases hpending : e.relay.eapPending with
  | none => exact ⟨fun h => (by cases h), fun ⟨p, hp, _⟩ => (by cases hp)⟩
  | some pending =>
    dsimp only
    rw [Bool.and_eq_true, Bool.and_eq_true, decide_eq_true_iff, decide_eq_true_iff, bne_iff_ne, and_assoc]
    constructor
    · exact fun h => ⟨pending, rfl, h⟩
    · rintro ⟨p, hp, h⟩
      obtain rfl := Option.some.inj hp
      exact h

theorem eapMethod_eq (sa : Ikev2.ResponderSa) (eap : Bytes) : methodOr e.method eap =
    (match Ikev2.eapResponseType eap with
      | some type => if 3 < type then type else (e.onto sa).eapMethod
      | none => (e.onto sa).eapMethod) := by
  rw [eapResponseType_eq]
  unfold methodOr
  cases responseType eap <;> rfl

theorem eapCont_onto (messageId : Nat) (eap : Bytes) (hstale : stale e.relay eap = false) :
    (e.eapCont messageId eap io).onto sa =
      if e.msk.any (·.length == 64) then
        if io.sent then { e.onto sa with state := .resIkeAuthEapFinal } else e.onto sa
      else if !e.radiusReady io eap then (e.onto sa).abort
      else if e.round.isSome then e.onto sa
      else if !io.submitted then (e.onto sa).abort
      else { e.onto sa with eapRoundInFlight := true, eapMethod := methodOr e.method eap } := by
  have hnot : ¬ stale e.relay eap = true := by
    rw [hstale]
    decide
  unfold EapSa.eapCont
  rw [if_neg hnot]
  split
  · rw [buildSuccess_eq]
    exact succeed_onto messageId _
  unfold EapSa.radiusReady
  dsimp only
  by_cases hlen : ((e.user.or (identityString eap)).getD []).length ≤ maxValue
  · rw [decide_eq_true hlen, Bool.true_and, if_neg (Nat.not_lt_of_le hlen), configured_onto]
    rfl
  · rw [decide_eq_false hlen, if_pos (Nat.lt_of_not_le hlen)]
    rfl

/-- what the responder of the authentication does with a packet that is not stale -/
theorem submit_simulated (e : EapSa) (sa : Ikev2.ResponderSa) {eap : Bytes} (hsent : env.sent = io.sent)
    (hsubmitted : env.submitted = io.submitted) (hready : env.radiusReady = e.radiusReady io eap)
    (hstale : stale e.relay eap = false) (messageId : Nat) :
    Ikev2.eapRecv.submit env (e.onto sa) eap = (e.eapCont messageId eap io).onto sa := by
  rw [eapCont_onto messageId eap hstale, eapMethod_eq sa eap, ← hsent, ← hsubmitted, ← hready]
  rfl

theorem eapRecv_simulated (e : EapSa) (sa : Ikev2.ResponderSa) (env : Ikev2.AuthEnv) (io : RequestIo)
    (m : Ikev2.AuthMessage) (hsent : env.sent = io.sent)
    (hsubmitted : env.submitted = io.submitted)
    (hready : ∀ eap, m.payloads.filterMap Ikev2.MessagePayload.eap? = [eap] →
      env.radiusReady = e.radiusReady io eap) (messageId : Nat) :
    Ikev2.eapRecv env m (e.onto sa)
      = (e.eapRecv messageId (m.payloads.filterMap Ikev2.MessagePayload.eap?) io).onto sa := by
  have hid : e.onto sa = EapSa.onto { e with messageId := messageId } sa := rfl
  unfold Ikev2.eapRecv EapSa.eapRecv
  dsimp only
  generalize m.payloads.filterMap Ikev2.MessagePayload.eap? = eaps at hready
  cases eaps with
  | nil => rfl
  | cons eap more =>
    cases more with
    | cons _ _ => rfl
    | nil =>
      have hready := hready eap rfl
      dsimp only
      cases hstale : stale e.relay eap with
      | true =>
        obtain ⟨pending, hpending, hcond⟩ := (stale_iff eap).mp hstale
        have hbind : (e.onto sa).eapRelay.bind Ikev2.Relay.pending = some pending := hpending
        have hcont : EapSa.eapCont { e with messageId := messageId } messageId eap io
            = { e with messageId := messageId } := by
          unfold EapSa.eapCont
          exact if_pos hstale
        rw [hbind, hcont]
        exact if_pos hcond
      | false =>
        have hsub := submit_simulated { e with messageId := messageId } sa hsent hsubmitted hready
          hstale messageId
        rw [← hsub]
        cases hpending : (e.onto sa).eapRelay.bind Ikev2.Relay.pending with
        | none => rfl
        | some pending =>
          refine if_neg fun hcond => ?_
          have : stale e.relay eap = true := (stale_iff eap).mpr ⟨pending, hpending, hcond⟩
          rw [hstale] at this
          cases this

/-! ## the end of a round -/

/-- the answer of the server, as the responder of the authentication sees it -/
def replyOf (md5 : Bytes → Octets 16) (secret : Bytes) : Option Response → Ikev2.RadiusReply
  | none => .none
  | some resp =>
    if resp.code = codeAccessChallenge then .challenge (eapMessage resp.attrs)
    else if resp.code = codeAccessAccept then .accept (msk md5 true (reqAuthOf resp) secret resp)
    else if resp.code = codeAccessReject then .reject
    else .other

theorem fail_dead (sent : Bool) : (e.fail sent).state = .dead := by
  unfold EapSa.fail
  split <;> rfl

variable {md5 : Bytes → Octets 16} {hmacmd5 : Bytes → Bytes → Octets 16} {b : Bool}

theorem resume_simulated (sa : Ikev2.ResponderSa) (env : Ikev2.AuthEnv) (h : RelayInv md5 hmacmd5 b e) (hstate : e.state ≠ .dead) {r : Round}
    (hr : e.round = some r) (resp : Option Response) {sent : Bool} (hsent : env.sent = sent) :
    ((e.answered r resp).resume md5 resp r.opt.secret sent).state = .dead
      ∨ ∃ accepted, Ikev2.eapResume env (replyOf md5 r.opt.secret resp) (e.onto sa)
        = ((e.answered r resp).resume md5 resp r.opt.secret sent).onto { sa with accepted := accepted } := by
  have hlive := h.live hstate
  obtain ⟨hsecret, -, -, hmsk⟩ := hlive.round r hr
  have hfinished : e.relay.finished = false := by
    rw [hlive.finished, hmsk]
    rfl
  have hguard : (!e.relay.started || e.relay.finished || r.opt.secret.isEmpty) = false := by
    rw [hlive.started, hfinished]
    exact List.isEmpty_eq_false_iff.mpr hsecret
  have hflight : (e.onto sa).eapRoundInFlight = true := by
    show e.round.isSome = true
    rw [hr]
    rfl
  have hrelay : (e.onto sa).eapRelay = some ⟨false, e.relay.eapPending⟩ := by
    show some (Ikev2.Relay.mk e.relay.finished e.relay.eapPending) = _
    rw [hfinished]
  cases resp with
  | none => exact .inl (fail_dead sent)
  | some resp =>
    unfold EapSa.resume EapSa.driveAdvance
    dsimp only
    rw [show (e.answered r (some resp)).relay = e.relay from rfl]
    unfold consume replyOf
    rw [hguard, if_neg (by decide)]
    dsimp only
    by_cases hchallenge : resp.code = codeAccessChallenge
    · rw [if_pos hchallenge, if_pos hchallenge]
      cases heap : eapMessage resp.attrs with
      | none => exact .inl (fail_dead sent)
      | some eap =>
        refine .inr ⟨sa.accepted, ?_⟩
        unfold Ikev2.eapResume
        rw [hflight, hrelay]
        have hsend : ∀ e' : EapSa, (e'.send sent e'.messageId eap).onto sa = e'.onto sa := by
          intro e'
          unfold EapSa.send
          cases sent <;> rfl
        show _ = EapSa.onto (EapSa.send _ sent _ eap) sa
        rw [hsend]
        unfold EapSa.onto
        rw [show e.relay.finished = false from hfinished]
        rfl
    rw [if_neg hchallenge, if_neg hchallenge]
    by_cases haccept : resp.code = codeAccessAccept
    · rw [if_pos haccept, if_pos haccept]
      cases hkey : msk md5 true (reqAuthOf resp) r.opt.secret resp with
      | none => exact .inl (fail_dead sent)
      | some key =>
        dsimp only
        unfold EapSa.conclude
        dsimp only
        rw [successFor_eq, buildSuccess_eq]
        split
        · exact .inl (fail_dead sent)
        · next hsafe =>
          have hsafe : ¬ (e.onlyHonored && (key.isEmpty || !Ikev2.eapSafeMethod e.method)) = true := hsafe
          refine .inr ⟨sa.accepted ++ [key], ?_⟩
          unfold Ikev2.eapResume
          rw [hflight, hrelay]
          show (if (e.onlyHonored && (key.isEmpty || !Ikev2.eapSafeMethod e.method)) = true then _ else _) = _
          rw [if_neg hsafe, hsent]
          show _ = EapSa.onto (EapSa.succeed _ sent _ _) _
          unfold EapSa.succeed
          cases sent <;> rfl
    rw [if_neg haccept, if_neg haccept]
    by_cases hreject : resp.code = codeAccessReject
    · rw [if_pos hreject]
      exact .inl (fail_dead sent)
    · rw [if_neg hreject]
      exact .inl (fail_dead sent)

/-! ## runs -/

/-- the environment of one step -/
def envOf (base : Ikev2.AuthEnv) (sent submitted ready : Bool) : Ikev2.AuthEnv :=
  { base with sent := sent, submitted := submitted, radiusReady := ready }

/-- one event of the relay is at most one of the responder -/
theorem step_simulated (sa : Ikev2.ResponderSa) (h : RelayInv md5 hmacmd5 b e) (c : Ikev2.Crypto) (base : Ikev2.AuthEnv)
    (ev : EapEvent) : (e.step md5 hmacmd5 ev).state = .dead
      ∨ ∃ (evs : List (Ikev2.AuthEnv × Ikev2.AuthEvent)) (accepted : List Bytes),
        evs.foldl (fun sa p => Ikev2.responderStep c p.1 p.2 sa) (e.onto sa)
          = (e.step md5 hmacmd5 ev).onto { sa with accepted := accepted } := by
  cases ev with
  | teardown => exact .inl rfl
  | request messageId eaps io =>
    show (if e.state = .eap then e.eapRecv messageId eaps io else e).state = _ ∨ _
    refine .inr ?_
    show ∃ evs accepted, _ = (if e.state = .eap then e.eapRecv messageId eaps io else e).onto _
    split
    · next hstate =>
      have hpay : (eaps.map Ikev2.MessagePayload.eap).filterMap Ikev2.MessagePayload.eap? = eaps := by
        rw [List.filterMap_map]
        exact List.filterMap_some
      refine ⟨[(envOf base io.sent io.submitted (e.radiusReady io (eaps.headD [])),
        .message ⟨35, eaps.map .eap⟩)], sa.accepted, ?_⟩
      have hsim := eapRecv_simulated e sa
        (envOf base io.sent io.submitted (e.radiusReady io (eaps.headD []))) io ⟨35, eaps.map .eap⟩ rfl rfl (fun eap heap => by
          rw [hpay] at heap
          rw [heap]
          rfl) messageId
      rw [hpay] at hsim
      rw [← hsim]
      show Ikev2.responderStep c _ (.message _) (e.onto sa) = _
      unfold Ikev2.responderStep
      dsimp only
      rw [show (e.onto sa).state = .resIkeAuthEap by
        show e.state.onto = _
        rw [hstate]
        rfl]
    · exact ⟨[], sa.accepted, rfl⟩
  | done io sent =>
    show (e.roundDone md5 hmacmd5 io sent).state = .dead
      ∨ ∃ evs accepted, _ = (e.roundDone md5 hmacmd5 io sent).onto _
    unfold EapSa.roundDone
    split
    · exact .inr ⟨[], sa.accepted, rfl⟩
    next r hr =>
    split
    · next hdead => exact .inl hdead
    · next hstate =>
      rcases resume_simulated sa (envOf base sent false false) h hstate hr
        (exchange md5 hmacmd5 io r) rfl with hdead | ⟨accepted, hsim⟩
      · exact .inl hdead
      · exact .inr ⟨[(envOf base sent false false, .radius _)], accepted, hsim⟩

theorem step_dead (hdead : e.state = .dead) (ev : EapEvent) : (e.step md5 hmacmd5 ev).state = .dead := by
  cases ev with
  | teardown => rfl
  | request messageId eaps io =>
    show (if e.state = .eap then e.eapRecv messageId eaps io else e).state = .dead
    rw [if_neg (by rw [hdead]; decide)]
    exact hdead
  | done io sent =>
    show (e.roundDone md5 hmacmd5 io sent).state = .dead
    unfold EapSa.roundDone
    split
    · exact hdead
    · rw [if_pos hdead]
      exact hdead

theorem run_dead (es : List EapEvent) : ∀ e : EapSa, e.state = .dead →
    (es.foldl (EapSa.step md5 hmacmd5) e).state = .dead := by
  induction es with
  | nil => exact fun e h => h
  | cons ev es ih => exact fun e h => ih _ (step_dead h ev)

theorem run_simulated (c : Ikev2.Crypto) (base : Ikev2.AuthEnv) (es : List EapEvent) :
    ∀ (e : EapSa) (sa : Ikev2.ResponderSa), RelayInv md5 hmacmd5 b e →
      (es.foldl (EapSa.step md5 hmacmd5) e).state = .dead
        ∨ ∃ (evs : List (Ikev2.AuthEnv × Ikev2.AuthEvent)) (accepted : List Bytes),
          evs.foldl (fun sa p => Ikev2.responderStep c p.1 p.2 sa) (e.onto sa)
            = (es.foldl (EapSa.step md5 hmacmd5) e).onto { sa with accepted := accepted } := by
  induction es with
  | nil => exact fun e sa _ => .inr ⟨[], sa.accepted, rfl⟩
  | cons ev es ih =>
    intro e sa h
    rcases step_simulated sa h c base ev with hdead | ⟨evs, accepted, hstep⟩
    · exact .inl (run_dead es _ hdead)
    rcases ih (e.step md5 hmacmd5 ev) { sa with accepted := accepted } (relay_step h ev)
      with hdead | ⟨evs', accepted', hrun⟩
    · exact .inl hdead
    · refine .inr ⟨evs ++ evs', accepted', ?_⟩
      rw [List.foldl_append, hstep]
      exact hrun

end

/-- every run of the relay that does not end the SA is a run of the responder whose authentication
is proved, on the fields they share -/
theorem relay_runs_in_responder (md5 : Bytes → Octets 16) (hmacmd5 : Bytes → Bytes → Octets 16)
    (onlyHonored : Bool) (c : Ikev2.Crypto) (base : Ikev2.AuthEnv) (es : List EapEvent)
    (sa : Ikev2.ResponderSa) :
    (es.foldl (EapSa.step md5 hmacmd5) (.start onlyHonored)).state = .dead
      ∨ ∃ (evs : List (Ikev2.AuthEnv × Ikev2.AuthEvent)) (accepted : List Bytes),
        evs.foldl (fun sa p => Ikev2.responderStep c p.1 p.2 sa) ((EapSa.start onlyHonored).onto sa)
          = (es.foldl (EapSa.step md5 hmacmd5) (.start onlyHonored)).onto { sa with accepted := accepted } :=
  run_simulated c base es _ sa (relayInv_start md5 hmacmd5 onlyHonored)

end Eap
