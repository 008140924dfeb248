import Racoon2.Iked.Delivery

/-!
# Datagrams that do not authenticate

An SA that holds its receive keys should not be moved by a datagram whose integrity check does not
verify under them.  `ikev2_input` decides whether to check at all by the exchange type in the
header, and with a combined-mode cipher it answers from the response cache and complains about the
message id before the tag is looked at.  `exposed` is what an unauthentic datagram must do to get
that far.

* `Unharmed`              the SA is as it was, up to the fragment queue and one clock;
* `saInput_forged`        an unexposed forgery leaves its SA unharmed (the step);
* `forged_run_unharmed`   so does every run of them, for every SA of the daemon.
-/

set_option linter.unusedVariables false

namespace Ikev2
open Bytes

/-! ## what a forgery may do -/

/-- nothing changed but expired fragments and the time of the last IKE_INTERMEDIATE replay -/
structure Unharmed (sa sa' : Sa) : Prop where
  fragChain : sa'.fragChain.Sublist sa.fragChain
  rest : sa' = { sa with
    fragChain := sa'.fragChain
    intermediateReplaySent := sa'.intermediateReplaySent }

theorem Unharmed.refl (sa : Sa) : Unharmed sa sa := ⟨List.Sublist.refl _, rfl⟩

theorem Unharmed.trans {a b c : Sa} (h1 : Unharmed a b) (h2 : Unharmed b c) : Unharmed a c := by
  refine ⟨h2.fragChain.trans h1.fragChain, ?_⟩
  have hb := h1.rest
  have hc := h2.rest
  rw [hb] at hc
  exact hc

/-- cached responses, to where they went before -/
def permittedEffect (sa : Sa) (e : Effect) : Prop :=
  e = .resend sa.responseInfo.dest ∨ e = .replayIntermediate sa.remoteEp

/-! ## what gets through without authentication -/

/-- the handler of the state does something with a message of a cleartext exchange -/
def actsOnCleartext (env : Env) (sa : Sa) (packet : Bytes) (remote : Endpoint) : Bool :=
  match sa.state with
  | .established =>
    !isResponse packet || mobikeEndpointChanged sa remote || tcpRebinds env sa remote
  | .dying => !isResponse packet
  | .dead => false
  | .iniIkeSaInitSent => isInitResponse packet exchIkeSaInit
  | .iniIkeSessionResumeSent => isInitResponse packet exchIkeSessionResume
  | .resIkeSaInitSent => sa.multiAuthRound == 0
  | .iniIkeAuthSent => false
  | .iniIkeIntermediateSent => (intermediateAccepts sa packet).isNone
  | .idling => true
  | .resIkeAuthRcvd => true
  | .iniIkeAuthRcvd => true
  | .resIkeAuthEap => true
  | .resIkeAuthEapFinal => true

/-- `ikev2_send_invalid_message_id` is not held back by its limit -/
def complainsNow (env : Env) (sa : Sa) : Bool :=
  !(decide (sa.invalidMsgidLastSent ≠ 0) && decide (env.now < sa.invalidMsgidLastSent + 1))

/-- a cleartext message moves the cached response, or gets to a handler that acts on it -/
def exposedCleartext (env : Env) (sa : Sa) (packet : Bytes) (remote : Endpoint) : Bool :=
  if retransmitForced sa (messageId packet) (isResponse packet) then responseMoved sa remote
  else checkMessageOrdering sa (messageId packet) (isResponse packet)
    && actsOnCleartext env sa packet remote

/-- what stands before the tag check: the cached response moves, or a request ahead of the window
is complained about -/
def exposedAead (env : Env) (sa : Sa) (packet : Bytes) (remote : Endpoint) : Bool :=
  sa.hasRecvKeys && sa.isAead && nextPayload packet == payloadEncrypted
    && if retransmitForced sa (messageId packet) (isResponse packet) then responseMoved sa remote
      else !isResponse packet && decide (sa.recvMessageId < messageId packet)
        && complainsNow env sa

/-- an unauthentic datagram gets further than it should -/
def exposed (env : Env) (sa : Sa) (packet : Bytes) (remote : Endpoint) : Bool :=
  !isIntermediateReplay sa packet remote && decide (nextPayload packet ≠ payloadSkf)
    && checkPayloads packet true
    && if isCleartextExchange packet then exposedCleartext env sa packet remote
      else exposedAead env sa packet remote

/-- the peer gives back our QCD token -/
def provesCrash (sa : Sa) (packet : Bytes) : Prop :=
  nextPayload packet = payloadNotify ∧ exchangeType packet = exchInformational
    ∧ isResponse packet = true ∧ qcdTakerRecv sa packet = true

/-- a datagram that the SA cannot authenticate and that does not prove a crash of the peer -/
structure Forged (sa : Sa) (packet : Bytes) : Prop where
  unauthentic : authentic sa packet = false
  noToken : ¬ provesCrash sa packet

/-! ## the parts of the receive path -/

section
variable {h : Handlers} {env : Env} {sa : Sa} {packet : Bytes} {remote local_ : Endpoint}

theorem cached_unharmed (hm : responseMoved sa remote = false) :
    retransmitForcedSa sa local_ remote = sa
      ∧ ∀ e ∈ retransmitForcedOut env sa local_ remote, permittedEffect sa e := by
  have h1 : retransmitForcedSa sa local_ remote = sa := by
    unfold retransmitForcedSa
    rw [hm]
    rfl
  refine ⟨h1, ?_⟩
  intro e he
  unfold retransmitForcedOut at he
  rw [h1] at he
  split at he
  · exact .inl (List.mem_singleton.mp he)
  · exact absurd he (by simp)

theorem cleartext_exchangeType (hc : isCleartextExchange packet = true) :
    exchangeType packet ≠ exchCreateChildSa ∧ exchangeType packet ≠ exchInformational
      ∧ exchangeType packet ≠ exchIkeFollowupKe ∧ exchangeType packet ≠ exchIkeAuth
      ∧ exchangeType packet ≠ exchIkeIntermediate := by
  unfold isCleartextExchange at hc
  rw [Bool.or_eq_true, beq_iff_eq, beq_iff_eq] at hc
  rcases hc with hc | hc <;> rw [hc] <;> decide

/-- an established SA ignores a response of a cleartext exchange from where its peer is -/
theorem established_cleartext (hc : isCleartextExchange packet = true)
    (hr : isResponse packet = true) (hm : mobikeEndpointChanged sa remote = false)
    (ht : sa.state = .established → tcpRebinds env sa remote = false) :
    establishedRecv h env sa packet remote local_ = (sa, []) := by
  obtain ⟨h1, h2, h3, _, _⟩ := cleartext_exchangeType hc
  unfold establishedRecv
  rw [followSource_stays hm ht]
  unfold establishedSwitch
  rw [if_neg h1, if_neg h2, if_neg h3]
  unfold unexpectedExchange
  rw [hr]
  rfl

theorem dispatch_cleartext (hc : isCleartextExchange packet = true)
    (ha : actsOnCleartext env sa packet remote = false) :
    dispatch h env sa packet remote local_ = (sa, []) := by
  obtain ⟨_, _, _, hauth, hinter⟩ := cleartext_exchangeType hc
  unfold actsOnCleartext at ha
  unfold dispatch
  cases hs : sa.state <;> rw [hs] at ha <;> simp only at ha ⊢
  case established =>
    simp only [Bool.or_eq_false_iff, Bool.not_eq_false'] at ha
    exact established_cleartext hc ha.1.1 ha.1.2 fun _ => ha.2
  case dying =>
    have hr : isResponse packet = true := by simpa using ha
    have hm : mobikeEndpointChanged sa remote = false := by simp [mobikeEndpointChanged, hs]
    exact established_cleartext hc hr hm fun he => absurd (hs.symm.trans he) (by simp)
  case iniIkeSaInitSent => rw [ha]; rfl
  case iniIkeSessionResumeSent => rw [ha]; rfl
  case resIkeSaInitSent =>
    rw [if_pos ⟨by simpa using ha, hauth⟩]
  case iniIkeAuthSent => rw [if_pos hauth]
  case iniIkeIntermediateSent =>
    cases hi : intermediateAccepts sa packet with
    | none => rw [hi] at ha; exact absurd ha (by simp)
    | some b =>
      have hb : b = false := by
        unfold intermediateAccepts at hi
        split at hi
        · exact absurd hi (by simp)
        · split at hi
          · exact absurd hi (by simp)
          · rw [← Option.some.inj hi, Bool.and_eq_false_iff]
            exact .inl (by simpa using hinter)
      rw [hb]
  all_goals exact absurd ha (by simp)

/-- with a combined-mode cipher a bad tag stops at `ikev2_decrypt` -/
theorem decrypt_forged (hskf : nextPayload packet ≠ payloadSkf) (haead : sa.isAead = true)
    (hf : authentic sa packet = false) : decrypt sa packet = none := by
  unfold authentic at hf
  rw [if_neg hskf] at hf
  unfold sealVerifies at hf
  rw [if_pos haead] at hf
  unfold decrypt
  split
  · rename_i e a key off he ha hkey hoff
    rw [he, ha, hkey, hoff] at hf
    have hopen : openEncrypted e key packet off (icvLength e a) = none := by simpa using hf
    rw [hopen]
    split <;> rfl
  · rfl

/-- with a separate MAC a bad one stops at `ikev2_check_icv` -/
theorem checkIcv_forged (hskf : nextPayload packet ≠ payloadSkf) (haead : sa.isAead = false)
    (hf : authentic sa packet = false) :
    checkIcv sa packet = false ∧ checkIcvPrevGen sa packet = false := by
  unfold authentic at hf
  rw [if_neg hskf] at hf
  unfold sealVerifies at hf
  rw [if_neg (by simp [haead])] at hf
  exact Bool.or_eq_false_iff.mp hf

theorem drop_unharmed : Unharmed sa (perform h env sa packet remote local_ .drop).1
    ∧ ∀ e ∈ (perform h env sa packet remote local_ .drop).2, permittedEffect sa e :=
  ⟨Unharmed.refl sa, fun e he => absurd he (by simp [perform])⟩

theorem cached_perform (hm : responseMoved sa remote = false) :
    Unharmed sa (perform h env sa packet remote local_ .cached).1
      ∧ ∀ e ∈ (perform h env sa packet remote local_ .cached).2, permittedEffect sa e := by
  obtain ⟨h1, h2⟩ := cached_unharmed hm
  refine ⟨?_, h2⟩
  show Unharmed sa (retransmitForcedSa sa local_ remote)
  rw [h1]
  exact Unharmed.refl sa

theorem complaint_unharmed (hn : complainsNow env sa = false) :
    Unharmed sa (perform h env sa packet remote local_ .invalidMessageId).1
      ∧ ∀ e ∈ (perform h env sa packet remote local_ .invalidMessageId).2,
        permittedEffect sa e := by
  have hlim : sa.invalidMsgidLastSent ≠ 0 ∧ env.now < sa.invalidMsgidLastSent + 1 := by
    unfold complainsNow at hn
    simpa using hn
  have hsend : perform h env sa packet remote local_ .invalidMessageId = (sa, []) := by
    show sendInvalidMessageId env sa = (sa, [])
    unfold sendInvalidMessageId
    rw [if_pos hlim]
  rw [hsend]
  exact ⟨Unharmed.refl sa, fun e he => absurd he (by simp)⟩

/-- a message of a cleartext exchange that is not exposed -/
theorem cleartext_unharmed (hc : isCleartextExchange packet = true)
    (hx : exposedCleartext env sa packet remote = false) :
    Unharmed sa (perform h env sa packet remote local_
        (classifyWindow sa packet false (.dispatch packet))).1
      ∧ ∀ e ∈ (perform h env sa packet remote local_
        (classifyWindow sa packet false (.dispatch packet))).2, permittedEffect sa e := by
  unfold exposedCleartext at hx
  unfold classifyWindow
  cases hr : retransmitForced sa (messageId packet) (isResponse packet) with
  | true =>
    rw [hr] at hx
    exact cached_perform hx
  | false =>
    rw [hr] at hx
    cases ho : checkMessageOrdering sa (messageId packet) (isResponse packet) with
    | true =>
      rw [ho] at hx
      have hd : dispatch h env sa packet remote local_ = (sa, []) := dispatch_cleartext hc hx
      show Unharmed sa (dispatch h env sa packet remote local_).1
        ∧ ∀ e ∈ (dispatch h env sa packet remote local_).2, permittedEffect sa e
      rw [hd]
      exact ⟨Unharmed.refl sa, fun e he => absurd he (by simp)⟩
    | false => exact drop_unharmed

/-- a protected message that is not exposed -/
theorem protected_unharmed (hskf : nextPayload packet ≠ payloadSkf)
    (hf : Forged sa packet) (hx : exposedAead env sa packet remote = false) :
    Unharmed sa (perform h env sa packet remote local_ (classifyProtected sa packet)).1
      ∧ ∀ e ∈ (perform h env sa packet remote local_ (classifyProtected sa packet)).2,
        permittedEffect sa e := by
  have hno : ¬ (nextPayload packet = payloadNotify ∧ exchangeType packet = exchInformational
      ∧ isResponse packet = true ∧ qcdTakerRecv sa packet = true) := hf.noToken
  unfold classifyProtected
  rw [if_neg hno]
  split
  · exact drop_unharmed
  · rename_i henc
    have henc : nextPayload packet = payloadEncrypted := by
      by_contra hne
      exact henc ⟨hne, hskf⟩
    split
    · exact drop_unharmed
    · rename_i hkeys
      have hkeys : sa.hasRecvKeys = true := by simpa using hkeys
      cases haead : sa.isAead with
      | false =>
        obtain ⟨h1, h2⟩ := checkIcv_forged hskf haead hf.unauthentic
        rw [if_pos (by simp [h1, h2])]
        exact drop_unharmed
      | true =>
        have hd : classifyDecrypt sa packet = .drop := by
          unfold classifyDecrypt
          rw [decrypt_forged hskf haead hf.unauthentic]
        have hicv : checkIcv sa packet = true := by
          unfold checkIcv
          rw [if_pos haead]
        rw [if_neg (by simp [hicv]), hd]
        unfold exposedAead at hx
        rw [hkeys, haead, henc] at hx
        simp only [Bool.true_and, beq_self_eq_true] at hx
        unfold classifyWindow
        cases hr : retransmitForced sa (messageId packet) (isResponse packet) with
        | true =>
          rw [hr] at hx
          exact cached_perform hx
        | false =>
          rw [hr] at hx
          simp only [Bool.false_eq_true, if_false, Bool.true_and] at hx ⊢
          split
          · exact drop_unharmed
          · split
            · rename_i hahead
              rw [hahead, Bool.true_and] at hx
              exact complaint_unharmed hx
            · exact drop_unharmed

end

/-! ## the step and the run -/

/-- the step: an unexposed forgery and the SA it goes to -/
theorem saInput_forged (h : Handlers) (env : Env) (sa : Sa) (packet : Bytes)
    (remote local_ : Endpoint) (hf : Forged sa packet)
    (hx : exposed env sa packet remote = false) :
    Unharmed sa (saInput h env sa packet remote local_).1
      ∧ ∀ e ∈ (saInput h env sa packet remote local_).2, permittedEffect sa e := by
  unfold exposed at hx
  unfold saInput
  split
  · unfold replayIntermediateResponse
    split
    · exact ⟨Unharmed.refl sa, fun e he => absurd he (by simp)⟩
    · exact ⟨⟨List.Sublist.refl _, rfl⟩, fun e he => .inr (List.mem_singleton.mp he)⟩
  · split
    · rename_i hskf
      have hv : skfVerifies sa packet = false := by
        have := hf.unauthentic
        unfold authentic at this
        rwa [if_pos hskf] at this
      rw [fragRecv_forged hv]
      exact ⟨⟨List.filter_sublist, rfl⟩, fun e he => absurd he (by simp)⟩
    · rename_i hreplay hskf
      unfold classify
      split
      · exact drop_unharmed
      · rename_i hcheck
        have hcheck : checkPayloads packet true = true := by simpa using hcheck
        have hreplay : isIntermediateReplay sa packet remote = false := by simpa using hreplay
        rw [hreplay, hcheck, decide_eq_true hskf] at hx
        simp only [Bool.not_false, Bool.true_and] at hx
        split
        · rename_i hc
          rw [if_pos hc] at hx
          exact cleartext_unharmed hc hx
        · rename_i hc
          rw [if_neg hc] at hx
          exact protected_unharmed hskf hf hx

/-- neither the fragment queue nor the replay clock decides whether a datagram is a forgery -/
theorem Unharmed.forged {a b : Sa} (hab : Unharmed a b) {packet : Bytes} (hf : Forged a packet) :
    Forged b packet := by
  rw [hab.rest]
  exact ⟨hf.unauthentic, hf.noToken⟩

theorem Unharmed.exposed_eq {a b : Sa} (hab : Unharmed a b) (env : Env) (packet : Bytes)
    (remote : Endpoint) : exposed env b packet remote = exposed env a packet remote := by
  rw [hab.rest]
  rfl

theorem Unharmed.permitted {a b : Sa} (hab : Unharmed a b) {e : Effect}
    (he : permittedEffect b e) : permittedEffect a e := by
  rw [hab.rest] at he
  exact he

/-- Deliver any datagrams, one after the other, to a daemon: an SA that can authenticate none of
them is unharmed in every state on the way, and sends nothing but cached responses to where they
went before, if none of them is exposed. -/
theorem forged_run_unharmed (h : Handlers) (ds : List Delivery) (sas : List Sa) (k : Nat) (sa : Sa)
    (hk : sas[k]? = some sa) (hkeys : sa.hasRecvKeys = true)
    (hforged : ∀ d ∈ ds, Forged sa d.datagram.octets)
    (hspared : ∀ d ∈ ds, exposed d.env sa d.datagram.octets d.remote = false) :
    ∀ st ∈ runInput h sas ds, ∃ sa', st.outcome.sas[k]? = some sa' ∧ Unharmed sa sa'
      ∧ (findSa st.before st.delivery.datagram.octets = some k →
        ∀ e ∈ st.outcome.effects, permittedEffect sa e) := by
  refine run_keeps (R := Unharmed) (E := permittedEffect)
    (P := fun sa d => Forged sa d.datagram.octets
      ∧ exposed d.env sa d.datagram.octets d.remote = false)
    Unharmed.refl (fun a b c => Unharmed.trans) ?_ (fun a b e hab he => hab.permitted he) ?_ ds hk
    fun d hd => ⟨hforged d hd, hspared d hd⟩
  · intro a b d hab hd
    refine ⟨hab.forged hd.1, ?_⟩
    rw [hab.exposed_eq]
    exact hd.2
  · intro sa d hd
    exact saInput_forged h d.env sa d.datagram.octets d.remote d.local_ hd.1 hd.2

/-! ## a forgery that moves an SA -/

/-- an IKE_SA_INIT response without payloads, to the message id 1 -/
def bareInitResponse : Datagram where
  octets := [1, 2, 3, 4, 5, 6, 7, 8, 9, 9, 9, 9, 9, 9, 9, 9, 0, 0x20, 34, 0x28, 0, 0, 0, 1,
    0, 0, 0, 28]
  hasHeader := by decide

/-- a responder's SA after its first own request, with a given cipher and MAC -/
def keyedSa (e : Encryptor) (a : Authenticator) (mobike : Bool) : Sa :=
  { Sa.allocate false [1, 2, 3, 4, 5, 6, 7, 8] [9, 9, 9, 9, 9, 9, 9, 9] (.v4 192 0 2 1 500)
      (.v4 192 0 2 2 500) with
    state := .established, sendMessageId := 2, recvMessageId := 3, encryptor := some e
    authenticator := some a, skAI := some [1], skAR := some [2], skEI := some [3]
    skER := some [4], mobikeSupported := mobike }

theorem bareInitResponse_findEncrypted : findEncrypted bareInitResponse.octets = none := by decide

/-- no SA authenticates it -/
theorem bareInitResponse_forged (sa : Sa) : Forged sa bareInitResponse.octets := by
  have hs : nextPayload bareInitResponse.octets ≠ payloadSkf := by decide
  have hf := bareInitResponse_findEncrypted
  have hicv : ∀ (sa' : Sa), sa'.isAead = false → checkIcv sa' bareInitResponse.octets = false := by
    intro sa' haead
    unfold checkIcv
    rw [if_neg (by simp [haead])]
    split
    · unfold icvMatches
      rw [hf]
    · rfl
  refine ⟨?_, ?_⟩
  · unfold authentic
    rw [if_neg hs]
    unfold sealVerifies
    cases haead : sa.isAead with
    | true =>
      rw [if_pos rfl, hf]
      split
      · rename_i hoff
        exact absurd hoff (by simp)
      · rfl
    | false =>
      rw [if_neg (by simp), hicv sa haead, Bool.false_or]
      unfold checkIcvPrevGen
      split
      · exact hicv _ haead
      · rfl
  · rintro ⟨hn, _⟩
    exact absurd hn (by decide)

theorem keyedSa_hasRecvKeys (e : Encryptor) (a : Authenticator) (mobike : Bool) :
    (keyedSa e a mobike).hasRecvKeys = true := by
  have h1 : (keyedSa e a mobike).recvAuthKey = some [1] := rfl
  have h2 : (keyedSa e a mobike).recvEncKey = some [3] := rfl
  unfold Sa.hasRecvKeys
  rw [h1, h2]
  simp

/-- An established SA with MOBIKE follows an unauthenticated IKE_SA_INIT response to the address
it came from, whatever its cipher, MAC and keys. -/
theorem forged_moves_sa :
    ∃ (env : Env) (d : Datagram) (remote local_ : Endpoint),
      ∀ (w : World) (h : Handlers) (e : Encryptor) (a : Authenticator),
        (keyedSa e a true).hasRecvKeys = true ∧ Forged (keyedSa e a true) d.octets
          ∧ (keyedSa e a true).remoteEp ≠ remote
          ∧ (ikev2Input w env h [keyedSa e a true] d.octets remote local_).sas.map Sa.remoteEp
            = [remote] := by
  refine ⟨.calm 100, bareInitResponse, .v4 203 0 113 9 500, .v4 192 0 2 1 500, ?_⟩
  intro w h e a
  refine ⟨keyedSa_hasRecvKeys e a true, bareInitResponse_forged _, ?_, ?_⟩
  · show Endpoint.v4 192 0 2 2 500 ≠ Endpoint.v4 203 0 113 9 500
    decide
  have hfind : findSa [keyedSa e a true] bareInitResponse.octets = some 0 := rfl
  have hreplay : isIntermediateReplay (keyedSa e a true) bareInitResponse.octets
      (.v4 203 0 113 9 500) = false := rfl
  have hskf : nextPayload bareInitResponse.octets ≠ payloadSkf := by decide
  have hcheck : checkPayloads bareInitResponse.octets true = true := by decide
  have hverdict : classify (keyedSa e a true) false bareInitResponse.octets
      = .dispatch bareInitResponse.octets := by
    unfold classify
    rw [hcheck]
    rfl
  rw [ikev2Input_found hfind rfl]
  unfold saInput
  rw [hreplay, if_neg hskf, hverdict]
  rfl

/-- a cipher and a MAC that never accept -/
def closedCipher : Encryptor := ⟨8, 16, fun _ _ _ => none, fun _ _ _ _ => none⟩
def closedMac : Authenticator := ⟨12, fun _ _ => none⟩

/-- the forged response, from the address of the peer -/
def samePlaceDelivery (now : Nat) : Delivery :=
  ⟨⟨none, fun _ _ => none, fun _ _ _ => none⟩, .calm now, bareInitResponse, .v4 192 0 2 2 500,
    .v4 192 0 2 1 500⟩

theorem forged_run_unharmed_twice :
    (runInput .inert [keyedSa closedCipher closedMac true]
        [samePlaceDelivery 100, samePlaceDelivery 101]).length = 2
    ∧ ∀ st ∈ runInput .inert [keyedSa closedCipher closedMac true]
        [samePlaceDelivery 100, samePlaceDelivery 101],
      ∃ sa', st.outcome.sas[0]? = some sa' ∧ Unharmed (keyedSa closedCipher closedMac true) sa'
        ∧ (findSa st.before st.delivery.datagram.octets = some 0 →
          ∀ e ∈ st.outcome.effects, permittedEffect (keyedSa closedCipher closedMac true) e) := by
  refine ⟨rfl, forged_run_unharmed .inert _ _ 0 _ rfl (keyedSa_hasRecvKeys _ _ _) ?_ ?_⟩
  · intro d hd
    have hoct : d.datagram.octets = bareInitResponse.octets := by
      rcases List.mem_pair.mp hd with rfl | rfl <;> rfl
    rw [hoct]
    exact bareInitResponse_forged _
  · intro d hd
    rcases List.mem_pair.mp hd with rfl | rfl <;> rfl

end Ikev2
