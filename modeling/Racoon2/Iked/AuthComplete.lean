import Racoon2.Iked.AuthResponder

/-!
# When a responder's authentication is complete

`Complete` is what the configuration of a peer asks for, in terms of the histories of the SA: a
first round verified with a listed method (by the MSK of our own relay if only EAP is listed) for
an identity that `verify_id` allows, and a second round where one is required.

The handlers check different parts of it on different routes.  `requestMeetsPolicy` is what the
peer's request must satisfy where they check too little: the method in AUTH is never compared with
`kmp_auth_method`, the default clause skips `verify_id`, and EAP in the first round skips the
second.

* `Progress`                         the invariant of a run;
* `responderStep_progress`           every event keeps it (the step);
* `responder_authentication_complete`  an SA with a child, or established, is complete (the run).
-/

set_option linter.unusedVariables false

namespace Ikev2
open Bytes

/-! ## what the configuration asks for -/

/-- the signature algorithms of an AUTH method -/
def signatureAlgs (method : UInt8) : List AuthAlg :=
  if method = authRsasig then [.rsasig]
  else if method = authDss then [.dss]
  else if isEcdsaMethod method then [.ecdsa]
  else if method = authDs then [.rsasig, .ecdsa, .eddsa]
  else []

/-- the round used a method of `kmp_auth_method` -/
def roundListed (conf : Remote) (v : VerifiedRound) : Bool :=
  match v.key with
  | .preShared _ => conf.kmpAuthMethod.contains .psk
  | .eapMsk _ => conf.kmpAuthMethod.contains .eap
  | .pinned _ => (signatureAlgs v.method).any conf.kmpAuthMethod.contains
  | .certificate _ _ => (signatureAlgs v.method).any conf.kmpAuthMethod.contains

def namesOnlyEap (conf : Remote) : Bool := conf.kmpAuthMethod.all (· == .eap)

section
variable (c : Crypto)

/-- a first round that satisfies the configuration -/
def firstRoundOk (sa : ResponderSa) : Prop :=
  ∃ v ∈ sa.verified, v.second = false ∧ roundListed sa.conf v = true
    ∧ (namesOnlyEap sa.conf = true → ∃ msk ∈ sa.accepted, v.key = .eapMsk msk)
    ∧ (sa.conf.verifyId = true → peerIdOk c sa.conf.peersId v.id = true)

def secondRoundOk (sa : ResponderSa) : Prop := ∃ v ∈ sa.verified, v.second = true

structure Complete (sa : ResponderSa) : Prop where
  first : firstRoundOk c sa
  second : sa.conf.requiresSecondRound = true → secondRoundOk sa

/-! ## what the peer's request must satisfy -/

/-- the method is listed; a shared key stands for the MSK once there is one -/
def methodListed (conf : Remote) (eapMsk : Option Bytes) (method : UInt8) : Bool :=
  if method = authSharedKey then conf.kmpAuthMethod.contains (if eapMsk.isSome then .eap else .psk)
  else (signatureAlgs method).any conf.kmpAuthMethod.contains

/-- the default clause has a remote for the identity, or does not ask for it to match -/
def defaultClauseOk (env : AuthEnv) (conf : Remote) (id : Ident) : Bool :=
  !conf.isDefault || (confFindById c env.remotes id).isSome || !conf.verifyId
    || peerIdOk c conf.peersId id

/-- a request of the first round: IDi and AUTH, or IDi alone -/
def firstRequestMeetsPolicy (env : AuthEnv) (sa : ResponderSa) (col : Collected) : Bool :=
  match col.idI, col.auth with
  | some id, some auth =>
    methodListed (selectConf c env id sa.conf) sa.eapMsk auth.method
      && defaultClauseOk c env sa.conf id
  | some id, none => !sa.conf.requiresSecondRound
  | none, _ => true

def requestMeetsPolicy (env : AuthEnv) (m : AuthMessage) (sa : ResponderSa) : Bool :=
  if sa.multiAuthRound ≠ 0 then true
  else match sa.state with
    | .resIkeSaInitSent =>
      match (scanRequest m.payloads sa .empty).2 with
      | .fine col => firstRequestMeetsPolicy c env sa col
      | _ => true
    | .resIkeAuthEapFinal =>
      match finalAuth m.payloads with
      | some auth => methodListed sa.conf sa.eapMsk auth.method
      | none => true
    | _ => true

def eventMeetsPolicy (env : AuthEnv) (ev : AuthEvent) (sa : ResponderSa) : Bool :=
  match ev with
  | .message m => requestMeetsPolicy c env m sa
  | _ => true

/-- every event of a run meets the policy in the state it finds -/
def runMeetsPolicy : ResponderSa → List (AuthEnv × AuthEvent) → Prop
  | _, [] => True
  | sa, (env, ev) :: evs =>
    eventMeetsPolicy c env ev sa = true ∧ runMeetsPolicy (responderStep c env ev sa) evs

/-! ## the invariant -/

structure Progress (sa : ResponderSa) : Prop where
  /-- the MSK came from our relay -/
  msk : ∀ msk, sa.eapMsk = some msk → msk ∈ sa.accepted
  /-- before the first round nothing has been achieved -/
  fresh : sa.state = .resIkeSaInitSent → sa.multiAuthRound = 0 →
    sa.children = 0 ∧ sa.verifiedResult ≠ .success ∧ sa.eapRelay = none
  eapStates : sa.state = .resIkeAuthEap ∨ sa.state = .resIkeAuthEapFinal → sa.eapRelay.isSome = true
  /-- EAP in the first round started for an allowed identity, and no second round is required -/
  eapRound : sa.eapRelay.isSome = true → sa.multiAuthRound = 0 →
    sa.conf.requiresSecondRound = false
      ∧ (sa.conf.verifyId = true → ∃ id, sa.idI = some id ∧ peerIdOk c sa.conf.peersId id = true)
  first : sa.verifiedResult = .success ∨ sa.multiAuthRound ≠ 0 → firstRoundOk c sa
  second : sa.state = .resIkeAuthRcvd → sa.multiAuthRound ≠ 0 → secondRoundOk sa
  done : sa.state = .established ∨ sa.children ≠ 0 → Complete c sa

end

section
variable {c : Crypto} {env : AuthEnv} {sa : ResponderSa}

/-- what the invariant reads of an SA -/
def ResponderSa.view (sa : ResponderSa) :=
  (sa.conf, sa.idI, sa.eapMsk, sa.accepted, sa.verified, sa.state, sa.multiAuthRound, sa.children,
    sa.verifiedResult, sa.eapRelay)

theorem Progress.of_view (h : Progress c sa) {sa' : ResponderSa} (hv : sa'.view = sa.view) :
    Progress c sa' := by
  simp only [ResponderSa.view, Prod.mk.injEq] at hv
  obtain ⟨hconf, hid, hmsk, hacc, hver, hstate, hround, hchildren, hresult, hrelay⟩ := hv
  have hfirst : firstRoundOk c sa' = firstRoundOk c sa := by
    unfold firstRoundOk
    rw [hconf, hacc, hver]
  have hsecond : secondRoundOk sa' = secondRoundOk sa := by
    unfold secondRoundOk
    rw [hver]
  refine ⟨?_, ?_, ?_, ?_, ?_, ?_, ?_⟩
  · rw [hmsk, hacc]
    exact h.msk
  · rw [hstate, hround, hchildren, hresult, hrelay]
    exact h.fresh
  · rw [hstate, hrelay]
    exact h.eapStates
  · rw [hrelay, hround, hconf, hid]
    exact h.eapRound
  · rw [hresult, hround, hfirst]
    exact h.first
  · rw [hstate, hround, hsecond]
    exact h.second
  · rw [hstate, hchildren]
    intro hs
    have hc := h.done hs
    refine ⟨?_, ?_⟩
    · rw [hfirst]
      exact hc.first
    · rw [hconf, hsecond]
      exact hc.second

theorem Progress.abort (h : Progress c sa) : Progress c sa.abort where
  msk := h.msk
  fresh := fun hs => absurd hs (by simp [ResponderSa.abort])
  eapStates := fun hs => absurd hs (by simp [ResponderSa.abort])
  eapRound := h.eapRound
  first := h.first
  second := fun hs => absurd hs (by simp [ResponderSa.abort])
  done := fun hs => by
    rcases hs with hs | hs
    · exact absurd hs (by simp [ResponderSa.abort])
    · have hc := h.done (.inr hs)
      exact ⟨hc.first, hc.second⟩

theorem Progress.notifyAbort (h : Progress c sa) : Progress c (notifyAbort env sa) := by
  unfold Ikev2.notifyAbort
  split
  · exact h.abort
  · exact h

/-- a child is added to a complete SA -/
theorem Progress.addChild (h : Progress c sa) (hstate : sa.state = .resIkeAuthRcvd)
    (hc : Complete c sa) : Progress c { sa with children := sa.children + 1 } where
  msk := h.msk
  fresh := fun hs => absurd (hstate.symm.trans hs) (by simp)
  eapStates := h.eapStates
  eapRound := h.eapRound
  first := h.first
  second := h.second
  done := fun _ => ⟨hc.first, hc.second⟩

theorem Progress.establish (h : Progress c sa) (hc : Complete c sa) :
    Progress c { sa with state := .established } where
  msk := h.msk
  fresh := fun hs => absurd hs (by simp)
  eapStates := fun hs => absurd hs (by simp)
  eapRound := h.eapRound
  first := h.first
  second := fun hs => absurd hs (by simp)
  done := fun _ => ⟨hc.first, hc.second⟩

/-! ## the loops over the payloads -/

/-- the loop over a request touches the certificates and one flag -/
theorem scanRequest_frame (ps : List MessagePayload) :
    ∀ (sa : ResponderSa) (col : Collected), ∃ cert extra only,
      (scanRequest ps sa col).1
        = { sa with peerCert := cert, peerCertExtra := extra, eapOnly := only } := by
  induction ps with
  | nil =>
    intro sa col
    exact ⟨sa.peerCert, sa.peerCertExtra, sa.eapOnly, rfl⟩
  | cons p ps ih =>
    intro sa col
    have hsame : ∃ cert extra only, sa
        = { sa with peerCert := cert, peerCertExtra := extra, eapOnly := only } :=
      ⟨sa.peerCert, sa.peerCertExtra, sa.eapOnly, rfl⟩
    cases p with
    | encrypted => exact ih sa col
    | certreq => exact ih sa col
    | vendorId => exact ih sa col
    | config o => exact ih sa col
    | eap packet => exact hsame
    | cert encoding data =>
      obtain ⟨cert, extra, hcap⟩ := captureCert_frame sa.toAuthInput encoding data
      obtain ⟨cert', extra', only', h⟩ :=
        ih { sa with toAuthInput := sa.captureCert encoding data } col
      refine ⟨cert', extra', only', ?_⟩
      show (scanRequest ps { sa with toAuthInput := sa.captureCert encoding data } col).1 = _
      rw [h, hcap]
    | notify type data =>
      obtain ⟨cert', extra', only', h⟩ := ih (if type = notifyEapOnlyAuthentication
        ∧ eapRemote sa.conf = true then { sa with eapOnly := true } else sa) col
      refine ⟨cert', extra', only', ?_⟩
      show (scanRequest ps _ col).1 = _
      rw [h]
      split <;> rfl
    | other type critical =>
      unfold scanRequest
      split
      · exact hsame
      · exact ih sa col
    | idI id =>
      unfold scanRequest
      split
      · exact hsame
      · exact ih sa _
    | idR id =>
      unfold scanRequest
      split
      · exact hsame
      · exact ih sa _
    | auth a =>
      unfold scanRequest
      split
      · exact hsame
      · exact ih sa _
    | sa o =>
      unfold scanRequest
      split
      · exact hsame
      · exact ih sa _
    | tsI o =>
      unfold scanRequest
      split
      · exact hsame
      · exact ih sa _
    | tsR o =>
      unfold scanRequest
      split
      · exact hsame
      · exact ih sa _

theorem recvNotifies_frame (env : AuthEnv) (ps : List MessagePayload) :
    ∀ (sa : ResponderSa), ∃ ppk multi another, (recvNotifies env ps sa).1
      = { sa with peerPpkIdentityOk := ppk, peerMultiAuth := multi, peerAnotherAuth := another } := by
  induction ps with
  | nil =>
    intro sa
    exact ⟨sa.peerPpkIdentityOk, sa.peerMultiAuth, sa.peerAnotherAuth, rfl⟩
  | cons p ps ih =>
    intro sa
    cases p with
    | notify type data =>
      unfold recvNotifies
      split
      · obtain ⟨ppk, multi, another, h⟩ := ih { sa with peerPpkIdentityOk := _ }
        exact ⟨ppk, multi, another, h⟩
      · split
        · obtain ⟨ppk, multi, another, h⟩ := ih { sa with peerMultiAuth := _ }
          exact ⟨ppk, multi, another, h⟩
        · split
          · obtain ⟨ppk, multi, another, h⟩ := ih { sa with peerAnotherAuth := _ }
            exact ⟨ppk, multi, another, h⟩
          · split
            · exact ⟨sa.peerPpkIdentityOk, sa.peerMultiAuth, sa.peerAnotherAuth, rfl⟩
            · exact ih sa
    | encrypted => exact ih sa
    | idI id => exact ih sa
    | idR id => exact ih sa
    | cert encoding data => exact ih sa
    | certreq => exact ih sa
    | auth a => exact ih sa
    | sa o => exact ih sa
    | tsI o => exact ih sa
    | tsR o => exact ih sa
    | vendorId => exact ih sa
    | config o => exact ih sa
    | eap packet => exact ih sa
    | other type critical => exact ih sa

/-! ## after AUTH verified -/

theorem responderEapAuthSend_cases (env : AuthEnv) (hasEap : Bool) (sa : ResponderSa) :
    (responderEapAuthSend env hasEap sa).1.view = sa.view
      ∨ responderEapAuthSend env hasEap sa = (sa.abort, false) := by
  unfold responderEapAuthSend
  split
  · exact .inl rfl
  · split
    · exact .inr rfl
    · split
      · exact .inl rfl
      · exact .inr rfl

theorem responderEapAuthSend_progress (h : Progress c sa) (env : AuthEnv) (hasEap : Bool) :
    Progress c (responderEapAuthSend env hasEap sa).1 := by
  rcases responderEapAuthSend_cases env hasEap sa with hv | ha
  · exact h.of_view hv
  · rw [ha]
    exact h.abort

theorem createChild_progress (h : Progress c sa) (hstate : sa.state = .resIkeAuthRcvd)
    (hc : Complete c sa) : Progress c (createChild env sa) := by
  unfold createChild
  split
  · exact h.addChild hstate hc
  · exact h.notifyAbort

theorem finishAuth_progress (h : Progress c sa) (hstate : sa.state = .resIkeAuthRcvd)
    (hc : Complete c sa) (saI2 tsI tsR cfg : Option Bytes) :
    Progress c (finishAuth env saI2 tsI tsR cfg sa) := by
  unfold finishAuth
  split
  · split
    · exact h.notifyAbort
    · split
      · exact h.notifyAbort
      · split
        · exact h.establish hc
        · exact h.notifyAbort
  · split
    · exact h.notifyAbort
    · split
      · exact h.notifyAbort
      · exact createChild_progress h hstate hc

/-- the first round of two: back to the state before it, with its result kept -/
theorem Progress.nextRound (h : Progress c sa) (hfirst : firstRoundOk c sa) :
    Progress c { sa with
      multiAuthRound := 1, peerAnotherAuth := false, state := .resIkeSaInitSent } where
  msk := h.msk
  fresh := fun _ hround => absurd hround (by simp)
  eapStates := fun hs => absurd hs (by simp)
  eapRound := fun _ hround => absurd hround (by simp)
  first := fun _ => hfirst
  second := fun hs => absurd hs (by simp)
  done := fun hs => by
    rcases hs with hs | hs
    · exact absurd hs (by simp)
    · have hc := h.done (.inr hs)
      exact ⟨hc.first, hc.second⟩

theorem multiAuthRound1_progress (h : Progress c sa) (hfirst : firstRoundOk c sa) (env : AuthEnv)
    (saI2 tsI tsR : Option Bytes) : Progress c (multiAuthRound1 env saI2 tsI tsR sa).1 := by
  unfold multiAuthRound1
  split
  · exact h
  · have h0 : Progress c { sa with
        eapSaI2 := saI2, eapTsI := tsI, eapTsR := tsR, peerCert := none, peerCertExtra := [] } :=
      h.of_view rfl
    have h1 := responderEapAuthSend_progress h0 env false
    rcases responderEapAuthSend_cases env false { sa with
        eapSaI2 := saI2, eapTsI := tsI, eapTsR := tsR, peerCert := none, peerCertExtra := [] }
      with hv | ha
    · have hf : firstRoundOk c (responderEapAuthSend env false { sa with
          eapSaI2 := saI2, eapTsI := tsI, eapTsR := tsR, peerCert := none
          peerCertExtra := [] }).1 := by
        simp only [ResponderSa.view, Prod.mk.injEq] at hv
        obtain ⟨hconf, _, _, hacc, hver, _⟩ := hv
        unfold firstRoundOk
        rw [hconf, hacc, hver]
        exact hfirst
      simp only
      split
      · exact h1
      · exact h1.nextRound hf
    · simp only [ha]
      exact h0.abort

theorem multiAuthDecide_single {cfg_on peer_supported another can_second required : Bool}
    {round : Nat}
    (h : multiAuthDecide cfg_on peer_supported another can_second required round = .single)
    (hreq : (cfg_on && required) = true) : round ≠ 0 := by
  rw [Bool.and_eq_true] at hreq
  unfold multiAuthDecide at h
  rw [hreq.1, hreq.2] at h
  intro hround
  rw [hround] at h
  cases another <;> cases peer_supported <;> cases can_second <;> exact absurd h (by decide)

theorem decideRounds_progress (h : Progress c sa) (hstate : sa.state = .resIkeAuthRcvd)
    (hfirst : firstRoundOk c sa) (payloads : List MessagePayload) :
    Progress c (decideRounds env payloads sa) := by
  unfold decideRounds
  simp only
  split
  · rename_i hdec
    refine finishAuth_progress h hstate ⟨hfirst, ?_⟩ _ _ _ _
    intro hreq
    exact h.second hstate (multiAuthDecide_single hdec hreq)
  · have h1 := multiAuthRound1_progress h hfirst env (lastOf MessagePayload.sa? payloads)
      (lastOf MessagePayload.tsI? payloads) (lastOf MessagePayload.tsR? payloads)
    split
    · exact h1
    · exact h1.notifyAbort
  · exact h.notifyAbort

/-- `responder_ike_sa_auth_cont`, in the state it runs in -/
theorem responderAuthCont_progress (h : Progress c sa) (hstate : sa.state = .resIkeAuthRcvd)
    {result : VerifyResult} (hres : result = .success → sa.verifiedResult = .success)
    (payloads : List MessagePayload) : Progress c (responderAuthCont c env result payloads sa) := by
  unfold responderAuthCont
  cases result with
  | waiting => exact h
  | failure => exact h.notifyAbort
  | success =>
    have hfirst := h.first (.inl (hres rfl))
    simp only
    split
    · have h1 : Progress c { sa with verifiedResult := .failure } :=
        { msk := h.msk, fresh := fun hs => absurd (hstate.symm.trans hs) (by simp)
          eapStates := h.eapStates, eapRound := h.eapRound, first := fun _ => hfirst
          second := h.second
          done := fun hs => ⟨(h.done hs).first, (h.done hs).second⟩ }
      exact h1.notifyAbort
    · obtain ⟨ppk, multi, another, hframe⟩ := recvNotifies_frame env payloads sa
      have h1 : Progress c (recvNotifies env payloads sa).1 := by
        rw [hframe]
        exact h.of_view rfl
      have hstate1 : (recvNotifies env payloads sa).1.state = .resIkeAuthRcvd := by
        rw [hframe]
        exact hstate
      have hfirst1 : firstRoundOk c (recvNotifies env payloads sa).1 := by
        rw [hframe]
        exact hfirst
      split
      · exact h1.notifyAbort
      · split
        · exact h1.notifyAbort
        · exact decideRounds_progress h1 hstate1 hfirst1 payloads

/-! ## the key of a verified round -/

theorem peerPublicKey_some {input : AuthInput} {key : KeySource}
    (h : peerPublicKey c input = some key) :
    (∃ k, key = .pinned k) ∨ ∃ leaf k, key = .certificate leaf k := by
  unfold peerPublicKey at h
  split at h
  · obtain ⟨leaf, pub, _, hkey, _⟩ := publicKeyFromWire_some h
    exact .inr ⟨leaf, pub, hkey⟩
  · obtain ⟨k, _, hkey⟩ := Option.map_eq_some_iff.mp h
    exact .inl ⟨k, hkey.symm⟩

theorem authVerify_listed {input : AuthInput} {auth : AuthPayload} {key : KeySource}
    (h : authVerify c input true auth = some key)
    (hl : methodListed input.conf input.eapMsk auth.method = true) (id : Ident) (second : Bool) :
    roundListed input.conf ⟨auth.method, key, id, second⟩ = true := by
  obtain ⟨⟨octets, hm⟩, _⟩ := authVerify_some h
  unfold methodListed at hl
  rcases methodVerify_key hm with ⟨hshared, hkey⟩ | ⟨hsig, hkey⟩
  · rw [if_pos hshared] at hl
    rcases authSharedSecret_some hkey with ⟨msk, hmsk, rfl⟩ | ⟨psk, hnone, _, rfl⟩
    · rw [hmsk] at hl
      exact hl
    · rw [hnone] at hl
      exact hl
  · rw [if_neg hsig] at hl
    rcases peerPublicKey_some hkey with ⟨k, rfl⟩ | ⟨leaf, k, rfl⟩
    · exact hl
    · exact hl

theorem signatureAlgs_not_eap {method : UInt8} {alg : AuthAlg} (h : alg ∈ signatureAlgs method) :
    alg ≠ .eap := by
  unfold signatureAlgs at h
  rintro rfl
  repeat' split at h
  all_goals exact absurd h (by decide)

/-- only the MSK is listed where only EAP is -/
theorem roundListed_onlyEap {conf : Remote} {v : VerifiedRound} (hl : roundListed conf v = true)
    (ho : namesOnlyEap conf = true) : ∃ msk, v.key = .eapMsk msk := by
  have hall : ∀ alg, conf.kmpAuthMethod.contains alg = true → alg = .eap := by
    intro alg halg
    have hmem : alg ∈ conf.kmpAuthMethod := by simpa using halg
    unfold namesOnlyEap at ho
    rw [List.all_eq_true] at ho
    simpa using ho alg hmem
  have hsig : (signatureAlgs v.method).any conf.kmpAuthMethod.contains = true → False := by
    intro hany
    obtain ⟨alg, hmem, hcon⟩ := List.any_eq_true.mp hany
    exact signatureAlgs_not_eap hmem (hall alg hcon)
  unfold roundListed at hl
  cases hk : v.key with
  | eapMsk msk => exact ⟨msk, rfl⟩
  | preShared k =>
    rw [hk] at hl
    exact absurd (hall .psk hl) (by decide)
  | pinned k =>
    rw [hk] at hl
    exact absurd hl fun hl => hsig hl
  | certificate leaf k =>
    rw [hk] at hl
    exact absurd hl fun hl => hsig hl

/-- the MSK is the key only if the SA has it -/
theorem authVerify_msk {input : AuthInput} {auth : AuthPayload} {msk : Bytes}
    (h : authVerify c input true auth = some (.eapMsk msk)) : input.eapMsk = some msk := by
  obtain ⟨⟨octets, hm⟩, _⟩ := authVerify_some h
  rcases methodVerify_key hm with ⟨_, hkey⟩ | ⟨_, hkey⟩
  · rcases authSharedSecret_some hkey with ⟨msk', hmsk, heq⟩ | ⟨psk, _, _, heq⟩
    · rw [KeySource.eapMsk.inj heq]
      exact hmsk
    · exact absurd heq (by simp)
  · rcases peerPublicKey_some hkey with ⟨k, heq⟩ | ⟨leaf, k, heq⟩
    · exact absurd heq (by simp)
    · exact absurd heq (by simp)

/-- a listed AUTH for an allowed identity is a first round -/
theorem firstRoundOk_of_verify {auth : AuthPayload} {key : KeySource} {id : Ident}
    (hmsk : ∀ msk, sa.eapMsk = some msk → msk ∈ sa.accepted)
    (hv : authVerify c sa.toAuthInput true auth = some key)
    (hl : methodListed sa.conf sa.eapMsk auth.method = true)
    (hid : sa.conf.verifyId = true → peerIdOk c sa.conf.peersId id = true)
    {sa' : ResponderSa} (hconf : sa'.conf = sa.conf) (hacc : sa'.accepted = sa.accepted)
    (hmem : ⟨auth.method, key, id, false⟩ ∈ sa'.verified) : firstRoundOk c sa' := by
  have hlisted := authVerify_listed hv hl id false
  refine ⟨⟨auth.method, key, id, false⟩, hmem, rfl, ?_, ?_, ?_⟩
  · rw [hconf]
    exact hlisted
  · intro ho
    rw [hconf] at ho
    obtain ⟨msk, hkey⟩ := roundListed_onlyEap hlisted ho
    have hkey : key = .eapMsk msk := hkey
    rw [hkey] at hv
    rw [hacc]
    exact ⟨msk, hmsk msk (authVerify_msk hv), hkey⟩
  · rw [hconf]
    exact hid

/-! ## the first request of a round -/

theorem verifyPlain_progress {id : Ident} {auth : AuthPayload} (payloads : List MessagePayload)
    (hmsk : ∀ msk, sa.eapMsk = some msk → msk ∈ sa.accepted) (hround : sa.multiAuthRound = 0)
    (hchildren : sa.children = 0) (hrelay : sa.eapRelay = none)
    (hl : methodListed sa.conf sa.eapMsk auth.method = true)
    (hid : sa.conf.verifyId = true → peerIdOk c sa.conf.peersId id = true) :
    Progress c (verifyPlain c env id auth payloads sa) := by
  -- both ends of the verification, before the callback
  have hstart : ∀ (result : VerifyResult) (verified : List VerifiedRound),
      (result = .success → firstRoundOk c { sa with
        state := .resIkeAuthRcvd, verifiedResult := result, verified := verified }) →
      Progress c { sa with
        state := .resIkeAuthRcvd, verifiedResult := result, verified := verified } := by
    intro result verified hfirst
    refine ⟨hmsk, fun hs => absurd hs (by simp), fun hs => absurd hs (by simp), ?_, ?_, ?_, ?_⟩
    · intro hsome
      rw [hrelay] at hsome
      exact absurd hsome (by simp)
    · rintro (hres | hne)
      · exact hfirst hres
      · exact absurd hround hne
    · intro _ hne
      exact absurd hround hne
    · rintro (hs | hne)
      · exact absurd hs (by simp)
      · exact absurd hchildren hne
  unfold verifyPlain
  cases hv : authVerify c sa.toAuthInput true auth with
  | none =>
    exact responderAuthCont_progress (hstart .failure sa.verified (by simp)) rfl (by simp) payloads
  | some key =>
    refine responderAuthCont_progress (hstart .success _ ?_) rfl (fun _ => rfl) payloads
    intro _
    exact firstRoundOk_of_verify hmsk hv hl hid rfl rfl (by simp)

/-- the identity is allowed by the configuration that is selected for it -/
theorem selectConf_allows {id : Ident} {conf : Remote}
    (hd : conf.isDefault = true) (hok : defaultClauseOk c env conf id = true) :
    (selectConf c env id conf).verifyId = true →
      peerIdOk c (selectConf c env id conf).peersId id = true := by
  intro hver
  unfold defaultClauseOk at hok
  unfold selectConf at hver ⊢
  rw [if_pos hd] at hver ⊢
  cases hf : confFindById c env.remotes id with
  | some found =>
    have hfound := List.find?_some (p := fun conf : Remote => peerIdOk c conf.peersId id) hf
    exact hfound
  | none =>
    rw [hf] at hver hok
    have hver : conf.verifyId = true := hver
    rw [hd, hver] at hok
    simpa using hok

/-- a request that changes the identity before the first round -/
theorem Progress.setId (h : Progress c sa) (hs : sa.state = .resIkeSaInitSent)
    (hround : sa.multiAuthRound = 0) (id : Ident) : Progress c { sa with idI := some id } := by
  obtain ⟨hchildren, hres, hrelay⟩ := h.fresh hs hround
  refine ⟨h.msk, h.fresh, h.eapStates, ?_, h.first, h.second, ?_⟩
  · intro hsome
    rw [hrelay] at hsome
    exact absurd hsome (by simp)
  · intro hd
    have hc := h.done hd
    exact ⟨hc.first, hc.second⟩

theorem plainAuth_progress (h : Progress c sa) (hs : sa.state = .resIkeSaInitSent)
    (hround : sa.multiAuthRound = 0) {id : Ident} {auth : AuthPayload}
    (payloads : List MessagePayload)
    (hl : methodListed (selectConf c env id sa.conf) sa.eapMsk auth.method = true)
    (hd : defaultClauseOk c env sa.conf id = true) :
    Progress c (plainAuth c env id auth payloads sa) := by
  obtain ⟨hchildren, _, hrelay⟩ := h.fresh hs hround
  have hid := h.setId hs hround id
  unfold plainAuth
  split
  · rename_i hdef
    exact verifyPlain_progress payloads h.msk hround hchildren hrelay hl (selectConf_allows hdef hd)
  · rename_i hdef
    have hconf : selectConf c env id sa.conf = sa.conf := by
      unfold selectConf
      rw [if_neg hdef]
    rw [hconf] at hl
    split
    · split
      · exact hid
      · split
        · exact hid.notifyAbort
        · rename_i hok
          exact verifyPlain_progress payloads h.msk hround hchildren hrelay hl
            (fun _ => by simpa using hok)
    · rename_i hver
      exact verifyPlain_progress payloads h.msk hround hchildren hrelay hl
        (fun hv => absurd hv hver)

/-- the relay starts; in the first round no second one is required -/
theorem Progress.startRelay (h : Progress c sa) (hs : sa.state = .resIkeSaInitSent) {id : Ident}
    (hreq : sa.multiAuthRound = 0 → sa.conf.requiresSecondRound = false)
    (hid : sa.conf.verifyId = true → peerIdOk c sa.conf.peersId id = true)
    (relay : Relay) (saI2 tsI tsR : Option Bytes) :
    Progress c { sa with
      idI := some id, eapRelay := some relay, eapSaI2 := saI2, eapTsI := tsI, eapTsR := tsR
      state := .resIkeAuthEap } := by
  refine ⟨h.msk, fun hs => absurd hs (by simp), fun _ => rfl, ?_, h.first,
    fun hs => absurd hs (by simp), ?_⟩
  · intro _ hround
    exact ⟨hreq hround, fun hver => ⟨id, rfl, hid hver⟩⟩
  · rintro (hst | hne)
    · exact absurd hst (by simp)
    · have hc := h.done (.inr hne)
      exact ⟨hc.first, hc.second⟩

theorem eapStart_progress (h : Progress c sa) (hs : sa.state = .resIkeSaInitSent) (id : Ident)
    (col : Collected) (hreq : sa.multiAuthRound = 0 → sa.conf.requiresSecondRound = false) :
    Progress c (eapStart c env id col sa) := by
  unfold eapStart
  split
  · exact h.notifyAbort
  · simp only
    split
    · refine Progress.abort ⟨h.msk, ?_, ?_, ?_, h.first, h.second, ?_⟩
      · intro _ hround
        obtain ⟨hchildren, hres, _⟩ := h.fresh hs hround
        exact ⟨hchildren, hres, rfl⟩
      · rintro (hst | hst) <;> exact absurd (hs.symm.trans hst) (by simp)
      · intro hsome
        exact absurd hsome (by simp)
      · intro hd
        have hc := h.done hd
        exact ⟨hc.first, hc.second⟩
    · rename_i hok
      have hid : sa.conf.verifyId = true → peerIdOk c sa.conf.peersId id = true := by
        intro hver
        rw [Bool.and_eq_true, not_and] at hok
        simpa using hok hver
      have hstart := h.startRelay hs hreq hid ⟨false, some eapIdentityRequest⟩
        (col.sa.or sa.eapSaI2) (col.tsI.or sa.eapTsI) (col.tsR.or sa.eapTsR)
      split
      · exact hstart
      · exact responderEapAuthSend_progress hstart env true

/-- the second round: its AUTH verified, the child is built -/
theorem multiAuthRound2_progress (h : Progress c sa) (hround : sa.multiAuthRound ≠ 0) (id : Ident)
    (auth : AuthPayload) : Progress c (multiAuthRound2 c env id auth sa) := by
  unfold multiAuthRound2
  split
  · exact h.abort
  · split
    · exact h.abort
    · rename_i key hv
      obtain ⟨v, hmem, hv1, hv2, hv3, hv4⟩ := h.first (.inr hround)
      have hfirst : ∀ sa' : ResponderSa, sa'.conf = sa.conf → sa'.accepted = sa.accepted →
          sa'.verified = sa.verified ++ [⟨auth.method, key, id, true⟩] → firstRoundOk c sa' := by
        intro sa' hconf hacc hver
        refine ⟨v, ?_, hv1, ?_, ?_, ?_⟩
        · rw [hver]
          exact List.mem_append_left _ hmem
        · rw [hconf]
          exact hv2
        · rw [hconf, hacc]
          exact hv3
        · rw [hconf]
          exact hv4
      have hsecond : ∀ sa' : ResponderSa,
          sa'.verified = sa.verified ++ [⟨auth.method, key, id, true⟩] → secondRoundOk sa' := by
        intro sa' hver
        refine ⟨⟨auth.method, key, id, true⟩, ?_, rfl⟩
        rw [hver]
        exact List.mem_append_right _ (List.mem_singleton.mpr rfl)
      have hnext : Progress c { sa with
          verified := sa.verified ++ [⟨auth.method, key, id, true⟩], multiAuthRound := 2
          state := .resIkeAuthRcvd, eapSaI2 := none, eapTsI := none, eapTsR := none } := by
        refine ⟨h.msk, fun hs => absurd hs (by simp), fun hs => absurd hs (by simp), ?_, ?_, ?_, ?_⟩
        · intro _ hr
          exact absurd hr (by simp)
        · intro _
          exact hfirst _ rfl rfl rfl
        · intro _ _
          exact hsecond _ rfl
        · intro _
          exact ⟨hfirst _ rfl rfl rfl, fun _ => hsecond _ rfl⟩
      simp only
      split
      · exact hnext.addChild rfl ⟨hfirst _ rfl rfl rfl, fun _ => hsecond _ rfl⟩
      · exact hnext.abort

theorem responderAuthRecv0_progress (h : Progress c sa) (hs : sa.state = .resIkeSaInitSent)
    (m : AuthMessage) (hpol : requestMeetsPolicy c env m sa = true) :
    Progress c (responderAuthRecv0 c env m sa) := by
  unfold responderAuthRecv0
  split
  · exact h
  · split
    · exact h
    · obtain ⟨cert, extra, only, hframe⟩ := scanRequest_frame m.payloads sa .empty
      unfold requestMeetsPolicy at hpol
      rw [hs] at hpol
      simp only at hpol
      cases hscan : scanRequest m.payloads sa .empty with
      | mk sa1 scanned =>
        rw [hscan] at hframe hpol
        simp only at hframe hpol ⊢
        have h1 : Progress c sa1 := by
          rw [hframe]
          exact h.of_view rfl
        have hs1 : sa1.state = .resIkeSaInitSent := by rw [hframe]; exact hs
        have hround1 : sa1.multiAuthRound = sa.multiAuthRound := by rw [hframe]
        have hconf1 : sa1.conf = sa.conf := by rw [hframe]
        have hmsk1 : sa1.eapMsk = sa.eapMsk := by rw [hframe]
        cases scanned with
        | duplicate => exact h1.notifyAbort
        | critical type => exact h1.notifyAbort
        | fine col =>
          simp only at hpol ⊢
          unfold firstRequestMeetsPolicy at hpol
          cases hi : col.idI with
          | none => exact h1.notifyAbort
          | some id =>
            cases ha : col.auth with
            | none =>
              simp only
              split
              · refine eapStart_progress h1 hs1 id col ?_
                intro hr
                rw [hround1] at hr
                rw [hr, hi, ha] at hpol
                rw [hconf1]
                simpa using hpol
              · exact h1.notifyAbort
            | some auth =>
              simp only
              split
              · rename_i hr
                split
                · exact multiAuthRound2_progress h1 hr id auth
                · exact h1.notifyAbort
              · rename_i hr
                have hr : sa1.multiAuthRound = 0 := by simpa using hr
                have hr0 : sa.multiAuthRound = 0 := hround1 ▸ hr
                rw [hr0, hi, ha] at hpol
                simp only [ne_eq, not_true_eq_false, if_false, Bool.and_eq_true] at hpol
                refine plainAuth_progress h1 hs1 hr m.payloads ?_ ?_
                · rw [hconf1, hmsk1]
                  exact hpol.1
                · rw [hconf1]
                  exact hpol.2

/-! ## EAP -/

/-- the EAP exchange is over, one way or another -/
theorem Progress.eapFinal (h : Progress c sa) (hrelay : sa.eapRelay.isSome = true) :
    Progress c { sa with state := .resIkeAuthEapFinal } := by
  refine ⟨h.msk, fun hs => absurd hs (by simp), fun _ => hrelay, h.eapRound, h.first,
    fun hs => absurd hs (by simp), ?_⟩
  rintro (hs | hne)
  · exact absurd hs (by simp)
  · have hc := h.done (.inr hne)
    exact ⟨hc.first, hc.second⟩

theorem eapSubmit_progress (h : Progress c sa) (hrelay : sa.eapRelay.isSome = true)
    (packet : Bytes) : Progress c (eapRecv.submit env sa packet) := by
  unfold eapRecv.submit
  split
  · split
    · exact h.eapFinal hrelay
    · exact h
  · split
    · exact h.abort
    · split
      · exact h
      · split
        · exact h.abort
        · exact h.of_view rfl

theorem eapRecv_progress (h : Progress c sa) (hs : sa.state = .resIkeAuthEap) (m : AuthMessage) :
    Progress c (eapRecv env m sa) := by
  have hrelay := h.eapStates (.inl hs)
  unfold eapRecv
  split
  · split
    · split
      · exact h
      · exact eapSubmit_progress h hrelay _
    · exact eapSubmit_progress h hrelay _
  · exact h.abort

/-- the relay moves on and may bring the MSK -/
theorem Progress.relayed (h : Progress c sa) (relay : Relay) (hrelay : sa.eapRelay.isSome = true)
    {msk : Option Bytes} {accepted : List Bytes} (hsub : sa.accepted ⊆ accepted)
    (hmsk : ∀ k, msk = some k → k ∈ accepted) :
    Progress c { sa with
      eapRoundInFlight := false, eapRelay := some relay, eapMsk := msk, accepted := accepted } := by
  have hfirst : firstRoundOk c sa → firstRoundOk c { sa with
      eapRoundInFlight := false, eapRelay := some relay, eapMsk := msk, accepted := accepted } := by
    rintro ⟨v, hmem, h1, h2, h3, h4⟩
    refine ⟨v, hmem, h1, h2, ?_, h4⟩
    intro ho
    obtain ⟨k, hk, hkey⟩ := h3 ho
    exact ⟨k, hsub hk, hkey⟩
  refine ⟨hmsk, ?_, fun _ => rfl, fun _ => h.eapRound hrelay, fun hr => hfirst (h.first hr),
    h.second, fun hd => ⟨hfirst (h.done hd).first, (h.done hd).second⟩⟩
  intro hs hround
  obtain ⟨_, _, hnone⟩ := h.fresh hs hround
  rw [hnone] at hrelay
  exact absurd hrelay (by simp)

theorem eapResume_progress (h : Progress c sa) (reply : RadiusReply) :
    Progress c (eapResume env reply sa) := by
  have hfail : Progress c { sa with eapRoundInFlight := false }.abort :=
    Progress.abort (h.of_view rfl)
  unfold eapResume
  split
  · exact h
  · split
    · rename_i pending eap hrelay
      exact h.relayed _ (by rw [hrelay]; rfl) (List.Subset.refl _) h.msk
    · rename_i pending msk hrelay
      have hsub : sa.accepted ⊆ sa.accepted ++ [msk] := List.subset_append_left _ _
      have hnew : ∀ k, some msk = some k → k ∈ sa.accepted ++ [msk] := by
        intro k hk
        rw [← Option.some.inj hk]
        exact List.mem_append_right _ (List.mem_singleton.mpr rfl)
      have hacc := h.relayed ⟨true, none⟩ (by rw [hrelay]; rfl) hsub hnew
      simp only
      split
      · exact hacc.abort
      · split
        · exact hacc.eapFinal rfl
        · exact hacc
    · exact hfail

/-- The SA with the final AUTH of the EAP route recorded is complete: it is the second round, or the
only one. -/
theorem Progress.finalComplete (h : Progress c sa) (hs : sa.state = .resIkeAuthEapFinal)
    {m : AuthMessage} (hpol : requestMeetsPolicy c env m sa = true) {auth : AuthPayload}
    {key : KeySource} {id : Ident} (hauth : finalAuth m.payloads = some auth)
    (hidI : sa.idI = some id) (hv : authVerify c sa.toAuthInput true auth = some key) :
    Complete c { sa with verified := sa.verified
      ++ [VerifiedRound.mk auth.method key id (sa.multiAuthRound != 0)] } := by
  have hmem : VerifiedRound.mk auth.method key id (sa.multiAuthRound != 0)
      ∈ sa.verified ++ [VerifiedRound.mk auth.method key id (sa.multiAuthRound != 0)] :=
    List.mem_append_right _ (List.mem_singleton.mpr rfl)
  by_cases hround : sa.multiAuthRound = 0
  · obtain ⟨hreq, hident⟩ := h.eapRound (h.eapStates (.inr hs)) hround
    unfold requestMeetsPolicy at hpol
    rw [hs, hround, hauth] at hpol
    simp only [ne_eq, not_true_eq_false, if_false] at hpol
    have hid : sa.conf.verifyId = true → peerIdOk c sa.conf.peersId id = true := by
      intro hverify
      obtain ⟨id', hid', hok⟩ := hident hverify
      rw [hidI] at hid'
      rw [Option.some.inj hid']
      exact hok
    rw [hround] at hmem ⊢
    refine ⟨firstRoundOk_of_verify h.msk hv hpol hid rfl rfl hmem, ?_⟩
    intro hsecond
    exact absurd (hreq.symm.trans hsecond) (by simp)
  · obtain ⟨v, hvmem, h1, h2, h3, h4⟩ := h.first (.inr hround)
    refine ⟨⟨v, List.mem_append_left _ hvmem, h1, h2, h3, h4⟩, fun _ => ⟨_, hmem, ?_⟩⟩
    simpa using hround

/-- a complete SA goes on to any later state -/
theorem Progress.recorded (h : Progress c sa) {v : VerifiedRound}
    (hv : v.second = (sa.multiAuthRound != 0))
    (hdone : Complete c { sa with verified := sa.verified ++ [v] }) (st : State)
    (hst : st ≠ .resIkeSaInitSent)
    (hrelay : st = .resIkeAuthEap ∨ st = .resIkeAuthEapFinal → sa.eapRelay.isSome = true) :
    Progress c { sa with verified := sa.verified ++ [v], state := st } := by
  refine ⟨h.msk, fun hs => absurd hs hst, hrelay, h.eapRound, fun _ => hdone.first, ?_,
    fun _ => ⟨hdone.first, hdone.second⟩⟩
  intro _ hne
  refine ⟨v, List.mem_append_right _ (List.mem_singleton.mpr rfl), ?_⟩
  rw [hv]
  simpa using hne

/-- the final AUTH of the EAP route, in either round -/
theorem eapFinalRecv_progress (h : Progress c sa) (hs : sa.state = .resIkeAuthEapFinal)
    (m : AuthMessage) (hpol : requestMeetsPolicy c env m sa = true) :
    Progress c (eapFinalRecv c env m sa) := by
  have hrelay := h.eapStates (.inr hs)
  unfold eapFinalRecv
  split
  · rename_i auth id hauth hidI
    split
    · exact h.abort
    · split
      · exact h.abort
      · rename_i key hv
        have hdone := h.finalComplete hs hpol hauth hidI hv
        have hhere := h.recorded rfl hdone sa.state (by rw [hs]; simp) (fun _ => hrelay)
        have hrcvd := h.recorded rfl hdone .resIkeAuthRcvd (by simp) (by simp)
        simp only
        split
        · exact hhere.abort
        · split
          · have hchild := hrcvd.addChild rfl ⟨hdone.first, hdone.second⟩
            exact hchild.of_view rfl
          · exact hrcvd.abort
  · exact h.abort

end

/-! ## the step and the run -/

theorem responderStep_progress (c : Crypto) (env : AuthEnv) (ev : AuthEvent) (sa : ResponderSa)
    (h : Progress c sa) (hpol : eventMeetsPolicy c env ev sa = true) :
    Progress c (responderStep c env ev sa) := by
  cases ev with
  | message m =>
    unfold responderStep
    simp only
    split
    · rename_i hs
      exact responderAuthRecv0_progress h hs m hpol
    · rename_i hs
      exact responderAuthCont_progress h hs (fun hres => hres) m.payloads
    · rename_i hs
      exact eapRecv_progress h hs m
    · rename_i hs
      exact eapFinalRecv_progress h hs m hpol
    · exact h
  | radius reply => exact eapResume_progress h reply
  | rekeyed skPI skPR intAuth =>
    unfold responderStep
    simp only
    split
    · exact h.of_view rfl
    · exact h
  | childMature =>
    unfold responderStep
    simp only
    split
    · rename_i hs
      exact h.establish (h.done (.inr hs.2))
    · exact h

theorem ResponderSa.Fresh.progress {c : Crypto} {sa : ResponderSa} (h : sa.Fresh) :
    Progress c sa := by
  refine ⟨?_, ?_, ?_, ?_, ?_, ?_, ?_⟩
  · intro msk hmsk
    rw [h.eapMsk] at hmsk
    exact absurd hmsk (by simp)
  · intro _ _
    refine ⟨h.children, ?_, h.eapRelay⟩
    rw [h.verifiedResult]
    simp
  · rintro (hs | hs) <;> exact absurd (h.state.symm.trans hs) (by simp)
  · intro hrelay
    rw [h.eapRelay] at hrelay
    exact absurd hrelay (by simp)
  · rintro (hres | hround)
    · rw [h.verifiedResult] at hres
      exact absurd hres (by simp)
    · exact absurd h.multiAuthRound hround
  · intro hs
    exact absurd (h.state.symm.trans hs) (by simp)
  · rintro (hs | hne)
    · exact absurd (h.state.symm.trans hs) (by simp)
    · exact absurd h.children hne

theorem responderRun_progress (c : Crypto) (evs : List (AuthEnv × AuthEvent)) :
    ∀ (sa : ResponderSa), Progress c sa → runMeetsPolicy c sa evs →
      ∀ sa' ∈ responderRun c sa evs, Progress c sa' := by
  induction evs with
  | nil =>
    intro sa h _ sa' hmem
    rw [List.mem_singleton.mp hmem]
    exact h
  | cons head evs ih =>
    obtain ⟨env, ev⟩ := head
    intro sa h hpol sa' hmem
    rw [responderRun, List.mem_cons] at hmem
    rcases hmem with rfl | hmem
    · exact h
    · exact ih _ (responderStep_progress c env ev sa h hpol.1) hpol.2 sa' hmem

/-- In every run of a responder's SA in which the peer's requests meet the policy where the
handlers do not check it, an SA that is established or has a child has everything its
configuration asks for. -/
theorem responder_authentication_complete (c : Crypto) (sa : ResponderSa)
    (evs : List (AuthEnv × AuthEvent)) (hfresh : sa.Fresh) (hpol : runMeetsPolicy c sa evs) :
    ∀ sa' ∈ responderRun c sa evs, sa'.state = .established ∨ sa'.children ≠ 0 →
      Complete c sa' := by
  intro sa' hmem hdone
  exact (responderRun_progress c evs sa hfresh.progress hpol sa' hmem).done hdone

/-! ## a gateway that lists PSK, EAP and RSA -/

/-- a prf that adds up the octets, and signatures that never verify -/
def sumCrypto : Crypto where
  dnEqual := fun a b => a == b
  chainValid := fun _ _ _ => false
  x509Pubkey := fun _ => none
  altNames := fun _ => []
  ipAddrs := fun _ => []
  subjectCn := fun _ => none
  ntop := fun _ => none
  keyedHash := fun key data => some [(key ++ data).foldl (· + ·) 0]
  prfFixedKeylen := none
  rsaVerify := fun _ _ _ => none
  rfc7427Verify := fun _ _ _ _ => false
  dssVerify := fun _ _ _ => false
  ecdsaVerify := fun _ _ _ _ => false

def clientId : Ident := ⟨2, [0, 0, 0], [99]⟩
def secondId : Ident := ⟨2, [0, 0, 0], [100]⟩

def gatewayRemote (second : Option Ident) : Remote where
  isDefault := false
  kmpAuthMethod := [.eap, .rsasig, .psk]
  preSharedKey := some [7]
  peersPubkey := none
  peersId := [⟨.fqdn, .octets [99]⟩]
  myId := []
  verifyId := true
  multipleAuth := second.isSome
  multiAuthSecondId := second
  certValidate := false
  caFile := none
  certTrustSystem := false
  certIntermediates := false
  allowWildcardCert := false
  certCnFallback := false
  refusesSha1 := false
  refusesDss := false
  configRequired := false
  ppkId := none

def gatewaySa (second : Option Ident) : ResponderSa where
  conf := gatewayRemote second
  idI := none
  idR := none
  peerCert := none
  peerCertExtra := []
  eapMsk := none
  firstMessageI := [1]
  firstMessageR := [2]
  nI := [3]
  nR := [4]
  skPI := [5]
  skPR := [6]
  intAuth := []
  state := .resIkeSaInitSent
  multiAuthRound := 0
  peerMultiAuth := false
  peerAnotherAuth := false
  eapOnly := false
  eapOnlyHonored := false
  eapMethod := 0
  eapRelay := none
  eapRoundInFlight := false
  eapSaI2 := none
  eapTsI := none
  eapTsR := none
  verifiedResult := .waiting
  ppkActive := false
  peerPpkIdentityOk := false
  childlessAdvertised := false
  children := 0
  verified := []
  accepted := []

theorem gatewaySa_fresh (second : Option Ident) : (gatewaySa second).Fresh :=
  ⟨rfl, rfl, rfl, rfl, rfl, rfl, rfl⟩

def smoothEnv : AuthEnv where
  responded := true
  sent := true
  childAccepted := true
  responderMethod := 1
  radiusReady := true
  submitted := true
  notifyRefused := fun _ => false
  remotes := []

/-- the AUTH data of the client under a shared key -/
def clientAuth (key : Bytes) : AuthPayload :=
  ⟨authSharedKey, ((sumCrypto.keyedHash key keypad).bind (sumCrypto.keyedHash ·
    ([1, 4] ++ [[5, 2, 99].foldl (· + ·) 0]))).getD []⟩

def childOffer : List MessagePayload := [.sa [1], .tsI [2], .tsR [3]]

def msk : Bytes := List.replicate 64 9

/-- the client starts EAP in its first IKE_AUTH and finishes it -/
def eapRun : List (AuthEnv × AuthEvent) :=
  [(smoothEnv, .message ⟨exchIkeAuth, .idI clientId :: childOffer⟩),
    (smoothEnv, .message ⟨exchIkeAuth, [.eap [2, 1, 0, 6, 1, 99]]⟩),
    (smoothEnv, .radius (.accept (some msk))),
    (smoothEnv, .message ⟨exchIkeAuth, [.auth (clientAuth msk)]⟩)]

/-- EAP in the first round is enough for a child where a second round is configured. -/
theorem eap_skips_second_round :
    ∃ sa' ∈ responderRun sumCrypto (gatewaySa (some secondId)) eapRun,
      sa'.children ≠ 0 ∧ ¬ Complete sumCrypto sa' := by
  have hlast : ∃ sa' ∈ responderRun sumCrypto (gatewaySa (some secondId)) eapRun,
      sa'.children ≠ 0 ∧ sa'.conf.requiresSecondRound = true
        ∧ ∀ v ∈ sa'.verified, v.second = false := by decide +kernel
  obtain ⟨sa', hmem, hchild, hrequired, hnone⟩ := hlast
  refine ⟨sa', hmem, hchild, ?_⟩
  intro hc
  obtain ⟨v, hv, hsecond⟩ := hc.second hrequired
  rw [hnone v hv] at hsecond
  exact absurd hsecond (by simp)

/-- a plain AUTH with the pre-shared key -/
def pskRun : List (AuthEnv × AuthEvent) :=
  [(smoothEnv, .message ⟨exchIkeAuth,
    .idI clientId :: .auth (clientAuth [7]) :: childOffer⟩), (smoothEnv, .childMature)]

theorem responder_authentication_complete_psk :
    (∃ sa' ∈ responderRun sumCrypto (gatewaySa none) pskRun, sa'.state = .established)
      ∧ ∀ sa' ∈ responderRun sumCrypto (gatewaySa none) pskRun,
        sa'.state = .established ∨ sa'.children ≠ 0 → Complete sumCrypto sa' := by
  refine ⟨by decide +kernel, ?_⟩
  refine responder_authentication_complete sumCrypto (gatewaySa none) pskRun
    (gatewaySa_fresh none) ?_
  refine ⟨?_, ?_, trivial⟩
  · decide
  · rfl

end Ikev2
