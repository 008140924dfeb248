import Racoon2.Iked.AuthResponder

/-!
# The initiator's side of IKE_AUTH

`initiator_state1_send` as far as it decides the number of rounds, `initiator_ike_sa_auth_recv0`,
`_cont` and `_recv`, and the second round of RFC 4739.  As on the responder's side the messages are
authentic lists of payloads, and the SA keeps the AUTH payloads that verified.

The initiator binds the gateway's certificate to the IDr it asserts (`ikev2_wire_cert_id_ok`) but
never asks `ikev2_peer_id_ok`, so a run is safe if the responses assert an IDr of `peers_id`
(`responseMeetsPolicy`).

* `Settled`                       the invariant of a run;
* `initiatorStep_settled`         every event keeps it;
* `initiator_accepts_gateway`     an established SA has accepted the configured gateway.
-/

set_option linter.unusedVariables false

namespace Ikev2
open Bytes

/-! ## the SA -/

/-- an initiator's SA during authentication -/
structure InitiatorSa extends AuthInput where
  state : State
  multiAuthRound : Nat
  peerMultiAuth : Bool
  verifiedResult : VerifyResult
  ppkActive : Bool
  peerPpkIdentityOk : Bool
  childlessRequested : Bool
  verified : List VerifiedRound

structure InitiatorEnv where
  /-- IDi', its AUTH and the packet of the second round could be built -/
  secondBuilt : Bool
  sent : Bool
  /-- a child waits for this response (`ikev2_find_request`) -/
  childWaits : Bool
  /-- a child waits for message id 1 -/
  childWaitsOne : Bool
  /-- `ikev2_process_notify()` refuses this type -/
  notifyRefused : Nat → Bool

def InitiatorSa.abort (sa : InitiatorSa) : InitiatorSa := { sa with state := .dead }

/-! ## the request -/

/-- `ikev2_multi_auth_plan` -/
inductive MultiAuthPlan where
  | single
  | twoRounds
  | refuse
  deriving DecidableEq, Repr

def multiAuthPlan (cfg_on peer_supported has_second : Bool) : MultiAuthPlan :=
  if !cfg_on || !has_second then .single
  else if !peer_supported then .refuse
  else .twoRounds

/-- what the exchanges before IKE_AUTH leave for AUTH -/
structure AuthKeys where
  firstMessageI : Bytes
  firstMessageR : Bytes
  nI : Bytes
  nR : Bytes
  skPI : Bytes
  skPR : Bytes
  intAuth : Bytes

/-- `initiator_state1_send` -/
def initiatorState1Send (id : Ident) (k : AuthKeys) (sa : InitiatorSa) : InitiatorSa :=
  let sa := { sa with
    state := .iniIkeAuthSent, idI := some id
    firstMessageI := k.firstMessageI, firstMessageR := k.firstMessageR
    nI := k.nI, nR := k.nR, skPI := k.skPI, skPR := k.skPR, intAuth := k.intAuth }
  match multiAuthPlan sa.conf.multipleAuth sa.peerMultiAuth sa.conf.multiAuthSecondId.isSome with
  | .single => sa
  | .twoRounds => { sa with multiAuthRound := 1 }
  | .refuse => sa.abort

/-! ## the response -/

/-- the loop of `initiator_ike_sa_auth_recv0` -/
def scanResponse : List MessagePayload → AuthInput → Collected → AuthInput × Scanned
  | [], sa, col => (sa, .fine col)
  | .encrypted :: ps, sa, col => scanResponse ps sa col
  | .idR id :: ps, sa, col =>
    if col.idR.isSome then (sa, .duplicate) else scanResponse ps sa { col with idR := some id }
  | .cert encoding data :: ps, sa, col => scanResponse ps (sa.captureCert encoding data) col
  | .auth a :: ps, sa, col =>
    if col.auth.isSome then (sa, .duplicate) else scanResponse ps sa { col with auth := some a }
  | .sa o :: ps, sa, col =>
    if col.sa.isSome then (sa, .duplicate) else scanResponse ps sa { col with sa := some o }
  | .tsI o :: ps, sa, col =>
    if col.tsI.isSome then (sa, .duplicate) else scanResponse ps sa { col with tsI := some o }
  | .tsR o :: ps, sa, col =>
    if col.tsR.isSome then (sa, .duplicate) else scanResponse ps sa { col with tsR := some o }
  | .notify type data :: ps, sa, col => scanResponse ps sa col
  | .vendorId :: ps, sa, col => scanResponse ps sa col
  | .config o :: ps, sa, col => scanResponse ps sa col
  | .idI id :: ps, sa, col => (sa, .critical payloadIdI)
  | .certreq :: ps, sa, col => (sa, .critical payloadCertreq)
  | .eap packet :: ps, sa, col => (sa, .critical payloadEap)
  | .other type critical :: ps, sa, col =>
    if critical || payloadTypeIsCritical type then (sa, .critical type) else scanResponse ps sa col

/-- the notifications `ikev2_process_child_notify` takes -/
def childNotifies : List Nat := [16386, 16387, 16391, 16394]

/-- the errors that concern only the child -/
def childErrors : List Nat := [14, 34, 36, 37, 38]

section
variable (c : Crypto) (env : InitiatorEnv)

/-- `init_ike_sa_auth_recv_notify` over the payloads; `none`: the handler returns -/
def initRecvNotifies : List MessagePayload → InitiatorSa → Bool → InitiatorSa × Option Bool
  | [], sa, acceptable => (sa, some acceptable)
  | .notify type data :: ps, sa, acceptable =>
    if childNotifies.contains type then initRecvNotifies ps sa acceptable
    else if childErrors.contains type then
      if env.childWaitsOne then initRecvNotifies ps sa true else (sa, none)
    else if type = notifyPpkIdentity then
      initRecvNotifies ps { sa with peerPpkIdentityOk := true } acceptable
    else if env.notifyRefused type then (sa.abort, none)
    else initRecvNotifies ps sa acceptable
  | _ :: ps, sa, acceptable => initRecvNotifies ps sa acceptable

/-- `initiator_multi_auth_round2` -/
def initiatorRound2 (sa : InitiatorSa) : InitiatorSa :=
  if !env.secondBuilt then sa.abort
  else
    let sa := { sa with multiAuthRound := 2, state := .iniIkeAuthSent }
    if env.sent then sa else sa.abort

/-- `initiator_ike_sa_auth_cont` -/
def initiatorAuthCont (result : VerifyResult) (payloads : List MessagePayload)
    (sa : InitiatorSa) : InitiatorSa :=
  match result with
  | .waiting => sa
  | .failure => sa.abort
  | .success =>
    if sa.multiAuthRound = 1 then initiatorRound2 env sa
    else match initRecvNotifies env payloads sa false with
      | (sa, none) => sa
      | (sa, some acceptable) =>
        if sa.ppkActive && !sa.peerPpkIdentityOk then sa.abort
        else if !((lastOf MessagePayload.sa? payloads).isSome
            && (lastOf MessagePayload.tsI? payloads).isSome
            && (lastOf MessagePayload.tsR? payloads).isSome) then
          if sa.childlessRequested || acceptable then { sa with state := .established }
          else sa.abort
        else if env.childWaits then { sa with state := .established }
        else sa

/-- `ikev2_verify` and its callback -/
def verifyGateway (id : Ident) (auth : AuthPayload) (payloads : List MessagePayload)
    (sa : InitiatorSa) : InitiatorSa :=
  match authVerify c sa.toAuthInput false auth with
  | none =>
    initiatorAuthCont env .failure payloads
      { sa with state := .iniIkeAuthRcvd, verifiedResult := .failure }
  | some key =>
    initiatorAuthCont env .success payloads
      { sa with
        state := .iniIkeAuthRcvd, verifiedResult := .success
        verified := sa.verified ++ [VerifiedRound.mk auth.method key id false] }

/-- `initiator_ike_sa_auth_recv0` -/
def initiatorAuthRecv0 (m : AuthMessage) (sa : InitiatorSa) : InitiatorSa :=
  if m.exchangeType ≠ exchIkeAuth then sa
  else if sa.multiAuthRound = 2 then
    initiatorAuthCont env .success m.payloads { sa with state := .iniIkeAuthRcvd }
  else match scanResponse m.payloads sa.toAuthInput .empty with
    | (input, .duplicate) => { sa with toAuthInput := input }.abort
    | (input, .critical _) => { sa with toAuthInput := input }.abort
    | (input, .fine col) =>
      match col.idR, col.auth with
      | some id, some auth =>
        verifyGateway c env id auth m.payloads
          { sa with toAuthInput := { input with idR := some id } }
      | _, _ => { sa with toAuthInput := input }.abort

/-! ## runs -/

inductive InitiatorEvent where
  /-- IKE_AUTH leaves, after IKE_SA_INIT and any IKE_INTERMEDIATE -/
  | authSent (id : Ident) (keys : AuthKeys)
  | response (m : AuthMessage)
  /-- the SA expires or is shut down -/
  | expired

def initiatorStep (ev : InitiatorEvent) (sa : InitiatorSa) : InitiatorSa :=
  match ev with
  | .authSent id keys =>
    if sa.state = .iniIkeSaInitSent ∨ sa.state = .iniIkeIntermediateSent then
      initiatorState1Send id keys sa
    else sa
  | .response m =>
    match sa.state with
    | .iniIkeAuthSent => initiatorAuthRecv0 c env m sa
    | .iniIkeAuthRcvd => initiatorAuthCont env sa.verifiedResult m.payloads sa
    | _ => sa
  | .expired => if sa.state = .established then { sa with state := .dying } else sa.abort

end

/-- the SA when IKE_SA_INIT has been sent; an initiator has no MSK -/
structure InitiatorSa.Fresh (sa : InitiatorSa) : Prop where
  state : sa.state = .iniIkeSaInitSent
  multiAuthRound : sa.multiAuthRound = 0
  eapMsk : sa.eapMsk = none
  verifiedResult : sa.verifiedResult = .waiting
  verified : sa.verified = []

/-- the states a run goes through -/
def initiatorRun (c : Crypto) : InitiatorSa → List (InitiatorEnv × InitiatorEvent) →
    List InitiatorSa
  | sa, [] => [sa]
  | sa, (env, ev) :: evs => sa :: initiatorRun c (initiatorStep c env ev sa) evs

/-! ## the configured gateway -/

section
variable (c : Crypto)

/-- AUTH verified with the key of a valid certificate for an IDr of `peers_id` -/
def GatewayAccepted (sa : InitiatorSa) : Prop :=
  ∃ v ∈ sa.verified, ∃ leaf pub extra, v.key = .certificate leaf pub
    ∧ c.x509Pubkey leaf = some pub ∧ c.chainValid sa.conf.caFile leaf extra = true
    ∧ certNames c sa.conf leaf v.id = true ∧ peerIdOk c sa.conf.peersId v.id = true

/-- a response in which AUTH is read asserts an IDr of `peers_id` -/
def responseMeetsPolicy (m : AuthMessage) (sa : InitiatorSa) : Bool :=
  if sa.state ≠ .iniIkeAuthSent ∨ m.exchangeType ≠ exchIkeAuth ∨ sa.multiAuthRound = 2 then true
  else match (scanResponse m.payloads sa.toAuthInput .empty).2 with
    | .fine col => col.idR.all (peerIdOk c sa.conf.peersId)
    | _ => true

/-- every response of a run meets the policy in the state it finds -/
def responsesMeetPolicy : InitiatorSa → List (InitiatorEnv × InitiatorEvent) → Prop
  | _, [] => True
  | sa, (env, ev) :: evs =>
    (match ev with
      | .response m => responseMeetsPolicy c m sa = true
      | _ => True)
      ∧ responsesMeetPolicy (initiatorStep c env ev sa) evs

/-- the invariant of a run under `cert_validate` without a pre-shared key -/
structure Settled (sa : InitiatorSa) : Prop where
  certValidate : sa.conf.certValidate = true
  preSharedKey : sa.conf.preSharedKey = none
  eapMsk : sa.eapMsk = none
  /-- before IKE_AUTH nothing has verified -/
  early : sa.state = .iniIkeSaInitSent ∨ sa.state = .iniIkeIntermediateSent →
    sa.verifiedResult = .waiting ∧ sa.multiAuthRound = 0
  verified : sa.verifiedResult = .success ∨ sa.multiAuthRound = 2 ∨ sa.state = .established →
    GatewayAccepted c sa

end

section
variable {c : Crypto} {env : InitiatorEnv} {sa : InitiatorSa}

theorem Settled.abort (h : Settled c sa) : Settled c sa.abort where
  certValidate := h.certValidate
  preSharedKey := h.preSharedKey
  eapMsk := h.eapMsk
  early := fun hs => absurd hs (by simp [InitiatorSa.abort])
  verified := fun hv => by
    rcases hv with hv | hv | hv
    · exact h.verified (.inl hv)
    · exact h.verified (.inr (.inl hv))
    · exact absurd hv (by simp [InitiatorSa.abort])

/-- a later state; an SA that becomes established has accepted the gateway -/
theorem Settled.setState (h : Settled c sa) {st : State}
    (hearly : ¬ (st = .iniIkeSaInitSent ∨ st = .iniIkeIntermediateSent))
    (hok : st = .established → GatewayAccepted c sa) : Settled c { sa with state := st } where
  certValidate := h.certValidate
  preSharedKey := h.preSharedKey
  eapMsk := h.eapMsk
  early := fun hs => absurd hs hearly
  verified := fun hv => by
    rcases hv with hv | hv | hv
    · exact h.verified (.inl hv)
    · exact h.verified (.inr (.inl hv))
    · exact hok hv

theorem Settled.setPpk (h : Settled c sa) (b : Bool) :
    Settled c { sa with peerPpkIdentityOk := b } :=
  ⟨h.certValidate, h.preSharedKey, h.eapMsk, h.early, h.verified⟩

/-! ## a verified AUTH -/

/-- without a shared secret AUTH verifies only with the key of the certificate in the response -/
theorem authVerify_certificate {input : AuthInput} {id : Ident} {auth : AuthPayload}
    {key : KeySource} (hcert : input.conf.certValidate = true)
    (hpsk : input.conf.preSharedKey = none) (hmsk : input.eapMsk = none)
    (hid : input.idR = some id) (h : authVerify c input false auth = some key) :
    ∃ leaf pub, key = .certificate leaf pub ∧ c.x509Pubkey leaf = some pub
      ∧ c.chainValid input.conf.caFile leaf (chainPool input) = true
      ∧ certNames c input.conf leaf id = true := by
  obtain ⟨⟨octets, hm⟩, hwire⟩ := authVerify_some h
  rcases methodVerify_key hm with ⟨_, hshared⟩ | ⟨_, hpub⟩
  · rcases authSharedSecret_some hshared with ⟨msk, hsome, _⟩ | ⟨psk, _, hsome, _⟩
    · rw [hmsk] at hsome
      exact absurd hsome (by simp)
    · rw [hpsk] at hsome
      exact absurd hsome (by simp)
  · unfold peerPublicKey at hpub
    rw [if_pos hcert] at hpub
    obtain ⟨leaf, pub, hleaf, hkey, hx509, hchain⟩ := publicKeyFromWire_some hpub
    refine ⟨leaf, pub, hkey, hx509, hchain, ?_⟩
    unfold wireCertIdOk AuthInput.assertedId at hwire
    rw [hleaf, hid, hcert] at hwire
    exact hwire

/-- the loop over a response touches only the certificates -/
theorem scanResponse_frame (ps : List MessagePayload) :
    ∀ (input : AuthInput) (col : Collected), ∃ cert extra,
      (scanResponse ps input col).1 = { input with peerCert := cert, peerCertExtra := extra } := by
  induction ps with
  | nil =>
    intro input col
    exact ⟨input.peerCert, input.peerCertExtra, rfl⟩
  | cons p ps ih =>
    intro input col
    have hsame : ∃ cert extra, input
        = { input with peerCert := cert, peerCertExtra := extra } :=
      ⟨input.peerCert, input.peerCertExtra, rfl⟩
    cases p with
    | encrypted => exact ih input col
    | notify type data => exact ih input col
    | vendorId => exact ih input col
    | config o => exact ih input col
    | idI id => exact hsame
    | certreq => exact hsame
    | eap packet => exact hsame
    | cert encoding data =>
      obtain ⟨cert, extra, hcap⟩ := captureCert_frame input encoding data
      obtain ⟨cert', extra', h⟩ := ih (input.captureCert encoding data) col
      refine ⟨cert', extra', ?_⟩
      show (scanResponse ps (input.captureCert encoding data) col).1 = _
      rw [h, hcap]
    | other type critical =>
      unfold scanResponse
      split
      · exact hsame
      · exact ih input col
    | idR id =>
      unfold scanResponse
      split
      · exact hsame
      · exact ih input _
    | auth a =>
      unfold scanResponse
      split
      · exact hsame
      · exact ih input _
    | sa o =>
      unfold scanResponse
      split
      · exact hsame
      · exact ih input _
    | tsI o =>
      unfold scanResponse
      split
      · exact hsame
      · exact ih input _
    | tsR o =>
      unfold scanResponse
      split
      · exact hsame
      · exact ih input _

/-! ## the steps -/

/-- the notifications leave the invariant and what has verified -/
theorem initRecvNotifies_settled (env : InitiatorEnv) (ps : List MessagePayload) :
    ∀ (sa : InitiatorSa) (acceptable : Bool), Settled c sa → GatewayAccepted c sa →
      Settled c (initRecvNotifies env ps sa acceptable).1
        ∧ GatewayAccepted c (initRecvNotifies env ps sa acceptable).1 := by
  induction ps with
  | nil =>
    intro sa acceptable h hok
    exact ⟨h, hok⟩
  | cons p ps ih =>
    intro sa acceptable h hok
    cases p with
    | notify type data =>
      unfold initRecvNotifies
      split
      · exact ih sa acceptable h hok
      · split
        · split
          · exact ih sa true h hok
          · exact ⟨h, hok⟩
        · split
          · exact ih _ acceptable (h.setPpk true) hok
          · split
            · exact ⟨h.abort, hok⟩
            · exact ih sa acceptable h hok
    | encrypted => exact ih sa acceptable h hok
    | idI id => exact ih sa acceptable h hok
    | idR id => exact ih sa acceptable h hok
    | cert encoding data => exact ih sa acceptable h hok
    | certreq => exact ih sa acceptable h hok
    | auth a => exact ih sa acceptable h hok
    | sa o => exact ih sa acceptable h hok
    | tsI o => exact ih sa acceptable h hok
    | tsR o => exact ih sa acceptable h hok
    | vendorId => exact ih sa acceptable h hok
    | config o => exact ih sa acceptable h hok
    | eap packet => exact ih sa acceptable h hok
    | other type critical => exact ih sa acceptable h hok

theorem initiatorRound2_settled (h : Settled c sa) (hok : GatewayAccepted c sa) :
    Settled c (initiatorRound2 env sa) := by
  have hnext : Settled c { sa with multiAuthRound := 2, state := .iniIkeAuthSent } :=
    ⟨h.certValidate, h.preSharedKey, h.eapMsk, fun hs => absurd hs (by simp), fun _ => hok⟩
  unfold initiatorRound2
  split
  · exact h.abort
  · simp only
    split
    · exact hnext
    · exact hnext.abort

theorem initiatorAuthCont_settled (h : Settled c sa) {result : VerifyResult}
    (hok : result = .success → GatewayAccepted c sa) (payloads : List MessagePayload) :
    Settled c (initiatorAuthCont env result payloads sa) := by
  unfold initiatorAuthCont
  split
  · exact h
  · exact h.abort
  · have hgate := hok rfl
    split
    · exact initiatorRound2_settled h hgate
    · obtain ⟨hsettled, hgate'⟩ := initRecvNotifies_settled env payloads sa false h hgate
      split
      · rename_i sa' heq
        rw [heq] at hsettled
        exact hsettled
      · rename_i sa' acceptable heq
        rw [heq] at hsettled hgate'
        have hdone : Settled c { sa' with state := .established } :=
          hsettled.setState (by simp) (fun _ => hgate')
        split
        · exact hsettled.abort
        · split
          · split
            · exact hdone
            · exact hsettled.abort
          · split
            · exact hdone
            · exact hsettled

theorem verifyGateway_settled (h : Settled c sa) {id : Ident} (hid : sa.idR = some id)
    (hpol : peerIdOk c sa.conf.peersId id = true) (auth : AuthPayload)
    (payloads : List MessagePayload) : Settled c (verifyGateway c env id auth payloads sa) := by
  unfold verifyGateway
  split
  · refine initiatorAuthCont_settled ?_ (fun hfail => absurd hfail (by simp)) payloads
    refine ⟨h.certValidate, h.preSharedKey, h.eapMsk, fun hs => absurd hs (by simp), ?_⟩
    rintro (hv | hv | hv)
    · exact absurd hv (by simp)
    · exact h.verified (.inr (.inl hv))
    · exact absurd hv (by simp)
  · rename_i key hkey
    obtain ⟨leaf, pub, hcert, hx509, hchain, hnames⟩ :=
      authVerify_certificate h.certValidate h.preSharedKey h.eapMsk hid hkey
    have hgate : GatewayAccepted c { sa with
        state := .iniIkeAuthRcvd, verifiedResult := .success
        verified := sa.verified ++ [VerifiedRound.mk auth.method key id false] } := by
      refine ⟨VerifiedRound.mk auth.method key id false, ?_, leaf, pub, chainPool sa.toAuthInput,
        hcert, hx509, hchain, hnames, hpol⟩
      exact List.mem_append_right _ (List.mem_singleton.mpr rfl)
    refine initiatorAuthCont_settled ?_ (fun _ => hgate) payloads
    exact ⟨h.certValidate, h.preSharedKey, h.eapMsk, fun hs => absurd hs (by simp), fun _ => hgate⟩

theorem initiatorAuthRecv0_settled (h : Settled c sa) (hs : sa.state = .iniIkeAuthSent)
    (m : AuthMessage) (hpol : responseMeetsPolicy c m sa = true) :
    Settled c (initiatorAuthRecv0 c env m sa) := by
  unfold initiatorAuthRecv0
  split
  · exact h
  · rename_i hexch
    split
    · rename_i hround
      have hgate := h.verified (.inr (.inl hround))
      have hrcvd : Settled c { sa with state := .iniIkeAuthRcvd } :=
        h.setState (by simp) (by simp)
      exact initiatorAuthCont_settled hrcvd (fun _ => hgate) m.payloads
    · rename_i hround
      obtain ⟨cert, extra, hframe⟩ := scanResponse_frame m.payloads sa.toAuthInput .empty
      have hread : Settled c { sa with peerCert := cert, peerCertExtra := extra } :=
        ⟨h.certValidate, h.preSharedKey, h.eapMsk, h.early, h.verified⟩
      split
      · rename_i input hscan
        rw [hscan] at hframe
        simp only at hframe
        subst hframe
        exact hread.abort
      · rename_i input type hscan
        rw [hscan] at hframe
        simp only at hframe
        subst hframe
        exact hread.abort
      · rename_i input col hscan
        rw [hscan] at hframe
        simp only at hframe
        subst hframe
        split
        · rename_i id auth hidR hauth
          unfold responseMeetsPolicy at hpol
          rw [if_neg (by simp [hs, hround, not_not.mp hexch]), hscan] at hpol
          simp only [hidR, Option.all_some] at hpol
          have hnamed : Settled c { sa with
              peerCert := cert, peerCertExtra := extra, idR := some id } :=
            ⟨h.certValidate, h.preSharedKey, h.eapMsk, h.early, h.verified⟩
          exact verifyGateway_settled hnamed rfl hpol auth m.payloads
        · exact hread.abort

theorem initiatorState1Send_settled (h : Settled c sa)
    (hs : sa.state = .iniIkeSaInitSent ∨ sa.state = .iniIkeIntermediateSent) (id : Ident)
    (keys : AuthKeys) : Settled c (initiatorState1Send id keys sa) := by
  obtain ⟨hwaiting, hround⟩ := h.early hs
  have hsent : ∀ round, round ≠ 2 → Settled c { sa with
      state := .iniIkeAuthSent, idI := some id, multiAuthRound := round
      firstMessageI := keys.firstMessageI, firstMessageR := keys.firstMessageR
      nI := keys.nI, nR := keys.nR, skPI := keys.skPI, skPR := keys.skPR
      intAuth := keys.intAuth } := by
    intro round hne
    refine ⟨h.certValidate, h.preSharedKey, h.eapMsk, fun hs => absurd hs (by simp), ?_⟩
    rintro (hv | hv | hv)
    · exact absurd (hwaiting.symm.trans hv) (by simp)
    · exact absurd hv hne
    · exact absurd hv (by simp)
  unfold initiatorState1Send
  simp only
  split
  · have hkept := hsent sa.multiAuthRound (by rw [hround]; decide)
    exact hkept
  · exact hsent 1 (by decide)
  · have hkept := hsent sa.multiAuthRound (by rw [hround]; decide)
    exact hkept.abort

end

theorem initiatorStep_settled (c : Crypto) (env : InitiatorEnv) (ev : InitiatorEvent)
    (sa : InitiatorSa) (h : Settled c sa)
    (hpol : match ev with
      | .response m => responseMeetsPolicy c m sa = true
      | _ => True) :
    Settled c (initiatorStep c env ev sa) := by
  cases ev with
  | authSent id keys =>
    unfold initiatorStep
    simp only
    split
    · rename_i hs
      exact initiatorState1Send_settled h hs id keys
    · exact h
  | response m =>
    unfold initiatorStep
    simp only
    split
    · rename_i hs
      exact initiatorAuthRecv0_settled h hs m hpol
    · exact initiatorAuthCont_settled h (fun hres => h.verified (.inl hres)) m.payloads
    · exact h
  | expired =>
    unfold initiatorStep
    simp only
    split
    · exact h.setState (by simp) (by simp)
    · exact h.abort

theorem initiatorRun_settled (c : Crypto) (evs : List (InitiatorEnv × InitiatorEvent)) :
    ∀ (sa : InitiatorSa), Settled c sa → responsesMeetPolicy c sa evs →
      ∀ sa' ∈ initiatorRun c sa evs, Settled c sa' := by
  induction evs with
  | nil =>
    intro sa h _ sa' hmem
    rw [List.mem_singleton.mp hmem]
    exact h
  | cons head evs ih =>
    obtain ⟨env, ev⟩ := head
    intro sa h hpol sa' hmem
    rw [initiatorRun, List.mem_cons] at hmem
    rcases hmem with rfl | hmem
    · exact h
    · exact ih _ (initiatorStep_settled c env ev sa h hpol.1) hpol.2 sa' hmem

/-- With `cert_validate` and no pre-shared key, an initiator whose gateway asserts only identities
of `peers_id` is established only after AUTH verified with a valid certificate for one of them. -/
theorem initiator_accepts_gateway (c : Crypto) (sa : InitiatorSa)
    (evs : List (InitiatorEnv × InitiatorEvent)) (hfresh : sa.Fresh)
    (hcert : sa.conf.certValidate = true) (hpsk : sa.conf.preSharedKey = none)
    (hpol : responsesMeetPolicy c sa evs) :
    ∀ sa' ∈ initiatorRun c sa evs, sa'.state = .established → GatewayAccepted c sa' := by
  intro sa' hmem hstate
  have hstart : Settled c sa := by
    refine ⟨hcert, hpsk, hfresh.eapMsk, fun _ => ⟨hfresh.verifiedResult, hfresh.multiAuthRound⟩, ?_⟩
    rintro (hv | hv | hv)
    · exact absurd (hfresh.verifiedResult.symm.trans hv) (by simp)
    · exact absurd (hfresh.multiAuthRound.symm.trans hv) (by decide)
    · exact absurd (hfresh.state.symm.trans hv) (by simp)
  exact (initiatorRun_settled c evs sa hstart hpol sa' hmem).verified (.inr (.inr hstate))

/-! ## two gateways of one CA -/

/-- a CA that has issued every certificate to the name it holds, and signatures that are the key -/
def nameCrypto : Crypto where
  dnEqual := fun a b => a == b
  chainValid := fun _ _ _ => true
  x509Pubkey := fun leaf => some leaf
  altNames := fun leaf => [(true, leaf)]
  ipAddrs := fun _ => []
  subjectCn := fun _ => none
  ntop := fun _ => none
  keyedHash := fun key data => some [(key ++ data).foldl (· + ·) 0]
  prfFixedKeylen := none
  rsaVerify := fun _ sig key => if sig = key then some 2 else none
  rfc7427Verify := fun _ _ _ _ => false
  dssVerify := fun _ _ _ => false
  ecdsaVerify := fun _ _ _ _ => false

/-- the remote names the gateway `103` -/
def branchRemote : Remote where
  isDefault := false
  kmpAuthMethod := [.rsasig]
  preSharedKey := none
  peersPubkey := none
  peersId := [⟨.fqdn, .octets [103]⟩]
  myId := []
  verifyId := true
  multipleAuth := false
  multiAuthSecondId := none
  certValidate := true
  caFile := some [1]
  certTrustSystem := false
  certIntermediates := false
  allowWildcardCert := false
  certCnFallback := false
  refusesSha1 := false
  refusesDss := false
  configRequired := false
  ppkId := none

def branchSa : InitiatorSa where
  conf := branchRemote
  idI := none
  idR := none
  peerCert := none
  peerCertExtra := []
  eapMsk := none
  firstMessageI := []
  firstMessageR := []
  nI := []
  nR := []
  skPI := []
  skPR := []
  intAuth := []
  state := .iniIkeSaInitSent
  multiAuthRound := 0
  peerMultiAuth := false
  verifiedResult := .waiting
  ppkActive := false
  peerPpkIdentityOk := false
  childlessRequested := false
  verified := []

def calmEnv : InitiatorEnv := ⟨true, true, true, true, fun _ => false⟩

/-- IKE_AUTH answered by the gateway of this name, with its own certificate -/
def answeredBy (name : UInt8) : List (InitiatorEnv × InitiatorEvent) :=
  [(calmEnv, .authSent ⟨2, [0, 0, 0], [98]⟩ ⟨[1], [2], [3], [4], [5], [6], []⟩),
    (calmEnv, .response ⟨exchIkeAuth,
      [.idR ⟨2, [0, 0, 0], [name]⟩, .cert certX509Sign [name], .auth ⟨authRsasig, [name]⟩,
        .sa [1], .tsI [2], .tsR [3]]⟩)]

/-- Another gateway of the CA is accepted in place of the configured one. -/
theorem other_gateway_accepted :
    branchSa.Fresh ∧ branchSa.conf.certValidate = true ∧ branchSa.conf.preSharedKey = none
      ∧ ∃ sa' ∈ initiatorRun nameCrypto branchSa (answeredBy 104),
        sa'.state = .established ∧ ¬ GatewayAccepted nameCrypto sa' := by
  refine ⟨⟨rfl, rfl, rfl, rfl, rfl⟩, rfl, rfl, ?_⟩
  have hlast : ∃ sa' ∈ initiatorRun nameCrypto branchSa (answeredBy 104),
      sa'.state = .established
        ∧ ∀ v ∈ sa'.verified, peerIdOk nameCrypto sa'.conf.peersId v.id = false := by
    decide +kernel
  obtain ⟨sa', hmem, hstate, hnone⟩ := hlast
  refine ⟨sa', hmem, hstate, ?_⟩
  rintro ⟨v, hv, leaf, pub, extra, _, _, _, _, hid⟩
  rw [hnone v hv] at hid
  exact absurd hid (by simp)

theorem initiator_accepts_gateway_configured :
    (∃ sa' ∈ initiatorRun nameCrypto branchSa (answeredBy 103), sa'.state = .established)
      ∧ ∀ sa' ∈ initiatorRun nameCrypto branchSa (answeredBy 103),
        sa'.state = .established → GatewayAccepted nameCrypto sa' := by
  refine ⟨by decide +kernel, ?_⟩
  refine initiator_accepts_gateway nameCrypto branchSa (answeredBy 103) ⟨rfl, rfl, rfl, rfl, rfl⟩
    rfl rfl ?_
  exact ⟨trivial, by decide, trivial⟩

end Ikev2
