import Racoon2.Iked.Keymat

/-!
# IKE_INTERMEDIATE

`ikev2_intermediate.c`: the additional key exchanges between IKE_SA_INIT and IKE_AUTH, for an
initiator and a responder and the packets between them.  A packet that was sent once stays in the
network and may be delivered any number of times or never, so that a run has every pattern of
losses, duplicates and retransmissions.

A round replaces the keys of both ends.  The response is kept to be replayed for retransmitted
requests, since these can no longer be decrypted afterwards.

* `Lockstep`                the two ends are at most one round apart, and what the responder knows
                            more is what the response in flight tells the initiator;
* `intermediateStep_lockstep`   an event keeps it, unless it replays a response of a round that
                            was not completed (the step);
* `intermediate_lockstep`   both ends agree in every run (the run).
-/

set_option linter.unusedVariables false

namespace Ikev2
open Bytes

/-! ## keys -/

structure IkeKeys where
  skD : Bytes
  skAi : Bytes
  skAr : Bytes
  skEi : Bytes
  skEr : Bytes
  skPi : Bytes
  skPr : Bytes
  deriving DecidableEq, Repr

/-- what IKE_SA_INIT has settled, where both ends go on with IKE_INTERMEDIATE and not with IKE_AUTH:
the IKE_SA has an ADDKE1 method and an AEAD -/
structure IntermediateSession where
  prf : Prf
  /-- `auth_key_length`, `encryptor_key_length` and the key length the prf prefers -/
  lenA : Nat
  lenE : Nat
  lenP : Nat
  nI : Bytes
  nR : Bytes
  spiI : Bytes
  spiR : Bytes
  /-- the method of ADDKE1, and all methods in order -/
  addke : Nat
  negotiated : addke ≠ 0
  methods : List Nat
  /-- the PPK, if its use was negotiated -/
  ppk : Option Bytes

/-- the exchange of one round: a KEM, or Diffie-Hellman; `Bytes` arguments behind the method are
the randomness, or what the other end sent -/
structure KeyExchange where
  keygen : Nat → Bytes → Option (Bytes × Bytes)
  respond : Nat → Bytes → Bytes → Option (Bytes × Bytes)
  finish : Nat → Bytes → Bytes → Option Bytes
  /-- both ends have the same secret -/
  agree : ∀ method seed priv pub seed' ct ss, keygen method seed = some (priv, pub) →
    respond method pub seed' = some (ct, ss) → finish method priv ct = some ss

/-- the fields of `struct ikev2_sa` that both ends have, and when the PPK was mixed in -/
structure IntermediateSa where
  keys : IkeKeys
  rounds : Nat
  intauthI : Option Bytes
  intauthR : Option Bytes
  ppkDeferred : Bool
  mixed : List Nat
  deriving DecidableEq, Repr

section
variable (s : IntermediateSession)

/-- SK_d, SK_pi and SK_pr with the PPK: `ikev2_ppk_apply` -/
def mixPpk (keys : IkeKeys) : Option IkeKeys :=
  match s.ppk with
  | none => some keys
  | some ppk =>
    match prfPlus s.prf ppk keys.skD keys.skD.length, prfPlus s.prf ppk keys.skPi keys.skPi.length,
        prfPlus s.prf ppk keys.skPr keys.skPi.length with
    | some skD, some skPi, some skPr => some { keys with skD := skD, skPi := skPi, skPr := skPr }
    | _, _, _ => none

/-- `ikev2_compute_keys` -/
def computeKeys (deferred : Bool) (skeyseed : Bytes) : Option IkeKeys :=
  match prfPlus s.prf skeyseed (s.nI ++ s.nR ++ s.spiI ++ s.spiR)
      (3 * s.lenP + 2 * s.lenA + 2 * s.lenE) with
  | none => none
  | some k =>
    let keys : IkeKeys := {
      skD := slice k 0 s.lenP
      skAi := slice k s.lenP s.lenA
      skAr := slice k (s.lenP + s.lenA) s.lenA
      skEi := slice k (s.lenP + 2 * s.lenA) s.lenE
      skEr := slice k (s.lenP + 2 * s.lenA + s.lenE) s.lenE
      skPi := slice k (s.lenP + 2 * s.lenA + 2 * s.lenE) s.lenP
      skPr := slice k (2 * s.lenP + 2 * s.lenA + 2 * s.lenE) s.lenP }
    if s.ppk.isSome && !deferred then mixPpk s keys else some keys

/-- `ikev2_intermediate_update_keys` -/
def updateKeys (sk : Bytes) (sa : IntermediateSa) : Option IntermediateSa :=
  match s.prf.hash sa.keys.skD (sk ++ s.nI ++ s.nR) with
  | none => none
  | some skeyseed =>
    match computeKeys s sa.ppkDeferred skeyseed with
    | none => none
    | some keys =>
      -- with a PPK that is not deferred `ikev2_compute_keys` has mixed it in
      some { sa with
        keys := keys
        mixed := if s.ppk.isSome && !sa.ppkDeferred then sa.mixed ++ [sa.rounds] else sa.mixed }

/-- `ikev2_intermediate_chain_intauth` -/
def chainIntauth (key : Bytes) (chain : Option Bytes) (content : Bytes) : Option Bytes :=
  match s.prf.hash key (chain.getD [] ++ content) with
  | none => chain
  | some h => some h

/-- `intermediate_finish_round` -/
def finishRound (req resp : Bytes) (sa : IntermediateSa) : IntermediateSa :=
  { sa with
    rounds := sa.rounds + 1
    intauthI := chainIntauth s sa.keys.skPi sa.intauthI req
    intauthR := chainIntauth s sa.keys.skPr sa.intauthR resp }

/-- the PPK after the last round -/
def applyPpk (sa : IntermediateSa) : Option IntermediateSa :=
  if s.ppk.isSome && sa.ppkDeferred then
    match mixPpk s sa.keys with
    | none => none
    | some keys =>
      some { sa with keys := keys, ppkDeferred := false, mixed := sa.mixed ++ [sa.rounds] }
  else some sa

/-! ## messages -/

/-- a message of IKE_INTERMEDIATE: its KE payload -/
structure KeMessage where
  response : Bool
  msgid : Nat
  method : Nat
  body : Bytes
  deriving DecidableEq, Repr

/-- IntAuth_P: the KE payload -/
def KeMessage.inner (m : KeMessage) : Bytes :=
  [0, 0] ++ enc16 (8 + m.body.length) ++ enc16 m.method ++ [0, 0] ++ m.body

/-- IntAuth_A | IntAuth_P: `intermediate_content_a` gives the header the adjusted lengths -/
def KeMessage.content (m : KeMessage) : Bytes :=
  s.spiI ++ s.spiR ++ [46, 0x20, 43, if m.response then 0x20 else 0x08] ++ enc32 m.msgid
    ++ enc32 (28 + 4 + m.inner.length) ++ [34, 0] ++ enc16 (4 + m.inner.length) ++ m.inner

/-- SK_a and SK_e of one direction -/
abbrev Lock := Bytes × Bytes

def IkeKeys.lockI (keys : IkeKeys) : Lock := (keys.skAi, keys.skEi)

def IkeKeys.lockR (keys : IkeKeys) : Lock := (keys.skAr, keys.skEr)

/-- a packet, and the keys that protect it -/
inductive KePacket where
  | request (lock : Lock) (m : KeMessage)
  | response (lock : Lock) (m : KeMessage)
  /-- the first message of IKE_AUTH -/
  | auth (lock : Lock) (msgid : Nat)
  deriving DecidableEq, Repr

/-! ## the two ends -/

inductive InitiatorState where
  | ready
  | intermediateSent
  | authSent
  | dead
  deriving DecidableEq, Repr

structure Initiator where
  state : InitiatorState
  sa : IntermediateSa
  msgid : Nat
  /-- the private key of the round -/
  key : Option Bytes
  req : Bytes
  deriving DecidableEq, Repr

inductive ResponderState where
  | initSent
  | authRcvd
  | dead
  deriving DecidableEq, Repr

structure Responder where
  state : ResponderState
  sa : IntermediateSa
  recvMsgid : Nat
  /-- `intermediate_replay` -/
  replay : Option (Nat × KePacket)
  /-- the message ids of the rounds that went through `intermediate_finish_round` -/
  completed : List Nat
  deriving DecidableEq, Repr

structure IntermediateSystem where
  initiator : Initiator
  responder : Responder
  net : List KePacket
  deriving DecidableEq, Repr

/-- what the step does not decide itself -/
structure StepEnv where
  /-- random octets for the key pair or the encapsulation -/
  seed : Bytes
  /-- the transmission worked -/
  sent : Bool
  /-- the request came from the address of the SA -/
  samePeer : Bool
  /-- a second has passed since the response was sent -/
  replaySent : Bool
  /-- IKE_AUTH was sent -/
  authSent : Bool

variable (kx : KeyExchange)

/-- the method of the round after `rounds` rounds -/
def roundMethod (rounds : Nat) : Option Nat :=
  if s.methods = [] then (if s.addke = 0 then none else some s.addke)
  else match s.methods[rounds]? with
    | none => none
    | some method => if method = 0 then none else some method

/-- `initiator_ike_intermediate_send`, and what it sends -/
def initiatorSend (env : StepEnv) (i : Initiator) : Initiator × List KePacket :=
  match roundMethod s i.sa.rounds with
  | none => ({ i with state := .dead }, [])
  | some method =>
    match kx.keygen method env.seed with
    | none => ({ i with state := .dead }, [])
    | some (priv, pub) =>
      let m : KeMessage := ⟨false, i.msgid, method, pub⟩
      let i := { i with key := some priv, req := m.content s, state := .intermediateSent }
      if env.sent then (i, [.request i.sa.keys.lockI m]) else ({ i with state := .dead }, [])

/-- more rounds remain -/
def moreRounds (sa : IntermediateSa) : Bool :=
  decide (0 < s.methods.length) && decide (sa.rounds < s.methods.length)

/-- the initiator has the secret of the round -/
def initiatorFinish (env : StepEnv) (resp ss : Bytes) (i : Initiator) :
    Initiator × List KePacket :=
  let i := { i with key := none, sa := finishRound s i.req resp i.sa }
  match updateKeys s ss i.sa with
  | none => ({ i with state := .dead }, [])
  | some sa =>
    let i := { i with sa := sa }
    if moreRounds s i.sa then initiatorSend s kx env { i with msgid := i.msgid + 1 }
    else match applyPpk s i.sa with
      | none => ({ i with state := .dead }, [])
      | some sa =>
        ({ i with sa := sa, state := .authSent },
          if env.authSent then [.auth sa.keys.lockI (1 + sa.rounds)] else [])

/-- `initiator_ike_intermediate_recv` behind the integrity check -/
def initiatorRecv (env : StepEnv) (lock : Lock) (m : KeMessage) (i : Initiator) :
    Initiator × List KePacket :=
  if i.state ≠ .intermediateSent ∨ lock ≠ i.sa.keys.lockR then (i, [])
  else if s.addke = 0 then ({ i with state := .dead }, [])
  else if m.msgid ≠ i.msgid then (i, [])
  else if roundMethod s i.sa.rounds ≠ some m.method ∨ m.body = [] then
    ({ i with state := .dead }, [])
  else match i.key with
    | none => (i, [])
    | some priv =>
      match kx.finish m.method priv m.body with
      | none => ({ i with state := .dead }, [])
      | some ss => initiatorFinish s kx env (m.content s) ss i

/-- the response has been sent -/
def responderFinish (req resp ss : Bytes) (msgid : Nat) (r : Responder) : Responder :=
  let r := { r with
    sa := finishRound s req resp r.sa, completed := r.completed ++ [msgid] }
  match updateKeys s ss r.sa with
  | none => { r with state := .dead }
  | some sa =>
    match (if s.methods.length = 0 ∨ s.methods.length ≤ sa.rounds then applyPpk s sa
        else some sa) with
    | none => { r with sa := sa, state := .dead }
    | some sa => { r with sa := sa, recvMsgid := msgid + 1 }

/-- `responder_ike_intermediate_recv` -/
def responderIntermediate (env : StepEnv) (m : KeMessage) (r : Responder) :
    Responder × List KePacket :=
  if roundMethod s r.sa.rounds ≠ some m.method ∨ m.body = [] then (r, [])
  else match kx.respond m.method m.body env.seed with
    | none => (r, [])
    | some (ct, ss) =>
      let resp : KeMessage := ⟨true, m.msgid, m.method, ct⟩
      let pkt : KePacket := .response r.sa.keys.lockR resp
      -- the response is kept for retransmitted requests before it is sent
      let r := { r with replay := some (m.msgid, pkt) }
      if env.sent then (responderFinish s (m.content s) (resp.content s) ss m.msgid r, [pkt])
      else (r, [])

/-- the kept response, if the request looks like a retransmission of the one it answers -/
def replayed (env : StepEnv) (m : KeMessage) (r : Responder) : Option KePacket :=
  match r.replay with
  | some (id, pkt) => if m.msgid = id ∧ env.samePeer = true then some pkt else none
  | none => none

/-- `ikev2_input` for a request of IKE_INTERMEDIATE -/
def responderInput (env : StepEnv) (lock : Lock) (m : KeMessage) (r : Responder) :
    Responder × List KePacket :=
  match replayed env m r with
  | some pkt => (r, if env.replaySent then [pkt] else [])
  | none =>
    if r.state = .initSent ∧ lock = r.sa.keys.lockI ∧ m.msgid = r.recvMsgid then
      responderIntermediate s kx env m r
    else (r, [])

/-- the first message of IKE_AUTH is taken -/
def responderAuth (lock : Lock) (msgid : Nat) (r : Responder) : Responder :=
  if r.state = .initSent ∧ lock = r.sa.keys.lockI ∧ msgid = r.recvMsgid then
    { r with state := .authRcvd }
  else r

/-! ## runs -/

inductive IntermediateEvent where
  | start
  | toResponder (p : KePacket)
  | toInitiator (p : KePacket)
  | abortInitiator
  | abortResponder

def intermediateStep (env : StepEnv) (ev : IntermediateEvent) (sys : IntermediateSystem) :
    IntermediateSystem :=
  match ev with
  | .start =>
    if sys.initiator.state = .ready then
      let (i, out) := initiatorSend s kx env sys.initiator
      { sys with initiator := i, net := sys.net ++ out }
    else sys
  | .toResponder p =>
    if p ∈ sys.net then
      match p with
      | .request lock m =>
        let (r, out) := responderInput s kx env lock m sys.responder
        { sys with responder := r, net := sys.net ++ out }
      | .response _ _ => sys
      | .auth lock msgid => { sys with responder := responderAuth lock msgid sys.responder }
    else sys
  | .toInitiator p =>
    if p ∈ sys.net then
      match p with
      | .response lock m =>
        let (i, out) := initiatorRecv s kx env lock m sys.initiator
        { sys with initiator := i, net := sys.net ++ out }
      | _ => sys
    else sys
  | .abortInitiator => { sys with initiator := { sys.initiator with state := .dead } }
  | .abortResponder => { sys with responder := { sys.responder with state := .dead } }

/-- the states a run goes through -/
def intermediateRun : IntermediateSystem → List (StepEnv × IntermediateEvent) →
    List IntermediateSystem
  | sys, [] => [sys]
  | sys, (env, ev) :: evs => sys :: intermediateRun (intermediateStep s kx env ev sys) evs

/-- both ends after IKE_SA_INIT -/
def afterInit (keys : IkeKeys) : IntermediateSystem where
  initiator := ⟨.ready, ⟨keys, 0, none, none, s.ppk.isSome, []⟩, 1, none, []⟩
  responder := ⟨.initSent, ⟨keys, 0, none, none, s.ppk.isSome, []⟩, 1, none, []⟩
  net := []

end

/-! ## rounds -/

section
variable {s : IntermediateSession} {kx : KeyExchange} {env : StepEnv}

/-- a round as both ends make it -/
def advance (s : IntermediateSession) (req resp ss : Bytes) (sa : IntermediateSa) :
    Option IntermediateSa :=
  match updateKeys s ss (finishRound s req resp sa) with
  | none => none
  | some sa => if moreRounds s sa then some sa else applyPpk s sa

def totalRounds (s : IntermediateSession) : Nat := max 1 s.methods.length

/-- the PPK waits for the last round -/
def PpkPending (s : IntermediateSession) (sa : IntermediateSa) : Prop :=
  sa.mixed = [] ∧ sa.ppkDeferred = s.ppk.isSome

/-- the PPK, if there is one, was mixed in once, after the last round -/
def PpkMixed (s : IntermediateSession) (sa : IntermediateSa) : Prop :=
  sa.mixed = if s.ppk.isSome then [totalRounds s] else []

theorem moreRounds_iff {sa : IntermediateSa} : moreRounds s sa = true
    ↔ sa.rounds < s.methods.length := by
  unfold moreRounds
  rw [Bool.and_eq_true, decide_eq_true_iff, decide_eq_true_iff]
  omega

theorem applyPpk_some {sa sa' : IntermediateSa} (h : applyPpk s sa = some sa') :
    sa'.rounds = sa.rounds ∧ (PpkPending s sa →
      sa'.mixed = if s.ppk.isSome then [sa.rounds] else []) := by
  unfold applyPpk at h
  split at h
  · rename_i hp
    split at h
    · exact absurd h (by simp)
    · rename_i keys hk
      rw [← Option.some.inj h]
      refine ⟨rfl, fun hpend => ?_⟩
      rw [Bool.and_eq_true] at hp
      show sa.mixed ++ [sa.rounds] = _
      rw [hpend.1, if_pos hp.1]
      rfl
  · rename_i hp
    rw [← Option.some.inj h]
    refine ⟨rfl, fun hpend => ?_⟩
    rw [hpend.2, Bool.and_self] at hp
    rw [hpend.1, if_neg hp]

theorem updateKeys_some {sk : Bytes} {sa sa' : IntermediateSa}
    (h : updateKeys s sk sa = some sa') :
    sa'.rounds = sa.rounds ∧ (PpkPending s sa → PpkPending s sa') := by
  unfold updateKeys at h
  split at h
  · exact absurd h (by simp)
  split at h
  · exact absurd h (by simp)
  · rw [← Option.some.inj h]
    refine ⟨rfl, fun hp => ⟨?_, hp.2⟩⟩
    show (if _ then sa.mixed ++ [sa.rounds] else sa.mixed) = []
    rw [hp.1, hp.2, Bool.and_not_self]
    rfl

/-- what a round does to the keys, and whether it is the last -/
theorem advance_some {req resp ss : Bytes} {sa sa' : IntermediateSa}
    (h : advance s req resp ss sa = some sa') : ∃ sa₁,
      updateKeys s ss (finishRound s req resp sa) = some sa₁ ∧ sa₁.rounds = sa.rounds + 1
      ∧ (PpkPending s sa → PpkPending s sa₁) ∧ sa'.rounds = sa.rounds + 1
      ∧ (moreRounds s sa' = true → sa' = sa₁)
      ∧ (moreRounds s sa' = false → applyPpk s sa₁ = some sa') := by
  unfold advance at h
  split at h
  · exact absurd h (by simp)
  · rename_i sa₁ hsa₁
    obtain ⟨hr₁, hp₁⟩ := updateKeys_some hsa₁
    refine ⟨sa₁, hsa₁, hr₁, hp₁, ?_⟩
    split at h
    · rename_i hmore
      obtain rfl := Option.some.inj h
      exact ⟨hr₁, fun _ => rfl, fun hlast => absurd (hmore.symm.trans hlast) (by simp)⟩
    · rename_i hmore
      have hr := (applyPpk_some h).1
      refine ⟨hr.trans hr₁, fun hmore' => ?_, fun _ => h⟩
      rw [moreRounds_iff] at hmore hmore'
      exact absurd (hr ▸ hmore') hmore

theorem advance_rounds {req resp ss : Bytes} {sa sa' : IntermediateSa}
    (h : advance s req resp ss sa = some sa') : sa'.rounds = sa.rounds + 1 := by
  obtain ⟨sa₁, _, _, _, hr, _⟩ := advance_some h
  exact hr

/-- a round that is not the last leaves the PPK pending -/
theorem advance_pending {req resp ss : Bytes} {sa sa' : IntermediateSa}
    (h : advance s req resp ss sa = some sa') (hp : PpkPending s sa)
    (hm : moreRounds s sa' = true) : PpkPending s sa' := by
  obtain ⟨sa₁, _, _, hp₁, _, hmore, _⟩ := advance_some h
  rw [hmore hm]
  exact hp₁ hp

/-- the last one mixes it in -/
theorem advance_mixed {req resp ss : Bytes} {sa sa' : IntermediateSa}
    (h : advance s req resp ss sa = some sa') (hp : PpkPending s sa)
    (hlt : sa.rounds < totalRounds s) (hm : moreRounds s sa' = false) :
    sa'.rounds = totalRounds s ∧ PpkMixed s sa' := by
  obtain ⟨sa₁, _, hr₁, hp₁, hr, _, hlast⟩ := advance_some h
  have hm' : ¬ moreRounds s sa' = true := by simp [hm]
  rw [moreRounds_iff] at hm'
  have htotal : sa.rounds + 1 = totalRounds s := by
    unfold totalRounds at hlt ⊢
    omega
  refine ⟨hr.trans htotal, ?_⟩
  have hmix := (applyPpk_some (hlast hm)).2 (hp₁ hp)
  unfold PpkMixed
  rw [hmix, hr₁, htotal]

/-! ## what the functions do -/

/-- the initiator waits for the response to `m` -/
structure Waiting (s : IntermediateSession) (kx : KeyExchange) (i : Initiator) (m : KeMessage) :
    Prop where
  state : i.state = .intermediateSent
  msgid : m.msgid = i.msgid
  method : roundMethod s i.sa.rounds = some m.method
  req : i.req = m.content s
  key : ∃ seed priv, kx.keygen m.method seed = some (priv, m.body) ∧ i.key = some priv

theorem initiatorSend_cases (i : Initiator) :
    ((initiatorSend s kx env i).1.state = .dead ∧ (initiatorSend s kx env i).1.sa = i.sa
      ∧ (initiatorSend s kx env i).2 = [])
    ∨ ∃ m, Waiting s kx (initiatorSend s kx env i).1 m ∧ (initiatorSend s kx env i).1.sa = i.sa
      ∧ m.msgid = i.msgid ∧ (initiatorSend s kx env i).2 = [.request i.sa.keys.lockI m] := by
  unfold initiatorSend
  split
  · exact Or.inl ⟨rfl, rfl, rfl⟩
  · rename_i method hmethod
    split
    · exact Or.inl ⟨rfl, rfl, rfl⟩
    · rename_i priv pub hgen
      dsimp only
      split
      · refine Or.inr ⟨⟨false, i.msgid, method, pub⟩, ?_, rfl, rfl, rfl⟩
        exact ⟨rfl, rfl, hmethod, rfl, env.seed, priv, hgen, rfl⟩
      · exact Or.inl ⟨rfl, rfl, rfl⟩

/-- the round is over at the initiator: it has died, sends the next request or goes to IKE_AUTH -/
theorem initiatorFinish_cases (resp ss : Bytes) (i : Initiator) :
    ((initiatorFinish s kx env resp ss i).1.state = .dead
      ∧ (initiatorFinish s kx env resp ss i).1.sa.rounds = i.sa.rounds + 1
      ∧ (initiatorFinish s kx env resp ss i).2 = [])
    ∨ ∃ sa', advance s i.req resp ss i.sa = some sa'
      ∧ (initiatorFinish s kx env resp ss i).1.sa = sa'
      ∧ ((moreRounds s sa' = true ∧ ∃ m, Waiting s kx (initiatorFinish s kx env resp ss i).1 m
          ∧ m.msgid = i.msgid + 1
          ∧ (initiatorFinish s kx env resp ss i).2 = [.request sa'.keys.lockI m])
        ∨ (moreRounds s sa' = false ∧ (initiatorFinish s kx env resp ss i).1.state = .authSent
          ∧ ∀ p ∈ (initiatorFinish s kx env resp ss i).2,
            p = .auth sa'.keys.lockI (1 + sa'.rounds))) := by
  unfold initiatorFinish
  dsimp only
  cases hk : updateKeys s ss (finishRound s i.req resp i.sa) with
  | none => exact Or.inl ⟨rfl, rfl, rfl⟩
  | some sa₁ =>
    have hr₁ := (updateKeys_some hk).1
    have hadv : advance s i.req resp ss i.sa
        = if moreRounds s sa₁ then some sa₁ else applyPpk s sa₁ := by
      unfold advance
      rw [hk]
    dsimp only
    split
    · rename_i hmore
      rw [if_pos hmore] at hadv
      rcases @initiatorSend_cases s kx env { i with
          key := none, sa := sa₁, msgid := i.msgid + 1 } with ⟨h1, h2, h3⟩ | ⟨m, h1, h2, h3, h4⟩
      · exact Or.inl ⟨h1, by rw [h2]; exact hr₁, h3⟩
      · exact Or.inr ⟨_, hadv, h2, Or.inl ⟨hmore, m, h1, h3, h4⟩⟩
    · rename_i hmore
      rw [if_neg hmore] at hadv
      split
      · exact Or.inl ⟨rfl, hr₁, rfl⟩
      · rename_i sa' hsa
        refine Or.inr ⟨sa', hadv.trans hsa, rfl, Or.inr ⟨?_, rfl, ?_⟩⟩
        · have hr := (applyPpk_some hsa).1
          have hnot : ¬ moreRounds s sa' = true := by
            rw [moreRounds_iff, hr]
            rw [moreRounds_iff] at hmore
            exact hmore
          simpa using hnot
        · intro p hp
          split at hp
          · exact List.mem_singleton.mp hp
          · exact absurd hp List.not_mem_nil

/-- the round is over at the responder -/
theorem responderFinish_cases (req resp ss : Bytes) (msgid : Nat) (r : Responder) :
    (∃ sa, responderFinish s req resp ss msgid r
        = { r with sa := sa, completed := r.completed ++ [msgid], state := .dead }
      ∧ sa.rounds = r.sa.rounds + 1)
    ∨ ∃ sa, responderFinish s req resp ss msgid r
        = { r with sa := sa, completed := r.completed ++ [msgid], recvMsgid := msgid + 1 }
      ∧ advance s req resp ss r.sa = some sa := by
  unfold responderFinish
  dsimp only
  cases hk : updateKeys s ss (finishRound s req resp r.sa) with
  | none => exact Or.inl ⟨_, rfl, rfl⟩
  | some sa₁ =>
    have hr₁ := (updateKeys_some hk).1
    dsimp only
    -- the responder asks for the last round the other way round
    have hlast : (s.methods.length = 0 ∨ s.methods.length ≤ sa₁.rounds)
        ↔ ¬ moreRounds s sa₁ = true := by
      rw [moreRounds_iff]
      omega
    have hif : (if s.methods.length = 0 ∨ s.methods.length ≤ sa₁.rounds then applyPpk s sa₁
        else some sa₁) = advance s req resp ss r.sa := by
      unfold advance
      rw [hk]
      dsimp only
      by_cases hm : moreRounds s sa₁ = true
      · rw [if_pos hm, if_neg (fun h => hlast.mp h hm)]
      · rw [if_neg hm, if_pos (hlast.mpr hm)]
    rw [hif]
    split
    · exact Or.inl ⟨_, rfl, hr₁⟩
    · rename_i sa hsa
      exact Or.inr ⟨sa, rfl, hsa⟩

/-- the initiator takes a response of the round it waits for, or no response at all -/
theorem initiatorRecv_cases (lock : Lock) (m : KeMessage) (i : Initiator) :
    initiatorRecv s kx env lock m i = (i, [])
    ∨ initiatorRecv s kx env lock m i = ({ i with state := .dead }, [])
    ∨ ∃ priv ss, i.state = .intermediateSent ∧ m.msgid = i.msgid ∧ i.key = some priv
      ∧ kx.finish m.method priv m.body = some ss
      ∧ initiatorRecv s kx env lock m i = initiatorFinish s kx env (m.content s) ss i := by
  unfold initiatorRecv
  split
  · exact Or.inl rfl
  · rename_i hstate
    rw [not_or, not_not] at hstate
    split
    · exact Or.inr (Or.inl rfl)
    split
    · exact Or.inl rfl
    · rename_i hid
      split
      · exact Or.inr (Or.inl rfl)
      cases hkey : i.key with
      | none => exact Or.inl rfl
      | some priv =>
        dsimp only
        cases hss : kx.finish m.method priv m.body with
        | none => exact Or.inr (Or.inl rfl)
        | some ss =>
          exact Or.inr (Or.inr ⟨priv, ss, hstate.1, not_not.mp hid, rfl, hss, rfl⟩)

/-- the response to `m`, with what the key exchange sends back -/
def KeMessage.answer (m : KeMessage) (ct : Bytes) : KeMessage := ⟨true, m.msgid, m.method, ct⟩

/-- a round of the responder: the response is kept, and sent or not -/
theorem responderIntermediate_cases (m : KeMessage) (r : Responder) :
    responderIntermediate s kx env m r = (r, [])
    ∨ ∃ ct ss, kx.respond m.method m.body env.seed = some (ct, ss)
      ∧ (responderIntermediate s kx env m r
          = ({ r with replay := some (m.msgid, .response r.sa.keys.lockR (m.answer ct)) }, [])
        ∨ responderIntermediate s kx env m r
          = (responderFinish s (m.content s) ((m.answer ct).content s) ss m.msgid
              { r with replay := some (m.msgid, .response r.sa.keys.lockR (m.answer ct)) },
            [.response r.sa.keys.lockR (m.answer ct)])) := by
  unfold responderIntermediate
  split
  · exact Or.inl rfl
  cases hct : kx.respond m.method m.body env.seed with
  | none => exact Or.inl rfl
  | some p =>
    refine Or.inr ⟨p.1, p.2, rfl, ?_⟩
    dsimp only
    split
    · exact Or.inr rfl
    · exact Or.inl rfl

/-- the responder ignores a request, replays a response or makes a round -/
theorem responderInput_cases (lock : Lock) (m : KeMessage) (r : Responder) :
    responderInput s kx env lock m r = (r, [])
    ∨ (∃ pkt, replayed env m r = some pkt ∧ responderInput s kx env lock m r = (r, [pkt]))
    ∨ (r.state = .initSent ∧ m.msgid = r.recvMsgid
      ∧ responderInput s kx env lock m r = responderIntermediate s kx env m r) := by
  unfold responderInput
  cases hreplay : replayed env m r with
  | some pkt =>
    dsimp only
    split
    · exact Or.inr (Or.inl ⟨pkt, rfl, rfl⟩)
    · exact Or.inl rfl
  | none =>
    dsimp only
    split
    · rename_i h
      exact Or.inr (Or.inr ⟨h.1, h.2.2, rfl⟩)
    · exact Or.inl rfl

theorem replayed_eq_some {m : KeMessage} {r : Responder} {pkt : KePacket}
    (h : replayed env m r = some pkt) : r.replay = some (m.msgid, pkt) := by
  unfold replayed at h
  split at h
  · rename_i id pkt' hc
    split at h
    · rename_i hhit
      rw [hc, hhit.1, Option.some.inj h]
    · exact absurd h (by simp)
  · exact absurd h (by simp)

/-! ## the invariant -/

/-- the last round the initiator can have asked for -/
def Initiator.asked (i : Initiator) : Nat :=
  match i.state with
  | .ready | .authSent => i.sa.rounds
  | .intermediateSent | .dead => i.sa.rounds + 1

theorem Initiator.rounds_le_asked (i : Initiator) : i.sa.rounds ≤ i.asked := by
  unfold Initiator.asked
  split <;> omega

theorem Initiator.asked_le (i : Initiator) : i.asked ≤ i.sa.rounds + 1 := by
  unfold Initiator.asked
  split <;> omega

theorem Initiator.asked_eq {i : Initiator} (h : i.state ≠ .intermediateSent)
    (hdead : i.state ≠ .dead) : i.asked = i.sa.rounds := by
  unfold Initiator.asked
  split
  · rfl
  · rfl
  · contradiction
  · contradiction

/-- the initiator before and after its last round -/
structure Initiator.Phase (s : IntermediateSession) (i : Initiator) : Prop where
  asking : i.state = .ready ∨ i.state = .intermediateSent →
    i.msgid = i.sa.rounds + 1 ∧ i.sa.rounds < totalRounds s ∧ PpkPending s i.sa
  auth : i.state = .authSent → i.sa.rounds = totalRounds s ∧ PpkMixed s i.sa

/-- the response `m` gives the initiator the secret of the responder -/
def Answers (s : IntermediateSession) (kx : KeyExchange) (i : Initiator) (r : Responder)
    (m : KeMessage) : Prop :=
  ∃ priv ss, i.key = some priv ∧ kx.finish m.method priv m.body = some ss
    ∧ (r.state ≠ .dead → advance s i.req (m.content s) ss i.sa = some r.sa)

structure Lockstep (s : IntermediateSession) (kx : KeyExchange) (i : Initiator) (r : Responder)
    (net : List KePacket) : Prop where
  phase : i.Phase s
  completed : r.completed = List.range' 1 r.sa.rounds
  recv : r.state ≠ .dead → r.recvMsgid = r.sa.rounds + 1
  behind : i.sa.rounds ≤ r.sa.rounds
  ahead : r.sa.rounds ≤ i.asked
  same : i.state ≠ .dead → r.state ≠ .dead → r.sa.rounds = i.sa.rounds → r.sa = i.sa
  requests : ∀ lock m, KePacket.request lock m ∈ net → m.msgid ≤ i.asked
    ∧ (i.state = .intermediateSent → m.msgid = i.sa.rounds + 1 → Waiting s kx i m)
  responses : ∀ lock m, KePacket.response lock m ∈ net → m.msgid ≤ r.sa.rounds
    ∧ (i.state = .intermediateSent → m.msgid = i.sa.rounds + 1 → Answers s kx i r m)
  replay : ∀ id pkt, r.replay = some (id, pkt) → id ≤ r.sa.rounds → pkt ∈ net
  auths : ∀ lock id, KePacket.auth lock id ∈ net → id = i.sa.rounds + 1
    ∧ (i.state = .authSent ∨ i.state = .dead)
  auth : r.state = .authRcvd → r.sa.rounds = i.sa.rounds
    ∧ (i.state = .authSent ∨ i.state = .dead)

variable {i : Initiator} {r : Responder} {net : List KePacket}

theorem Lockstep.init (keys : IkeKeys) : Lockstep s kx (afterInit s keys).initiator
    (afterInit s keys).responder (afterInit s keys).net := by
  have hpos : 0 < totalRounds s := by
    unfold totalRounds
    omega
  constructor
  · exact ⟨fun _ => ⟨rfl, hpos, rfl, rfl⟩, fun h => absurd h (by simp [afterInit])⟩
  · rfl
  · exact fun _ => rfl
  · exact Nat.le_refl 0
  · exact Nat.le_refl 0
  · exact fun _ _ _ => rfl
  · exact fun lock m h => absurd h List.not_mem_nil
  · exact fun lock m h => absurd h List.not_mem_nil
  · exact fun id pkt h => absurd h (by simp [afterInit])
  · exact fun lock id h => absurd h List.not_mem_nil
  · exact fun h => absurd h (by simp [afterInit])

/-- only what is in the network counts -/
theorem Lockstep.subset {net' : List KePacket} (h : Lockstep s kx i r net)
    (hsub : ∀ p ∈ net', p ∈ net) (hsup : ∀ p ∈ net, p ∈ net') : Lockstep s kx i r net' := {
  h with
  requests := fun lock m hm => h.requests lock m (hsub _ hm)
  responses := fun lock m hm => h.responses lock m (hsub _ hm)
  replay := fun id pkt hr hle => hsup _ (h.replay id pkt hr hle)
  auths := fun lock id hm => h.auths lock id (hsub _ hm) }

theorem Lockstep.abortInitiator (h : Lockstep s kx i r net) :
    Lockstep s kx { i with state := .dead } r net := by
  constructor
  · exact ⟨fun hs => absurd hs (by simp), fun hs => absurd hs (by simp)⟩
  · exact h.completed
  · exact h.recv
  · exact h.behind
  · exact Nat.le_trans h.ahead i.asked_le
  · exact fun hs => absurd rfl hs
  · intro lock m hm
    refine ⟨Nat.le_trans (h.requests lock m hm).1 i.asked_le, fun hs => ?_⟩
    exact absurd hs (by simp)
  · exact fun lock m hm => ⟨(h.responses lock m hm).1, fun hs => absurd hs (by simp)⟩
  · exact h.replay
  · exact fun lock id hm => ⟨(h.auths lock id hm).1, Or.inr rfl⟩
  · exact fun hs => ⟨(h.auth hs).1, Or.inr rfl⟩

theorem Lockstep.abortResponder (h : Lockstep s kx i r net) :
    Lockstep s kx i { r with state := .dead } net := by
  constructor
  · exact h.phase
  · exact h.completed
  · exact fun hs => absurd rfl hs
  · exact h.behind
  · exact h.ahead
  · exact fun _ hs => absurd rfl hs
  · exact h.requests
  · intro lock m hm
    refine ⟨(h.responses lock m hm).1, fun hs hid => ?_⟩
    obtain ⟨priv, ss, hkey, hfin, _⟩ := (h.responses lock m hm).2 hs hid
    exact ⟨priv, ss, hkey, hfin, fun hs => absurd rfl hs⟩
  · exact h.replay
  · exact h.auths
  · exact fun hs => absurd hs (by simp)

/-- the initiator moves on to `i'`, with as many rounds as the responder -/
theorem Lockstep.initiator {i' : Initiator} {out : List KePacket} (h : Lockstep s kx i r net)
    (hi : i.state = .ready ∨ i.state = .intermediateSent)
    (hphase : i'.Phase s) (hrounds : i'.sa.rounds = r.sa.rounds)
    (hsa : i'.state ≠ .dead → r.state ≠ .dead → r.sa = i'.sa)
    (hasked : i.asked ≤ i'.sa.rounds)
    (hout : ∀ p ∈ out, (∃ lock m, p = .request lock m ∧ m.msgid = i'.sa.rounds + 1
        ∧ Waiting s kx i' m)
      ∨ ∃ lock, p = .auth lock (i'.sa.rounds + 1) ∧ i'.state = .authSent) :
    Lockstep s kx i' r (net ++ out) := by
  have hbefore : ¬ (i.state = .authSent ∨ i.state = .dead) := by
    rcases hi with hi | hi <;> simp [hi]
  constructor
  · exact hphase
  · exact h.completed
  · exact h.recv
  · exact Nat.le_of_eq hrounds
  · exact Nat.le_trans (Nat.le_of_eq hrounds.symm) i'.rounds_le_asked
  · exact fun hi hr _ => hsa hi hr
  · intro lock m hm
    rcases List.mem_append.mp hm with hm | hm
    · have hle := Nat.le_trans (h.requests lock m hm).1 hasked
      exact ⟨Nat.le_trans hle i'.rounds_le_asked, fun _ hid => by omega⟩
    · rcases hout _ hm with ⟨lock', m', heq, hid, hwait⟩ | ⟨lock', heq, _⟩
      · obtain ⟨_, rfl⟩ := KePacket.request.inj heq
        refine ⟨?_, fun _ _ => hwait⟩
        unfold Initiator.asked
        rw [hwait.state]
        exact Nat.le_of_eq hid
      · exact absurd heq (by simp)
  · intro lock m hm
    rcases List.mem_append.mp hm with hm | hm
    · have hle := (h.responses lock m hm).1
      exact ⟨hle, fun _ hid => by omega⟩
    · rcases hout _ hm with ⟨lock', m', heq, _⟩ | ⟨lock', heq, _⟩
      · exact absurd heq (by simp)
      · exact absurd heq (by simp)
  · exact fun id pkt hr hle => List.mem_append_left _ (h.replay id pkt hr hle)
  · intro lock id hm
    rcases List.mem_append.mp hm with hm | hm
    · exact absurd (h.auths lock id hm).2 hbefore
    · rcases hout _ hm with ⟨lock', m', heq, _⟩ | ⟨lock', heq, hs⟩
      · exact absurd heq (by simp)
      · exact ⟨(KePacket.auth.inj heq).2, Or.inl hs⟩
  · exact fun hs => absurd (h.auth hs).2 hbefore

/-- `initiator_ike_intermediate_send` in the first round -/
theorem Lockstep.start (h : Lockstep s kx i r net) (hi : i.state = .ready) :
    Lockstep s kx (initiatorSend s kx env i).1 r (net ++ (initiatorSend s kx env i).2) := by
  have hasked : i.asked = i.sa.rounds := Initiator.asked_eq (by simp [hi]) (by simp [hi])
  have hrounds : r.sa.rounds = i.sa.rounds :=
    Nat.le_antisymm (hasked ▸ h.ahead) h.behind
  have hsa : r.state ≠ .dead → r.sa = i.sa := fun hr => h.same (by simp [hi]) hr hrounds
  obtain ⟨hid, hlt, hpend⟩ := h.phase.asking (Or.inl hi)
  rcases @initiatorSend_cases s kx env i with ⟨hs, hsa', hout⟩ | ⟨m, hwait, hsa', hm, hout⟩
  · refine h.initiator (Or.inl hi) ?_ ?_ ?_ ?_ ?_
    · exact ⟨fun h => absurd h (by simp [hs]), fun h => absurd h (by simp [hs])⟩
    · rw [hsa', hrounds]
    · exact fun h => absurd hs h
    · rw [hsa', hasked]
    · intro p hp
      rw [hout] at hp
      exact absurd hp List.not_mem_nil
  · refine h.initiator (Or.inl hi) ?_ ?_ ?_ ?_ ?_
    · refine ⟨fun _ => ?_, fun h => absurd h (by simp [hwait.state])⟩
      rw [hsa', ← hwait.msgid, hm]
      exact ⟨hid, hlt, hpend⟩
    · rw [hsa', hrounds]
    · intro _ hr
      rw [hsa', hsa hr]
    · rw [hsa', hasked]
    · intro p hp
      rw [hout] at hp
      refine Or.inl ⟨_, m, List.mem_singleton.mp hp, ?_, hwait⟩
      rw [hsa', hm, hid]

/-- `initiator_ike_intermediate_recv` -/
theorem Lockstep.initiatorRecv {lock : Lock} {m : KeMessage} (h : Lockstep s kx i r net)
    (hm : KePacket.response lock m ∈ net) :
    Lockstep s kx (initiatorRecv s kx env lock m i).1 r
      (net ++ (initiatorRecv s kx env lock m i).2) := by
  rcases @initiatorRecv_cases s kx env lock m i with heq | heq
      | ⟨priv, ss, hi, hid, hkey, hfin, heq⟩
  · rw [heq, List.append_nil]
    exact h
  · rw [heq, List.append_nil]
    exact h.abortInitiator
  rw [heq]
  obtain ⟨hmsgid, hlt, hpend⟩ := h.phase.asking (Or.inr hi)
  have hround : m.msgid = i.sa.rounds + 1 := hid.trans hmsgid
  obtain ⟨hle, hanswer⟩ := h.responses lock m hm
  have hasked : i.asked = i.sa.rounds + 1 := by
    unfold Initiator.asked
    rw [hi]
  -- the responder is the one round ahead
  have hahead : r.sa.rounds = i.sa.rounds + 1 := by
    have := h.ahead
    omega
  obtain ⟨priv', ss', hkey', hfin', hadv'⟩ := hanswer hi hround
  obtain rfl : priv = priv' := Option.some.inj (hkey.symm.trans hkey')
  obtain rfl : ss = ss' := Option.some.inj (hfin.symm.trans hfin')
  rcases @initiatorFinish_cases s kx env (m.content s) ss i with ⟨hs, hrounds, hout⟩
      | ⟨sa', hadv, hsa, hrest⟩
  · refine h.initiator (Or.inr hi) ?_ ?_ ?_ ?_ ?_
    · exact ⟨fun h => absurd h (by simp [hs]), fun h => absurd h (by simp [hs])⟩
    · rw [hrounds, hahead]
    · exact fun h => absurd hs h
    · rw [hrounds, hasked]
    · intro p hp
      rw [hout] at hp
      exact absurd hp List.not_mem_nil
  · have hrounds := advance_rounds hadv
    refine h.initiator (Or.inr hi) ?_ ?_ ?_ ?_ ?_
    · rcases hrest with ⟨hmore, m', hwait, hm', _⟩ | ⟨hlast, hs, _⟩
      · refine ⟨fun _ => ?_, fun h => absurd h (by simp [hwait.state])⟩
        rw [hsa, ← hwait.msgid, hm', hrounds]
        refine ⟨by omega, ?_, advance_pending hadv hpend hmore⟩
        rw [moreRounds_iff] at hmore
        unfold totalRounds
        omega
      · refine ⟨fun h => absurd h (by simp [hs]), fun _ => ?_⟩
        rw [hsa]
        exact advance_mixed hadv hpend hlt hlast
    · rw [hsa, hrounds, hahead]
    · intro _ hr
      rw [hsa]
      exact Option.some.inj ((hadv' hr).symm.trans hadv)
    · rw [hsa, hrounds, hasked]
    · intro p hp
      rw [hsa]
      rcases hrest with ⟨_, m', hwait, hm', hout⟩ | ⟨_, hs, hout⟩
      · rw [hout] at hp
        refine Or.inl ⟨_, m', List.mem_singleton.mp hp, ?_, hwait⟩
        rw [hm', hrounds]
        omega
      · refine Or.inr ⟨sa'.keys.lockI, ?_, hs⟩
        rw [hout p hp, Nat.add_comm]

/-- the responder has made the round of `m` and sent `resp` -/
theorem Lockstep.responder {r' : Responder} {lock lock' : Lock} {m resp : KeMessage}
    (h : Lockstep s kx i r net) (hm : KePacket.request lock m ∈ net)
    (hid : m.msgid = r.sa.rounds + 1) (hresp : resp.msgid = m.msgid)
    (hrounds : r'.sa.rounds = r.sa.rounds + 1)
    (hcompleted : r'.completed = r.completed ++ [m.msgid])
    (hrecv : r'.state ≠ .dead → r'.recvMsgid = m.msgid + 1) (hrcvd : r'.state ≠ .authRcvd)
    (hreplay : r'.replay = some (m.msgid, .response lock' resp))
    (hanswer : Waiting s kx i m → r.sa = i.sa → Answers s kx i r' resp) (hr : r.state ≠ .dead) :
    Lockstep s kx i r' (net ++ [.response lock' resp]) := by
  have hasked := (h.requests lock m hm).1
  have hbehind := h.behind
  have hahead := i.asked_le
  constructor
  · exact h.phase
  · rw [hcompleted, hrounds, h.completed, hid, List.range'_concat, Nat.one_mul, Nat.add_comm]
  · intro hs
    rw [hrecv hs, hrounds, hid]
  · omega
  · omega
  · intro _ _ heq
    omega
  · intro lock'' m' hm'
    rcases List.mem_append.mp hm' with hm' | hm'
    · exact h.requests lock'' m' hm'
    · exact absurd (List.mem_singleton.mp hm') (by simp)
  · intro lock'' m' hm'
    rcases List.mem_append.mp hm' with hm' | hm'
    · have hle := (h.responses lock'' m' hm').1
      exact ⟨by omega, fun _ heq => by omega⟩
    · obtain ⟨_, rfl⟩ := KePacket.response.inj (List.mem_singleton.mp hm')
      refine ⟨by omega, fun hi heq => ?_⟩
      have hsame : r.sa = i.sa := h.same (by simp [hi]) hr (by omega)
      exact hanswer ((h.requests lock m hm).2 hi (by omega)) hsame
  · intro id pkt heq _
    rw [hreplay] at heq
    rw [← (Prod.mk.inj (Option.some.inj heq)).2]
    exact List.mem_append_right _ (List.mem_singleton.mpr rfl)
  · intro lock'' id hmem
    rcases List.mem_append.mp hmem with hmem | hmem
    · exact h.auths lock'' id hmem
    · exact absurd (List.mem_singleton.mp hmem) (by simp)
  · exact fun hs => absurd hs hrcvd

/-- `responder_ike_intermediate_recv` -/
theorem Lockstep.responderIntermediate {lock : Lock} {m : KeMessage} (h : Lockstep s kx i r net)
    (hm : KePacket.request lock m ∈ net) (hstate : r.state = .initSent)
    (hid : m.msgid = r.recvMsgid) :
    Lockstep s kx i (responderIntermediate s kx env m r).1
      (net ++ (responderIntermediate s kx env m r).2) := by
  have hr : r.state ≠ .dead := by simp [hstate]
  have hround : m.msgid = r.sa.rounds + 1 := hid.trans (h.recv hr)
  rcases @responderIntermediate_cases s kx env m r with heq | ⟨ct, ss, hct, heq | heq⟩
  · rw [heq, List.append_nil]
    exact h
  · -- not sent: the kept response is one of a round that is not completed
    rw [heq, List.append_nil]
    constructor
    · exact h.phase
    · exact h.completed
    · exact h.recv
    · exact h.behind
    · exact h.ahead
    · exact h.same
    · exact h.requests
    · exact h.responses
    · intro id pkt hpkt hle
      have hkept : m.msgid = id := (Prod.mk.inj (Option.some.inj hpkt)).1
      have hle' : id ≤ r.sa.rounds := hle
      omega
    · exact h.auths
    · exact h.auth
  · rw [heq]
    -- the key exchange gives both ends the same secret
    have hfin : Waiting s kx i m →
        ∃ priv, i.key = some priv ∧ kx.finish (m.answer ct).method priv ct = some ss := by
      intro hwait
      obtain ⟨seed, priv, hgen, hkey⟩ := hwait.key
      exact ⟨priv, hkey, kx.agree _ _ _ _ _ _ _ hgen hct⟩
    rcases @responderFinish_cases s (m.content s) ((m.answer ct).content s) ss m.msgid
        { r with replay := some (m.msgid, .response r.sa.keys.lockR (m.answer ct)) }
      with ⟨sa, hfinish, hsa⟩ | ⟨sa, hfinish, hadv⟩
    · rw [hfinish]
      refine h.responder hm hround rfl hsa rfl (fun hs => absurd rfl hs) ?_ rfl ?_ hr
      · exact fun hs => absurd hs (by simp)
      · intro hwait _
        obtain ⟨priv, hkey, hss⟩ := hfin hwait
        exact ⟨priv, ss, hkey, hss, fun hs => absurd rfl hs⟩
    · rw [hfinish]
      refine h.responder hm hround rfl (advance_rounds hadv) rfl (fun _ => rfl) ?_ rfl ?_ hr
      · exact fun hs => absurd (hstate.symm.trans hs) (by simp)
      · intro hwait hsame
        obtain ⟨priv, hkey, hss⟩ := hfin hwait
        refine ⟨priv, ss, hkey, hss, fun _ => ?_⟩
        rw [hwait.req, ← hsame]
        exact hadv

/-- `ikev2_input`: a kept response that was sent before is no news -/
theorem Lockstep.responderInput {lock : Lock} {m : KeMessage} (h : Lockstep s kx i r net)
    (hm : KePacket.request lock m ∈ net)
    (hreplay : replayed env m r ≠ none → m.msgid ≤ r.sa.rounds) :
    Lockstep s kx i (responderInput s kx env lock m r).1
      (net ++ (responderInput s kx env lock m r).2) := by
  rcases @responderInput_cases s kx env lock m r with heq | ⟨pkt, hpkt, heq⟩ | ⟨hstate, hid, heq⟩
  · rw [heq, List.append_nil]
    exact h
  · rw [heq]
    have hle : m.msgid ≤ r.sa.rounds := hreplay (by simp [hpkt])
    have hin : pkt ∈ net := h.replay _ _ (replayed_eq_some hpkt) hle
    refine h.subset (fun p hp => ?_) (fun p hp => List.mem_append_left _ hp)
    rcases List.mem_append.mp hp with hp | hp
    · exact hp
    · rw [List.mem_singleton.mp hp]
      exact hin
  · rw [heq]
    exact h.responderIntermediate hm hstate hid

theorem Lockstep.responderAuth {lock : Lock} {id : Nat} (h : Lockstep s kx i r net)
    (hm : KePacket.auth lock id ∈ net) : Lockstep s kx i (responderAuth lock id r) net := by
  unfold Ikev2.responderAuth
  split
  · rename_i hok
    have hr : r.state ≠ .dead := by simp [hok.1]
    obtain ⟨hround, hi⟩ := h.auths lock id hm
    have hrecv := h.recv hr
    have hrounds : r.sa.rounds = i.sa.rounds := by
      have := hok.2.2
      omega
    constructor
    · exact h.phase
    · exact h.completed
    · exact fun _ => hrecv
    · exact h.behind
    · exact h.ahead
    · exact fun hs _ heq => h.same hs hr heq
    · exact h.requests
    · intro lock' m hm'
      refine ⟨(h.responses lock' m hm').1, fun hs => ?_⟩
      rcases hi with hi | hi <;> exact absurd (hi.symm.trans hs) (by simp)
    · exact h.replay
    · exact h.auths
    · exact fun _ => ⟨hrounds, hi⟩
  · exact h

/-! ## runs -/

/-- the step answers no request from the cache whose round the responder has not completed -/
def answersCompleted (env : StepEnv) (ev : IntermediateEvent) (sys : IntermediateSystem) : Bool :=
  match ev with
  | .toResponder (.request _ m) =>
    (replayed env m sys.responder).isNone || decide (m.msgid ≤ sys.responder.sa.rounds)
  | _ => true

def runAnswersCompleted (s : IntermediateSession) (kx : KeyExchange) :
    IntermediateSystem → List (StepEnv × IntermediateEvent) → Bool
  | _, [] => true
  | sys, (env, ev) :: evs => answersCompleted env ev sys
    && runAnswersCompleted s kx (intermediateStep s kx env ev sys) evs

theorem intermediateStep_lockstep {sys : IntermediateSystem} (ev : IntermediateEvent)
    (h : Lockstep s kx sys.initiator sys.responder sys.net)
    (hcond : answersCompleted env ev sys = true) :
    Lockstep s kx (intermediateStep s kx env ev sys).initiator
      (intermediateStep s kx env ev sys).responder (intermediateStep s kx env ev sys).net := by
  cases ev with
  | start =>
    unfold intermediateStep
    dsimp only
    split
    · rename_i hready
      exact h.start hready
    · exact h
  | toResponder p =>
    unfold intermediateStep
    dsimp only
    split
    · rename_i hmem
      cases p with
      | request lock m =>
        refine h.responderInput hmem fun hhit => ?_
        rcases (Bool.or_eq_true _ _).mp hcond with hnone | hle
        · exact absurd (Option.isNone_iff_eq_none.mp hnone) hhit
        · exact of_decide_eq_true hle
      | response lock m => exact h
      | auth lock id => exact h.responderAuth hmem
    · exact h
  | toInitiator p =>
    unfold intermediateStep
    dsimp only
    split
    · rename_i hmem
      cases p with
      | request lock m => exact h
      | response lock m => exact h.initiatorRecv hmem
      | auth lock id => exact h
    · exact h
  | abortInitiator => exact h.abortInitiator
  | abortResponder => exact h.abortResponder

theorem intermediateRun_lockstep (evs : List (StepEnv × IntermediateEvent)) :
    ∀ sys : IntermediateSystem, Lockstep s kx sys.initiator sys.responder sys.net →
      runAnswersCompleted s kx sys evs = true →
      ∀ sys' ∈ intermediateRun s kx sys evs,
        Lockstep s kx sys'.initiator sys'.responder sys'.net := by
  induction evs with
  | nil =>
    intro sys h _ sys' hmem
    rw [List.mem_singleton.mp hmem]
    exact h
  | cons e evs ih =>
    obtain ⟨env, ev⟩ := e
    intro sys h hrun sys' hmem
    obtain ⟨hcond, hrest⟩ := (Bool.and_eq_true _ _).mp hrun
    rcases List.mem_cons.mp hmem with rfl | hmem
    · exact h
    · exact ih _ (intermediateStep_lockstep ev h hcond) hrest sys' hmem

/-- in every run that answers only completed rounds from the cache, with any losses, duplicates and
failed transmissions: what the initiator has accepted, the responder has completed once; and in
IKE_AUTH both have the same keys and chains, with the PPK mixed in behind the last round -/
theorem intermediate_lockstep (s : IntermediateSession) (kx : KeyExchange) (keys : IkeKeys)
    (evs : List (StepEnv × IntermediateEvent))
    (hrun : runAnswersCompleted s kx (afterInit s keys) evs = true) :
    ∀ sys ∈ intermediateRun s kx (afterInit s keys) evs,
      (∀ k, 1 ≤ k → k ≤ sys.initiator.sa.rounds → sys.responder.completed.count k = 1)
      ∧ (sys.initiator.state = .authSent → sys.responder.state = .authRcvd →
        sys.responder.sa.keys = sys.initiator.sa.keys
        ∧ sys.responder.sa.intauthI = sys.initiator.sa.intauthI
        ∧ sys.responder.sa.intauthR = sys.initiator.sa.intauthR
        ∧ sys.initiator.sa.rounds = totalRounds s
        ∧ PpkMixed s sys.initiator.sa ∧ PpkMixed s sys.responder.sa) := by
  intro sys hmem
  have h := intermediateRun_lockstep evs _ (Lockstep.init keys) hrun sys hmem
  constructor
  · intro k hpos hle
    rw [h.completed]
    have hin : k ∈ List.range' 1 sys.responder.sa.rounds := by
      rw [List.mem_range'_1]
      have := h.behind
      omega
    exact List.count_eq_one_of_mem List.nodup_range' hin
  · intro hi hr
    have hsame : sys.responder.sa = sys.initiator.sa :=
      h.same (by simp [hi]) (by simp [hr]) (h.auth hr).1
    obtain ⟨htotal, hmixed⟩ := h.phase.auth hi
    rw [hsame]
    exact ⟨rfl, rfl, rfl, htotal, hmixed, hmixed⟩

end

/-- a key exchange that sends its secrets -/
def plainExchange : KeyExchange where
  keygen := fun _ seed => some (seed, seed)
  respond := fun _ pub seed => some (seed, pub ++ seed)
  finish := fun _ priv ct => some (priv ++ ct)
  agree := by
    intro _ seed priv pub seed' ct ss hgen hresp
    obtain ⟨rfl, rfl⟩ := Prod.mk.inj (Option.some.inj hgen)
    obtain ⟨rfl, rfl⟩ := Prod.mk.inj (Option.some.inj hresp)
    rfl

/-- ML-KEM-1024, then ML-KEM-768, and a PPK -/
def mlkemSession : IntermediateSession where
  prf := sumPrf
  lenA := 0
  lenE := 2
  lenP := 1
  nI := [1]
  nR := [2]
  spiI := [3]
  spiR := [4]
  addke := 37
  negotiated := by decide
  methods := [37, 36]
  ppk := some [5]

def mlkemInit : IntermediateSystem :=
  afterInit mlkemSession ⟨[6], [], [], [7, 7], [8, 8], [9], [10]⟩

def worksEnv (seed : UInt8) : StepEnv := ⟨[seed], true, true, true, true⟩

/-- both rounds and IKE_AUTH, with a retransmission in the first round -/
def mlkemTraffic : List (StepEnv × IntermediateEvent) := [
  (worksEnv 11, .start),
  (worksEnv 12, .toResponder (.request ([], [7, 7]) ⟨false, 1, 37, [11]⟩)),
  (worksEnv 12, .toResponder (.request ([], [7, 7]) ⟨false, 1, 37, [11]⟩)),
  (worksEnv 13, .toInitiator (.response ([], [8, 8]) ⟨true, 1, 37, [12]⟩)),
  (worksEnv 14, .toResponder (.request ([], [139, 139]) ⟨false, 2, 36, [13]⟩)),
  (worksEnv 15, .toInitiator (.response ([], [139, 139]) ⟨true, 2, 36, [14]⟩)),
  (worksEnv 16, .toResponder (.auth ([], [63, 63]) 3))]

theorem intermediate_lockstep_mlkem :
    ∃ sys ∈ intermediateRun mlkemSession plainExchange mlkemInit mlkemTraffic,
      sys.responder.completed.count 1 = 1 ∧ sys.responder.completed.count 2 = 1
      ∧ sys.responder.sa.keys = sys.initiator.sa.keys ∧ sys.responder.sa.mixed = [2] := by
  have hreach : ∃ sys ∈ intermediateRun mlkemSession plainExchange mlkemInit mlkemTraffic,
      sys.initiator.sa.rounds = 2 ∧ sys.initiator.state = .authSent
      ∧ sys.responder.state = .authRcvd := by
    decide +kernel
  obtain ⟨sys, hmem, hrounds, hi, hr⟩ := hreach
  obtain ⟨hcount, hagree⟩ := intermediate_lockstep mlkemSession plainExchange
    ⟨[6], [], [], [7, 7], [8, 8], [9], [10]⟩ mlkemTraffic (by decide +kernel) sys hmem
  obtain ⟨hkeys, _, _, _, _, hmixed⟩ := hagree hi hr
  exact ⟨sys, hmem, hcount 1 (by omega) (by omega), hcount 2 (by omega) (by omega), hkeys, hmixed⟩

/-- the response of the first round is kept but not sent; the retransmitted request gets it from the
cache -/
def unsentTraffic : List (StepEnv × IntermediateEvent) := [
  (worksEnv 11, .start),
  (⟨[12], false, true, true, true⟩, .toResponder (.request ([], [7, 7]) ⟨false, 1, 37, [11]⟩)),
  (worksEnv 13, .toResponder (.request ([], [7, 7]) ⟨false, 1, 37, [11]⟩)),
  (worksEnv 14, .toInitiator (.response ([], [8, 8]) ⟨true, 1, 37, [12]⟩))]

theorem unsent_round_accepted :
    ∃ sys ∈ intermediateRun mlkemSession plainExchange mlkemInit unsentTraffic,
      sys.initiator.sa.rounds = 1 ∧ sys.responder.completed.count 1 = 0
      ∧ sys.responder.state = .initSent
      ∧ sys.responder.sa.keys ≠ sys.initiator.sa.keys := by
  decide +kernel

end Ikev2
