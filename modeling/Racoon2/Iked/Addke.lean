import Racoon2.Iked.Keymat
import Racoon2.Iked.Sa

/-!
# Additional key exchanges of a Child SA

`ikev2_child_addke_mark`, `ikev2_update_child`, the IKE_FOLLOWUP_KE exchange of `ikev2_addke.c` and
`ikev2_addke_wait_timeout` (RFC 9370), for one child in either role.  All routes end in
`ikev2_add_ipsec_sa`, with what has been collected of SK(1) | ... | SK(n) by then.

The child keeps histories no function reads: the methods of the accepted proposal, the secrets of
the completed rounds, and for every installation the seed of its KEYMAT.

* `NoDowngrade`             what the installations of a child must look like;
* `keepsRounds`             an event does not take one of the routes that give rounds up;
* `addkeStep_sound`         such an event keeps the invariant (the step);
* `addke_no_downgrade`      no run of such events downgrades a child (the run).
-/

set_option linter.unusedVariables false

namespace Ikev2
open Bytes

/-! ## rounds -/

def addkeNone : Nat := 0
def addkeMlkem768 : Nat := 36

def isMlkem (method : Nat) : Bool := method == 35 || method == 36 || method == 37

/-- the loop of `ikev2_addke_collect_rounds` over ADDKE1 to ADDKE7; `none`: a method is repeated -/
def collectLoop (ts : List Selected) : List Nat → List Nat → Option (List Nat)
  | [], methods => some methods
  | type :: types, methods =>
    match selectedOf type ts with
    | none => collectLoop ts types methods
    | some t =>
      if t.id = addkeNone then collectLoop ts types methods
      else if methods.contains t.id then none
      else collectLoop ts types (methods ++ [t.id])

/-- `ikev2_addke_collect_rounds` -/
def collectRounds (proposal : List Matched) : Option (List Nat) :=
  match proposal with
  | [] => some []
  | m :: _ => collectLoop m.transforms [6, 7, 8, 9, 10, 11, 12] []

/-! ## the child -/

/-- an installation: the seed of KEYMAT, the rounds completed and the follow-ups received by then -/
structure Installation where
  seed : Bytes
  secrets : List (Nat × Bytes)
  followups : Nat

/-- `struct ikev2_child_sa` as far as RFC 9370 goes -/
structure AddkeChild where
  isInitiator : Bool
  state : ChildState
  peerProposal : Option (List Matched)
  myProposal : List Matched
  /-- SK_d, g^ir and the nonces -/
  keymat : KeymatInput
  methods : List Nat
  nrounds : Nat
  round : Nat
  method : Nat
  pending : Bool
  peerOffer : Bool
  link : Option Bytes
  sk : Option Bytes
  /-- the key pair of the running round is held -/
  roundKey : Bool
  followupMsgid : Nat
  timer : Bool
  /-- the methods of the accepted proposal -/
  accepted : List Nat
  /-- we added the exchange for a peer that did not offer it -/
  ownOffer : Bool
  secrets : List (Nat × Bytes)
  followups : Nat
  installed : List Installation

structure AddkeEnv where
  prf : Prf
  sadb : SadbEnv
  parentEstablished : Bool
  addkeRequired : Bool
  addkeUnrequested : Bool
  /-- `ikev2_addke_selectable()` -/
  selectable : Bool
  /-- what `ikev2_child_maybe_reoffer_addke` adds to the response, from esp_addke_alg -/
  reoffered : List Nat
  /-- `random_bytes(16)` -/
  link : Option Bytes
  /-- `ikev2_addke_round_keygen()` returned 0 -/
  keygen : Bool
  /-- the secret of decapsulation, encapsulation or DH -/
  shared : Option Bytes
  memory : Bool
  sent : Bool
  msgid : Nat
  /-- the request is for the only pending child, or the only one of its method -/
  soleChild : Bool

/-- `ikev2_child_abort`: entering EXPIRED kills the timer -/
def AddkeChild.abort (child : AddkeChild) : AddkeChild :=
  { child with state := .expired, timer := false }

def AddkeChild.keymatInput (child : AddkeChild) : KeymatInput :=
  { child.keymat with addkeSk := child.sk }

/-- a round is over: its secret is appended -/
def AddkeChild.collect (child : AddkeChild) (method : Nat) (ss : Bytes) : AddkeChild :=
  { child with
    sk := some (child.sk.getD [] ++ ss), secrets := child.secrets ++ [(method, ss)]
    round := child.round + 1 }

def AddkeChild.installation (child : AddkeChild) : Installation :=
  ⟨child.keymatInput.seed, child.secrets, child.followups⟩

section
variable (env : AddkeEnv)

/-- `ikev2_add_ipsec_sa` -/
def addIpsec (child : AddkeChild) : AddkeChild × Bool :=
  if (addIpsecSa env.prf child.keymatInput env.sadb child.isInitiator
      (child.peerProposal.getD []) child.myProposal).ok then
    ({ child with installed := child.installed ++ [child.installation] }, true)
  else (child, false)

/-! ## the responder -/

/-- `ikev2_child_addke_mark`; `none`: the child is refused -/
def childAddkeMark (peer mine : List Matched) (child : AddkeChild) : Option AddkeChild :=
  match collectRounds peer with
  | none => none
  | some rounds =>
    let dropped := !env.parentEstablished && !env.addkeRequired
    let child := { child with
      peerProposal := some peer, myProposal := mine, state := .getspi
      methods := rounds, round := 0, accepted := rounds
      nrounds := if dropped then 0 else rounds.length
      peerOffer := !dropped && rounds != []
      method := if dropped then 0 else rounds.headD child.method }
    if env.addkeRequired && (rounds == [] || !env.selectable) then none
    else if !dropped && rounds != [] then some { child with pending := true, link := env.link }
    else if env.parentEstablished && env.addkeUnrequested then
      some { child with
        nrounds := 1, methods := [addkeMlkem768], method := addkeMlkem768, pending := true
        link := env.link, accepted := env.reoffered, ownOffer := true }
    else some child

/-- `ikev2_create_child_responder_cont`, run when the child enters MATURE -/
def responderCont (child : AddkeChild) : AddkeChild :=
  if child.pending then { child with timer := true } else (addIpsec env child).1

/-- `ikev2_child_state_set(child_sa, IKEV2_CHILD_STATE_MATURE)` -/
def enterMature (child : AddkeChild) : AddkeChild :=
  let child := { child with state := .mature }
  if child.isInitiator then child else responderCont env child

/-- `ikev2_child_addke_mature` -/
def addkeMature (child : AddkeChild) : AddkeChild :=
  if child.state = .mature then child else enterMature env child

/-- `ikev2_child_addke_install` -/
def addkeInstall (child : AddkeChild) : AddkeChild × Bool :=
  if !child.pending then (child, false)
  else if child.sk.isNone then (child, false)
  else match addIpsec env child with
    | (child, false) => (child, false)
    | (child, true) => (addkeMature env { child with timer := false, pending := false }, true)

/-- a request of IKE_FOLLOWUP_KE -/
structure FollowupRequest where
  /-- KE and link are there, the method is supported and the value has its length -/
  wellFormed : Bool
  method : Nat
  link : Bytes

/-- the last round: the install, and what `ikev2_followup_ke_recv` does when it fails -/
def followupFinal (child : AddkeChild) : AddkeChild :=
  match addkeInstall env { child with round := 0, nrounds := 0 } with
  | (child, true) => child
  | (child, false) => { child with sk := none, timer := false, pending := false }.abort

/-- the rounds of `ikev2_followup_ke_recv` for a request -/
def followupRound (m : FollowupRequest) (child : AddkeChild) : AddkeChild :=
  match env.shared with
  | none => child
  | some ss =>
    if 0 < child.nrounds ∧ child.round < child.nrounds ∧ child.methods[child.round]? ≠ some m.method
    then child
    else if !env.memory || !env.sent then child
    else if child.round + 1 < child.nrounds then
      -- a link is minted for the next round
      if env.link.isNone then child
      else { child.collect m.method ss with link := env.link, timer := true }
    else followupFinal env (child.collect m.method ss)

/-- `ikev2_followup_ke_recv` for a request, with `followup_ke_find_child` -/
def followupRequest (m : FollowupRequest) (child : AddkeChild) : AddkeChild :=
  let child := { child with followups := child.followups + 1 }
  if !m.wellFormed || !child.pending then child
  else if child.link = some m.link then followupRound env m child
  else if env.soleChild then
    if env.memory then followupRound env m { child with link := some m.link }
    else { child with link := none }
  else child

/-! ## the initiator -/

/-- `ikev2_initiator_followup_send` -/
def followupSend (child : AddkeChild) : AddkeChild × Bool :=
  if child.link.isSome && env.sent then ({ child with followupMsgid := env.msgid }, true)
  else (child, false)

/-- the end of `ikev2_update_child` without rounds -/
def installPlain (child : AddkeChild) : AddkeChild :=
  match addIpsec env child with
  | (child, true) => { child with state := .mature }
  | (child, false) => child.abort

/-- `ikev2_update_child`, from the matched proposals on -/
def updateChild (peer mine : List Matched) (child : AddkeChild) : AddkeChild :=
  let child := { child with peerProposal := some peer, myProposal := mine }
  match collectRounds peer with
  | none => { child with nrounds := 0 }.abort
  | some rounds =>
    let child := { child with
      methods := rounds, nrounds := rounds.length, round := 0, accepted := rounds }
    match rounds with
    | [] => installPlain env child
    | method :: _ =>
      if env.keygen then
        let child := { child with
          pending := true, roundKey := true, method := method, link := child.link.or env.link }
        match followupSend env child with
        | (child, true) => { child with timer := true, state := .waitResponse }
        | (child, false) => { child with roundKey := false, pending := false }.abort
      else installPlain env child

/-- the key pair and the request of the next round -/
def followupNext (child : AddkeChild) : AddkeChild :=
  if !env.keygen then child
  else
    match followupSend env { child with
        roundKey := true, method := (child.methods[child.round]?).getD 0 } with
    | (child, true) => { child with timer := true }
    | (child, false) => { child with roundKey := false }

/-- `ikev2_initiator_followup_complete` -/
def followupComplete (child : AddkeChild) : AddkeChild :=
  if !child.roundKey then child
  else match env.shared with
    | none => if isMlkem child.method then { child with roundKey := false } else child
    | some ss =>
      let child := { child with roundKey := false }
      if !env.memory then child
      else
        let child := child.collect child.method ss
        if child.round < child.nrounds then followupNext env child
        else
          match addkeInstall env child with
          | (child, true) => child
          | (child, false) => { child with sk := none }

/-- a response of IKE_FOLLOWUP_KE: the KE payload without its generic header, and a link of 1 to 64
octets -/
structure FollowupResponse where
  msgid : Nat
  ke : Option Bytes
  link : Option Bytes

/-- `ikev2_followup_ke_recv` for a response -/
def followupResponse (m : FollowupResponse) (child : AddkeChild) : AddkeChild :=
  match m.ke with
  | none => child
  | some ke =>
    if !child.pending || child.followupMsgid != m.msgid then child
    else if child.round + 1 < child.nrounds then
      match m.link with
      | none => child
      | some link =>
        if !env.memory then { child with link := none }
        else if ke.length < 4 then { child with link := some link }
        else followupComplete env { child with link := some link }
    else if ke.length < 4 then child
    else followupComplete env child

/-! ## the timer -/

/-- `ikev2_addke_wait_timeout` -/
def waitTimeout (child : AddkeChild) : AddkeChild :=
  let child := { child with timer := false }
  if !child.pending then child
  else if !child.peerOffer then
    match addIpsec env { child with pending := false } with
    | (child, false) => child.abort
    | (child, true) => addkeMature env child
  else child.abort

/-! ## runs -/

inductive AddkeEvent where
  /-- the responder matched a CREATE_CHILD_SA or IKE_AUTH request -/
  | accept (peer mine : List Matched)
  /-- the SPIs of a responder's child are there -/
  | getspiDone
  /-- the initiator matched the response -/
  | update (peer mine : List Matched)
  | request (m : FollowupRequest)
  | response (m : FollowupResponse)
  | timeout
  | aborted

def addkeStep (ev : AddkeEvent) (child : AddkeChild) : AddkeChild :=
  match ev with
  | .accept peer mine =>
    if child.isInitiator || child.peerProposal.isSome || child.state == .expired then child
    else (childAddkeMark env peer mine child).getD child.abort
  | .getspiDone =>
    if !child.isInitiator && child.state == .getspi then enterMature env child else child
  | .update peer mine =>
    if child.isInitiator && child.peerProposal.isNone then updateChild env peer mine child
    else child
  | .request m => followupRequest env m child
  | .response m => followupResponse env m child
  | .timeout => if child.timer then waitTimeout env child else child
  | .aborted => child.abort

end

/-- the states a run goes through -/
def addkeRun : AddkeChild → List (AddkeEnv × AddkeEvent) → List AddkeChild
  | child, [] => [child]
  | child, (env, ev) :: evs => child :: addkeRun (addkeStep env ev child) evs

/-- a child for which nothing has been negotiated -/
structure AddkeChild.Fresh (child : AddkeChild) : Prop where
  peerProposal : child.peerProposal = none
  state : child.state ≠ .getspi
  pending : child.pending = false
  timer : child.timer = false
  sk : child.sk = none
  roundKey : child.roundKey = false
  accepted : child.accepted = []
  ownOffer : child.ownOffer = false
  secrets : child.secrets = []
  installed : child.installed = []

/-! ## what an installation owes the accepted proposal -/

/-- an installation of `child` is keyed with SK(1) | ... | SK(n), or is the one plain installation
that is allowed: we added the exchange, and no follow-up has come -/
def Kept (child : AddkeChild) (i : Installation) : Prop :=
  child.accepted = []
    ∨ (i.secrets.map Prod.fst = child.accepted
      ∧ i.seed = { child.keymat with addkeSk := some (i.secrets.flatMap Prod.snd) }.seed)
    ∨ (child.ownOffer = true ∧ i.followups = 0)

def NoDowngrade (child : AddkeChild) : Prop := ∀ i ∈ child.installed, Kept child i

/-- `followup_ke_find_child` looks at the link and the method of a request, never at the role -/
def FollowupRequest.Finds (env : AddkeEnv) (m : FollowupRequest) (child : AddkeChild) : Prop :=
  m.wellFormed = true ∧ child.pending = true ∧ (child.link = some m.link ∨ env.soleChild = true)

/-- the event does not give up rounds of the accepted proposal -/
def keepsRounds (env : AddkeEnv) (ev : AddkeEvent) (child : AddkeChild) : Prop :=
  match ev with
  | .accept peer _ =>
    (collectRounds peer = some [] ∨ env.parentEstablished = true ∨ env.addkeRequired = true)
      ∧ (collectRounds peer = some [] → env.parentEstablished = true →
        env.addkeUnrequested = true → env.reoffered = [] ∨ env.reoffered = [addkeMlkem768])
  | .update peer _ => collectRounds peer = some [] ∨ env.keygen = true
  | .request m => child.isInitiator = true → ¬ m.Finds env child
  | .timeout =>
    child.timer = true → child.pending = true →
      child.accepted = [] ∨ child.peerOffer = true ∨ (child.ownOffer = true ∧ child.followups = 0)
  | _ => True

def KeepsRounds : AddkeChild → List (AddkeEnv × AddkeEvent) → Prop
  | _, [] => True
  | child, (env, ev) :: evs =>
    keepsRounds env ev child ∧ KeepsRounds (addkeStep env ev child) evs

/-! ## the invariant -/

/-- the completed rounds are the first of the accepted ones, and their secrets are in order -/
structure SecretsCollected (child : AddkeChild) : Prop where
  methods : child.secrets.map Prod.fst = child.accepted.take child.round
  sk : child.sk.getD [] = child.secrets.flatMap Prod.snd

/-- a pending child; an initiator without a round key has stopped -/
structure Running (child : AddkeChild) : Prop where
  methods : child.methods = child.accepted
  nrounds : child.nrounds = child.accepted.length
  live : child.isInitiator = false ∨ child.roundKey = true →
    child.round < child.nrounds ∧ SecretsCollected child
  method : child.isInitiator = true → child.roundKey = true →
    child.accepted[child.round]? = some child.method
  responder : child.isInitiator = false → child.roundKey = false

structure Sound (child : AddkeChild) : Prop where
  kept : NoDowngrade child
  running : child.pending = true → Running child
  /-- entering MATURE would install it -/
  getspi : child.pending = false → child.isInitiator = false → child.state = .getspi →
    child.accepted = []

def AddkeInv (child : AddkeChild) : Prop :=
  child.Fresh ∨ (child.peerProposal.isSome ∧ (child.accepted = [] ∨ Sound child))

/-! ## what the functions do to the child -/

section
variable {env : AddkeEnv} {child : AddkeChild}

theorem addIpsec_cases : addIpsec env child = (child, false)
    ∨ addIpsec env child
      = ({ child with installed := child.installed ++ [child.installation] }, true) := by
  unfold addIpsec
  split
  · exact Or.inr rfl
  · exact Or.inl rfl

theorem enterMature_eq : ∃ n t, enterMature env child
    = { child with
        state := .mature, timer := t
        installed := child.installed ++ List.replicate n child.installation }
    ∧ (child.pending = true ∨ child.isInitiator = true → n = 0) := by
  by_cases hi : child.isInitiator = true
  · have h : enterMature env child = { child with state := .mature } := if_pos hi
    exact ⟨0, child.timer, by rw [h, List.replicate_zero, List.append_nil], fun _ => rfl⟩
  · have h : enterMature env child = responderCont env { child with state := .mature } := if_neg hi
    by_cases hp : child.pending = true
    · have hc : responderCont env { child with state := .mature }
          = { child with state := .mature, timer := true } := if_pos hp
      exact ⟨0, true, by rw [h, hc, List.replicate_zero, List.append_nil], fun _ => rfl⟩
    · have hc : responderCont env { child with state := .mature }
          = (addIpsec env { child with state := .mature }).1 := if_neg hp
      rcases @addIpsec_cases env { child with state := .mature } with ha | ha
      · refine ⟨0, child.timer, ?_, fun _ => rfl⟩
        rw [h, hc, ha, List.replicate_zero, List.append_nil]
      · refine ⟨1, child.timer, ?_, fun hor => absurd hor (not_or.mpr ⟨hp, hi⟩)⟩
        rw [h, hc, ha]
        rfl

theorem addkeMature_eq : ∃ n t, addkeMature env child
    = { child with
        state := .mature, timer := t
        installed := child.installed ++ List.replicate n child.installation } := by
  unfold addkeMature
  split
  · rename_i hs
    exact ⟨0, child.timer, by simp [← hs]⟩
  · obtain ⟨n, t, h, _⟩ := @enterMature_eq env child
    exact ⟨n, t, h⟩

theorem addkeInstall_cases : addkeInstall env child = (child, false)
    ∨ ∃ n t, addkeInstall env child
      = ({ child with
          state := .mature, timer := t, pending := false
          installed := child.installed ++ List.replicate n child.installation }, true) := by
  unfold addkeInstall
  split
  · exact Or.inl rfl
  · split
    · exact Or.inl rfl
    · rcases @addIpsec_cases env child with h | h
      · exact Or.inl (by simp only [h])
      · refine Or.inr ?_
        simp only [h]
        obtain ⟨n, t, hm⟩ := @addkeMature_eq env { child with
          installed := child.installed ++ [child.installation], timer := false, pending := false }
        refine ⟨n + 1, t, ?_⟩
        rw [hm]
        simp [AddkeChild.installation, AddkeChild.keymatInput, List.replicate_succ]

/-- a round does nothing; or its secret is collected, for the method of the round, after the response
was sent -/
theorem followupRound_cases (env : AddkeEnv) (m : FollowupRequest) (child : AddkeChild) :
    followupRound env m child = child ∨
      (child.round < child.nrounds → child.methods[child.round]? = some m.method) ∧ env.sent = true ∧
        ∃ ss, (child.round + 1 < child.nrounds ∧ followupRound env m child =
            { child.collect m.method ss with link := env.link, timer := true }) ∨
          (¬ child.round + 1 < child.nrounds ∧
            followupRound env m child = followupFinal env (child.collect m.method ss)) := by
  unfold followupRound
  split
  · exact .inl rfl
  · rename_i ss hss
    split
    · exact .inl rfl
    · rename_i hcheck
      have hmethod : child.round < child.nrounds → child.methods[child.round]? = some m.method := by
        intro hlt
        by_contra hne
        exact hcheck ⟨Nat.zero_lt_of_lt hlt, hlt, hne⟩
      split
      · exact .inl rfl
      · rename_i hsent
        have hsent' : env.sent = true := by
          simp only [Bool.or_eq_true, Bool.not_eq_true', not_or, Bool.not_eq_false] at hsent
          exact hsent.2
        split
        · rename_i hmore
          split
          · exact .inl rfl
          · exact .inr ⟨hmethod, hsent', ss, .inl ⟨hmore, rfl⟩⟩
        · next hlast => exact .inr ⟨hmethod, hsent', ss, .inr ⟨hlast, rfl⟩⟩

/-- the timer does nothing, gives the child up, or installs it -/
theorem waitTimeout_cases (env : AddkeEnv) (child : AddkeChild) :
    waitTimeout env child = { child with timer := false }
    ∨ (∃ p, (p = true → child.pending = true)
        ∧ waitTimeout env child = AddkeChild.abort { child with timer := false, pending := p })
    ∨ (child.pending = true ∧ ¬ child.peerOffer = true ∧ ∃ n t, waitTimeout env child = { child with
        state := .mature, timer := t, pending := false
        installed := child.installed ++ List.replicate n child.installation }) := by
  unfold waitTimeout
  dsimp only
  split
  · exact .inl rfl
  · next hp =>
    split
    · next hoffer =>
      rcases @addIpsec_cases env { child with timer := false, pending := false } with ha | ha
      · simp only [ha]
        exact .inr (.inl ⟨false, (Bool.noConfusion ·), rfl⟩)
      · have hsucc (n : Nat) : child.installed ++ List.replicate (n + 1) child.installation =
            child.installed ++ [child.installation] ++ List.replicate n child.installation := by
          rw [List.replicate_succ, List.append_cons]
        simp only [ha]
        obtain ⟨n, t, hm⟩ := @addkeMature_eq env { child with
          timer := false, pending := false, installed := child.installed ++ [child.installation] }
        refine .inr (.inr ⟨by simpa using hp, by simpa using hoffer, n + 1, t, ?_⟩)
        rw [hsucc]
        exact hm
    · exact .inr (.inl ⟨child.pending, id, rfl⟩)

/-- a completion leaves the child, drops the key pair of the round, or has its secret: then the next
round follows, or the installation, which may fail -/
theorem followupComplete_cases (env : AddkeEnv) (child : AddkeChild) :
    followupComplete env child = child
    ∨ child.roundKey = true ∧ (followupComplete env child = { child with roundKey := false }
      ∨ ∃ ss c, c = { child with roundKey := false }.collect child.method ss ∧
        ((c.round < c.nrounds ∧ followupComplete env child = followupNext env c)
        ∨ (¬ c.round < c.nrounds ∧ (followupComplete env child = { c with sk := none }
          ∨ ∃ n t, followupComplete env child = { c with
              state := .mature, timer := t, pending := false
              installed := c.installed ++ List.replicate n c.installation })))) := by
  unfold followupComplete
  split
  · exact .inl rfl
  · next hkey =>
    have hkey' : child.roundKey = true := by simpa using hkey
    split
    · split
      · exact .inr ⟨hkey', .inl rfl⟩
      · exact .inl rfl
    · next ss hss =>
      dsimp only
      split
      · exact .inr ⟨hkey', .inl rfl⟩
      · refine .inr ⟨hkey', .inr ⟨ss, _, rfl, ?_⟩⟩
        split
        · next hmore => exact .inl ⟨hmore, rfl⟩
        · next hlast =>
          refine .inr ⟨hlast, ?_⟩
          rcases @addkeInstall_cases env ({ child with roundKey := false }.collect child.method ss)
            with hin | ⟨n, t, hin⟩
          · simp only [hin]
            exact .inl trivial
          · simp only [hin]
            exact .inr ⟨n, t, rfl⟩

/-! ## sound children -/

/-- the fields `Running` is about -/
def AddkeChild.rounds (child : AddkeChild) :=
  (child.isInitiator, child.roundKey, child.methods, child.nrounds, child.round, child.method,
    child.accepted, child.secrets, child.sk)

theorem Running.of_rounds {child' : AddkeChild} (h : Running child)
    (he : child'.rounds = child.rounds) : Running child' := by
  simp only [AddkeChild.rounds, Prod.mk.injEq] at he
  obtain ⟨h1, h2, h3, h4, h5, h6, h7, h8, h9⟩ := he
  refine ⟨?_, ?_, ?_, ?_, ?_⟩
  · rw [h3, h7]
    exact h.methods
  · rw [h4, h7]
    exact h.nrounds
  · rw [h1, h2, h4, h5]
    intro hl
    obtain ⟨hr, hc⟩ := h.live hl
    refine ⟨hr, ?_, ?_⟩
    · rw [h8, h7, h5]
      exact hc.methods
    · rw [h9, h8]
      exact hc.sk
  · rw [h1, h2, h5, h6, h7]
    exact h.method
  · rw [h1, h2]
    exact h.responder

theorem kept_replicate (h : NoDowngrade child) (hk : Kept child child.installation) (n : Nat) :
    ∀ i ∈ child.installed ++ List.replicate n child.installation, Kept child i := by
  intro i hi
  rcases List.mem_append.mp hi with hi | hi
  · exact h i hi
  · rw [List.eq_of_mem_replicate hi]
    exact hk

theorem kept_of_collected (h : SecretsCollected child) (hr : child.accepted.length ≤ child.round) :
    Kept child child.installation := by
  refine Or.inr (Or.inl ⟨?_, ?_⟩)
  · show child.secrets.map Prod.fst = child.accepted
    rw [h.methods, List.take_of_length_le hr]
  · show child.keymatInput.seed = _
    simp only [AddkeChild.keymatInput, KeymatInput.seed, KeymatInput.nonces, h.sk,
      AddkeChild.installation, Option.getD_some]

theorem SecretsCollected.collect {method : Nat} (h : SecretsCollected child)
    (hm : child.accepted[child.round]? = some method) (ss : Bytes) :
    SecretsCollected (child.collect method ss) := by
  constructor
  · show (child.secrets ++ [(method, ss)]).map Prod.fst = child.accepted.take (child.round + 1)
    rw [List.map_append, h.methods, List.take_add_one, hm]
    rfl
  · show child.sk.getD [] ++ ss = (child.secrets ++ [(method, ss)]).flatMap Prod.snd
    rw [h.sk, List.flatMap_append]
    simp

theorem Sound.abort (h : Sound child) : Sound child.abort where
  kept := h.kept
  running := fun hp => (h.running hp).of_rounds rfl
  getspi := fun _ _ hs => by cases hs

theorem sound_over (h : NoDowngrade child) (hp : child.pending = false)
    (hs : child.state ≠ .getspi) : Sound child where
  kept := h
  running := fun hp' => absurd (hp.symm.trans hp') (by simp)
  getspi := fun _ _ hs' => absurd hs' hs

/-- the child that `ikev2_child_addke_install` leaves -/
theorem sound_installed {t : Bool} (h : NoDowngrade child) (hk : Kept child child.installation)
    (n : Nat) : Sound { child with
      state := .mature, timer := t, pending := false
      installed := child.installed ++ List.replicate n child.installation } :=
  sound_over (kept_replicate h hk n) rfl (by simp)

theorem followupFinal_sound (h : NoDowngrade child) (hk : Kept child child.installation) :
    Sound (followupFinal env child) := by
  unfold followupFinal
  rcases @addkeInstall_cases env { child with round := 0, nrounds := 0 } with hi | ⟨n, t, hi⟩
  · simp only [hi]
    exact sound_over h rfl (by simp [AddkeChild.abort])
  · simp only [hi]
    have hs := @sound_installed { child with round := 0, nrounds := 0 } t h hk n
    exact hs

theorem followupRound_sound (m : FollowupRequest) (h : Sound child)
    (hi : child.isInitiator = false) (hp : child.pending = true) :
    Sound (followupRound env m child) := by
  have hrun := h.running hp
  obtain ⟨hr, hc⟩ := hrun.live (Or.inl hi)
  rcases followupRound_cases env m child with heq | ⟨hmethod, -, ss, hnext⟩
  · rw [heq]
    exact h
  · -- the method of the request is the one of the running round
    have hc' := hc.collect (hrun.methods ▸ hmethod hr) ss
    rcases hnext with ⟨hmore, heq⟩ | ⟨hlast, heq⟩
    · rw [heq]
      refine ⟨h.kept, fun _ => ?_, fun hnp => absurd (hp.symm.trans hnp) (by simp)⟩
      refine ⟨hrun.methods, hrun.nrounds, fun _ => ⟨hmore, hc'.methods, hc'.sk⟩, ?_, hrun.responder⟩
      intro hini
      exact absurd (hi.symm.trans hini) (by simp)
    · have hlen := hrun.nrounds
      rw [heq]
      refine followupFinal_sound h.kept (kept_of_collected hc' ?_)
      show child.accepted.length ≤ child.round + 1
      omega

theorem followupRequest_sound (m : FollowupRequest) (h : Sound child)
    (hk : child.isInitiator = true → ¬ m.Finds env child) :
    Sound (followupRequest env m child) := by
  have hcount : Sound { child with followups := child.followups + 1 } :=
    ⟨h.kept, fun hp => (h.running hp).of_rounds rfl, h.getspi⟩
  unfold followupRequest
  dsimp only
  split
  · exact hcount
  · rename_i hw
    obtain ⟨hwf, hp⟩ : m.wellFormed = true ∧ child.pending = true := by
      simp only [Bool.or_eq_true, Bool.not_eq_eq_eq_not, Bool.not_true, not_or,
        Bool.not_eq_false] at hw
      exact hw
    have hrole (hf : child.link = some m.link ∨ env.soleChild = true) : child.isInitiator = false :=
      Bool.not_eq_true _ ▸ fun hi => hk hi ⟨hwf, hp, hf⟩
    have hlink (l : Option Bytes) : Sound { child with followups := child.followups + 1, link := l } :=
      ⟨h.kept, fun hp => (h.running hp).of_rounds rfl, h.getspi⟩
    split
    · rename_i hexact
      exact followupRound_sound m hcount (hrole (.inl hexact)) hp
    · split
      · rename_i hsole
        split
        · exact followupRound_sound m (hlink (some m.link)) (hrole (.inr hsole)) hp
        · exact hlink none
      · exact hcount

theorem waitTimeout_sound (h : Sound child)
    (hk : child.pending = true → child.accepted = [] ∨ child.peerOffer = true
      ∨ (child.ownOffer = true ∧ child.followups = 0)) :
    Sound (waitTimeout env child) := by
  rcases waitTimeout_cases env child with heq | ⟨p, hp, heq⟩ | ⟨hp, hoffer, n, t, heq⟩
  · rw [heq]
    exact ⟨h.kept, fun hp => (h.running hp).of_rounds rfl, h.getspi⟩
  · rw [heq]
    exact ⟨h.kept, fun hp' => (h.running (hp hp')).of_rounds rfl, fun _ _ hs => by cases hs⟩
  · have hplain : Kept child child.installation := by
      rcases hk hp with ha | ho | ho
      · exact Or.inl ha
      · exact absurd ho hoffer
      · exact Or.inr (Or.inr ho)
    rw [heq]
    exact sound_installed h.kept hplain n

theorem followupSend_cases : followupSend env child = (child, false)
    ∨ followupSend env child = ({ child with followupMsgid := env.msgid }, true) := by
  unfold followupSend
  split
  · exact Or.inr rfl
  · exact Or.inl rfl

/-- an initiator without a round key takes no more responses -/
theorem running_stopped (hm : child.methods = child.accepted)
    (hn : child.nrounds = child.accepted.length) (hi : child.isInitiator = true)
    (hk : child.roundKey = false) : Running child where
  methods := hm
  nrounds := hn
  live := by simp [hi, hk]
  method := by simp [hk]
  responder := fun _ => hk

theorem followupNext_running (hm : child.methods = child.accepted)
    (hn : child.nrounds = child.accepted.length) (hi : child.isInitiator = true)
    (hk : child.roundKey = false) (hr : child.round < child.nrounds) (hc : SecretsCollected child) :
    Running (followupNext env child) := by
  unfold followupNext
  split
  · exact running_stopped hm hn hi hk
  · rcases @followupSend_cases env { child with
        roundKey := true, method := (child.methods[child.round]?).getD 0 } with h | h
    · simp only [h]
      exact running_stopped hm hn hi rfl
    · simp only [h]
      refine ⟨hm, hn, fun _ => ⟨hr, hc.methods, hc.sk⟩, fun _ _ => ?_, fun hres =>
        absurd (hi.symm.trans hres) (by simp)⟩
      show child.accepted[child.round]? = some ((child.methods[child.round]?).getD 0)
      rw [hm, List.getElem?_eq_getElem (by omega), Option.getD_some]

theorem followupNext_frame : (followupNext env child).installed = child.installed
    ∧ (followupNext env child).keymat = child.keymat
    ∧ (followupNext env child).ownOffer = child.ownOffer
    ∧ (followupNext env child).accepted = child.accepted
    ∧ (followupNext env child).pending = child.pending
    ∧ (followupNext env child).peerProposal = child.peerProposal := by
  unfold followupNext
  split
  · simp
  · rcases @followupSend_cases env { child with
        roundKey := true, method := (child.methods[child.round]?).getD 0 } with h | h
    · simp only [h, and_self]
    · simp only [h, and_self]

theorem followupComplete_sound (h : Sound child) (hp : child.pending = true) :
    Sound (followupComplete env child) := by
  have hrun := h.running hp
  by_cases hi : child.isInitiator = false
  · -- a responder has no key pair
    have hkey : followupComplete env child = child := by simp [followupComplete, hrun.responder hi]
    rw [hkey]
    exact h
  replace hi : child.isInitiator = true := by simpa using hi
  have hpend {c : AddkeChild} (hc : c.pending = true) (hk : NoDowngrade c) (hr : Running c) :
      Sound c := ⟨hk, fun _ => hr, fun hn => absurd (hc.symm.trans hn) (by simp)⟩
  have hstop : Sound { child with roundKey := false } :=
    hpend hp h.kept (running_stopped hrun.methods hrun.nrounds hi rfl)
  rcases followupComplete_cases env child with heq | ⟨hkey, heq | ⟨ss, c, rfl, hnext⟩⟩
  · rw [heq]
    exact h
  · rw [heq]
    exact hstop
  · obtain ⟨hr, hc⟩ := hrun.live (Or.inr hkey)
    have hc' : SecretsCollected ({ child with roundKey := false }.collect child.method ss) :=
      @SecretsCollected.collect { child with roundKey := false } _ ⟨hc.methods, hc.sk⟩
        (hrun.method hi hkey) ss
    rcases hnext with ⟨hmore, heq⟩ | ⟨hlast, heq | ⟨n, t, heq⟩⟩
    · obtain ⟨e1, e2, e3, e4, e5, _⟩ := @followupNext_frame env
        ({ child with roundKey := false }.collect child.method ss)
      rw [heq]
      refine hpend (e5.trans hp) ?_
        (followupNext_running hrun.methods hrun.nrounds hi rfl hmore hc')
      intro i hmem
      have hkept := h.kept i (e1 ▸ hmem)
      unfold Kept at hkept ⊢
      rw [e2, e3, e4]
      exact hkept
    · rw [heq]
      exact hpend hp h.kept (running_stopped hrun.methods hrun.nrounds hi rfl)
    · have hlen := hrun.nrounds
      have hlast' : ¬ child.round + 1 < child.nrounds := hlast
      have hk : Kept ({ child with roundKey := false }.collect child.method ss)
          ({ child with roundKey := false }.collect child.method ss).installation := by
        refine kept_of_collected hc' ?_
        show child.accepted.length ≤ child.round + 1
        omega
      rw [heq]
      exact @sound_installed ({ child with roundKey := false }.collect child.method ss) t h.kept hk n

/-- a response leaves all but the link, or completes the round at hand -/
theorem followupResponse_cases (env : AddkeEnv) (m : FollowupResponse) (child : AddkeChild) : ∃ l,
    followupResponse env m child = { child with link := l } ∨ (child.pending = true
      ∧ followupResponse env m child = followupComplete env { child with link := l }) := by
  unfold followupResponse
  split
  · exact ⟨child.link, .inl rfl⟩
  · split
    · exact ⟨child.link, .inl rfl⟩
    · rename_i hw
      have hp : child.pending = true := by
        simp only [Bool.or_eq_true, Bool.not_eq_eq_eq_not, Bool.not_true, not_or,
          Bool.not_eq_false] at hw
        exact hw.1
      split
      · split
        · exact ⟨child.link, .inl rfl⟩
        · rename_i link hl
          split
          · exact ⟨none, .inl rfl⟩
          · split
            · exact ⟨some link, .inl rfl⟩
            · exact ⟨some link, .inr ⟨hp, rfl⟩⟩
      · split
        · exact ⟨child.link, .inl rfl⟩
        · exact ⟨child.link, .inr ⟨hp, rfl⟩⟩

theorem followupResponse_sound (m : FollowupResponse) (h : Sound child) :
    Sound (followupResponse env m child) := by
  have hlink (l : Option Bytes) : Sound { child with link := l } :=
    ⟨h.kept, fun hp => (h.running hp).of_rounds rfl, h.getspi⟩
  obtain ⟨l, heq | ⟨hp, heq⟩⟩ := followupResponse_cases env m child
  · rw [heq]
    exact hlink l
  · rw [heq]
    exact followupComplete_sound (hlink l) hp

/-! ## the negotiation is fixed -/

/-- what an event after the negotiation leaves alone -/
def AddkeChild.negotiated (child : AddkeChild) := (child.peerProposal, child.accepted)

theorem enterMature_negotiated : (enterMature env child).negotiated = child.negotiated := by
  obtain ⟨n, t, h, _⟩ := @enterMature_eq env child
  rw [h]
  rfl

theorem addkeInstall_negotiated : (addkeInstall env child).1.negotiated = child.negotiated := by
  rcases @addkeInstall_cases env child with h | ⟨n, t, h⟩
  · rw [h]
  · rw [h]
    rfl

theorem followupFinal_negotiated : (followupFinal env child).negotiated = child.negotiated := by
  have h := @addkeInstall_negotiated env { child with round := 0, nrounds := 0 }
  unfold followupFinal
  split
  · rename_i c hc
    rw [hc] at h
    exact h
  · rename_i c hc
    rw [hc] at h
    exact h

theorem followupRound_negotiated (m : FollowupRequest) :
    (followupRound env m child).negotiated = child.negotiated := by
  rcases followupRound_cases env m child with heq | ⟨-, -, ss, ⟨-, heq⟩ | ⟨-, heq⟩⟩
  · rw [heq]
  · rw [heq]
    rfl
  · rw [heq]
    exact followupFinal_negotiated

theorem followupRequest_negotiated (m : FollowupRequest) :
    (followupRequest env m child).negotiated = child.negotiated := by
  unfold followupRequest
  dsimp only
  split
  · rfl
  · split
    · exact followupRound_negotiated m
    · split
      · split
        · exact followupRound_negotiated m
        · rfl
      · rfl

theorem followupComplete_negotiated :
    (followupComplete env child).negotiated = child.negotiated := by
  rcases followupComplete_cases env child with heq | ⟨-, heq | ⟨ss, c, rfl, hnext⟩⟩
  · rw [heq]
  · rw [heq]
    rfl
  · rcases hnext with ⟨-, heq⟩ | ⟨-, heq | ⟨n, t, heq⟩⟩
    · obtain ⟨_, _, _, e4, _, e6⟩ := @followupNext_frame env
        ({ child with roundKey := false }.collect child.method ss)
      rw [heq]
      exact Prod.ext e6 e4
    · rw [heq]
      rfl
    · rw [heq]
      rfl

theorem followupResponse_negotiated (m : FollowupResponse) :
    (followupResponse env m child).negotiated = child.negotiated := by
  obtain ⟨l, heq | ⟨-, heq⟩⟩ := followupResponse_cases env m child
  · rw [heq]
    rfl
  · rw [heq]
    exact followupComplete_negotiated

theorem waitTimeout_negotiated : (waitTimeout env child).negotiated = child.negotiated := by
  rcases waitTimeout_cases env child with heq | ⟨p, -, heq⟩ | ⟨-, -, n, t, heq⟩ <;> rw [heq] <;> rfl

theorem addkeStep_negotiated (ev : AddkeEvent) (h : child.peerProposal.isSome) :
    (addkeStep env ev child).negotiated = child.negotiated := by
  cases ev with
  | accept peer mine =>
    have hs : addkeStep env (.accept peer mine) child = child := by simp [addkeStep, h]
    rw [hs]
  | getspiDone =>
    simp only [addkeStep]
    split
    · exact enterMature_negotiated
    · rfl
  | update peer mine =>
    have hs : addkeStep env (.update peer mine) child = child := by
      obtain ⟨p, hp⟩ := Option.isSome_iff_exists.mp h
      simp [addkeStep, hp]
    rw [hs]
  | request m => exact followupRequest_negotiated m
  | response m => exact followupResponse_negotiated m
  | timeout =>
    simp only [addkeStep]
    split
    · exact waitTimeout_negotiated
    · rfl
  | aborted => rfl

/-- an event after the negotiation keeps a sound child sound -/
theorem addkeStep_sound (ev : AddkeEvent) (hp : child.peerProposal.isSome) (h : Sound child)
    (hk : keepsRounds env ev child) : Sound (addkeStep env ev child) := by
  cases ev with
  | accept peer mine =>
    have hs : addkeStep env (.accept peer mine) child = child := by simp [addkeStep, hp]
    rw [hs]
    exact h
  | getspiDone =>
    simp only [addkeStep]
    split
    · rename_i hg
      have hi : child.isInitiator = false := by simp at hg; exact hg.1
      have hs : child.state = .getspi := by simp at hg; exact hg.2
      obtain ⟨n, t, he, hn⟩ := @enterMature_eq env child
      rw [he]
      by_cases hpend : child.pending = true
      · rw [hn (Or.inl hpend), List.replicate_zero, List.append_nil]
        exact ⟨h.kept, fun hp => (h.running hp).of_rounds rfl, fun _ _ hs => nomatch hs⟩
      · have hacc := h.getspi (by simpa using hpend) hi hs
        have hkept : Kept child child.installation := Or.inl hacc
        exact sound_over (kept_replicate h.kept hkept n) (by simpa using hpend) (by simp)
    · exact h
  | update peer mine =>
    have hs : addkeStep env (.update peer mine) child = child := by
      obtain ⟨p, hp⟩ := Option.isSome_iff_exists.mp hp
      simp [addkeStep, hp]
    rw [hs]
    exact h
  | request m => exact followupRequest_sound m h hk
  | response m => exact followupResponse_sound m h
  | timeout =>
    simp only [addkeStep]
    split
    · rename_i ht
      exact waitTimeout_sound h (hk ht)
    · exact h
  | aborted => exact h.abort

/-! ## the negotiation -/

theorem AddkeChild.Fresh.abort (h : child.Fresh) : child.abort.Fresh :=
  { h with state := by simp [AddkeChild.abort], timer := rfl }

/-- nothing has been collected of a child before its first round -/
theorem AddkeChild.Fresh.collected (h : child.Fresh) {child' : AddkeChild}
    (hs : child'.secrets = child.secrets) (hk : child'.sk = child.sk) (hr : child'.round = 0) :
    SecretsCollected child' := by
  constructor
  · rw [hs, h.secrets, hr, List.take_zero]
    rfl
  · rw [hs, hk, h.secrets, h.sk]
    rfl

theorem AddkeChild.Fresh.noDowngrade (h : child.Fresh) {child' : AddkeChild}
    (hi : child'.installed = child.installed) : NoDowngrade child' := by
  intro i hmem
  rw [hi, h.installed] at hmem
  exact absurd hmem List.not_mem_nil

theorem childAddkeMark_inv (peer mine : List Matched) (h : child.Fresh)
    (hi : child.isInitiator = false) (hk : keepsRounds env (.accept peer mine) child) :
    AddkeInv ((childAddkeMark env peer mine child).getD child.abort) := by
  obtain ⟨hkeep, hown⟩ := hk
  unfold childAddkeMark
  cases hc : collectRounds peer with
  | none => exact Or.inl h.abort
  | some rounds =>
    dsimp only
    split
    · exact Or.inl h.abort
    · split
      · rename_i hmark
        have hd : (!env.parentEstablished && !env.addkeRequired) = false := by
          simp only [Bool.and_eq_true] at hmark
          simpa only [Bool.not_eq_true'] using hmark.1
        have hne : rounds ≠ [] := by
          simp only [Bool.and_eq_true] at hmark
          simpa using hmark.2
        refine Or.inr ⟨rfl, Or.inr ⟨h.noDowngrade rfl, fun _ => ?_, fun hn => nomatch hn⟩⟩
        have hlen : (if (!env.parentEstablished && !env.addkeRequired) = true then 0
            else rounds.length) = rounds.length := if_neg (by simp [hd])
        refine ⟨rfl, hlen, fun _ => ⟨?_, h.collected rfl rfl rfl⟩, ?_, fun _ => h.roundKey⟩
        · show 0 < if (!env.parentEstablished && !env.addkeRequired) = true then 0
            else rounds.length
          rw [hlen]
          exact List.length_pos_of_ne_nil hne
        · intro hini
          exact absurd (hi.symm.trans hini) (by simp)
      · rename_i hmark
        split
        · -- the exchange we add has one round of ML-KEM-768
          rename_i hadd
          simp only [Bool.and_eq_true] at hadd
          have hnone : rounds = [] := by
            by_contra hne
            exact hmark (by simp [hadd.1, hne])
          rcases hown (hnone ▸ hc) hadd.1 hadd.2 with hown | hown
          · exact Or.inr ⟨rfl, Or.inl hown⟩
          · refine Or.inr ⟨rfl, Or.inr ⟨h.noDowngrade rfl, fun _ => ?_, fun hn => nomatch hn⟩⟩
            have hlen : 1 = env.reoffered.length := by rw [hown]; rfl
            refine ⟨hown.symm, hlen, fun _ => ⟨Nat.one_pos, h.collected rfl rfl rfl⟩, ?_,
              fun _ => h.roundKey⟩
            intro hini
            exact absurd (hi.symm.trans hini) (by simp)
        · -- no rounds: a dropped offer is not kept
          refine Or.inr ⟨rfl, Or.inl ?_⟩
          show rounds = []
          by_contra hne
          rcases hkeep with hk | hk | hk
          · exact hne (Option.some.inj (hc.symm.trans hk))
          · exact hmark (by simp [hk, hne])
          · exact hmark (by simp [hk, hne])

theorem installPlain_negotiated : (installPlain env child).negotiated = child.negotiated := by
  unfold installPlain
  rcases @addIpsec_cases env child with h | h
  · simp only [h]
    rfl
  · simp only [h]
    rfl

theorem updateChild_inv (peer mine : List Matched) (h : child.Fresh)
    (hi : child.isInitiator = true) (hk : keepsRounds env (.update peer mine) child) :
    AddkeInv (updateChild env peer mine child) := by
  unfold updateChild
  cases hc : collectRounds peer with
  | none => exact Or.inr ⟨rfl, Or.inl h.accepted⟩
  | some rounds =>
    cases rounds with
    | nil =>
      dsimp only
      have hn := @installPlain_negotiated env { child with
        peerProposal := some peer, myProposal := mine, methods := [], nrounds := ([] : List Nat).length
        round := 0, accepted := [] }
      have hp := congrArg Prod.fst hn
      exact Or.inr ⟨Option.isSome_iff_exists.mpr ⟨peer, hp⟩, Or.inl (congrArg Prod.snd hn)⟩
    | cons method rest =>
      dsimp only
      have hgen : env.keygen = true := by
        rcases hk with hk | hk
        · exact absurd (hc.symm.trans hk) (by simp)
        · exact hk
      rw [if_pos hgen]
      rcases @followupSend_cases env { child with
        peerProposal := some peer, myProposal := mine, methods := method :: rest
        nrounds := (method :: rest).length, round := 0, accepted := method :: rest
        pending := true, roundKey := true, method := method, link := child.link.or env.link }
        with hs | hs
      · simp only [hs]
        exact Or.inr ⟨rfl, Or.inr
          (sound_over (h.noDowngrade rfl) rfl (by simp [AddkeChild.abort]))⟩
      · simp only [hs]
        refine Or.inr ⟨rfl, Or.inr ⟨h.noDowngrade rfl, fun _ => ?_, fun hn => nomatch hn⟩⟩
        exact ⟨rfl, rfl, fun _ => ⟨Nat.succ_pos _, h.collected rfl rfl rfl⟩, fun _ _ => rfl,
          fun hres => absurd (hi.symm.trans hres) (by simp)⟩

/-! ## the step -/

theorem addkeStep_fresh (ev : AddkeEvent) (h : child.Fresh) (hk : keepsRounds env ev child) :
    AddkeInv (addkeStep env ev child) := by
  cases ev with
  | accept peer mine =>
    simp only [addkeStep]
    split
    · exact Or.inl h
    · rename_i hi
      simp only [Bool.or_eq_true, not_or, Bool.not_eq_true] at hi
      exact childAddkeMark_inv peer mine h hi.1.1 hk
  | getspiDone =>
    have hs : addkeStep env .getspiDone child = child := by simp [addkeStep, h.state]
    rw [hs]
    exact Or.inl h
  | update peer mine =>
    simp only [addkeStep]
    split
    · rename_i hi
      simp only [Bool.and_eq_true] at hi
      exact updateChild_inv peer mine h hi.1 hk
    · exact Or.inl h
  | request m =>
    have hs : followupRequest env m child = { child with followups := child.followups + 1 } := by
      simp [followupRequest, h.pending]
    simp only [addkeStep, hs]
    exact Or.inl { h with }
  | response m =>
    have hs : followupResponse env m child = child := by
      unfold followupResponse
      split
      · rfl
      · simp [h.pending]
    simp only [addkeStep, hs]
    exact Or.inl h
  | timeout =>
    have hs : addkeStep env .timeout child = child := by simp [addkeStep, h.timer]
    rw [hs]
    exact Or.inl h
  | aborted => exact Or.inl h.abort

/-- the step -/
theorem addkeStep_inv (ev : AddkeEvent) (h : AddkeInv child) (hk : keepsRounds env ev child) :
    AddkeInv (addkeStep env ev child) := by
  rcases h with h | ⟨hp, h⟩
  · exact addkeStep_fresh ev h hk
  · have hn := @addkeStep_negotiated env child ev hp
    have hp' : (addkeStep env ev child).peerProposal = child.peerProposal := congrArg Prod.fst hn
    have ha : (addkeStep env ev child).accepted = child.accepted := congrArg Prod.snd hn
    refine Or.inr ⟨by rw [hp']; exact hp, ?_⟩
    rcases h with h | h
    · exact Or.inl (ha.trans h)
    · exact Or.inr (addkeStep_sound ev hp h hk)

theorem AddkeInv.noDowngrade (h : AddkeInv child) : NoDowngrade child := by
  rcases h with h | ⟨_, h | h⟩
  · exact h.noDowngrade rfl
  · exact fun _ _ => Or.inl h
  · exact h.kept

end

/-! ## the run -/

theorem addkeRun_inv : ∀ (evs : List (AddkeEnv × AddkeEvent)) (child : AddkeChild),
    AddkeInv child → KeepsRounds child evs → ∀ c ∈ addkeRun child evs, AddkeInv c := by
  intro evs
  induction evs with
  | nil =>
    intro child h _ c hc
    rw [List.mem_singleton.mp hc]
    exact h
  | cons e evs ih =>
    intro child h hk c hc
    obtain ⟨env, ev⟩ := e
    rcases List.mem_cons.mp hc with hc | hc
    · rw [hc]
      exact h
    · exact ih _ (addkeStep_inv ev h hk.1) hk.2 c hc

/-- in either role, a run that gives up no rounds never downgrades the child: whatever fails, is
lost or is repeated, each installation is keyed with SK(1) | ... | SK(n) -/
theorem addke_no_downgrade (child : AddkeChild) (fresh : child.Fresh)
    (evs : List (AddkeEnv × AddkeEvent)) (keeps : KeepsRounds child evs) :
    ∀ c ∈ addkeRun child evs, NoDowngrade c := by
  intro c hc
  exact (addkeRun_inv evs child (Or.inl fresh) keeps c hc).noDowngrade

/-! ## ESP with AES-CBC and one round of ML-KEM-768 -/

def mlkemMatched (spi : Bytes) : List Matched :=
  [⟨protocolEsp, spi, [⟨transformEncr, ⟨12, [.short attrKeyLength 128]⟩⟩,
    ⟨transformIntegr, ⟨2, []⟩⟩, ⟨6, ⟨addkeMlkem768, []⟩⟩]⟩]

def mlkemInitiator : AddkeChild where
  isInitiator := true
  state := .waitResponse
  peerProposal := none
  myProposal := []
  keymat := bundleKeymat
  methods := []
  nrounds := 0
  round := 0
  method := 0
  pending := false
  peerOffer := false
  link := some [8]
  sk := none
  roundKey := false
  followupMsgid := 0
  timer := false
  accepted := []
  ownOffer := false
  secrets := []
  followups := 0
  installed := []

theorem mlkemInitiator_fresh : mlkemInitiator.Fresh := by
  constructor <;> first | rfl | (show ChildState.waitResponse ≠ .getspi; decide)

def mlkemEnv : AddkeEnv where
  prf := sumPrf
  sadb := openSadb
  parentEstablished := true
  addkeRequired := false
  addkeUnrequested := false
  selectable := true
  reoffered := []
  link := some [9]
  keygen := true
  shared := some [7, 7, 7]
  memory := true
  sent := true
  msgid := 3
  soleChild := true

def mlkemUpdate : AddkeEvent := .update (mlkemMatched [0, 0, 0, 1]) (mlkemMatched [0, 0, 0, 2])

theorem addke_no_downgrade_mlkem :
    (∃ c ∈ addkeRun mlkemInitiator
        [(mlkemEnv, mlkemUpdate), (mlkemEnv, .response ⟨3, some [0, 36, 0, 0, 5], none⟩)],
      c.accepted = [addkeMlkem768] ∧ c.installed.map Installation.seed = [[2, 3, 7, 7, 7]])
    ∧ ∀ c ∈ addkeRun mlkemInitiator
        [(mlkemEnv, mlkemUpdate), (mlkemEnv, .response ⟨3, some [0, 36, 0, 0, 5], none⟩)],
      NoDowngrade c := by
  constructor
  · decide +kernel
  · exact addke_no_downgrade mlkemInitiator mlkemInitiator_fresh _ ⟨Or.inr rfl, trivial, trivial⟩

instance (child : AddkeChild) (i : Installation) : Decidable (Kept child i) := by
  unfold Kept
  infer_instance

instance (child : AddkeChild) : Decidable (NoDowngrade child) := by
  unfold NoDowngrade
  infer_instance

/-- a key generation that fails, and a follow-up that is not answered: the initiator installs the
child without SK(1) -/
theorem mlkem_downgraded : mlkemInitiator.Fresh
    ∧ (∃ c ∈ addkeRun mlkemInitiator [({ mlkemEnv with keygen := false }, mlkemUpdate)],
      ¬ NoDowngrade c)
    ∧ (∃ c ∈ addkeRun mlkemInitiator [(mlkemEnv, mlkemUpdate), (mlkemEnv, .timeout)],
      ¬ NoDowngrade c) := by
  refine ⟨mlkemInitiator_fresh, ?_, ?_⟩
  · decide +kernel
  · decide +kernel

end Ikev2
