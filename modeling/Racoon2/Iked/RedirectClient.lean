import Racoon2.Lib.Run
import Racoon2.Lib.FixedWindow
import Racoon2.Iked.Redirect
import Racoon2.Iked.TicketReplay

/-!
# The client that is redirected

An initiator that sent IKE_SA_INIT and is answered with N(REDIRECT) goes to the gateway that the
notify names, and takes the ticket that the first gateway gave it along.  The nonces, the keys and
the wire are inputs; so are the generations of keys, which end in any order with the replies.

What was sent, which redirects were accepted and when is kept along, and no function reads it.

* `Client`              the initiator, until IKE_AUTH;
* `Client.walk`         the payloads of a reply (`initiator_ike_sa_init_recv`);
* `Client.follow`       `ikev2_initiator_redirect_follow`;
* `ClientInv`           what holds in every state;
* `client_step`         one event (the step);
* `client_contacts`     every run: only its own gateway, and those named to it;
* `client_redirects_bounded`    every run: how many redirects are followed in a period.
-/

set_option linter.unusedVariables false

namespace Redirect
open Bytes

/-! ## the ticket store -/

/-- a file of the store: the ticket behind its lifetime, and what of its state is looked at -/
structure StoredTicket where
  ticketLt : Bytes
  expiresAt : Nat
  certDue : Nat
  deriving DecidableEq, Repr

abbrev TicketStore := Bytes → Option StoredTicket

/-- `ike_msg_resume_store_key`; the octets for their hex digits -/
def storeKey : Address → Option Bytes
  | .inet a => some a.1
  | .inet6 a => some a.1
  | .other _ => none

/-- `ike_msg_resume_store_migrate` -/
def storeMigrate (store : TicketStore) (oldgw newgw : Address) (saveOk : Bool) : TicketStore :=
  match storeKey oldgw, storeKey newgw with
  | some oldkey, some newkey =>
    if oldkey = newkey then store
    else
      match store oldkey with
      | none => store
      | some t =>
        if 4 < t.ticketLt.length && saveOk then
          Function.update (Function.update store newkey (some t)) oldkey none
        else store
  | _, _ => store

/-- `time(NULL)` in 32 bits -/
def wall32 (now : Int) : Nat := (now % 2 ^ 32).toNat

def StoredTicket.usable (t : StoredTicket) (now : Int) : Bool :=
  !Ikev2.ticketExpired t.expiresAt (wall32 now) && decide (4 < t.ticketLt.length)
    && (t.certDue == 0 || decide (wall32 now < t.certDue))

/-! ## the initiator -/

/-- the attributes of the remote; `destPort` is `isakmp_port_dest` -/
structure ClientConf where
  acceptRedirect : Bool
  redirectMax : Int
  redirectPeriod : Int
  sessionResumption : Bool
  destPort : UInt16

inductive ClientPhase where
  | idling
  | initSent
  | resumeSent
  | authSent
  | dead
  deriving DecidableEq, Repr

/-- IKE_SA_INIT with its two redirect notifies, or IKE_SESSION_RESUME -/
inductive ClientMsg where
  | init (dest : Sockaddr) (nonce : Bytes) (supported : Bool) (fromData : Option Bytes)
  | resume (dest : Sockaddr) (nonce ticket : Bytes)
  deriving DecidableEq

def ClientMsg.dest : ClientMsg → Sockaddr
  | .init dest _ _ _ => dest
  | .resume dest _ _ => dest

def ClientMsg.nonce : ClientMsg → Bytes
  | .init _ nonce _ _ => nonce
  | .resume _ nonce _ => nonce

def ClientMsg.isResume : ClientMsg → Bool
  | .init _ _ _ _ => false
  | .resume _ _ _ => true

/-- `struct ikev2_sa` of an initiator; `children` are the remotes of its children, which a new child has
not, `generating` and `computing` count the key generations and computations that are under way, and
`followed` has the times of the redirects that were followed -/
structure Client where
  phase : ClientPhase
  remote : Sockaddr
  children : List (Option Sockaddr)
  nI : Option Bytes
  nR : Option Bytes
  dhpub : Option Bytes
  dhpriv : Option Bytes
  rCk : Bytes
  sendMessageId : UInt32
  recvMessageId : UInt32
  dhChoice : Bool
  resumeDeclined : Bool
  redirectRx : Bool
  redirectGw : Option GwIdent
  redirectNi : Option Bytes
  redirects : FixedWindow.Limiter
  redirectFollow : Bool
  redirectedFrom : Option GwIdent
  generating : Nat
  computing : Nat
  store : TicketStore
  sent : List ClientMsg
  accepted : List (GwIdent × Bytes)
  admitted : List Int
  followed : List Int

/-- what the calls of one event give -/
structure ClientIo where
  now : Int
  saveOk : Bool
  startOk : Bool
  sendOk : Bool
  nonce : Option Bytes

namespace Client
variable (conf : ClientConf) (c : Client) (io : ClientIo)

def follows : Nat := c.followed.length

/-- `ikev2_abort` -/
def abort : Client := { c with phase := .dead }

/-- `ike_msg_session_resume_available`: a ticket for the remote; one that is over goes -/
def resumeAvailable : Option (Bytes × StoredTicket) × TicketStore :=
  if !conf.sessionResumption || c.resumeDeclined then (none, c.store)
  else
    match storeKey c.remote.addr with
    | none => (none, c.store)
    | some key =>
      match c.store key with
      | none => (none, c.store)
      | some t =>
        if t.usable io.now then (some (key, t), c.store)
        else (none, Function.update c.store key none)

/-- `initiator_ike_session_resume_send` -/
def resumeSend (key : Bytes) (t : StoredTicket) : Client :=
  match io.nonce with
  | none => { c with store := Function.update c.store key none }.abort
  | some nonce =>
    if io.sendOk then
      { c with
        nI := some nonce, phase := .resumeSent
        sent := c.sent ++ [.resume c.remote nonce (t.ticketLt.drop 4)] }
    else { c with nI := some nonce, store := Function.update c.store key none }.abort

/-- `ikev2_initiator_start`: the generation of a key is under way, or a ticket is presented -/
def initiatorStart : Client :=
  match resumeAvailable conf c io with
  | (some (key, t), store) => resumeSend { c with store := store } io key t
  | (none, store) =>
    if io.startOk then { c with store := store, generating := c.generating + 1 }
    else { c with store := store }.abort

/-- the REDIRECTED_FROM of the next IKE_SA_INIT -/
def fromData : Option Bytes := if c.redirectFollow then c.redirectedFrom.bind buildRedirectedFromData else none

/-- `initiator_start_after_gen`; `key` is none if the generation failed -/
def startAfterGen (key : Option (Bytes × Bytes)) : Client :=
  if c.generating = 0 then c
  else
    let c := { c with generating := c.generating - 1 }
    match key, io.nonce with
    | some (dhpub, dhpriv), some nonce =>
      let c := { c with dhpub := some dhpub, dhpriv := some dhpriv, nI := some nonce }
      if io.sendOk then
        { c with
          phase := .initSent
          sent := c.sent ++ [.init c.remote nonce conf.acceptRedirect (fromData c)] }
      else c.abort
    | _, _ => c.abort

end Client

/-! ## a reply -/

/-- the notifies of a reply; `invalidKe` says whether the group is one of ours, `natDetection`
whether the digests are taken, `redirect` has the data -/
inductive ReplyNotify where
  | badSpi
  | cookie
  | invalidKe (acceptable : Bool)
  | natDetection (ok : Bool)
  | redirect (data : Option Bytes)
  | other

inductive ReplyPayload where
  | sa
  | ke
  | nonce
  | notify (n : ReplyNotify)
  | certreq
  | vendorId
  | unexpected (critical : Bool)

/-- the payloads that were met -/
structure ReplySeen where
  sa : Bool
  ke : Bool
  nonce : Bool

/-- how the rest of `initiator_ike_sa_init_recv` ends -/
inductive ReplyEnd where
  | drop
  | abort
  | compute (nonce : Bytes)

namespace Client
variable (conf : ClientConf) (io : ClientIo)

/-- N(REDIRECT): ours to take, well formed, and with our nonce -/
def recvRedirect (c : Client) (data : Option Bytes) : Bool × Client :=
  if !conf.acceptRedirect then (false, c)
  else
    match data.bind parseRedirectNotifyData with
    | none => (false, c)
    | some (g, ni) =>
      if c.nI = some ni then
        (true, { c with
          redirectGw := some g, redirectNi := some ni, redirectRx := true
          accepted := c.accepted ++ [(g, ni)] })
      else (false, c)

/-- `init_ike_sa_init_recv_notify`; false drops the reply -/
def recvNotify (c : Client) : ReplyNotify → Bool × Client
  | .badSpi => (false, c)
  | .cookie => (false, c)
  | .invalidKe acceptable =>
    if !acceptable || c.dhChoice then (false, c)
    else (false, initiatorStart conf { c with dhChoice := true } io)
  | .natDetection ok => if ok then (true, c) else (false, c.abort)
  | .redirect data => recvRedirect conf c data
  | .other => (true, c)

/-- the loop over the payloads; false drops the reply -/
def walk : List ReplyPayload → ReplySeen → Client → Bool × ReplySeen × Client
  | [], seen, c => (true, seen, c)
  | .sa :: ps, seen, c => if seen.sa then (false, seen, c) else walk ps { seen with sa := true } c
  | .ke :: ps, seen, c => if seen.ke then (false, seen, c) else walk ps { seen with ke := true } c
  | .nonce :: ps, seen, c =>
    if seen.nonce then (false, seen, c) else walk ps { seen with nonce := true } c
  | .notify n :: ps, seen, c =>
    if (recvNotify conf io c n).1 then walk ps seen (recvNotify conf io c n).2
    else (false, seen, (recvNotify conf io c n).2)
  | .certreq :: ps, seen, c => walk ps seen c
  | .vendorId :: ps, seen, c => walk ps seen c
  | .unexpected critical :: ps, seen, c => if critical then (false, seen, c) else walk ps seen c

end Client

/-- `ikev2_redirect_gw_sadup` -/
def gwSadup (port : UInt16) (g : GwIdent) : Option Sockaddr :=
  if g.type = 1 then if h : g.ident.length = 4 then some ⟨.inet ⟨g.ident, h⟩, port⟩ else none
  else if g.type = 2 then if h : g.ident.length = 16 then some ⟨.inet6 ⟨g.ident, h⟩, port⟩ else none
  else none

/-- the gateway that redirects, for REDIRECTED_FROM -/
def identOf : Address → Option GwIdent
  | .inet a => some ⟨1, a.1⟩
  | .inet6 a => some ⟨2, a.1⟩
  | .other _ => none

namespace Client
variable (conf : ClientConf) (c : Client) (io : ClientIo)

/-- the retargeted SA, before it starts again -/
def retarget (source newpeer : Sockaddr) (rfrom : GwIdent) : Client :=
  { c with
    remote := newpeer, children := c.children.map fun _ => some newpeer, redirectedFrom := some rfrom
    nI := none, nR := none, dhpub := none, dhpriv := none
    sendMessageId := 0, recvMessageId := 0, rCk := List.replicate 8 0
    redirectFollow := true, store := storeMigrate c.store source.addr newpeer.addr io.saveOk
    resumeDeclined := false, followed := io.now :: c.followed }

/-- `ikev2_initiator_redirect_follow` -/
def follow (source : Sockaddr) : Bool × Client :=
  let verdict := c.redirects.accept conf.redirectMax conf.redirectPeriod io.now
  let c := { c with redirectRx := false, redirects := verdict.2 }
  if !verdict.1 then (false, c)
  else
    let c := { c with admitted := io.now :: c.admitted }
    match identOf source.addr, c.redirectGw.bind (gwSadup conf.destPort) with
    | some rfrom, some newpeer => (true, initiatorStart conf (retarget c io source newpeer rfrom) io)
    | _, _ => (false, c)

/-- `initiator_ike_sa_init_recv`, on a response of this exchange with a responder SPI -/
def initRecv (source : Sockaddr) (spi : Bytes) (payloads : List ReplyPayload) (rest : ReplyEnd) :
    Client :=
  match walk conf io payloads ⟨false, false, false⟩ { c with rCk := spi } with
  | (false, _, c) => c
  | (true, seen, c) =>
    if c.redirectRx then
      if (follow conf c io source).1 then (follow conf c io source).2
      else (follow conf c io source).2.abort
    else if !(seen.sa && seen.ke && seen.nonce) then c
    else if spi = List.replicate 8 0 then c
    else
      match rest with
      | .drop => c
      | .abort => c.abort
      | .compute nonce => { c with nR := some nonce, computing := c.computing + 1 }

/-- `ike_msg_session_resume_fallback` -/
def resumeFallback : Client :=
  initiatorStart conf
    { c with
      resumeDeclined := true, nI := none, nR := none, rCk := List.replicate 8 0, phase := .idling } io

end Client

/-- how `initiator_ike_session_resume_recv` ends -/
inductive ResumeReply where
  | nack
  | drop (spi : Option Bytes)
  | resumed (spi nonce : Bytes)
  | failed

inductive ClientEvent where
  /-- a generation of keys ends -/
  | generated (io : ClientIo) (key : Option (Bytes × Bytes))
  /-- a reply to IKE_SA_INIT -/
  | reply (io : ClientIo) (source : Sockaddr) (spi : Bytes) (payloads : List ReplyPayload) (rest : ReplyEnd)
  /-- SKEYSEED is there -/
  | computed (ok : Bool)
  /-- a reply to IKE_SESSION_RESUME -/
  | resumeReply (io : ClientIo) (r : ResumeReply)
  /-- no reply at all -/
  | timeout (io : ClientIo)
  /-- an acquire for the same gateway adds a child -/
  | acquired
  /-- the kernel has the SPI of a child -/
  | getspiDone (io : ClientIo)
  /-- another SA writes to the store -/
  | store (key : Bytes) (t : Option StoredTicket)

namespace Client
variable (conf : ClientConf)

def resumeRecv (c : Client) (io : ClientIo) : ResumeReply → Client
  | .nack => resumeFallback conf c io
  | .drop spi => { c with rCk := spi.getD c.rCk }
  | .resumed spi nonce => { c with rCk := spi, nR := some nonce, phase := .authSent }
  | .failed =>
    { c with store := (storeKey c.remote.addr).elim c.store fun key => Function.update c.store key none }.abort

def step (c : Client) : ClientEvent → Client
  | .generated io key => startAfterGen conf c io key
  | .reply io source spi payloads rest =>
    if c.phase = .initSent then initRecv conf c io source spi payloads rest else c
  | .computed ok =>
    if c.computing = 0 then c
    else
      let c := { c with computing := c.computing - 1 }
      if ok then { c with phase := .authSent } else c.abort
  | .resumeReply io r => if c.phase = .resumeSent then resumeRecv conf c io r else c
  | .timeout io => if c.phase = .resumeSent then resumeFallback conf c io else c.abort
  -- `ikev2_find_sa_by_addr` passes over a dead SA, and the child's remote stays unset
  | .acquired => if c.phase = .dead then c else { c with children := c.children ++ [none] }
  | .getspiDone io => if c.phase = .idling then initiatorStart conf c io else c
  | .store key t => { c with store := Function.update c.store key t }

/-- a new initiator towards a gateway -/
def fresh (remote : Sockaddr) (children : List (Option Sockaddr)) (store : TicketStore) : Client where
  phase := .idling
  remote := remote
  children := children
  nI := none
  nR := none
  dhpub := none
  dhpriv := none
  rCk := List.replicate 8 0
  sendMessageId := 0
  recvMessageId := 0
  dhChoice := false
  resumeDeclined := false
  redirectRx := false
  redirectGw := none
  redirectNi := none
  redirects := ⟨0, 0⟩
  redirectFollow := false
  redirectedFrom := none
  generating := 0
  computing := 0
  store := store
  sent := []
  accepted := []
  admitted := []
  followed := []

end Client

/-! ## what holds in every state -/

/-- the gateway of the configuration, or one that an accepted redirect names -/
def Named (conf : ClientConf) (first : Address) (accepted : List (GwIdent × Bytes)) (peer : Sockaddr) :
    Prop := peer.addr = first ∨ ∃ r ∈ accepted, gwSadup conf.destPort r.1 = some peer

structure ClientInv (conf : ClientConf) (first : Address) (c : Client) : Prop where
  contacted : ∀ m ∈ c.sent, Named conf first c.accepted m.dest
  remote : Named conf first c.accepted c.remote
  own : c.phase = .initSent ∨ c.phase = .resumeSent → ∀ n, c.nI = some n → ∃ m ∈ c.sent, m.nonce = n
  accepted : ∀ r ∈ c.accepted, conf.acceptRedirect = true ∧ ∃ m ∈ c.sent, m.nonce = r.2
  armed : c.redirectRx = true → ∃ r ∈ c.accepted, c.redirectGw = some r.1
  children : c.redirectFollow = true → ∀ x, some x ∈ c.children → x = c.remote
  limiter : FixedWindow.TraceInv conf.redirectMax conf.redirectPeriod ⟨c.redirects, c.admitted⟩
  followed : c.followed.Sublist c.admitted
  idle : c.phase = .idling → c.resumeDeclined = false → c.sent.countP ClientMsg.isResume = 0
  resumes : c.sent.countP ClientMsg.isResume ≤ 1 + c.follows + (if c.dhChoice then 1 else 0)

/-- the invariant with one more ticket to present -/
structure ClientPrep (conf : ClientConf) (first : Address) (c : Client) : Prop where
  inv : ClientInv conf first c
  spare : c.resumeDeclined = false →
    c.sent.countP ClientMsg.isResume < 1 + c.follows + (if c.dhChoice then 1 else 0)

namespace Client
variable {conf : ClientConf} {first : Address} {c : Client} {io : ClientIo}

/-- a generation, the end, or a ticket -/
theorem initiatorStart_cases (conf : ClientConf) (c : Client) (io : ClientIo) :
    (∃ store, initiatorStart conf c io = { c with store := store, generating := c.generating + 1 })
      ∨ (∃ store nI, initiatorStart conf c io = { c with store := store, nI := nI, phase := .dead })
      ∨ (c.resumeDeclined = false ∧ ∃ store nonce ticket, initiatorStart conf c io
        = { c with
          store := store, nI := some nonce, phase := .resumeSent
          sent := c.sent ++ [.resume c.remote nonce ticket] }) := by
  unfold initiatorStart
  split
  · next key t store hav =>
    have hdeclined : c.resumeDeclined = false := by
      unfold resumeAvailable at hav
      split at hav
      · cases hav
      · next hno => exact (Bool.or_eq_false_iff.mp (Bool.eq_false_iff.mpr hno)).2
    unfold resumeSend
    split
    · exact .inr (.inl ⟨_, c.nI, rfl⟩)
    split
    · exact .inr (.inr ⟨hdeclined, _, _, _, rfl⟩)
    · exact .inr (.inl ⟨_, _, rfl⟩)
  · split
    · exact .inl ⟨_, rfl⟩
    · exact .inr (.inl ⟨_, c.nI, rfl⟩)

theorem inv_initiatorStart (h : ClientPrep conf first c) (io : ClientIo) :
    ClientInv conf first (initiatorStart conf c io) := by
  obtain ⟨h, hspare⟩ := h
  obtain ⟨store, heq⟩ | ⟨store, nI, heq⟩ | ⟨hdeclined, store, nonce, ticket, heq⟩ :=
    initiatorStart_cases conf c io
  · rw [heq]
    exact ⟨h.contacted, h.remote, h.own, h.accepted, h.armed, h.children, h.limiter, h.followed, h.idle, h.resumes⟩
  · rw [heq]
    refine ⟨h.contacted, h.remote, fun hphase => ?_, h.accepted, h.armed, h.children, h.limiter,
      h.followed, fun hidle => (by cases hidle), h.resumes⟩
    rcases hphase with hphase | hphase
    · cases hphase
    · cases hphase
  · rw [heq]
    refine ⟨fun m hm => ?_, h.remote, fun _ n hn => ?_, fun r hr => ?_, h.armed, h.children, h.limiter,
      h.followed, fun hidle => (by cases hidle), ?_⟩
    · rcases List.mem_append.mp hm with hm | hm
      · exact h.contacted m hm
      · rw [List.mem_singleton.mp hm]
        exact h.remote
    · obtain rfl := Option.some.inj hn
      exact ⟨_, List.mem_append_right _ (List.mem_singleton_self _), rfl⟩
    · obtain ⟨haccept, m, hm, hnonce⟩ := h.accepted r hr
      exact ⟨haccept, m, List.mem_append_left _ hm, hnonce⟩
    · have hlt := hspare hdeclined
      show (c.sent ++ [ClientMsg.resume c.remote nonce ticket]).countP ClientMsg.isResume ≤ _
      rw [List.countP_append]
      show c.sent.countP ClientMsg.isResume + 1 ≤ _
      exact hlt

theorem inv_abort (h : ClientInv conf first c) : ClientInv conf first c.abort := by
  refine ⟨h.contacted, h.remote, fun hphase => ?_, h.accepted, h.armed, h.children, h.limiter, h.followed,
    fun hidle => (by cases hidle), h.resumes⟩
  rcases hphase with hphase | hphase
  · cases hphase
  · cases hphase

/-! ## the payloads -/

theorem inv_recvRedirect (h : ClientInv conf first c) (hphase : c.phase = .initSent)
    (data : Option Bytes) :
    ClientInv conf first (recvRedirect conf c data).2 ∧ (recvRedirect conf c data).2.phase = .initSent := by
  unfold recvRedirect
  split
  · exact ⟨h, hphase⟩
  next haccept =>
  split
  · exact ⟨h, hphase⟩
  next g ni _ =>
  split
  · next hni =>
    have hown := h.own (.inl hphase) ni hni
    have haccept : conf.acceptRedirect = true := by
      cases hc : conf.acceptRedirect with
      | true => rfl
      | false =>
        rw [hc] at haccept
        exact absurd rfl haccept
    have hmono : ∀ peer, Named conf first c.accepted peer →
        Named conf first (c.accepted ++ [(g, ni)]) peer := by
      rintro peer (hfirst | ⟨r, hr, hpeer⟩)
      · exact .inl hfirst
      · exact .inr ⟨r, List.mem_append_left _ hr, hpeer⟩
    refine ⟨⟨fun m hm => hmono _ (h.contacted m hm), hmono _ h.remote, h.own, fun r hr => ?_,
      fun _ => ?_, h.children, h.limiter, h.followed, h.idle, h.resumes⟩, hphase⟩
    · rcases List.mem_append.mp hr with hr | hr
      · exact h.accepted r hr
      · rw [List.mem_singleton.mp hr]
        exact ⟨haccept, hown⟩
    · exact ⟨(g, ni), List.mem_append_right _ (List.mem_singleton_self _), rfl⟩
  · exact ⟨h, hphase⟩

/-- a notify that does not drop the reply leaves the phase -/
theorem inv_recvNotify (h : ClientInv conf first c) (hphase : c.phase = .initSent) (io : ClientIo)
    (n : ReplyNotify) :
    ClientInv conf first (recvNotify conf io c n).2
      ∧ ((recvNotify conf io c n).1 = true → (recvNotify conf io c n).2.phase = .initSent) := by
  cases n with
  | badSpi => exact ⟨h, fun hno => by cases hno⟩
  | cookie => exact ⟨h, fun hno => by cases hno⟩
  | invalidKe acceptable =>
    unfold recvNotify
    dsimp only
    split
    · exact ⟨h, fun hno => by cases hno⟩
    next hnew =>
    have hchoice : c.dhChoice = false := (Bool.or_eq_false_iff.mp (Bool.eq_false_iff.mpr hnew)).2
    have hres := h.resumes
    rw [hchoice] at hres
    have hprep : ClientPrep conf first { c with dhChoice := true } := by
      refine ⟨⟨h.contacted, h.remote, h.own, h.accepted, h.armed, h.children, h.limiter, h.followed, h.idle, ?_⟩,
        fun _ => ?_⟩
      · exact Nat.le_trans hres (Nat.le_add_right _ _)
      · exact Nat.lt_succ_of_le hres
    exact ⟨inv_initiatorStart hprep io, fun hno => by cases hno⟩
  | natDetection ok =>
    unfold recvNotify
    cases ok with
    | true => exact ⟨h, fun _ => hphase⟩
    | false => exact ⟨inv_abort h, fun hno => by cases hno⟩
  | redirect data =>
    obtain ⟨hinv, hph⟩ := inv_recvRedirect h hphase data
    exact ⟨hinv, fun _ => hph⟩
  | other => exact ⟨h, fun _ => hphase⟩

/-- the loop over the payloads -/
theorem inv_walk (io : ClientIo) (payloads : List ReplyPayload) : ∀ (seen : ReplySeen) (c : Client),
    ClientInv conf first c → c.phase = .initSent →
    ClientInv conf first (walk conf io payloads seen c).2.2
      ∧ ((walk conf io payloads seen c).1 = true →
        (walk conf io payloads seen c).2.2.phase = .initSent) := by
  induction payloads with
  | nil => exact fun seen c h hphase => ⟨h, fun _ => hphase⟩
  | cons p ps ih =>
    intro seen c h hphase
    cases p with
    | sa =>
      rw [walk]
      split
      · exact ⟨h, fun hno => by cases hno⟩
      · exact ih _ c h hphase
    | ke =>
      rw [walk]
      split
      · exact ⟨h, fun hno => by cases hno⟩
      · exact ih _ c h hphase
    | nonce =>
      rw [walk]
      split
      · exact ⟨h, fun hno => by cases hno⟩
      · exact ih _ c h hphase
    | notify n =>
      obtain ⟨hinv, hph⟩ := inv_recvNotify h hphase io n
      rw [walk]
      split
      · next hgo => exact ih _ _ hinv (hph hgo)
      · exact ⟨hinv, fun hno => by cases hno⟩
    | certreq => exact ih seen c h hphase
    | vendorId => exact ih seen c h hphase
    | unexpected critical =>
      rw [walk]
      split
      · exact ⟨h, fun hno => by cases hno⟩
      · exact ih _ c h hphase

/-! ## following -/

/-- the redirect is counted, whatever becomes of it -/
theorem inv_counted (h : ClientInv conf first c) (now : Int) :
    let verdict := c.redirects.accept conf.redirectMax conf.redirectPeriod now
    (verdict.1 = false → ClientInv conf first { c with redirectRx := false, redirects := verdict.2 })
      ∧ (verdict.1 = true → ClientInv conf first
        { c with redirectRx := false, redirects := verdict.2, admitted := now :: c.admitted }) := by
  intro verdict
  have htrace := FixedWindow.trace_step h.limiter now
  unfold FixedWindow.Trace.step at htrace
  constructor
  · intro hno
    refine ⟨h.contacted, h.remote, h.own, h.accepted, fun hrx => (by cases hrx), h.children, ?_,
      h.followed, h.idle, h.resumes⟩
    show FixedWindow.TraceInv _ _ ⟨verdict.2, c.admitted⟩
    rw [show (c.redirects.accept conf.redirectMax conf.redirectPeriod now).1 = false from hno] at htrace
    exact htrace
  · intro hyes
    refine ⟨h.contacted, h.remote, h.own, h.accepted, fun hrx => (by cases hrx), h.children, ?_,
      h.followed.cons now, h.idle, h.resumes⟩
    show FixedWindow.TraceInv _ _ ⟨verdict.2, now :: c.admitted⟩
    rw [show (c.redirects.accept conf.redirectMax conf.redirectPeriod now).1 = true from hyes] at htrace
    exact htrace

/-- the SA that is retargeted has a name for its new gateway, and a ticket to spare -/
theorem prep_retarget (h : ClientInv conf first c) (hphase : c.phase = .initSent) (io : ClientIo)
    (hlet : (io.now :: c.followed).Sublist c.admitted)
    (source newpeer : Sockaddr) (rfrom : GwIdent) (hnew : Named conf first c.accepted newpeer) :
    ClientPrep conf first (retarget c io source newpeer rfrom) := by
  refine ⟨⟨h.contacted, hnew, fun _ n hn => (by cases hn), h.accepted, h.armed, fun _ x hx => ?_, h.limiter,
    hlet, fun hidle => ?_, ?_⟩, fun _ => ?_⟩
  · obtain ⟨y, -, hy⟩ := List.mem_map.mp hx
    exact (Option.some.inj hy).symm
  · have hsame : c.phase = .idling := hidle
    rw [hphase] at hsame
    cases hsame
  · have hres := h.resumes
    show c.sent.countP ClientMsg.isResume ≤ 1 + (c.follows + 1) + (if c.dhChoice then 1 else 0)
    omega
  · have hres := h.resumes
    show c.sent.countP ClientMsg.isResume < 1 + (c.follows + 1) + (if c.dhChoice then 1 else 0)
    omega

theorem inv_follow (h : ClientInv conf first c) (hphase : c.phase = .initSent)
    (hrx : c.redirectRx = true) (io : ClientIo)
    (source : Sockaddr) : ClientInv conf first (follow conf c io source).2 := by
  obtain ⟨hrefused, hcounted⟩ := inv_counted h io.now
  unfold follow
  dsimp only
  cases hv : (c.redirects.accept conf.redirectMax conf.redirectPeriod io.now).1 with
  | false => exact hrefused hv
  | true =>
    have hinv := hcounted hv
    rw [if_neg (by decide)]
    split
    · next rfrom newpeer hfrom hnew =>
      obtain ⟨r, hr, hgw⟩ := h.armed hrx
      rw [hgw] at hnew
      have hprep := prep_retarget hinv hphase io (h.followed.cons_cons io.now) source newpeer rfrom
        (.inr ⟨r, hr, hnew⟩)
      exact inv_initiatorStart hprep io
    · exact hinv

theorem inv_initRecv (h : ClientInv conf first c) (hphase : c.phase = .initSent) (io : ClientIo)
    (source : Sockaddr) (spi : Bytes) (payloads : List ReplyPayload) (rest : ReplyEnd) :
    ClientInv conf first (initRecv conf c io source spi payloads rest) := by
  have hspi : ClientInv conf first { c with rCk := spi } :=
    ⟨h.contacted, h.remote, h.own, h.accepted, h.armed, h.children, h.limiter, h.followed, h.idle, h.resumes⟩
  obtain ⟨hwalk, hph⟩ := inv_walk io payloads ⟨false, false, false⟩ _ hspi hphase
  unfold initRecv
  split
  · next seen c' heq =>
    rw [heq] at hwalk
    exact hwalk
  next seen c' heq =>
  rw [heq] at hwalk hph
  have hph := hph rfl
  split
  · next hrx =>
    have hfollow := inv_follow hwalk hph hrx io source
    split
    · exact hfollow
    · exact inv_abort hfollow
  split
  · exact hwalk
  split
  · exact hwalk
  cases rest with
  | drop => exact hwalk
  | abort => exact inv_abort hwalk
  | compute nonce =>
    exact ⟨hwalk.contacted, hwalk.remote, hwalk.own, hwalk.accepted, hwalk.armed, hwalk.children,
      hwalk.limiter, hwalk.followed, hwalk.idle, hwalk.resumes⟩

theorem inv_resumeFallback (h : ClientInv conf first c) (io : ClientIo) :
    ClientInv conf first (resumeFallback conf c io) := by
  have hprep : ClientPrep conf first { c with
      resumeDeclined := true, nI := none, nR := none, rCk := List.replicate 8 0, phase := .idling } :=
    ⟨⟨h.contacted, h.remote, fun _ n hn => (by cases hn), h.accepted, h.armed, h.children, h.limiter,
      h.followed, fun _ hno => (by cases hno), h.resumes⟩, fun hno => (by cases hno)⟩
  exact inv_initiatorStart hprep io

theorem inv_startAfterGen (h : ClientInv conf first c) (io : ClientIo) (key : Option (Bytes × Bytes)) :
    ClientInv conf first (startAfterGen conf c io key) := by
  unfold startAfterGen
  split
  · exact h
  have hgen : ClientInv conf first { c with generating := c.generating - 1 } :=
    ⟨h.contacted, h.remote, h.own, h.accepted, h.armed, h.children, h.limiter, h.followed, h.idle, h.resumes⟩
  dsimp only
  split
  · next dhpub dhpriv nonce hkey hnonce =>
    split
    · refine ⟨fun m hm => ?_, h.remote, fun _ n hn => ?_, fun r hr => ?_, h.armed, h.children, h.limiter,
        h.followed, fun hidle => (by cases hidle), ?_⟩
      · rcases List.mem_append.mp hm with hm | hm
        · exact h.contacted m hm
        · rw [List.mem_singleton.mp hm]
          exact h.remote
      · obtain rfl := Option.some.inj hn
        exact ⟨_, List.mem_append_right _ (List.mem_singleton_self _), rfl⟩
      · obtain ⟨haccept, m, hm, hn⟩ := h.accepted r hr
        exact ⟨haccept, m, List.mem_append_left _ hm, hn⟩
      · show (c.sent ++ [ClientMsg.init _ _ _ _]).countP ClientMsg.isResume ≤ _
        rw [List.countP_append]
        exact h.resumes
    · refine ⟨h.contacted, h.remote, fun hph => ?_, h.accepted, h.armed, h.children, h.limiter, h.followed,
        fun hidle => (by cases hidle), h.resumes⟩
      rcases hph with hph | hph
      · cases hph
      · cases hph
  · exact inv_abort hgen

/-- one event -/
theorem client_step (h : ClientInv conf first c) (e : ClientEvent) :
    ClientInv conf first (c.step conf e) := by
  cases e with
  | generated io key => exact inv_startAfterGen h io key
  | reply io source spi payloads rest =>
    unfold step
    dsimp only
    split
    · next hphase => exact inv_initRecv h hphase io source spi payloads rest
    · exact h
  | computed ok =>
    unfold step
    dsimp only
    split
    · exact h
    have hleave : ∀ phase : ClientPhase, phase ≠ .initSent → phase ≠ .resumeSent → phase ≠ .idling →
        ClientInv conf first { c with computing := c.computing - 1, phase := phase } := by
      intro phase hi hr hidle
      refine ⟨h.contacted, h.remote, fun hph => ?_, h.accepted, h.armed, h.children, h.limiter, h.followed,
        fun hph => absurd hph hidle, h.resumes⟩
      rcases hph with hph | hph
      · exact absurd hph hi
      · exact absurd hph hr
    cases ok with
    | true => exact hleave .authSent (by decide) (by decide) (by decide)
    | false => exact hleave .dead (by decide) (by decide) (by decide)
  | resumeReply io r =>
    unfold step
    dsimp only
    split
    · cases r with
      | nack => exact inv_resumeFallback h io
      | drop spi =>
        exact ⟨h.contacted, h.remote, h.own, h.accepted, h.armed, h.children, h.limiter, h.followed,
          h.idle, h.resumes⟩
      | resumed spi nonce =>
        refine ⟨h.contacted, h.remote, fun hph => ?_, h.accepted, h.armed, h.children, h.limiter, h.followed,
          fun hidle => (by cases hidle), h.resumes⟩
        rcases hph with hph | hph
        · cases hph
        · cases hph
      | failed =>
        refine inv_abort ⟨h.contacted, h.remote, h.own, h.accepted, h.armed, h.children, h.limiter,
          h.followed, h.idle, h.resumes⟩
    · exact h
  | timeout io =>
    unfold step
    dsimp only
    split
    · exact inv_resumeFallback h io
    · exact inv_abort h
  | acquired =>
    unfold step
    dsimp only
    split
    · exact h
    refine ⟨h.contacted, h.remote, h.own, h.accepted, h.armed, fun hfollow x hx => ?_, h.limiter,
      h.followed, h.idle, h.resumes⟩
    rcases List.mem_append.mp hx with hx | hx
    · exact h.children hfollow x hx
    · cases List.mem_singleton.mp hx
  | getspiDone io =>
    unfold step
    dsimp only
    split
    · next hphase =>
      -- an SA that idles and may present a ticket has presented none
      have hprep : ClientPrep conf first c := by
        refine ⟨h, fun hdeclined => ?_⟩
        rw [h.idle hphase hdeclined]
        omega
      exact inv_initiatorStart hprep io
    · exact h
  | store key t =>
    exact ⟨h.contacted, h.remote, h.own, h.accepted, h.armed, h.children, h.limiter, h.followed, h.idle, h.resumes⟩

/-- a new initiator -/
theorem prep_fresh (conf : ClientConf) (remote : Sockaddr) (children : List (Option Sockaddr))
    (store : TicketStore) : ClientPrep conf remote.addr (fresh remote children store) := by
  refine ⟨⟨fun m hm => (by cases hm), .inl rfl, fun _ n hn => (by cases hn), fun r hr => (by cases hr),
    fun hrx => (by cases hrx), fun hf => (by cases hf), fun _ => ⟨[], rfl, trivial, rfl⟩,
    List.Sublist.slnil, fun _ _ => rfl, Nat.zero_le _⟩, fun _ => Nat.one_pos⟩

/-- the states of an initiator -/
theorem client_run (conf : ClientConf) (remote : Sockaddr) (children : List (Option Sockaddr))
    (store : TicketStore) (io : ClientIo) (es : List ClientEvent) :
    ∀ c ∈ Run.states (Client.step conf) (initiatorStart conf (fresh remote children store) io) es,
      ClientInv conf remote.addr c :=
  Run.states_inv_all (fun _ e h => client_step h e) es (inv_initiatorStart (prep_fresh conf remote children store) io)

end Client

/-- in every run, whatever is sent to an initiator and in whatever order its key generations end: it
sends to its own gateway, and to gateways named in a redirect that it agreed to take and that echoed a
nonce it had sent; after a redirect its children have the address of the gateway it goes to, or, if
they joined since, none of their own; and it presents a ticket at most once, once more after
INVALID_KE_PAYLOAD, and once for each redirect it followed -/
theorem client_contacts (conf : ClientConf) (remote : Sockaddr) (children : List (Option Sockaddr))
    (store : TicketStore) (io : ClientIo) (es : List ClientEvent) :
    ∀ c ∈ Run.states (Client.step conf) (.initiatorStart conf (.fresh remote children store) io) es,
      (∀ m ∈ c.sent, m.dest.addr = remote.addr
          ∨ (conf.acceptRedirect = true ∧ ∃ r ∈ c.accepted, gwSadup conf.destPort r.1 = some m.dest
            ∧ ∃ m' ∈ c.sent, m'.nonce = r.2))
        ∧ (c.redirectFollow = true → ∀ x, some x ∈ c.children → x = c.remote)
        ∧ c.sent.countP ClientMsg.isResume ≤ 1 + c.follows + (if c.dhChoice then 1 else 0) := by
  intro c hc
  have h := Client.client_run conf remote children store io es c hc
  refine ⟨fun m hm => ?_, h.children, h.resumes⟩
  rcases h.contacted m hm with hfirst | ⟨r, hr, hdest⟩
  · exact .inl hfirst
  · obtain ⟨haccept, hown⟩ := h.accepted r hr
    exact .inr ⟨haccept, r, hr, hdest, hown⟩

/-- two gateways of the network 192.0.2.0/24 -/
def gateway (n : UInt8) : Sockaddr := ⟨.inet ⟨[192, 0, 2, n], rfl⟩, 500⟩

def redirectConf : ClientConf := ⟨true, 5, 300, true, 500⟩

/-- all calls succeed, with a nonce of one octet -/
def smoothIo (now : Int) (nonce : UInt8) : ClientIo := ⟨now, true, true, true, some [nonce]⟩

/-- IKE_SA_INIT to the first gateway, its redirect to the second, and IKE_SA_INIT to that -/
def redirectedRun : List ClientEvent :=
  [.generated (smoothIo 100 7) (some ([1], [2])),
    .reply (smoothIo 101 7) (gateway 1) (List.replicate 8 0)
      [.notify (.redirect (some [1, 4, 192, 0, 2, 2, 7]))] .drop,
    .generated (smoothIo 101 8) (some ([3], [4]))]

def redirectedStart : Client :=
  .initiatorStart redirectConf (.fresh (gateway 1) [none] fun _ => none) (smoothIo 100 6)

theorem client_contacts_redirected :
    let c := redirectedRun.foldl (Client.step redirectConf) redirectedStart
    c.sent = [.init (gateway 1) [7] true none, .init (gateway 2) [8] true (some [1, 4, 192, 0, 2, 1])]
      ∧ c.children = [some (gateway 2)]
      ∧ ∃ r ∈ c.accepted, gwSadup 500 r.1 = some (gateway 2) ∧ ∃ m' ∈ c.sent, m'.nonce = r.2 := by
  intro c
  have hsent : c.sent
      = [.init (gateway 1) [7] true none, .init (gateway 2) [8] true (some [1, 4, 192, 0, 2, 1])] := by
    decide +kernel
  have hmem : c ∈ Run.states (Client.step redirectConf) redirectedStart redirectedRun :=
    Run.foldl_mem_states redirectedRun _
  have hcontacts := client_contacts redirectConf (gateway 1) [none] (fun _ => none)
    (smoothIo 100 6) redirectedRun c hmem
  refine ⟨hsent, by decide +kernel, ?_⟩
  have hlast : ClientMsg.init (gateway 2) [8] true (some [1, 4, 192, 0, 2, 1]) ∈ c.sent := by
    rw [hsent]
    exact List.mem_cons_of_mem _ (List.mem_singleton_self _)
  rcases hcontacts.1 _ hlast with hfirst | ⟨-, hredirect⟩
  · exact absurd hfirst (by decide)
  · exact hredirect

/-- in every run the redirects that were followed are some of those that were let through; and if the
clock does not go back, no interval of `redirect_period` has more than `2 * redirect_max - 1` of the
ones or the others -/
theorem client_redirects_bounded (conf : ClientConf) (remote : Sockaddr) (children : List (Option Sockaddr))
    (store : TicketStore) (io : ClientIo) (es : List ClientEvent) :
    ∀ c ∈ Run.states (Client.step conf) (.initiatorStart conf (.fresh remote children store) io) es,
      c.followed.Sublist c.admitted ∧ (c.admitted.Pairwise (· ≥ ·) → ∀ a,
        c.admitted.countP (FixedWindow.inInterval a conf.redirectPeriod)
            ≤ 2 * conf.redirectMax.toNat - 1
          ∧ c.followed.countP (FixedWindow.inInterval a conf.redirectPeriod)
            ≤ 2 * conf.redirectMax.toNat - 1) := by
  intro c hc
  have h := Client.client_run conf remote children store io es c hc
  refine ⟨h.followed, fun hsorted a => ?_⟩
  have hadmitted := FixedWindow.admitted_bounded h.limiter hsorted a
  exact ⟨hadmitted, Nat.le_trans h.followed.countP_le hadmitted⟩

theorem client_redirects_bounded_one :
    let c := redirectedRun.foldl (Client.step redirectConf) redirectedStart
    c.followed = [101] ∧ c.admitted = [101] ∧ c.followed.countP (FixedWindow.inInterval 0 300) ≤ 9 := by
  intro c
  have hmem : c ∈ Run.states (Client.step redirectConf) redirectedStart redirectedRun :=
    Run.foldl_mem_states redirectedRun _
  have hadmitted : c.admitted = [101] := by decide +kernel
  have hsorted : c.admitted.Pairwise (· ≥ ·) := by
    rw [hadmitted]
    exact List.pairwise_singleton _ _
  have hbound := client_redirects_bounded redirectConf (gateway 1) [none] (fun _ => none)
    (smoothIo 100 6) redirectedRun c hmem
  exact ⟨by decide +kernel, hadmitted, (hbound.2 hsorted 0).2⟩

end Redirect
