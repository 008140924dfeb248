import Racoon2.Iked.Drain
import Racoon2.Iked.RedirectClient

/-!
# A drained client moves with its ticket

A gateway with the table of `Drain`, and an initiator of `RedirectClient` that has a ticket of it.
The ticket is refused, the IKE_SA_INIT that follows is redirected, and the client presents the same
ticket to the gateway that the operator named.

* `client_refused`      the client after TICKET_NACK;
* `client_asks`         the client after IKE_SA_INIT;
* `client_redirected`   the client after REDIRECT;
* `drained_client_moves`    the three messages, with the answers of the gateway.
-/

set_option linter.unusedVariables false

namespace Redirect
open Bytes

/-! ## the gateway -/

/-- what a gateway does with the ticket and the request of a client that is drained -/
theorem drained_answers (pton : InetPton) (redirectTo : Option Bytes) {gw : Bytes} {g : GwIdent}
    (hlen : gw.length ≠ 0 ∧ gw.length ≤ 4096) (hgw : classify pton gw = some g) (self : Sockaddr)
    (nonce : Bytes) :
    redirectDecision pton redirectTo (some gw) (.resume self) = .ticketNack
      ∧ redirectDecision pton redirectTo (some gw) (.init self true nonce)
        = .redirect (some (g.encode ++ nonce)) := by
  refine ⟨rfl, ?_⟩
  show PeerAnswer.redirect (buildRedirectNotifyData pton gw nonce) = _
  have hin : ¬(gw.length = 0 ∨ 4096 < gw.length) := by
    rw [not_or]
    exact ⟨hlen.1, Nat.not_lt.mpr hlen.2⟩
  unfold buildRedirectNotifyData
  rw [if_neg hin, hgw]
  rfl

/-! ## the client -/

section
variable {conf : ClientConf} {c : Client} {io : ClientIo}

/-- the ticket is refused: a key is generated for IKE_SA_INIT, and the ticket stays -/
theorem client_refused (hphase : c.phase = .resumeSent) (hstart : io.startOk = true) :
    c.step conf (.resumeReply io .nack)
      = { c with
        resumeDeclined := true, nI := none, nR := none, rCk := List.replicate 8 0, phase := .idling
        generating := c.generating + 1 } := by
  unfold Client.step
  dsimp only
  rw [if_pos hphase]
  show Client.initiatorStart conf _ io = _
  unfold Client.initiatorStart Client.resumeAvailable
  rw [Bool.or_true, if_pos rfl]
  dsimp only
  rw [if_pos hstart]

/-- the key is there: IKE_SA_INIT is sent -/
theorem client_asks (conf : ClientConf) (c : Client) (key : Bytes × Bytes) {nonce : Bytes}
    (hgen : c.generating ≠ 0)
    (hsend : io.sendOk = true) (hnonce : io.nonce = some nonce) :
    ∃ msg, c.step conf (.generated io (some key))
      = { c with
        generating := c.generating - 1, dhpub := some key.1, dhpriv := some key.2, nI := some nonce
        phase := .initSent, sent := c.sent ++ [msg] }
      ∧ msg = .init c.remote nonce conf.acceptRedirect (Client.fromData c) := by
  refine ⟨_, ?_, rfl⟩
  show Client.startAfterGen conf c io (some key) = _
  unfold Client.startAfterGen
  rw [if_neg hgen, hnonce]
  dsimp only
  rw [if_pos hsend]
  rfl

/-- a ticket moves to another key -/
theorem storeMigrate_moves {store : TicketStore} {old new : Address} {oldkey newkey : Bytes}
    {t : StoredTicket} (hold : storeKey old = some oldkey) (hnew : storeKey new = some newkey)
    (hne : oldkey ≠ newkey) (ht : store oldkey = some t) (hlen : 4 < t.ticketLt.length) :
    storeMigrate store old new true newkey = some t ∧ storeMigrate store old new true oldkey = none := by
  unfold storeMigrate
  rw [hold, hnew]
  dsimp only
  rw [if_neg hne, ht]
  dsimp only
  rw [Bool.and_true, if_pos (decide_eq_true hlen), Function.update_of_ne hne.symm,
    Function.update_self,
    Function.update_self]
  exact ⟨rfl, rfl⟩

/-- the start of an initiator that has a ticket for its gateway -/
theorem initiatorStart_presents {key nonce : Bytes} {t : StoredTicket}
    (hres : conf.sessionResumption = true)
    (hdeclined : c.resumeDeclined = false) (hkey : storeKey c.remote.addr = some key)
    (ht : c.store key = some t) (husable : t.usable io.now = true) (hsend : io.sendOk = true)
    (hnonce : io.nonce = some nonce) :
    Client.initiatorStart conf c io
      = { c with
        nI := some nonce, phase := .resumeSent
        sent := c.sent ++ [.resume c.remote nonce (t.ticketLt.drop 4)] } := by
  have hav : Client.resumeAvailable conf c io = (some (key, t), c.store) := by
    unfold Client.resumeAvailable
    rw [hres, hdeclined, if_neg (by decide), hkey]
    dsimp only
    rw [ht]
    dsimp only
    rw [if_pos husable]
  unfold Client.initiatorStart
  rw [hav]
  show Client.resumeSend c io key t = _
  unfold Client.resumeSend
  rw [hnonce]
  dsimp only
  rw [if_pos hsend]

/-- the redirect that the client took -/
def Client.armedWith (c : Client) (spi : Bytes) (g : GwIdent) (ni : Bytes) : Client :=
  { c with
    rCk := spi, redirectGw := some g, redirectNi := some ni, redirectRx := true
    accepted := c.accepted ++ [(g, ni)] }

/-- the client that goes to the gateway of the redirect -/
def Client.movedTo (conf : ClientConf) (c : Client) (io : ClientIo) (source sibling : Sockaddr)
    (rfrom : GwIdent) : Client :=
  Client.retarget
    { c with
      redirectRx := false
      redirects := (c.redirects.accept conf.redirectMax conf.redirectPeriod io.now).2
      admitted := io.now :: c.admitted } io source sibling rfrom

theorem follow_eq {source sibling : Sockaddr} {g rfrom : GwIdent} (hgw : c.redirectGw = some g)
    (hsibling : gwSadup conf.destPort g = some sibling) (hfrom : identOf source.addr = some rfrom)
    (hpass : (c.redirects.accept conf.redirectMax conf.redirectPeriod io.now).1 = true) :
    Client.follow conf c io source
      = (true, Client.initiatorStart conf (Client.movedTo conf c io source sibling rfrom) io) := by
  unfold Client.follow Client.movedTo
  simp only [hpass, hfrom, hgw, hsibling, Option.bind_some, Bool.not_true, Bool.false_eq_true, if_false]

theorem recvRedirect_eq {g : GwIdent} {ni spi : Bytes} (haccept : conf.acceptRedirect = true)
    (hni : c.nI = some ni) (hfits : g.Fits) :
    Client.recvRedirect conf { c with rCk := spi } (some (g.encode ++ ni))
      = (true, c.armedWith spi g ni) := by
  unfold Client.recvRedirect
  rw [haccept, if_neg (by decide), Option.bind_some, parse_encode hfits ni]
  dsimp only
  rw [if_pos hni]
  rfl

/-- a redirect with our nonce, that is not one too many -/
theorem client_redirected (conf : ClientConf) (c : Client) (io : ClientIo) (spi ni : Bytes)
    (rest : ReplyEnd)
    {source sibling : Sockaddr} {g rfrom : GwIdent} {nonce key key' : Bytes} {t : StoredTicket}
    (haccept : conf.acceptRedirect = true)
    (hres : conf.sessionResumption = true) (hphase : c.phase = .initSent) (hni : c.nI = some ni)
    (hfits : g.Fits) (hgw : gwSadup conf.destPort g = some sibling)
    (hfrom : identOf source.addr = some rfrom)
    (hpass : (c.redirects.accept conf.redirectMax conf.redirectPeriod io.now).1 = true)
    (hkey : storeKey source.addr = some key) (hkey' : storeKey sibling.addr = some key')
    (hne : key ≠ key') (ht : c.store key = some t) (husable : t.usable io.now = true)
    (hsave : io.saveOk = true) (hsend : io.sendOk = true) (hnonce : io.nonce = some nonce) :
    let c' := c.step conf (.reply io source spi [.notify (.redirect (some (g.encode ++ ni)))] rest)
    c'.phase = .resumeSent ∧ c'.remote = sibling ∧ (∀ x ∈ c'.children, x = some sibling)
      ∧ c'.sent = c.sent ++ [.resume sibling nonce (t.ticketLt.drop 4)]
      ∧ c'.store key = none ∧ c'.store key' = some t := by
  intro c'
  have hlen : 4 < t.ticketLt.length := by
    unfold StoredTicket.usable at husable
    rw [Bool.and_eq_true, Bool.and_eq_true, decide_eq_true_iff] at husable
    exact husable.1.2
  have hstore : (Client.movedTo conf (c.armedWith spi g ni) io source sibling rfrom).store
      = storeMigrate c.store source.addr sibling.addr true := by
    rw [← hsave]
    rfl
  obtain ⟨hmoved, hgone⟩ := storeMigrate_moves hkey hkey' hne ht hlen
  rw [← hstore] at hmoved hgone
  have hstep : c' = Client.initiatorStart conf
      (Client.movedTo conf (c.armedWith spi g ni) io source sibling rfrom) io := by
    show c.step conf _ = _
    unfold Client.step
    dsimp only
    rw [if_pos hphase]
    unfold Client.initRecv
    rw [Client.walk, Client.recvNotify, recvRedirect_eq haccept hni hfits, if_pos rfl, Client.walk]
    dsimp only
    have hrx : (c.armedWith spi g ni).redirectRx = true := rfl
    rw [if_pos hrx, follow_eq (c := c.armedWith spi g ni) rfl hgw hfrom hpass, if_pos rfl]
  rw [hstep, initiatorStart_presents hres rfl hkey' hmoved husable hsend hnonce]
  refine ⟨rfl, rfl, fun x hx => ?_, rfl, hgone, hmoved⟩
  obtain ⟨y, -, rfl⟩ := List.mem_map.mp hx
  rfl

end

/-! ## the three messages -/

/-- after any commands of the operator, a client whose ticket is refused by a gateway on which it is
drained generates a key, asks the gateway again, takes the redirect that comes back with its nonce, and
presents the same ticket to the gateway that the operator named, with its children; the ticket is then
kept for that gateway only -/
theorem drained_client_moves (pton : InetPton) (redirectTo : Option Bytes) (commands : List DrainEvent)
    (conf : ClientConf) (c : Client) (self source sibling : Sockaddr) (gw key key' n n' spi : Bytes)
    (g rfrom : GwIdent) (t : StoredTicket) (dh : Bytes × Bytes) (rest : ReplyEnd)
    (io₁ io₂ io₃ : ClientIo)
    (hdrained : drainLookup (commands.foldl (DrainState.step pton redirectTo) .start).table self = some gw)
    (hlen : gw.length ≠ 0 ∧ gw.length ≤ 4096) (hclass : classify pton gw = some g)
    (hgw : gwSadup conf.destPort g = some sibling) (haccept : conf.acceptRedirect = true)
    (hres : conf.sessionResumption = true) (hphase : c.phase = .resumeSent)
    (hfrom : identOf source.addr = some rfrom)
    (hpass : (c.redirects.accept conf.redirectMax conf.redirectPeriod io₃.now).1 = true)
    (hkey : storeKey source.addr = some key) (hkey' : storeKey sibling.addr = some key')
    (hne : key ≠ key')
    (ht : c.store key = some t) (husable : t.usable io₃.now = true) (hstart : io₁.startOk = true)
    (hsend : io₂.sendOk = true) (hn : io₂.nonce = some n) (hsave : io₃.saveOk = true)
    (hsend' : io₃.sendOk = true) (hn' : io₃.nonce = some n') :
    let answer := fun r => redirectDecision pton redirectTo
      (drainLookup (commands.foldl (DrainState.step pton redirectTo) .start).table r.remote) r
    let c₂ := [ClientEvent.resumeReply io₁ .nack, .generated io₂ (some dh)].foldl (Client.step conf) c
    answer (.resume self) = .ticketNack
      ∧ c₂.sent = c.sent ++ [.init c.remote n true (Client.fromData c)]
      ∧ ∃ data, answer (.init self true n) = .redirect (some data)
        ∧ let c' := c₂.step conf (.reply io₃ source spi [.notify (.redirect (some data))] rest)
          c'.phase = .resumeSent ∧ c'.remote = sibling ∧ (∀ x ∈ c'.children, x = some sibling)
            ∧ c'.sent = c₂.sent ++ [.resume sibling n' (t.ticketLt.drop 4)]
            ∧ c'.store key = none ∧ c'.store key' = some t := by
  intro answer c₂
  obtain ⟨hnack, hredirect⟩ := drained_answers pton redirectTo hlen hclass self n
  have hlookup : ∀ r : PeerRequest, r.remote = self →
      answer r = redirectDecision pton redirectTo (some gw) r := by
    intro r hr
    show redirectDecision pton redirectTo (drainLookup _ r.remote) r = _
    rw [hr, hdrained]
  have hrefused : c.step conf (.resumeReply io₁ .nack) = _ := client_refused hphase hstart
  obtain ⟨msg, hasks, hmsg⟩ := client_asks conf (c.step conf (.resumeReply io₁ .nack)) dh
    (by rw [hrefused]; exact Nat.succ_ne_zero _) hsend hn
  have hc₂ : c₂ = _ := hasks
  have hfits : g.Fits := classify_fits hlen.1 hclass
  have hmoves := client_redirected conf c₂ io₃ spi n rest haccept hres (by rw [hc₂]) (by rw [hc₂])
    hfits hgw hfrom (by rw [hc₂, hrefused]; exact hpass) hkey hkey' hne
      (by rw [hc₂, hrefused]; exact ht) husable hsave hsend' hn'
  refine ⟨(hlookup _ rfl).trans hnack, ?_, g.encode ++ n, (hlookup _ rfl).trans hredirect, hmoves⟩
  rw [hc₂, hmsg, hrefused, haccept]
  rfl

/-- the text 192.0.2.2 -/
def siblingText : Bytes := [49, 57, 50, 46, 48, 46, 50, 46, 50]

/-- `inet_pton` as far as this text -/
def siblingPton : InetPton where
  inet := fun b => if b = siblingText then some ⟨[192, 0, 2, 2], rfl⟩ else none
  inet6 := fun _ => none

def drainedAddr : Bytes := [198, 51, 100, 1]

theorem drainedAddr_length : drainedAddr.length = 4 := rfl

def drainedPeer : Sockaddr := ⟨.inet ⟨drainedAddr, drainedAddr_length⟩, 0⟩

def someTicket : StoredTicket := ⟨[0, 0, 0, 9, 5, 5], 1000, 0⟩

/-- a client that presented its ticket to the gateway 192.0.2.1 -/
def ticketClient : Client :=
  .initiatorStart redirectConf
    (.fresh (gateway 1) [none] fun key => if key = [192, 0, 2, 1] then some someTicket else none)
    (smoothIo 100 6)

theorem drained_client_moves_once :
    ([ClientEvent.resumeReply (smoothIo 101 0) .nack, .generated (smoothIo 101 7) (some ([1], [2])),
      .reply (smoothIo 102 8) (gateway 1) (List.replicate 8 0)
        [.notify (.redirect (some [1, 4, 192, 0, 2, 2, 7]))] .drop].foldl (Client.step redirectConf)
          ticketClient).sent
      = [.resume (gateway 1) [6] [5, 5], .init (gateway 1) [7] true none,
        .resume (gateway 2) [8] [5, 5]] := by
  have hmoves := drained_client_moves siblingPton none [.set drainedPeer (some siblingText)] redirectConf
    ticketClient ⟨drainedPeer.addr, 500⟩ (gateway 1) (gateway 2) siblingText [192, 0, 2, 1] [192, 0, 2, 2]
    [7] [8] (List.replicate 8 0) ⟨1, [192, 0, 2, 2]⟩ ⟨1, [192, 0, 2, 1]⟩ someTicket ([1], [2]) .drop
    (smoothIo 101 0) (smoothIo 101 7) (smoothIo 102 8) (by decide +kernel) (by decide)
    (by decide +kernel)
    (by decide +kernel) rfl rfl (by decide +kernel) rfl (by decide +kernel) rfl rfl (by decide)
    (by decide +kernel) (by decide +kernel) rfl rfl rfl rfl rfl rfl
  obtain ⟨-, hsent, data, hdata, -, -, -, hlast, -⟩ := hmoves
  have hredirect : PeerAnswer.redirect (some [1, 4, 192, 0, 2, 2, 7]) = .redirect (some data) := by
    rw [← hdata]
    decide +kernel
  obtain rfl := Option.some.inj (PeerAnswer.redirect.inj hredirect)
  exact hlast.trans (by rw [hsent]; decide +kernel)

end Redirect
