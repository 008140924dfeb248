import Racoon2.Iked.Delivery

/-!
# When an unprotected datagram carries the QCD token of a live SA

`ikev2_qcd_respond` answers a message to an SA that was not found with the token of the SPIs in
its header (RFC 6290).  The token must not leave for an SA that is alive, since the peer deletes
the SA on it.  The lookup depends on the flags and the exchange type of the message, not only on
its SPIs, so it can miss an SA that exists.

* `route_qcd_iff`             the messages that are answered with a token;
* `ikev2Input_unprotected`    all that leaves outside any SA;
* `liveToken_unsent_iff`      the datagrams that do not draw the token of a live SA.
-/

set_option linter.unusedVariables false

namespace Ikev2
open Bytes

/-- `ikev2_input` answers this message as one to an SA it does not know -/
def answersUnknown (sas : List Sa) (packet : Bytes) : Bool :=
  (findSa sas packet).isNone
    && (!isCleartextExchange packet
      || (nextPayload packet != payloadSkf && checkPayloads packet true
        && checkNewRequest packet == .qcd))

/-! ## what leaves outside any SA -/

theorem routeNew_qcd_iff {w : World} {sas sas' : List Sa} {whole : Bool} {packet p : Bytes}
    {remote local_ : Endpoint} :
    routeNew w sas whole packet remote local_ = (sas', .qcd p) ↔
      (checkPayloads packet true = true ∧ checkNewRequest packet = .qcd) ∧ sas' = sas
        ∧ p = packet := by
  unfold routeNew
  cases hc : checkPayloads packet true with
  | false => simp
  | true =>
    cases hn : checkNewRequest packet with
    | drop => simp
    | qcd =>
      simp only [Bool.not_true, Bool.false_eq_true, if_false, Prod.mk.injEq, Route.qcd.injEq,
        true_and]
      constructor
      · rintro ⟨h1, h2⟩
        exact ⟨h1.symm, h2.symm⟩
      · rintro ⟨h1, h2⟩
        exact ⟨h1.symm, h2.symm⟩
    | start =>
      simp only [Bool.not_true, Bool.false_eq_true, if_false]
      cases w.accept packet remote local_ <;> simp

/-- the messages that are answered as messages to an unknown SA -/
theorem route_qcd_iff {w : World} {env : Env} {sas sas' : List Sa} {packet p : Bytes}
    {remote local_ : Endpoint} (hfind : findSa sas packet = none) :
    inputRoute w env sas packet remote local_ = (sas', .qcd p) ↔
      answersUnknown sas packet = true ∧ sas' = sas ∧ p = packet := by
  unfold inputRoute answersUnknown
  rw [hfind]
  simp only [Option.isNone_none, Bool.true_and]
  cases he : isCleartextExchange packet with
  | false =>
    simp only [Bool.not_false, if_true, Bool.true_or, true_and, Prod.mk.injEq, Route.qcd.injEq]
    constructor
    · rintro ⟨h1, h2⟩
      exact ⟨h1.symm, h2.symm⟩
    · rintro ⟨h1, h2⟩
      exact ⟨h1.symm, h2.symm⟩
  | true =>
    by_cases hs : nextPayload packet = payloadSkf
    · simp [hs]
    · simp only [Bool.not_true, Bool.false_eq_true, if_false, hs, Bool.false_or]
      rw [routeNew_qcd_iff]
      simp [hs]

theorem ikev2Input_unprotected (w : World) (env : Env) (h : Handlers) (sas : List Sa)
    (d : Datagram) (remote local_ : Endpoint) :
    (ikev2Input w env h sas d.octets remote local_).unprotected
      = if answersUnknown sas d.octets then qcdRespond w env d.octets remote else [] := by
  cases hfind : findSa sas d.octets with
  | some k =>
    obtain ⟨sa, hk, _⟩ := findSa_some hfind
    rw [ikev2Input_found hfind hk]
    simp [answersUnknown, hfind]
  | none =>
    have hr : ∀ sas' p, inputRoute w env sas d.octets remote local_ = (sas', .qcd p) ↔ _ :=
      fun sas' p => route_qcd_iff hfind
    unfold ikev2Input
    cases hroute : inputRoute w env sas d.octets remote local_ with
    | mk sas' r =>
      cases ha : answersUnknown sas d.octets with
      | true =>
        have hq := (hr sas d.octets).mpr ⟨ha, rfl, rfl⟩
        rw [hroute] at hq
        obtain ⟨rfl, rfl⟩ := Prod.mk.inj hq
        rfl
      | false =>
        cases r with
        | qcd p =>
          have hq := (hr sas' p).mp hroute
          rw [ha] at hq
          exact absurd hq.1 (by simp)
        | ignore => rfl
        | replay k sa => rfl
        | found k sa whole p => rfl

/-! ## the token in the reply -/

/-- the data of the QCD_TOKEN notification, behind the header and INVALID_IKE_SPI -/
def tokenField (data : Bytes) : Bytes := data.drop 44

/-- some unprotected datagram carries the token of these SPIs -/
def sendsToken (w : World) (sent : List Unprotected) (spiI spiR : Bytes) : Prop :=
  ∃ token, qcdToken w spiI spiR = some token ∧ ∃ m ∈ sent, tokenField m.data = token

theorem qcdReply_tokenField (d : Datagram) (token : Bytes) :
    tokenField (qcdReply d.octets token) = token := by
  have hd := d.hasHeader
  have hh : headerSize = 28 := rfl
  have hi : (initiatorSpi d.octets).length = 8 := slice_length _ _ _ (by omega)
  have hr : (responderSpi d.octets).length = 8 := slice_length _ _ _ (by omega)
  have hm : (slice d.octets 20 4).length = 4 := slice_length _ _ _ (by omega)
  unfold tokenField qcdReply notifyPayload
  simp only [← List.append_assoc]
  exact List.drop_left' (by simp [hi, hr, hm, enc16, enc32])

theorem qcdRespond_sendsToken_iff (w : World) (env : Env) (d : Datagram) (remote : Endpoint)
    (spiI spiR : Bytes) :
    sendsToken w (qcdRespond w env d.octets remote) spiI spiR ↔
      env.ratelimit = true ∧ (qcdToken w spiI spiR).isSome = true
        ∧ qcdToken w (initiatorSpi d.octets) (responderSpi d.octets) = qcdToken w spiI spiR := by
  unfold sendsToken qcdRespond
  cases env.ratelimit with
  | false => simp
  | true =>
    cases hq : qcdToken w (initiatorSpi d.octets) (responderSpi d.octets) with
    | none =>
      cases qcdToken w spiI spiR <;> simp
    | some token =>
      cases ht : qcdToken w spiI spiR with
      | none => simp
      | some t =>
        simp only [Bool.not_true, Bool.false_eq_true, if_false, List.mem_singleton,
          exists_eq_left, Option.some.injEq, exists_eq_left', qcdReply_tokenField,
          Option.isSome_some, true_and]

/-- No live SA loses its token to a datagram, unless the lookup misses the SA, the rate limit
lets the reply out, and the SPIs in the header have the token of the SA. -/
theorem liveToken_unsent_iff (w : World) (env : Env) (h : Handlers) (sas : List Sa) (d : Datagram)
    (remote local_ : Endpoint) :
    (∀ sa ∈ sas, ¬ sendsToken w (ikev2Input w env h sas d.octets remote local_).unprotected
        sa.spiI sa.spiR) ↔
      ¬ (answersUnknown sas d.octets = true ∧ env.ratelimit = true
        ∧ ∃ sa ∈ sas, (qcdToken w sa.spiI sa.spiR).isSome = true
          ∧ qcdToken w (initiatorSpi d.octets) (responderSpi d.octets)
            = qcdToken w sa.spiI sa.spiR) := by
  rw [ikev2Input_unprotected]
  cases ha : answersUnknown sas d.octets with
  | false => simp [sendsToken]
  | true =>
    simp only [if_true, true_and]
    constructor
    · rintro hall ⟨hr, sa, hsa, hs, ht⟩
      exact hall sa hsa ((qcdRespond_sendsToken_iff w env d remote _ _).mpr ⟨hr, hs, ht⟩)
    · intro hno sa hsa hsend
      obtain ⟨hr, hs, ht⟩ := (qcdRespond_sendsToken_iff w env d remote _ _).mp hsend
      exact hno ⟨hr, sa, hsa, hs, ht⟩

/-- an INFORMATIONAL request to `liveSa` with the INITIATOR flag clear -/
def flagClearProbe : Datagram where
  octets := [1, 2, 3, 4, 5, 6, 7, 8, 9, 9, 9, 9, 9, 9, 9, 9, 46, 0x20, 37, 0, 0, 0, 0, 2,
    0, 0, 0, 28]
  hasHeader := by decide

def liveSa : Sa :=
  { Sa.allocate false [1, 2, 3, 4, 5, 6, 7, 8] [9, 9, 9, 9, 9, 9, 9, 9] (.v4 192 0 2 1 500)
      (.v4 192 0 2 2 500) with state := .established }

/-- whatever the secret and the MAC, the token of `liveSa` leaves for a source of its own choice -/
theorem liveToken_sent :
    ∃ (env : Env) (sas : List Sa) (d : Datagram) (remote local_ : Endpoint),
      liveSa ∈ sas ∧ ∀ (w : World) (h : Handlers),
        (qcdToken w liveSa.spiI liveSa.spiR).isSome = true →
          sendsToken w (ikev2Input w env h sas d.octets remote local_).unprotected
            liveSa.spiI liveSa.spiR := by
  refine ⟨.calm 100, [liveSa], flagClearProbe, .v4 203 0 113 9 500, .v4 192 0 2 1 500,
    List.mem_singleton.mpr rfl, ?_⟩
  intro w h ht
  have ha : answersUnknown [liveSa] flagClearProbe.octets = true := by decide
  have hi : initiatorSpi flagClearProbe.octets = liveSa.spiI := by decide
  have hr : responderSpi flagClearProbe.octets = liveSa.spiR := by decide
  rw [ikev2Input_unprotected, if_pos ha, qcdRespond_sendsToken_iff, hi, hr]
  exact ⟨rfl, ht, rfl⟩

end Ikev2
