import Racoon2.Iked.Message
import Racoon2.Iked.Payload

/-!
# Cookies

`ikev2_cookie.c`: the cookie of the responder, the first message of the initiator that takes it up,
and the check of that message.

* `FirstMessage`               a first message, without a cookie;
* `retransmitAddCookie`        the message with the cookie of a notify, in the buffer that it is in;
* `produced_eq`                what is sent for any sequence of cookies;
* `checkRequestCookie`         the check of the responder;
* `cookie_message_correct`     one cookie, the latest, and it is accepted.
-/

set_option linter.unusedVariables false

namespace Ikev2
open Bytes

/-- `IKEV2_COOKIE` -/
def notifyCookie : Nat := 16390

/-- `sizeof(struct ikev2payl_notify)` -/
def notifySize : Nat := 8

/-- the first payload is a notify of the type COOKIE -/
def hasCookie (packet : Bytes) : Bool :=
  nextPayload packet == payloadNotify && be16 packet (headerSize + 6) == notifyCookie

/-! ## the initiator -/

/-- `rc_vrealloc`; what is new is zero -/
def rcVrealloc (b : Bytes) (size : Nat) : Bytes := b.take size ++ List.replicate (size - b.length) 0

/-- the old cookie is removed; `false` if the message is too short for it -/
def removeOldCookie (packet : Bytes) : Bytes × Bool :=
  if hasCookie packet then
    let n := payloadLength (firstPayload packet)
    let msgLen := headerLength packet
    let packet := put packet 16 [payloadNext (firstPayload packet)]
    if msgLen < headerSize + n then (packet, false)
    else
      let packet := put packet headerSize (slice packet (headerSize + n) (msgLen - headerSize - n))
      (put packet 24 (enc32 (msgLen - n)), true)
  else (packet, true)

/-- the notify is put before the first payload -/
def addNotify (packet notify : Bytes) : Bytes :=
  let packetLen := headerLength packet
  let n := payloadLength notify
  let packet := rcVrealloc packet (packetLen + n)
  let packet := put packet (headerSize + n) (slice packet headerSize (packetLen - headerSize))
  let packet := put packet headerSize (notify.take n)
  let packet := put packet headerSize [nextPayload packet]
  let packet := put packet 16 [payloadNotify]
  put packet 24 (enc32 packet.length)

/-- `ikev2_retransmit_add_cookie`: `my_first_message` behind it, and what is retransmitted -/
def retransmitAddCookie (realloc dup : Bool) (packet notify : Bytes) :
    Option Bytes × Option Bytes :=
  if (removeOldCookie packet).2 = false then (some (removeOldCookie packet).1, none)
  else if realloc = false then (none, none)
  else
    let packet := addNotify (removeOldCookie packet).1 notify
    (some packet, if dup then some packet else none)

/-- a notify that `init_ike_sa_init_recv_notify` hands over -/
structure CookieNotify where
  octets : Bytes
  octets_length : octets.length = payloadLength octets
  size : notifySize ≤ octets.length
  spiSize : byteAt octets 5 = 0
  type : be16 octets 6 = notifyCookie

/-- a COOKIE that is received, and whether there is memory for it and for the copy to send -/
structure CookieReceived where
  notify : CookieNotify
  realloc : Bool
  dup : Bool

/-- what is sent for each of the cookies, from `my_first_message` on.  Where `rc_vrealloc` fails the run
ends: `my_first_message` is NULL then, and the next cookie goes through it -/
def produced : Bytes → List CookieReceived → List (Option Bytes)
  | _, [] => []
  | packet, e :: es =>
    let out := retransmitAddCookie e.realloc e.dup packet e.notify.octets
    out.2 :: match out.1 with
      | none => []
      | some packet => produced packet es

/-! ## the responder -/

section
variable (hmacsha1 : Bytes → Bytes → Octets 20)

/-- `ikev2_cookie`; the remote address is given by its octets -/
def cookie (mem : Bool) (cookieSecret : Option Bytes) (remote spii : Bytes) : Option (Octets 20) :=
  match cookieSecret with
  | none => none
  | some secret => if !mem then none else some (hmacsha1 secret (remote ++ spii))

/-- `ikev2_check_request_cookie` gives 0, for a packet that has a cookie -/
def checkRequestCookie (mem : Bool) (cookieSecret : Option Bytes) (packet remote : Bytes) : Bool :=
  if byteAt packet (headerSize + 5) ≠ 0 then false
  else
    match cookie hmacsha1 mem cookieSecret remote (initiatorSpi packet) with
    | none => false
    | some c =>
      if payloadLength (firstPayload packet) ≠ c.1.length + notifySize then false
      else slice packet (headerSize + notifySize) c.1.length == c.1

end

/-- the notify of `ikev2_respond_with_cookie` -/
def respondWithCookie (c : Octets 20) : Bytes :=
  [noNextPayload, 0] ++ enc16 (notifySize + 20) ++ [0, 0] ++ enc16 notifyCookie ++ c.1

/-! ## buffers -/

theorem rcVrealloc_length (b : Bytes) (size : Nat) : (rcVrealloc b size).length = size := by
  unfold rcVrealloc
  rw [List.length_append, List.length_take, List.length_replicate]
  omega

theorem rcVrealloc_message (spis : Octets 16) (next : UInt8) (mid : Octets 7) (length : Nat)
    (body : Bytes) (size : Nat) : rcVrealloc (message spis next mid length body) (headerSize + size) =
      message spis next mid length (rcVrealloc body size) := by
  unfold rcVrealloc
  rw [message_length, Nat.add_sub_add_left, message_eq_header, message_eq_header]
  have hlen := header_length spis next mid length
  generalize spis.1 ++ [next] ++ mid.1 ++ enc32 length = header at hlen
  rw [← hlen, List.take_length_add_append, List.append_assoc]

/-! ## the first message, with a cookie or without one -/

/-- an IKE_SA_INIT request that does not begin with a cookie; its length has room for one -/
structure FirstMessage where
  spis : Octets 16
  next : UInt8
  mid : Octets 7
  payloads : Bytes
  noCookie : next = payloadNotify → be16 payloads 6 ≠ notifyCookie
  fits : headerSize + payloads.length + 65536 ≤ 2 ^ 32

/-- the message as it was built -/
def FirstMessage.octets (m : FirstMessage) : Bytes :=
  message m.spis m.next m.mid (headerSize + m.payloads.length) m.payloads

/-- the notify before the payloads, which it is chained to -/
def FirstMessage.withCookie (m : FirstMessage) (n : CookieNotify) : Bytes :=
  message m.spis payloadNotify m.mid (headerSize + n.octets.length + m.payloads.length)
    ([m.next] ++ n.octets.drop 1 ++ m.payloads)

/-- what is sent, as it should be, up to a cookie that there is no memory for -/
def expected (m : FirstMessage) : List CookieReceived → List (Option Bytes)
  | [] => []
  | e :: es =>
    if e.realloc then (if e.dup then some (m.withCookie e.notify) else none) :: expected m es
    else [none]

section
variable (m : FirstMessage) (n : CookieNotify)

theorem CookieNotify.length_lt : n.octets.length < 65536 := by
  rw [n.octets_length]
  exact be16_lt _ _

/-- the notify with another next payload -/
theorem CookieNotify.chained_length : ([m.next] ++ n.octets.drop 1).length = n.octets.length := by
  have h := n.size
  unfold notifySize at h
  rw [List.length_append, List.length_drop]
  show 1 + _ = _
  omega

/-- all fields of the notify but the next payload -/
theorem CookieNotify.byteAt_chained {i : Nat} (hi : i + 1 < n.octets.length) :
    byteAt ([m.next] ++ n.octets.drop 1 ++ m.payloads) (i + 1) = byteAt n.octets (i + 1) := by
  rw [byteAt_append_left _ _ _ (by rw [n.chained_length m]; exact hi), Nat.add_comm i 1]
  exact (byteAt_append_right [m.next] (n.octets.drop 1) i).trans (byteAt_drop _ _ _)

theorem CookieNotify.be16_chained {i : Nat} (hi : i + 2 < n.octets.length) :
    be16 ([m.next] ++ n.octets.drop 1 ++ m.payloads) (i + 1) = be16 n.octets (i + 1) := by
  unfold be16
  rw [n.byteAt_chained m (by omega), n.byteAt_chained m (by omega)]

theorem CookieNotify.payloadLength_chained :
    payloadLength ([m.next] ++ n.octets.drop 1 ++ m.payloads) = n.octets.length := by
  have hsize := n.size
  unfold notifySize at hsize
  exact (n.be16_chained m (i := 1) (by omega)).trans n.octets_length.symm

theorem hasCookie_octets : hasCookie m.octets = false := by
  unfold hasCookie FirstMessage.octets
  rw [nextPayload_message, be16_body, Bool.and_eq_false_iff]
  by_cases h : m.next = payloadNotify
  · exact .inr (beq_eq_false_iff_ne.mpr (m.noCookie h))
  · exact .inl (beq_eq_false_iff_ne.mpr h)

theorem hasCookie_withCookie : hasCookie (m.withCookie n) = true := by
  have hsize := n.size
  unfold notifySize at hsize
  unfold hasCookie FirstMessage.withCookie
  rw [nextPayload_message, be16_body, n.be16_chained m (i := 5) (by omega), n.type]
  rfl

theorem removeOldCookie_octets : removeOldCookie m.octets = (m.octets, true) := by
  unfold removeOldCookie
  rw [hasCookie_octets]
  rfl

/-- behind the payloads stay octets of the old message -/
theorem removeOldCookie_withCookie : ∃ junk, removeOldCookie (m.withCookie n) =
    (message m.spis m.next m.mid (headerSize + m.payloads.length) (m.payloads ++ junk), true) := by
  have hfits := m.fits
  have hlt := n.length_lt
  have hlen : headerLength (m.withCookie n) = headerSize + n.octets.length + m.payloads.length :=
    headerLength_message _ _ _ _ _ (by omega)
  have hfirst : firstPayload (m.withCookie n) = [m.next] ++ n.octets.drop 1 ++ m.payloads :=
    firstPayload_message _ _ _ _ _
  have hpayloads : slice ([m.next] ++ n.octets.drop 1 ++ m.payloads) n.octets.length
      m.payloads.length = m.payloads := by
    have h := slice_append_right ([m.next] ++ n.octets.drop 1) m.payloads 0 m.payloads.length
    rw [n.chained_length m] at h
    exact h.trans List.take_length
  unfold removeOldCookie
  rw [hasCookie_withCookie, if_pos rfl, hfirst, n.payloadLength_chained m, hlen]
  dsimp only
  rw [if_neg (by omega), show headerSize + n.octets.length + m.payloads.length - headerSize
      - n.octets.length = m.payloads.length by omega, show headerSize + n.octets.length
      + m.payloads.length - n.octets.length = headerSize + m.payloads.length by omega]
  unfold FirstMessage.withCookie
  rw [put_next, slice_body, hpayloads]
  refine ⟨([m.next] ++ n.octets.drop 1 ++ m.payloads).drop (0 + m.payloads.length), ?_⟩
  rw [← Nat.add_zero headerSize, put_body, put_headerLength]
  rfl

/-- the payloads move up, and the notify takes their place -/
theorem addNotify_body {b : Bytes} (hlen : b.length = m.payloads.length + n.octets.length) :
    put (put (put b n.octets.length m.payloads) 0 n.octets) 0 [m.next] =
      [m.next] ++ n.octets.drop 1 ++ m.payloads := by
  have hmoved : put b n.octets.length m.payloads = b.take n.octets.length ++ m.payloads := by
    unfold put
    rw [List.drop_of_length_le (by omega), List.append_nil]
  have hcopied : put (b.take n.octets.length ++ m.payloads) 0 n.octets =
      n.octets ++ m.payloads := by
    unfold put
    rw [Nat.zero_add, List.drop_left' (List.length_take_of_le (by omega))]
    rfl
  rw [hmoved, hcopied]
  show [m.next] ++ (n.octets ++ m.payloads).drop 1 = _
  rw [List.drop_append_of_le_length (Nat.le_trans (by decide) n.size), List.append_assoc]

theorem addNotify_message (junk : Bytes) : addNotify (message m.spis m.next m.mid
      (headerSize + m.payloads.length) (m.payloads ++ junk)) n.octets = m.withCookie n := by
  have hfits := m.fits
  have hlen : headerLength (message m.spis m.next m.mid (headerSize + m.payloads.length)
      (m.payloads ++ junk)) = headerSize + m.payloads.length :=
    headerLength_message _ _ _ _ _ (by omega)
  have hgrown := rcVrealloc_length (m.payloads ++ junk) (m.payloads.length + n.octets.length)
  have hstart : slice (rcVrealloc (m.payloads ++ junk) (m.payloads.length + n.octets.length)) 0
      m.payloads.length = m.payloads := by
    unfold rcVrealloc
    rw [List.take_append, List.take_of_length_le (Nat.le_add_right _ _), List.append_assoc]
    exact slice_zero_append _ _ _ rfl
  unfold addNotify
  rw [hlen, ← n.octets_length]
  dsimp only
  rw [List.take_length, Nat.add_assoc headerSize, rcVrealloc_message, Nat.add_sub_cancel_left]
  generalize rcVrealloc (m.payloads ++ junk) (m.payloads.length + n.octets.length) = b at *
  have hslice := slice_body m.spis m.next m.mid (headerSize + m.payloads.length) b 0 m.payloads.length
  have hput : ∀ body v, put (message m.spis m.next m.mid (headerSize + m.payloads.length) body)
      headerSize v = message m.spis m.next m.mid (headerSize + m.payloads.length) (put body 0 v) :=
    fun body v => put_body _ _ _ _ body 0 v
  rw [Nat.add_zero, hstart] at hslice
  rw [hslice, put_body, hput, nextPayload_message, hput, addNotify_body m n hgrown, put_next,
    message_length, put_headerLength, List.length_append, n.chained_length m, ← Nat.add_assoc]
  rfl

/-- one cookie, whatever the message was before -/
theorem retransmitAddCookie_eq {packet : Bytes}
    (h : packet = m.octets ∨ ∃ old, packet = m.withCookie old) (realloc dup : Bool) :
    retransmitAddCookie realloc dup packet n.octets =
      if realloc then (some (m.withCookie n), if dup then some (m.withCookie n) else none)
      else (none, none) := by
  have hremoved : ∃ junk, removeOldCookie packet =
      (message m.spis m.next m.mid (headerSize + m.payloads.length) (m.payloads ++ junk), true) := by
    rcases h with rfl | ⟨old, rfl⟩
    · refine ⟨[], ?_⟩
      rw [removeOldCookie_octets, List.append_nil]
      rfl
    · exact removeOldCookie_withCookie m old
  obtain ⟨junk, hjunk⟩ := hremoved
  unfold retransmitAddCookie
  rw [hjunk, addNotify_message]
  cases realloc <;> rfl

/-- the messages for any sequence of cookies -/
theorem produced_eq {packet : Bytes} (h : packet = m.octets ∨ ∃ old, packet = m.withCookie old)
    (es : List CookieReceived) : produced packet es = expected m es := by
  induction es generalizing packet with
  | nil => rfl
  | cons e es ih =>
    rw [produced, retransmitAddCookie_eq m e.notify h, expected]
    cases e.realloc with
    | false => rfl
    | true => exact congrArg (_ :: ·) (ih (.inr ⟨e.notify, rfl⟩))

end

/-! ## the check -/

section
variable (hmacsha1 : Bytes → Bytes → Octets 20)

/-- the notify that carries a cookie -/
def CookieNotify.ofCookie (c : Octets 20) : CookieNotify where
  octets := respondWithCookie c
  octets_length := by
    have hfield : payloadLength (respondWithCookie c) = notifySize + 20 := octets_value (by decide)
    rw [hfield]
    unfold respondWithCookie
    rw [List.length_append, c.2]
    rfl
  size := by
    unfold respondWithCookie
    rw [List.length_append, c.2]
    decide
  spiSize := rfl
  type := octets_value (by decide)

theorem initiatorSpi_withCookie (m : FirstMessage) (n : CookieNotify) :
    initiatorSpi (m.withCookie n) = m.spis.1.take 8 := by
  unfold initiatorSpi FirstMessage.withCookie message
  rw [slice_append_left _ _ _ _ (by rw [m.spis.2]; decide)]
  rfl

/-- a cookie of the same secret, SPI and address is accepted -/
theorem checkRequestCookie_withCookie (m : FirstMessage) (secret remote : Bytes) :
    checkRequestCookie hmacsha1 true (some secret)
      (m.withCookie (.ofCookie (hmacsha1 secret (remote ++ m.spis.1.take 8)))) remote = true := by
  generalize hc : hmacsha1 secret (remote ++ m.spis.1.take 8) = c
  have hlen : (respondWithCookie c).length = notifySize + 20 := by
    unfold respondWithCookie
    rw [List.length_append, c.2]
    rfl
  have hspi : byteAt (m.withCookie (.ofCookie c)) (headerSize + 5) = 0 := by
    unfold FirstMessage.withCookie
    rw [byteAt_body]
    exact (CookieNotify.ofCookie c).byteAt_chained m (i := 4) (hlen ▸ by decide)
  have hfirst : payloadLength (firstPayload (m.withCookie (.ofCookie c))) = c.1.length + notifySize := by
    unfold FirstMessage.withCookie
    rw [firstPayload_message, CookieNotify.payloadLength_chained, c.2]
    exact hlen
  have hvalue : slice (m.withCookie (.ofCookie c)) (headerSize + notifySize) c.1.length = c.1 := by
    unfold FirstMessage.withCookie
    rw [slice_body]
    show slice (c.1 ++ m.payloads) 0 c.1.length = c.1
    exact slice_zero_append _ _ _ rfl
  unfold checkRequestCookie cookie
  rw [if_neg (not_not_intro hspi), initiatorSpi_withCookie]
  dsimp only
  rw [if_neg (by decide), hc]
  dsimp only
  rw [if_neg (not_not_intro hfirst), hvalue]
  exact beq_self_eq_true c.1

end

/-- for any sequence of cookies the first message is sent with the latest one, and the responder
accepts its own -/
theorem cookie_message_correct (m : FirstMessage) :
    (∀ es, produced m.octets es = expected m es) ∧
    ∀ (hmacsha1 : Bytes → Bytes → Octets 20) (secret remote : Bytes) (c : Octets 20),
      cookie hmacsha1 true (some secret) remote (initiatorSpi m.octets) = some c →
      hasCookie (m.withCookie (.ofCookie c)) = true
        ∧ checkRequestCookie hmacsha1 true (some secret) (m.withCookie (.ofCookie c)) remote = true := by
  refine ⟨fun es => produced_eq m (.inl rfl) es, fun hmacsha1 secret remote c hc => ?_⟩
  have hspi : initiatorSpi m.octets = m.spis.1.take 8 := by
    unfold initiatorSpi FirstMessage.octets message
    rw [slice_append_left _ _ _ _ (by rw [m.spis.2]; decide)]
    rfl
  have hcookie : hmacsha1 secret (remote ++ m.spis.1.take 8) = c := by
    rw [hspi] at hc
    exact Option.some.inj hc
  rw [← hcookie]
  exact ⟨hasCookie_withCookie _ _, checkRequestCookie_withCookie hmacsha1 m secret remote⟩

/-- a request with an empty SA payload -/
def saRequest : FirstMessage where
  spis := ⟨List.replicate 16 1, rfl⟩
  next := payloadSa
  mid := ⟨[32, 34, 8, 0, 0, 0, 0], rfl⟩
  payloads := [0, 0, 0, 4]
  noCookie := by decide
  fits := by decide

/-- a digest that is made of the secret alone -/
def secretDigest (secret b : Bytes) : Octets 20 := ⟨List.replicate 20 (byteAt secret 0), List.length_replicate⟩

theorem cookie_message_correct_sa :
    produced saRequest.octets [⟨.ofCookie (secretDigest [7] []), true, true⟩] =
      [some (saRequest.withCookie (.ofCookie (secretDigest [7] [])))] ∧
    checkRequestCookie secretDigest true (some [7])
      (saRequest.withCookie (.ofCookie (secretDigest [7] []))) [2, 0] = true :=
  ⟨(cookie_message_correct saRequest).1 _,
    ((cookie_message_correct saRequest).2 secretDigest [7] [2, 0] _ (by decide)).2⟩

/-- behind `ikev2_cookie_refresh` the cookie of the secret before it is not accepted -/
theorem previous_secret_refused :
    cookie secretDigest true (some [7]) [2, 0] (initiatorSpi saRequest.octets) =
      some (secretDigest [7] []) ∧
    checkRequestCookie secretDigest true (some [8])
      (saRequest.withCookie (.ofCookie (secretDigest [7] []))) [2, 0] = false := by
  decide

end Ikev2
