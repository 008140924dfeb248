import Racoon2.Iked.Delivery

/-!
# Messages that come again

A protected message that an SA has processed to completion may be delivered again, any number of
times and from anywhere.  A request then has an id below the window and is answered from the cache
or dropped.  A response to the last request of ours is still inside the window and is dispatched
again; `disturbs` says when its handler, or the source-address following before it, acts.

* `decrypt_byteAt`           decryption keeps the fields of the header the handlers read;
* `dispatch_replayed`        the handlers, one case per state;
* `saInput_replayed`         one delivery (the step);
* `replayed_run_undisturbed` every run of deliveries.
-/

set_option linter.unusedVariables false

namespace Ikev2
open Bytes

/-! ## the header survives decryption -/

theorem encryptedOffset_ge (packet : Bytes) (n : Nat) :
    ∀ (type : UInt8) (off r : Nat), encryptedOffset packet n type off = some r → off ≤ r := by
  induction n with
  | zero =>
    intro type off r h
    exact absurd h (by simp [encryptedOffset])
  | succ n ih =>
    intro type off r h
    rw [encryptedOffset] at h
    split at h
    · exact absurd h (by simp)
    · split at h
      · rw [← Option.some.inj h]
      · have := ih _ _ _ h
        omega

theorem findEncrypted_ge {packet : Bytes} {off : Nat} (h : findEncrypted packet = some off) :
    headerSize ≤ off := encryptedOffset_ge packet _ _ _ _ h

/-- a payload with data has the two octets of its length -/
theorem payloadDataLength_pos {p : Bytes} (h : 0 < payloadDataLength p) : 2 < p.length := by
  by_contra hlen
  have h2 : byteAt p 2 = 0 := byteAt_of_length_le _ _ (by omega)
  have h3 : byteAt p 3 = 0 := byteAt_of_length_le _ _ (by omega)
  unfold payloadDataLength payloadLength be16 at h
  rw [h2, h3] at h
  exact absurd h (by decide)

theorem decrypt_byteAt {sa : Sa} {packet plain : Bytes} (h : decrypt sa packet = some plain)
    {i : Nat} (hi : i < 24) : byteAt plain i = byteAt packet i := by
  have hh : headerSize = 28 := rfl
  unfold decrypt at h
  split at h
  · rename_i e a key off he ha hkey hoff
    split at h
    · exact absurd h (by simp)
    · rename_i hlen
      split at h
      · exact absurd h (by simp)
      · split at h
        · exact absurd h (by simp)
        · rename_i inner hinner
          have hge := findEncrypted_ge hoff
          have hdata := payloadDataLength_pos (p := packet.drop off) (by omega)
          rw [List.length_drop] at hdata
          have htake : (packet.take (off + 4)).length = min (off + 4) packet.length :=
            List.length_take
          have hput : 24 ≤ (put (packet.take (off + 4)) (off + 2) (enc16 4)).length := by
            unfold put
            rw [List.length_append, List.length_append, List.length_take, htake]
            omega
          rw [← Option.some.inj h]
          unfold putLength
          rw [byteAt_put_left _ _ _ _ hi (by rw [List.length_append]; omega),
            byteAt_append_left _ _ _ (by omega),
            byteAt_put_left _ _ _ _ (by omega) (by omega),
            byteAt_take _ _ _ (by omega)]
  · exact absurd h (by simp)

/-- the part of the header that the handlers branch on -/
def sameHeader (a b : Bytes) : Prop :=
  exchangeType a = exchangeType b ∧ isResponse a = isResponse b ∧ messageId a = messageId b

theorem decrypt_sameHeader {sa : Sa} {packet plain : Bytes} (h : decrypt sa packet = some plain) :
    sameHeader plain packet := by
  refine ⟨decrypt_byteAt h (by omega), ?_, ?_⟩
  · unfold isResponse flags
    rw [decrypt_byteAt h (by omega)]
  · unfold messageId be32 be16
    rw [decrypt_byteAt h (by omega), decrypt_byteAt h (by omega), decrypt_byteAt h (by omega),
      decrypt_byteAt h (by omega)]

/-! ## completed messages -/

/-- the SA has processed this message to completion -/
def completed (sa : Sa) (packet : Bytes) : Prop :=
  if isResponse packet then messageId packet < sa.sendMessageId
  else messageId packet < sa.recvMessageId
    ∨ messageId packet = sa.recvMessageId ∧ sa.state = .dead

/-- a protected message that comes again -/
structure Replayed (sa : Sa) (packet : Bytes) : Prop where
  isSealed : nextPayload packet = payloadEncrypted ∨ nextPayload packet = payloadSkf
  isProtected : isCleartextExchange packet = false
  isCompleted : completed sa packet

/-- nothing changed but fragments, the clock of the last IKE_INTERMEDIATE replay and the addresses
of the cached response -/
def Undisturbed (sa sa' : Sa) : Prop :=
  sa' = { sa with
    fragChain := sa'.fragChain
    intermediateReplaySent := sa'.intermediateReplaySent
    responseInfo := { sa.responseInfo with
      src := sa'.responseInfo.src
      dest := sa'.responseInfo.dest } }

theorem Undisturbed.refl (sa : Sa) : Undisturbed sa sa := rfl

theorem Undisturbed.trans {a b c : Sa} (h1 : Undisturbed a b) (h2 : Undisturbed b c) :
    Undisturbed a c := by
  unfold Undisturbed at h1 h2 ⊢
  rw [h1] at h2
  exact h2

/-- only cached responses leave -/
def isResend : Effect → Prop
  | .resend _ => True
  | .replayIntermediate _ => True
  | _ => False

/-! ## what a replayed response can still do -/

/-- the branch of `ikev2_established_recv` for the exchange type acts on this response -/
def switchActs (sa : Sa) (packet : Bytes) : Bool :=
  if exchangeType packet = exchCreateChildSa then
    (findRequest sa (messageId packet)).isSome || (choosePendingChild sa).isSome
  else if exchangeType packet = exchInformational then
    (findRequest sa (messageId packet)).any (·.state == .requestSent)
      || (choosePendingChild sa).isSome
  else if exchangeType packet = exchIkeFollowupKe then followupMatches sa (messageId packet)
  else false

/-- the handler of the state acts on a protected response -/
def actsOnResponse (env : Env) (sa : Sa) (packet : Bytes) (remote : Endpoint) : Bool :=
  match sa.state with
  | .established =>
    mobikeEndpointChanged sa remote || tcpRebinds env sa remote || switchActs sa packet
  | .dying => switchActs sa packet
  | .dead => false
  | .iniIkeSaInitSent => false
  | .iniIkeSessionResumeSent => false
  | .resIkeSaInitSent => sa.multiAuthRound == 0 || exchangeType packet == exchIkeAuth
  | .iniIkeAuthSent => exchangeType packet == exchIkeAuth
  | .iniIkeIntermediateSent => intermediateAccepts sa packet != some false
  | .idling => true
  | .resIkeAuthRcvd => true
  | .iniIkeAuthRcvd => true
  | .resIkeAuthEap => true
  | .resIkeAuthEapFinal => true

/-- a response to the last request of ours, which the window still lets in -/
def disturbs (env : Env) (sa : Sa) (packet : Bytes) (remote : Endpoint) : Bool :=
  isResponse packet && messageId packet + 1 == sa.sendMessageId
    && actsOnResponse env sa packet remote

theorem actsOnResponse_congr {env : Env} {sa : Sa} {a b : Bytes} {remote : Endpoint}
    (h : sameHeader a b) : actsOnResponse env sa a remote = actsOnResponse env sa b remote := by
  obtain ⟨h1, h2, h3⟩ := h
  unfold actsOnResponse switchActs intermediateAccepts
  rw [h1, h2, h3]

section
variable {h : Handlers} {env : Env} {sa : Sa} {packet : Bytes} {remote local_ : Endpoint}

theorem wakeupPending_none (hc : choosePendingChild sa = none) :
    wakeupPending env sa = (sa, []) := by
  unfold wakeupPending
  rw [hc]

theorem establishedSwitch_replayed (hr : isResponse packet = true)
    (ha : switchActs sa packet = false) :
    establishedSwitch h env sa packet remote local_ = (sa, []) := by
  unfold switchActs at ha
  unfold establishedSwitch
  rw [hr]
  split
  · rename_i he
    rw [if_pos he, Bool.or_eq_false_iff] at ha
    have hreq : findRequest sa (messageId packet) = none := by simpa using ha.1
    unfold createchildInitiatorRecv
    rw [if_pos rfl, hreq]
    exact wakeupPending_none (by simpa using ha.2)
  · rename_i he
    rw [if_neg he] at ha
    split
    · rename_i hi
      rw [if_pos hi, Bool.or_eq_false_iff] at ha
      have hpend : choosePendingChild sa = none := by simpa using ha.2
      unfold informationalInitiatorRecv
      rw [if_pos rfl]
      cases hreq : findRequest sa (messageId packet) with
      | none => exact wakeupPending_none hpend
      | some c =>
        have hst : c.state ≠ .requestSent := by
          have := ha.1
          rw [hreq] at this
          simpa using this
        show (if c.state ≠ .requestSent then wakeupPending env sa else _) = (sa, [])
        rw [if_pos hst]
        exact wakeupPending_none hpend
    · rename_i hi
      rw [if_neg hi] at ha
      split
      · rename_i hf
        rw [if_pos hf] at ha
        unfold followupKeRecv
        rw [hr, if_pos rfl, ha]
        rfl
      · unfold unexpectedExchange
        rw [hr]
        rfl

theorem protected_isInitResponse (hc : isCleartextExchange packet = false) :
    isInitResponse packet exchIkeSaInit = false
      ∧ isInitResponse packet exchIkeSessionResume = false := by
  unfold isCleartextExchange at hc
  rw [Bool.or_eq_false_iff] at hc
  unfold isInitResponse
  rw [hc.1, hc.2]
  exact ⟨rfl, rfl⟩

/-- the handlers, one case per state -/
theorem dispatch_replayed (hc : isCleartextExchange packet = false)
    (hr : isResponse packet = true) (ha : actsOnResponse env sa packet remote = false) :
    dispatch h env sa packet remote local_ = (sa, []) := by
  obtain ⟨hinit, hresume⟩ := protected_isInitResponse hc
  unfold actsOnResponse at ha
  unfold dispatch
  cases hs : sa.state <;> rw [hs] at ha <;> simp only at ha ⊢
  case established =>
    simp only [Bool.or_eq_false_iff] at ha
    unfold establishedRecv
    rw [followSource_stays ha.1.1 fun _ => ha.1.2]
    exact establishedSwitch_replayed hr ha.2
  case dying =>
    have hm : mobikeEndpointChanged sa remote = false := by simp [mobikeEndpointChanged, hs]
    unfold establishedRecv
    rw [followSource_stays hm fun he => absurd (hs.symm.trans he) (by simp)]
    exact establishedSwitch_replayed hr ha
  case iniIkeSaInitSent => rw [hinit]; rfl
  case iniIkeSessionResumeSent => rw [hresume]; rfl
  case resIkeSaInitSent =>
    rw [Bool.or_eq_false_iff] at ha
    rw [if_pos ⟨by simpa using ha.1, by simpa using ha.2⟩]
  case iniIkeAuthSent => rw [if_pos (by simpa using ha)]
  case iniIkeIntermediateSent =>
    have hi : intermediateAccepts sa packet = some false := by simpa using ha
    rw [hi]
  all_goals exact absurd ha (by simp)

/-! ## one delivery -/

theorem cached_undisturbed :
    Undisturbed sa (retransmitForcedSa sa local_ remote)
      ∧ ∀ e ∈ retransmitForcedOut env sa local_ remote, isResend e := by
  constructor
  · unfold retransmitForcedSa
    split <;> rfl
  · intro e he
    unfold retransmitForcedOut at he
    split at he
    · rw [List.mem_singleton.mp he]
      exact trivial
    · exact absurd he (by simp)

/-- the window, for a completed message whose handler would get `next` -/
theorem window_replayed {next : Verdict} (hcomp : completed sa packet)
    (hnext : next = .drop ∨ ∃ p, next = .dispatch p ∧ sameHeader p packet)
    (hc : isCleartextExchange packet = false) (hx : disturbs env sa packet remote = false) :
    Undisturbed sa (perform h env sa packet remote local_ (classifyWindow sa packet true next)).1
      ∧ ∀ e ∈ (perform h env sa packet remote local_ (classifyWindow sa packet true next)).2,
        isResend e := by
  have hdrop : Undisturbed sa (perform h env sa packet remote local_ .drop).1
      ∧ ∀ e ∈ (perform h env sa packet remote local_ .drop).2, isResend e :=
    ⟨Undisturbed.refl sa, fun e he => absurd he (by simp [perform])⟩
  unfold classifyWindow
  split
  · exact cached_undisturbed
  · split
    · rename_i hord
      rcases hnext with rfl | ⟨p, rfl, hp⟩
      · exact hdrop
      -- the message is dispatched: a response of ours to the last request, or the SA is dead
      have hd : dispatch h env sa p remote local_ = (sa, []) := by
        unfold completed at hcomp
        cases hr : isResponse packet with
        | true =>
          rw [hr] at hord hcomp
          have hwin := checkMessageOrdering_response hord
          have hid : messageId packet + 1 = sa.sendMessageId := by
            have hlt : messageId packet < sa.sendMessageId := by simpa using hcomp
            omega
          unfold disturbs at hx
          rw [hr, hid] at hx
          simp only [beq_self_eq_true, Bool.true_and] at hx
          have hcp : isCleartextExchange p = false := by
            unfold isCleartextExchange at hc ⊢
            rw [hp.1]
            exact hc
          have hrp : isResponse p = true := hp.2.1.trans hr
          have hap : actsOnResponse env sa p remote = false := by
            rw [actsOnResponse_congr hp]
            exact hx
          exact dispatch_replayed hcp hrp hap
        | false =>
          rw [hr] at hord hcomp
          have hwin := checkMessageOrdering_request hord
          have hdead : sa.state = .dead := by
            rcases hcomp with hlt | ⟨_, hdead⟩
            · omega
            · exact hdead
          unfold dispatch
          rw [hdead]
      show Undisturbed sa (dispatch h env sa p remote local_).1
        ∧ ∀ e ∈ (dispatch h env sa p remote local_).2, isResend e
      rw [hd]
      exact ⟨Undisturbed.refl sa, fun e he => absurd he (by simp)⟩
    · split
      · rename_i hahead
        simp only [Bool.true_and, Bool.and_eq_true, Bool.not_eq_true', decide_eq_true_eq] at hahead
        unfold completed at hcomp
        rw [hahead.1] at hcomp
        rcases hcomp with hlt | ⟨heq, _⟩
        · omega
        · omega
      · exact hdrop

theorem classify_replayed {whole : Bool} (hseal : whole = true ∨
      nextPayload packet = payloadEncrypted ∨ nextPayload packet = payloadSkf)
    (hcomp : completed sa packet) (hc : isCleartextExchange packet = false)
    (hx : disturbs env sa packet remote = false) :
    Undisturbed sa (perform h env sa packet remote local_ (classify sa whole packet)).1
      ∧ ∀ e ∈ (perform h env sa packet remote local_ (classify sa whole packet)).2,
        isResend e := by
  have hdrop : Undisturbed sa (perform h env sa packet remote local_ .drop).1
      ∧ ∀ e ∈ (perform h env sa packet remote local_ .drop).2, isResend e :=
    ⟨Undisturbed.refl sa, fun e he => absurd he (by simp [perform])⟩
  unfold classify
  rw [hc]
  split
  · exact hdrop
  · cases whole with
    | true => exact window_replayed hcomp (.inr ⟨packet, rfl, rfl, rfl, rfl⟩) hc hx
    | false =>
      have hseal : nextPayload packet = payloadEncrypted ∨ nextPayload packet = payloadSkf := by
        rcases hseal with hw | hs
        · exact absurd hw (by simp)
        · exact hs
      have hnotify : ¬ (nextPayload packet = payloadNotify ∧ exchangeType packet = exchInformational
          ∧ isResponse packet = true ∧ qcdTakerRecv sa packet = true) := by
        rintro ⟨hn, _⟩
        rw [hn] at hseal
        exact absurd hseal (by decide)
      have hnext : classifyDecrypt sa packet = .drop
          ∨ ∃ p, classifyDecrypt sa packet = .dispatch p ∧ sameHeader p packet := by
        unfold classifyDecrypt
        cases hd : decrypt sa packet with
        | none => exact .inl rfl
        | some plain =>
          simp only
          split
          · exact .inr ⟨plain, rfl, decrypt_sameHeader hd⟩
          · exact .inl rfl
      show Undisturbed sa (perform h env sa packet remote local_ (classifyProtected sa packet)).1
        ∧ ∀ e ∈ (perform h env sa packet remote local_ (classifyProtected sa packet)).2, isResend e
      unfold classifyProtected
      rw [if_neg hnotify]
      split
      · exact hdrop
      · split
        · exact hdrop
        · split
          · exact hdrop
          · exact window_replayed hcomp hnext hc hx

end

theorem reassembled_sameHeader {packet : Bytes} (hlen : headerSize ≤ packet.length) (np : UInt8)
    (merged : Bytes) : sameHeader (reassembled packet np merged) packet :=
  ⟨reassembled_exchangeType packet hlen np merged, reassembled_isResponse packet hlen np merged,
    reassembled_messageId packet hlen np merged⟩

theorem completed_congr {sa : Sa} {a b : Bytes} (h : sameHeader a b) :
    completed sa a ↔ completed sa b := by
  unfold completed
  rw [h.2.1, h.2.2]

theorem disturbs_congr {env : Env} {sa : Sa} {a b : Bytes} {remote : Endpoint}
    (h : sameHeader a b) : disturbs env sa a remote = disturbs env sa b remote := by
  unfold disturbs
  rw [h.2.1, h.2.2, actsOnResponse_congr h]

/-- the step: one delivery of a completed message to its SA -/
theorem saInput_replayed (h : Handlers) (env : Env) (sa : Sa) (d : Datagram)
    (remote local_ : Endpoint) (hrep : Replayed sa d.octets)
    (hx : disturbs env sa d.octets remote = false) :
    Undisturbed sa (saInput h env sa d.octets remote local_).1
      ∧ ∀ e ∈ (saInput h env sa d.octets remote local_).2, isResend e := by
  unfold saInput
  split
  · unfold replayIntermediateResponse
    split
    · exact ⟨Undisturbed.refl sa, fun e he => absurd he (by simp)⟩
    · refine ⟨rfl, ?_⟩
      intro e he
      rw [List.mem_singleton.mp he]
      exact trivial
  · split
    · cases hfr : fragRecv env.now sa d.octets with
      | mk chain merged =>
        cases merged with
        | none => exact ⟨rfl, fun e he => absurd he (by simp)⟩
        | some m =>
          obtain ⟨np, merged, rfl⟩ := fragRecv_some hfr
          have hsame := reassembled_sameHeader d.hasHeader np merged
          have hcomp : completed { sa with fragChain := chain } (reassembled d.octets np merged) :=
            (completed_congr hsame).mpr hrep.isCompleted
          have hc : isCleartextExchange (reassembled d.octets np merged) = false := by
            have := hrep.isProtected
            unfold isCleartextExchange at this ⊢
            rw [hsame.1]
            exact this
          have hx' : disturbs env { sa with fragChain := chain } (reassembled d.octets np merged)
              remote = false := by
            rw [disturbs_congr hsame]
            exact hx
          obtain ⟨h1, h2⟩ := classify_replayed (h := h) (.inl rfl) hcomp hc hx'
          have h0 : Undisturbed sa { sa with fragChain := chain } := rfl
          exact ⟨h0.trans h1, h2⟩
    · exact classify_replayed (.inr hrep.isSealed) hrep.isCompleted hrep.isProtected hx

/-! ## runs -/

theorem Undisturbed.replayed {a b : Sa} (hab : Undisturbed a b) {packet : Bytes}
    (hrep : Replayed a packet) : Replayed b packet := by
  unfold Undisturbed at hab
  rw [hab]
  exact ⟨hrep.isSealed, hrep.isProtected, hrep.isCompleted⟩

theorem Undisturbed.disturbs_eq {a b : Sa} (hab : Undisturbed a b) (env : Env) (packet : Bytes)
    (remote : Endpoint) : disturbs env b packet remote = disturbs env a packet remote := by
  unfold Undisturbed at hab
  rw [hab]
  rfl

/-- Deliver completed messages of an SA again, in any order, any number of times and from
anywhere: the SA is undisturbed in every state on the way and only cached responses leave, if no
delivery is a response to its last request on which the handler acts. -/
theorem replayed_run_undisturbed (h : Handlers) (ds : List Delivery) (sas : List Sa) (k : Nat)
    (sa : Sa) (hk : sas[k]? = some sa) (hrep : ∀ d ∈ ds, Replayed sa d.datagram.octets)
    (hquiet : ∀ d ∈ ds, disturbs d.env sa d.datagram.octets d.remote = false) :
    ∀ st ∈ runInput h sas ds, ∃ sa', st.outcome.sas[k]? = some sa' ∧ Undisturbed sa sa'
      ∧ (findSa st.before st.delivery.datagram.octets = some k →
        ∀ e ∈ st.outcome.effects, isResend e) := by
  refine run_keeps (R := Undisturbed) (E := fun _ => isResend)
    (P := fun sa d => Replayed sa d.datagram.octets
      ∧ disturbs d.env sa d.datagram.octets d.remote = false)
    Undisturbed.refl (fun a b c => Undisturbed.trans) ?_ (fun a b e _ he => he) ?_ ds hk
    fun d hd => ⟨hrep d hd, hquiet d hd⟩
  · intro a b d hab hd
    refine ⟨hab.replayed hd.1, ?_⟩
    rw [hab.disturbs_eq]
    exact hd.2
  · intro sa d hd
    exact saInput_replayed h d.env sa d.datagram d.remote d.local_ hd.1 hd.2

/-! ## a replay that moves an SA -/

/-- the sealed part of an empty INFORMATIONAL response: one octet and the tag -/
def sealedOctets : Bytes := [0xA1, 1, 2, 3, 4, 5, 6, 7, 8, 9, 10, 11, 12, 13, 14, 15, 16]

/-- an INFORMATIONAL response to our request 1 -/
def informationalResponse : Datagram where
  octets := [1, 2, 3, 4, 5, 6, 7, 8, 9, 9, 9, 9, 9, 9, 9, 9, 46, 0x20, 37, 0x28, 0, 0, 0, 1,
    0, 0, 0, 57] ++ [0, 0, 0, 29, 0, 0, 0, 0, 0, 0, 0, 7] ++ sealedOctets
  hasHeader := by decide

/-- a combined-mode cipher, as far as it opens this message -/
def responseCipher : Encryptor :=
  ⟨8, 16, fun _ _ _ => none, fun data _ _ _ => if data = sealedOctets then some [0] else none⟩

/-- a responder's SA that waits for the answer to its request 1 -/
def waitingSa : Sa :=
  { Sa.allocate false [1, 2, 3, 4, 5, 6, 7, 8] [9, 9, 9, 9, 9, 9, 9, 9] (.v4 192 0 2 1 500)
      (.v4 192 0 2 2 500) with
    state := .established, sendMessageId := 2, recvMessageId := 3, requestPending := 1
    encryptor := some responseCipher, authenticator := some ⟨0, fun _ _ => none⟩
    skEI := some [3], skER := some [4], mobikeSupported := true
    children := [⟨7, true, .requestSent, 1, none, none, false, 0⟩] }

def deliverResponse (now : Nat) (remote : Endpoint) : Delivery :=
  ⟨⟨none, fun _ _ => none, fun _ _ _ => none⟩, .calm now, informationalResponse, remote,
    .v4 192 0 2 1 500⟩

def shown (sa : Sa) : Endpoint × Nat × List ChildState :=
  (sa.remoteEp, sa.requestPending, sa.children.map ChildSa.state)

/-- The first delivery, from the peer, completes the request; the second, of the same octets from
another address, moves the SA there. -/
theorem replayed_response_moves_sa :
    (runInput .inert [waitingSa] [deliverResponse 100 (.v4 192 0 2 2 500),
        deliverResponse 200 (.v4 203 0 113 9 500)]).map (fun st => st.outcome.sas.map shown)
      = [[(.v4 192 0 2 2 500, 0, [.expired])], [(.v4 203 0 113 9 500, 0, [.expired])]] := by
  decide +kernel

/-- the same SA with the request completed -/
def answeredSa : Sa :=
  { waitingSa with
    requestPending := 0, children := [⟨7, true, .expired, 1, none, none, false, 0⟩] }

theorem replayed_run_undisturbed_answered :
    (runInput .inert [answeredSa] [deliverResponse 100 (.v4 192 0 2 2 500),
        deliverResponse 101 (.v4 192 0 2 2 500)]).length = 2
    ∧ ∀ st ∈ runInput .inert [answeredSa] [deliverResponse 100 (.v4 192 0 2 2 500),
        deliverResponse 101 (.v4 192 0 2 2 500)],
      ∃ sa', st.outcome.sas[0]? = some sa' ∧ Undisturbed answeredSa sa'
        ∧ (findSa st.before st.delivery.datagram.octets = some 0 →
          ∀ e ∈ st.outcome.effects, isResend e) := by
  refine ⟨rfl, replayed_run_undisturbed .inert _ _ 0 answeredSa rfl ?_ ?_⟩
  · intro d hd
    have hoct : d.datagram = informationalResponse := by
      rcases List.mem_pair.mp hd with rfl | rfl <;> rfl
    rw [hoct]
    exact ⟨by decide, by decide, show 1 < 2 by omega⟩
  · intro d hd
    rcases List.mem_pair.mp hd with rfl | rfl <;> decide

end Ikev2
