import Racoon2.Iked.Input

/-!
# The walks of the handlers that `ikev2_input` dispatches to

Three ways lead to a handler: an unprotected IKE_SA_INIT or IKE_SESSION_RESUME message, a message
that was decrypted, and one that was reassembled from fragments.  Only the second is checked
again after the check that stops at an Encrypted payload.

* `classify_dispatch`             what a packet passed before a handler gets it;
* `dispatched_walk_inside_iff`    when no handler can walk out of the packet it gets;
* `state0_walk_inside`            the loop of `responder_state0_recv` never does: it leaves at any
                                  payload type it does not know among the critical ones.
-/

set_option linter.unusedVariables false

namespace Ikev2
open Bytes

/-! ## two loops of the source -/

/-- what `responder_ike_session_resume_recv` keeps of a request -/
structure ResumeRequest where
  nonce : Option Bytes
  ticket : Option Bytes
  deriving DecidableEq

def notifyTicketOpaque : Nat := 16413

/-- the loop body of `responder_ike_session_resume_recv`; jumping out is `goto nack` -/
def sessionResumeVisit : Visit ResumeRequest := fun s type p =>
  if type = payloadNonce then
    if s.nonce.isSome then .inr s
    else if (p.drop 4).length < 16 then .inr { s with nonce := some (p.drop 4) }
    else .inl { s with nonce := some (p.drop 4) }
  else if type = payloadNotify then
    if be16 p 6 ≠ notifyTicketOpaque then .inl s
    else if byteAt p 5 ≠ 0 then .inr s
    else if s.ticket.isSome then .inr s
    else .inl { s with ticket := some (p.drop 8) }
  else .inl s

/-- which payloads `responder_state0_recv` has seen -/
structure InitRequest where
  sa : Bool
  ke : Bool
  nonce : Bool
  deriving DecidableEq

/-- the loop body of `responder_state0_recv`; `notifyOk` is the result of
`resp_state0_recv_notify`, and a duplicate or a critical stranger ends the loop -/
def state0Visit (notifyOk : Bytes → Bool) : Visit InitRequest := fun s type p =>
  if type = payloadSa then if s.sa then .inr s else .inl { s with sa := true }
  else if type = payloadKe then if s.ke then .inr s else .inl { s with ke := true }
  else if type = payloadNonce then if s.nonce then .inr s else .inl { s with nonce := true }
  else if type = payloadNotify then if notifyOk p then .inl s else .inr s
  else if type = payloadVendorId then .inl s
  else if payloadIsCritical p || payloadTypeIsCritical type then .inr s
  else .inl s

/-! ## the dispatched packet -/

theorem classifyWindow_dispatch {sa : Sa} {packet p : Bytes} {b : Bool} {next : Verdict}
    (h : classifyWindow sa packet b next = .dispatch p) : next = .dispatch p := by
  unfold classifyWindow at h
  split at h
  · exact absurd h (by simp)
  · split at h
    · exact h
    · split at h <;> exact absurd h (by simp)

/-- the checks behind a dispatched packet -/
theorem classify_dispatch {sa : Sa} {whole : Bool} {packet p : Bytes}
    (h : classify sa whole packet = .dispatch p) :
    ((isCleartextExchange packet = true ∨ whole = true) ∧ p = packet
        ∧ checkPayloads p true = true)
      ∨ (isCleartextExchange packet = false ∧ whole = false ∧ checkPayloads p false = true) := by
  unfold classify at h
  cases hc : checkPayloads packet true with
  | false => simp [hc] at h
  | true =>
    rw [hc] at h
    simp only [Bool.not_true, Bool.false_eq_true, if_false] at h
    cases he : isCleartextExchange packet with
    | true =>
      rw [he, if_pos rfl] at h
      have hp := classifyWindow_dispatch h
      injection hp with hp
      exact .inl ⟨.inl rfl, hp.symm, hp ▸ hc⟩
    | false =>
      rw [he] at h
      simp only [Bool.false_eq_true, if_false] at h
      cases whole with
      | true =>
        rw [if_pos rfl] at h
        have hp := classifyWindow_dispatch h
        injection hp with hp
        exact .inl ⟨.inr rfl, hp.symm, hp ▸ hc⟩
      | false =>
        simp only [Bool.false_eq_true, if_false] at h
        refine .inr ⟨rfl, rfl, ?_⟩
        unfold classifyProtected at h
        split at h
        · exact absurd h (by simp)
        split at h
        · exact absurd h (by simp)
        split at h
        · exact absurd h (by simp)
        split at h
        · exact absurd h (by simp)
        have hd := classifyWindow_dispatch h
        unfold classifyDecrypt at hd
        split at hd
        · exact absurd hd (by simp)
        · split at hd
          · rename_i hchk
            injection hd with hd
            exact hd ▸ hchk
          · exact absurd hd (by simp)

/-- the SA, the packet and the way in, for every datagram that reaches a handler -/
def HandedOver (w : World) (env : Env) (sas : List Sa) (packet : Bytes) (remote local_ : Endpoint)
    (whole : Bool) (received handed : Bytes) : Prop :=
  ∃ sas' k sa, inputRoute w env sas packet remote local_ = (sas', .found k sa whole received)
    ∧ classify sa whole received = .dispatch handed

theorem HandedOver.walk_iff {σ : Type} (visit : Visit σ) (s : σ) {w : World} {env : Env}
    {sas : List Sa} {packet : Bytes} {remote local_ : Endpoint} {whole : Bool}
    {received handed : Bytes}
    (h : HandedOver w env sas packet remote local_ whole received handed) :
    (walk visit s handed).inside = true ↔
      ¬ ((isCleartextExchange received = true ∨ whole = true)
        ∧ hasOpenEncrypted received = true ∧ passesEncrypted visit s received = true) := by
  obtain ⟨sas', k, sa, _, hc⟩ := h
  rcases classify_dispatch hc with ⟨hway, rfl, hchk⟩ | ⟨he, hw, hchk⟩
  · rw [checkPayloads_walk_iff visit s hchk]
    simp [hway]
  · rw [checkPayloads_walk_iff visit s hchk]
    simp [he, hw]

/-- The loop of a handler stays inside the packet it is handed, unless the packet skipped the
second check, its Encrypted payload names a successor and the loop goes past that payload. -/
theorem dispatched_walk_inside_iff (σ : Type) (visit : Visit σ) (s : σ) (w : World) (env : Env)
    (sas : List Sa) (packet : Bytes) (remote local_ : Endpoint) (whole : Bool)
    (received handed : Bytes)
    (h : HandedOver w env sas packet remote local_ whole received handed) :
    (walk visit s handed).inside = true ↔
      ¬ ((isCleartextExchange received = true ∨ whole = true)
        ∧ hasOpenEncrypted received = true ∧ passesEncrypted visit s received = true) :=
  h.walk_iff visit s

/-- an IKE_SESSION_RESUME request: one empty Encrypted payload that announces a Nonce payload -/
def openResumeRequest : Bytes :=
  [1, 2, 3, 4, 5, 6, 7, 8, 0, 0, 0, 0, 0, 0, 0, 0, 46, 0x20, 38, 0x08, 0, 0, 0, 0, 0, 0, 0, 32,
   40, 0, 0, 4]

def resumeSa : Sa :=
  Sa.allocate false [1, 2, 3, 4, 5, 6, 7, 8] [9, 9, 9, 9, 9, 9, 9, 9] (.v4 192 0 2 1 500)
    (.v4 192 0 2 2 500)

def resumeWorld : World := ⟨none, fun _ _ => none, fun _ _ _ => some resumeSa⟩

theorem openResumeRequest_route :
    inputRoute resumeWorld (.calm 100) [] openResumeRequest (.v4 192 0 2 2 500)
      (.v4 192 0 2 1 500) = ([resumeSa], .found 0 resumeSa false openResumeRequest) := by
  have h1 : isCleartextExchange openResumeRequest = true := by decide
  have h2 : nextPayload openResumeRequest ≠ payloadSkf := by decide
  have h3 : checkPayloads openResumeRequest true = true := by decide +kernel
  have h4 : checkNewRequest openResumeRequest = .start := by decide
  simp [inputRoute, findSa, routeNew, h1, h2, h3, h4, resumeWorld]

theorem openResumeRequest_handed :
    HandedOver resumeWorld (.calm 100) [] openResumeRequest (.v4 192 0 2 2 500) (.v4 192 0 2 1 500)
      false openResumeRequest openResumeRequest :=
  ⟨[resumeSa], 0, resumeSa, openResumeRequest_route, by decide⟩

/-- the handler of a resumption request reads past the end of this one -/
theorem sessionResume_walk_outside :
    ∃ (w : World) (env : Env) (packet : Bytes) (remote local_ : Endpoint),
      HandedOver w env [] packet remote local_ false packet packet
        ∧ exchangeType packet = exchIkeSessionResume
        ∧ walk sessionResumeVisit ⟨none, none⟩ packet = .outside :=
  ⟨resumeWorld, .calm 100, openResumeRequest, .v4 192 0 2 2 500, .v4 192 0 2 1 500,
    openResumeRequest_handed, by decide, by decide⟩

theorem dispatched_walk_inside_iff_resume :
    (walk sessionResumeVisit ⟨none, none⟩ openResumeRequest).inside = true ↔
      ¬ ((isCleartextExchange openResumeRequest = true ∨ false = true)
        ∧ hasOpenEncrypted openResumeRequest = true
        ∧ passesEncrypted sessionResumeVisit ⟨none, none⟩ openResumeRequest = true) :=
  dispatched_walk_inside_iff ResumeRequest sessionResumeVisit ⟨none, none⟩ resumeWorld (.calm 100) []
    openResumeRequest (.v4 192 0 2 2 500) (.v4 192 0 2 1 500) false openResumeRequest
    openResumeRequest openResumeRequest_handed

/-! ## the loop of an IKE_SA_INIT request -/

theorem state0Visit_encrypted (notifyOk : Bytes → Bool) (s : InitRequest) (p : Bytes) :
    state0Visit notifyOk s payloadEncrypted p = .inr s := by
  have h : payloadTypeIsCritical payloadEncrypted = true := by decide
  simp only [state0Visit, h, Bool.or_true, if_true]
  rfl

theorem passesLoop_false {σ : Type} (visit : Visit σ)
    (hstop : ∀ s p, ∃ s', visit s payloadEncrypted p = .inr s') (n : Nat) :
    ∀ (s : σ) (type : UInt8) (p : Bytes), passesLoop visit n s type p = false := by
  induction n with
  | zero => intro s type p; rfl
  | succ n ih =>
    intro s type p
    rw [passesLoop]
    by_cases ht : type = noNextPayload
    · rw [if_pos ht]
    · rw [if_neg ht]
      by_cases he : type = payloadEncrypted
      · obtain ⟨s', hs'⟩ := hstop s (payloadOctets p)
        rw [he, hs']
      · cases visit s type (payloadOctets p) with
        | inr s' => rfl
        | inl s' =>
          show (if type = payloadEncrypted then true else _) = false
          rw [if_neg he]
          exact ih _ _ _

/-- the loop of `responder_state0_recv` stays inside every packet that reaches a handler -/
theorem state0_walk_inside (notifyOk : Bytes → Bool) (s : InitRequest) (w : World) (env : Env)
    (sas : List Sa) (packet : Bytes) (remote local_ : Endpoint) (whole : Bool)
    (received handed : Bytes)
    (h : HandedOver w env sas packet remote local_ whole received handed) :
    (walk (state0Visit notifyOk) s handed).inside = true := by
  rw [h.walk_iff (state0Visit notifyOk) s]
  rintro ⟨_, _, hp⟩
  have hn := passesLoop_false (state0Visit notifyOk)
    (fun s p => ⟨s, state0Visit_encrypted notifyOk s p⟩) (received.length + 1) s
    (nextPayload received) (firstPayload received)
  unfold passesEncrypted at hp
  rw [hn] at hp
  exact absurd hp (by simp)

end Ikev2
