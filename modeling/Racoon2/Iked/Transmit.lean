import Racoon2.Iked.Sa

/-!
# Message ids, the ordering window and the response cache

`ikev2_transmit.c`: `checkMessageOrdering`, `retransmitForced`, `requestId`, `updateMessageId`, and
the request queue of `ikev2_child.c` that mints the ids (`choosePendingChild`, `wakeupChildSa`,
`requestInitiatorStart`).  Message ids are 32 bits; the two counters stop an SA at `0xFFFFFFFF`.
-/

set_option linter.unusedVariables false

namespace Ikev2
open Bytes

def messageIdMax : Nat := 0xFFFFFFFF

/-! ## the window -/

/-- `ikev2_check_message_ordering(...) == 0` -/
def checkMessageOrdering (sa : Sa) (message_id : Nat) (is_response : Bool) : Bool :=
  if is_response then
    decide (message_id ≤ sa.sendMessageId)
      && (sa.sendMessageId == 0 || decide (sa.sendMessageId - 1 ≤ message_id))
  else sa.recvMessageId == message_id

/-- the response cache answers this request -/
def responseArmedFor (sa : Sa) (message_id : Nat) : Bool :=
  sa.responseInfo.messageId == message_id && sa.responseInfo.armed

/-- the request came from another address than the one the cached response went to -/
def responseMoved (sa : Sa) (remote : Endpoint) : Bool :=
  match sa.responseInfo.dest with
  | none => false
  | some dest => !sameAddr remote dest

/-- `ikev2_retransmit_forced(...) != 0` -/
def retransmitForced (sa : Sa) (message_id : Nat) (is_response : Bool) : Bool :=
  !is_response && responseArmedFor sa message_id

/-- what `ikev2_retransmit_forced` does to the SA when it answers: the cached response follows a
new source address -/
def retransmitForcedSa (sa : Sa) (local_ remote : Endpoint) : Sa :=
  if responseMoved sa remote then
    { sa with responseInfo := { sa.responseInfo with src := some local_, dest := some remote } }
  else sa

/-- and what leaves: a move bypasses the limit of one copy per second -/
def retransmitForcedOut (env : Env) (sa : Sa) (local_ remote : Endpoint) : List Effect :=
  if responseMoved sa remote || decide (sa.responseInfo.sentTime + 1 ≤ env.now) then
    [.resend (retransmitForcedSa sa local_ remote).responseInfo.dest]
  else []

/-! ## the counters -/

/-- `ikev2_request_id`: the id is reserved before it is handed out -/
def requestId (sa : Sa) : Nat × Sa :=
  if sa.sendMessageId = messageIdMax then
    (sa.sendMessageId, { sa with state := .dead, requestPending := sa.requestPending + 1 })
  else
    (sa.sendMessageId, { sa with
      sendMessageId := sa.sendMessageId + 1
      requestPending := sa.requestPending + 1 })

/-- `ikev2_update_message_id(id, TRUE)` -/
def updateMessageIdResponse (sa : Sa) (message_id : Nat) : Sa :=
  { sa with
    sendMessageId :=
      if sa.sendMessageId ≤ message_id then (message_id + 1) % 2^32 else sa.sendMessageId
    requestPending := sa.requestPending - 1
    transmitInfo := .idle }

/-- `ikev2_update_message_id(id, FALSE)` -/
def updateMessageIdRequest (sa : Sa) (message_id : Nat) : Sa :=
  if sa.recvMessageId ≠ message_id then sa
  else if sa.recvMessageId = messageIdMax then { sa with state := .dead }
  else { sa with recvMessageId := sa.recvMessageId + 1 }

/-! ## requests of ours -/

/-- the states in which `ikev2_find_request` sees a child -/
def ChildState.isRequest : ChildState → Bool
  | .waitResponse => true
  | .requestPending => true
  | .requestSent => true
  | .getspi => true
  | .getspiDone => true
  | _ => false

/-- `ikev2_find_request` -/
def findRequest (sa : Sa) (id : Nat) : Option ChildSa :=
  sa.children.find? fun c => c.isInitiator && c.messageId == id && c.state.isRequest

/-- `ikev2_choose_pending_child(ike_sa, TRUE)` -/
def choosePendingChild (sa : Sa) : Option ChildSa :=
  if 0 < sa.requestPending then none
  else sa.children.find? fun c =>
    c.isInitiator && (c.state == .getspiDone || c.state == .requestPending)

/-- `ikev2_wakeup_child_sa`: the child mints its id and sends -/
def wakeupChildSa (env : Env) (sa : Sa) (c : ChildSa) : Sa × List Effect :=
  let (id, sa') := requestId sa
  match env.wake with
  | .sent =>
    (sa'.setChild c.childId fun c => { c with
      messageId := id
      state := if c.state = .getspiDone then .waitResponse else .requestSent }, [.request id])
  | .deferred => (sa'.setChild c.childId fun c => { c with messageId := id }, [])
  | .failed => (sa'.setChild c.childId fun c => { c with messageId := id, state := .expired }, [])

/-- `next_child_sa = ikev2_choose_pending_child(...); if (next_child_sa) ikev2_wakeup_child_sa(...)` -/
def wakeupPending (env : Env) (sa : Sa) : Sa × List Effect :=
  match choosePendingChild sa with
  | none => (sa, [])
  | some c => wakeupChildSa env sa c

/-- `ikev2_request_initiator_start`: queue an INFORMATIONAL request -/
def requestInitiatorStart (env : Env) (sa : Sa) : Sa × List Effect :=
  wakeupPending env { sa with children := sa.children ++
    [{ childId := env.nextChildId, isInitiator := true, state := .requestPending, messageId := 0,
       localEp := none, remoteEp := none, addkePending := false, addkeFollowupMsgid := 0 }] }

/-- `ikev2_send_invalid_message_id`, at most once a second -/
def sendInvalidMessageId (env : Env) (sa : Sa) : Sa × List Effect :=
  if sa.invalidMsgidLastSent ≠ 0 ∧ env.now < sa.invalidMsgidLastSent + 1 then (sa, [])
  else requestInitiatorStart env { sa with invalidMsgidLastSent := env.now }

/-! ## what the counters do -/

/-- an id that the window of responses lets through is the last one or the next one -/
theorem checkMessageOrdering_response {sa : Sa} {id : Nat}
    (h : checkMessageOrdering sa id true = true) :
    id ≤ sa.sendMessageId ∧ sa.sendMessageId ≤ id + 1 := by
  simp only [checkMessageOrdering, if_true, Bool.and_eq_true, Bool.or_eq_true, beq_iff_eq,
    decide_eq_true_eq] at h
  omega

theorem checkMessageOrdering_request {sa : Sa} {id : Nat}
    (h : checkMessageOrdering sa id false = true) : sa.recvMessageId = id := by
  simpa [checkMessageOrdering] using h

end Ikev2
