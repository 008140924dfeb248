import Racoon2.Lib.Run
import Racoon2.Iked.Transmit

/-!
# The window of message ids along the life of an SA

One event is one call of a window function of `ikev2_transmit.c`, with what its callers test
before: a request or a response that came in authentic, a handler that completes a request, an id
that is minted, a response that is armed (at once, or later by a callback).  The lists `minted`,
`completed` and `armed` are the history; nothing reads them.

The two counters stop at `0xFFFFFFFF`, where the SA is declared dead, except in
`ikev2_update_message_id` for a response: there the id plus one wraps.

* `windowStep`, `windowOut`   what an event does, and what it sends;
* `Window.Ordered`            the counters are ahead of the history;
* `windowStep_ordered`        an event that wraps nothing (the step);
* `window_ordered`            every run of such events (the run).
-/

set_option linter.unusedVariables false

namespace Ikev2

/-! ## the response cache -/

/-- a response as it was armed: whole, or the fragments it went out in -/
abbrev ResponseBody := Option Bytes × Option (List Bytes)

def TransmitInfo.body (info : TransmitInfo) : ResponseBody := (info.packet, info.frags)

section
variable (sa : Sa) (message_id : Nat) (packet : Bytes) (dup : Bool) (local_ remote : Endpoint)
  (now : Nat)

/-- the end of `ikev2_transmit_response`, for a response that goes out whole; `dup` if the addresses
could be copied -/
def transmitWhole : Sa × Option ResponseBody :=
  if dup then
    ({ sa with responseInfo := ⟨message_id, some packet, none, some local_, some remote, now⟩ },
      some (some packet, none))
  else ({ sa with responseInfo := { sa.responseInfo with src := none, dest := none } }, none)

/-- `ikev2_transmit_response`, with what it armed: `large` if the response is to go out in
fragments, `frags` what `ikev2_frag_send` made of it -/
def transmitResponse (large : Bool) (frags : Option (List Bytes)) : Sa × Option ResponseBody :=
  if large then
    if dup then
      match frags with
      | some fs =>
        ({ sa with responseInfo := ⟨message_id, none, some fs, some local_, some remote, now⟩ },
          some (none, some fs))
      | none => transmitWhole sa message_id packet dup local_ remote now
    else (sa, none)
  else transmitWhole sa message_id packet dup local_ remote now

end

/-! ## events -/

structure Window where
  sa : Sa
  /-- the ids that a child or a parked rekey waits for (`ikev2_find_request`) -/
  waiting : List Nat
  /-- rounds of IKE_INTERMEDIATE still to come -/
  roundsLeft : Nat
  minted : List Nat
  completed : List Nat
  armed : List (Nat × ResponseBody)
  /-- an id was needed when a counter stood at its last value -/
  exhausted : Bool

def Window.start (sa : Sa) (nrounds : Fin 8) : Window := ⟨sa, [], nrounds, [], [], [], false⟩

inductive WindowEvent where
  /-- a request; `intermediate` for IKE_INTERMEDIATE from the address of the peer -/
  | request (id : Nat) (intermediate : Bool) (local_ remote : Endpoint) (now : Nat)
  /-- `ikev2_update_message_id(id, FALSE)` -/
  | complete (id : Nat)
  /-- `ikev2_followup_ke_recv`: the window is put back when the response cannot be sent -/
  | followup (id : Nat) (sent : Bool)
  /-- `ikev2_request_id`; `waits` if a request is looked up under the id later -/
  | mint (waits : Bool)
  /-- `ikev2_transmit_response`, by the handler or by a later callback -/
  | respond (id : Nat) (packet : Bytes) (dup : Bool) (local_ remote : Endpoint) (now : Nat)
      (large : Bool) (frags : Option (List Bytes))
  /-- `responder_ike_intermediate_recv` keeps its response -/
  | keepIntermediate (id : Nat) (packets : List Bytes)
  /-- a response; `accepts` if the handler of a state before ESTABLISHED gets as far as
  `ikev2_update_message_id` -/
  | response (id : Nat) (accepts : Bool)
  /-- `initiator_ike_intermediate_recv` with a round to come -/
  | nextRound (id : Nat)
  /-- `initiator_skey_done` -/
  | initDone (intermediate : Bool)
  | setState (st : State)
  /-- IKE_SA_INIT is started again with another gateway -/
  | redirect

/-- what a request is met with -/
inductive WindowOut where
  | resent (id : Nat) (body : ResponseBody)
  | dispatched (id : Nat)
  | invalidMessageId (id : Nat)

section
variable (w : Window)

/-- a handler of the state commits the response -/
def Window.commits (id : Nat) (accepts : Bool) : Bool :=
  checkMessageOrdering w.sa id true &&
    match w.sa.state with
    | .established => decide (id ∈ w.waiting)
    | .dying => decide (id ∈ w.waiting)
    | .iniIkeAuthSent => accepts
    | .iniIkeAuthRcvd => accepts
    | .iniIkeSessionResumeSent => accepts
    | .iniIkeIntermediateSent => accepts && id == w.sa.intermediateMsgid
    | _ => false

/-- the state in which `initiator_ike_intermediate_recv` goes on to the next round -/
def Window.roundFollows (id : Nat) : Bool :=
  checkMessageOrdering w.sa id true && w.sa.state == .iniIkeIntermediateSent
    && id == w.sa.intermediateMsgid && decide (0 < w.roundsLeft)

def Window.complete (id : Nat) : Window :=
  if w.sa.recvMessageId = id then { w with
    sa := updateMessageIdRequest w.sa id
    completed := id :: w.completed
    exhausted := w.exhausted || decide (id = messageIdMax) }
  else w

def Window.mint (waits : Bool) : Window :=
  { w with
    sa := (requestId w.sa).2
    minted := (requestId w.sa).1 :: w.minted
    waiting := if waits then (requestId w.sa).1 :: w.waiting else w.waiting
    exhausted := w.exhausted || decide (w.sa.sendMessageId = messageIdMax) }

def Window.respond (id : Nat) : Sa × Option ResponseBody → Window
  | (sa, none) => { w with sa := sa }
  | (sa, some body) => { w with sa := sa, armed := (id, body) :: w.armed }

/-- the request is answered from the cache of IKE_INTERMEDIATE -/
def Window.replays (id : Nat) (intermediate : Bool) : Bool :=
  intermediate && w.sa.intermediateReplay.isSome && id == w.sa.intermediateReplayMsgid

def Window.requestOut (id : Nat) (intermediate : Bool) (remote : Endpoint) (now : Nat) :
    List WindowOut :=
  if w.replays id intermediate then
    if now < w.sa.intermediateReplaySent + 1 then []
    else [.resent id (none, w.sa.intermediateReplay)]
  else if retransmitForced w.sa id false then
    if responseMoved w.sa remote || decide (w.sa.responseInfo.sentTime + 1 ≤ now) then
      [.resent id w.sa.responseInfo.body]
    else []
  else if checkMessageOrdering w.sa id false then
    if w.sa.state = .dead then [] else [.dispatched id]
  else if w.sa.recvMessageId < id then [.invalidMessageId id]
  else []

def Window.request (id : Nat) (intermediate : Bool) (local_ remote : Endpoint) : Window :=
  if w.replays id intermediate then w
  else if retransmitForced w.sa id false then
    { w with sa := retransmitForcedSa w.sa local_ remote }
  else w

def Window.response (id : Nat) (accepts : Bool) : Window :=
  if w.commits id accepts then { w with
    sa := updateMessageIdResponse w.sa id, waiting := w.waiting.filter fun x => x != id }
  else w

def Window.nextRound (id : Nat) : Window :=
  if w.roundFollows id then { w with
    sa := { w.sa with
      intermediateMsgid := w.sa.intermediateMsgid + 1
      sendMessageId := w.sa.intermediateMsgid + 2 }
    roundsLeft := w.roundsLeft - 1 }
  else w

def windowOut : WindowEvent → List WindowOut
  | .request id intermediate local_ remote now => w.requestOut id intermediate remote now
  | _ => []

def windowStep : WindowEvent → Window
  | .request id intermediate local_ remote now => w.request id intermediate local_ remote
  | .complete id => w.complete id
  | .followup id sent => if sent then w.complete id else w
  | .mint waits => w.mint waits
  | .respond id packet dup local_ remote now large frags =>
    w.respond id (transmitResponse w.sa id packet dup local_ remote now large frags)
  | .keepIntermediate id packets => { w with
      sa := { w.sa with intermediateReplay := some packets, intermediateReplayMsgid := id }
      armed := (id, (none, some packets)) :: w.armed }
  | .response id accepts => w.response id accepts
  | .nextRound id => w.nextRound id
  | .initDone intermediate => { w with
      sa := { updateMessageIdResponse w.sa 0 with
        state := if intermediate then .iniIkeIntermediateSent else .iniIkeAuthSent
        intermediateMsgid := if intermediate then 1 else w.sa.intermediateMsgid } }
  | .setState st => { w with sa := { w.sa with state := st } }
  | .redirect => { w with sa := { w.sa with sendMessageId := 0, recvMessageId := 0 } }

/-- no counter is exhausted yet, no response with the last id is committed when the counter stands
there, and a redirect finds both counters at 0 -/
def windowOk : WindowEvent → Prop
  | .response id accepts => w.exhausted = false ∧ ¬ (w.commits id accepts = true
      ∧ id = messageIdMax ∧ w.sa.sendMessageId = messageIdMax)
  | .redirect => w.exhausted = false ∧ w.sa.sendMessageId = 0 ∧ w.sa.recvMessageId = 0
  | _ => w.exhausted = false

end

instance windowOk.decidable (w : Window) : ∀ ev, Decidable (windowOk w ev)
  | .response id accepts => inferInstanceAs (Decidable (_ ∧ ¬ (_ ∧ _ ∧ _)))
  | .redirect => inferInstanceAs (Decidable (_ ∧ _ ∧ _))
  | .request id intermediate local_ remote now => inferInstanceAs (Decidable (_ = _))
  | .complete id => inferInstanceAs (Decidable (_ = _))
  | .followup id sent => inferInstanceAs (Decidable (_ = _))
  | .mint waits => inferInstanceAs (Decidable (_ = _))
  | .respond id packet dup local_ remote now large frags => inferInstanceAs (Decidable (_ = _))
  | .keepIntermediate id packets => inferInstanceAs (Decidable (_ = _))
  | .nextRound id => inferInstanceAs (Decidable (_ = _))
  | .initDone intermediate => inferInstanceAs (Decidable (_ = _))
  | .setState st => inferInstanceAs (Decidable (_ = _))

/-! ## the counters are ahead of the history -/

structure Window.Ordered (w : Window) : Prop where
  send_le : w.sa.sendMessageId ≤ messageIdMax
  recv_le : w.sa.recvMessageId ≤ messageIdMax
  rounds : w.sa.intermediateMsgid + w.roundsLeft ≤ 8
  roundsLeft : w.roundsLeft ≤ 7
  minted : w.minted.Nodup
  minted_lt : w.exhausted = false → ∀ m ∈ w.minted, m < w.sa.sendMessageId
  completed : w.completed.Nodup
  completed_lt : w.exhausted = false → ∀ c ∈ w.completed, c < w.sa.recvMessageId
  dead : w.exhausted = true → w.sa.state = .dead ∧ ∀ c ∈ w.completed, c ≤ w.sa.recvMessageId
  /-- what is armed was armed for the id it is armed under -/
  cached : w.sa.responseInfo.armed = true →
    (w.sa.responseInfo.messageId, w.sa.responseInfo.body) ∈ w.armed
  kept : ∀ ps, w.sa.intermediateReplay = some ps →
    (w.sa.intermediateReplayMsgid, (none, some ps)) ∈ w.armed

section
variable {w : Window}

theorem windowOk_running {ev : WindowEvent} (h : windowOk w ev) : w.exhausted = false := by
  cases ev with
  | response id accepts => exact h.1
  | redirect => exact h.1
  | request => exact h
  | complete id => exact h
  | followup id sent => exact h
  | mint waits => exact h
  | respond => exact h
  | keepIntermediate id packets => exact h
  | nextRound id => exact h
  | initDone intermediate => exact h
  | setState st => exact h

/-- the SA changes, its counters and caches do not -/
theorem Window.Ordered.sameCounters (h : w.Ordered) (hrun : w.exhausted = false) {sa : Sa}
    (hsend : sa.sendMessageId = w.sa.sendMessageId) (hrecv : sa.recvMessageId = w.sa.recvMessageId)
    (hmsgid : sa.intermediateMsgid = w.sa.intermediateMsgid)
    (hinfo : sa.responseInfo = w.sa.responseInfo)
    (hkept : sa.intermediateReplay = w.sa.intermediateReplay)
    (hkeptId : sa.intermediateReplayMsgid = w.sa.intermediateReplayMsgid) :
    Window.Ordered { w with sa := sa } := by
  refine ⟨?_, ?_, ?_, h.roundsLeft, h.minted, ?_, h.completed, ?_, ?_, ?_, ?_⟩
  · rw [hsend]
    exact h.send_le
  · rw [hrecv]
    exact h.recv_le
  · rw [hmsgid]
    exact h.rounds
  · rw [hsend]
    exact h.minted_lt
  · rw [hrecv]
    exact h.completed_lt
  · intro hex
    exact absurd (hrun.symm.trans hex) (by simp)
  · rw [hinfo]
    exact h.cached
  · rw [hkept, hkeptId]
    exact h.kept

theorem Window.Ordered.complete (h : w.Ordered) (hrun : w.exhausted = false) (id : Nat) :
    (w.complete id).Ordered ∧ w.sa.recvMessageId ≤ (w.complete id).sa.recvMessageId
      ∧ (w.complete id).sa.sendMessageId = w.sa.sendMessageId := by
  unfold Window.complete
  split
  · rename_i hid
    have hnew : id ∉ w.completed := by
      intro hmem
      have := h.completed_lt hrun id hmem
      omega
    have hnodup := List.nodup_cons.mpr ⟨hnew, h.completed⟩
    unfold updateMessageIdRequest
    rw [if_neg (by rw [hid]; simp), hrun, Bool.false_or]
    by_cases hmax : id = messageIdMax
    · rw [if_pos (hid.trans hmax)]
      refine ⟨⟨h.send_le, h.recv_le, h.rounds, h.roundsLeft, h.minted, ?_, hnodup, ?_, ?_, h.cached,
        h.kept⟩, Nat.le_refl _, rfl⟩
      · intro hno
        exact absurd hmax (by simpa using hno)
      · intro hno
        exact absurd hmax (by simpa using hno)
      · intro _
        refine ⟨rfl, List.forall_mem_cons.mpr ⟨Nat.le_of_eq hid.symm, fun c hc => ?_⟩⟩
        exact Nat.le_of_lt (h.completed_lt hrun c hc)
    · rw [if_neg (by rw [hid]; exact hmax)]
      refine ⟨⟨h.send_le, ?_, h.rounds, h.roundsLeft, h.minted, fun _ => h.minted_lt hrun, hnodup,
        ?_, ?_, h.cached, h.kept⟩, Nat.le_succ _, rfl⟩
      · have hle := h.recv_le
        show w.sa.recvMessageId + 1 ≤ messageIdMax
        omega
      · intro _
        refine List.forall_mem_cons.mpr ⟨by show id < w.sa.recvMessageId + 1; omega, fun c hc => ?_⟩
        have := h.completed_lt hrun c hc
        show c < w.sa.recvMessageId + 1
        omega
      · intro hex
        exact absurd (by simpa using hex) hmax
  · exact ⟨h, Nat.le_refl _, rfl⟩

theorem Window.Ordered.mint (h : w.Ordered) (hrun : w.exhausted = false) (waits : Bool) :
    (w.mint waits).Ordered ∧ w.sa.sendMessageId ≤ (w.mint waits).sa.sendMessageId
      ∧ (w.mint waits).sa.recvMessageId = w.sa.recvMessageId := by
  have hnodup : ((requestId w.sa).1 :: w.minted).Nodup := by
    have hid : (requestId w.sa).1 = w.sa.sendMessageId := by
      unfold requestId
      split <;> rfl
    rw [hid]
    refine List.nodup_cons.mpr ⟨fun hmem => ?_, h.minted⟩
    exact Nat.lt_irrefl _ (h.minted_lt hrun _ hmem)
  unfold Window.mint
  unfold requestId at hnodup ⊢
  rw [hrun, Bool.false_or]
  by_cases hmax : w.sa.sendMessageId = messageIdMax
  · rw [if_pos hmax] at hnodup ⊢
    refine ⟨⟨h.send_le, h.recv_le, h.rounds, h.roundsLeft, hnodup, ?_, h.completed, ?_, ?_, h.cached,
      h.kept⟩, Nat.le_refl _, rfl⟩
    · intro hno
      exact absurd hmax (by simpa using hno)
    · intro hno
      exact absurd hmax (by simpa using hno)
    · intro _
      exact ⟨rfl, fun c hc => Nat.le_of_lt (h.completed_lt hrun c hc)⟩
  · rw [if_neg hmax] at hnodup ⊢
    refine ⟨⟨?_, h.recv_le, h.rounds, h.roundsLeft, hnodup, ?_, h.completed,
      fun _ => h.completed_lt hrun, ?_, h.cached, h.kept⟩, Nat.le_succ _, rfl⟩
    · have hle := h.send_le
      show w.sa.sendMessageId + 1 ≤ messageIdMax
      omega
    · intro _
      refine List.forall_mem_cons.mpr ⟨Nat.lt_succ_self _, fun m hm => ?_⟩
      exact Nat.lt_succ_of_lt (h.minted_lt hrun m hm)
    · intro hex
      exact absurd (by simpa using hex) hmax

/-- the response branch of `ikev2_update_message_id`, where it does not wrap -/
theorem updateMessageIdResponse_send {sa : Sa} {id : Nat} (hid : id ≤ sa.sendMessageId)
    (hsend : sa.sendMessageId ≤ messageIdMax)
    (hno : ¬ (id = messageIdMax ∧ sa.sendMessageId = messageIdMax)) :
    sa.sendMessageId ≤ (updateMessageIdResponse sa id).sendMessageId
      ∧ (updateMessageIdResponse sa id).sendMessageId ≤ messageIdMax := by
  have hmax : messageIdMax = 2 ^ 32 - 1 := rfl
  unfold updateMessageIdResponse
  dsimp only
  split
  · rw [Nat.mod_eq_of_lt (by omega)]
    omega
  · omega

/-- the send counter goes up -/
theorem Window.Ordered.raiseSend (h : w.Ordered) (hrun : w.exhausted = false) {sa : Sa}
    {waiting : List Nat} {roundsLeft : Nat} (hsend : w.sa.sendMessageId ≤ sa.sendMessageId)
    (hle : sa.sendMessageId ≤ messageIdMax) (hrecv : sa.recvMessageId = w.sa.recvMessageId)
    (hrounds : sa.intermediateMsgid + roundsLeft ≤ 8) (hleft : roundsLeft ≤ 7)
    (hinfo : sa.responseInfo = w.sa.responseInfo)
    (hkept : sa.intermediateReplay = w.sa.intermediateReplay)
    (hkeptId : sa.intermediateReplayMsgid = w.sa.intermediateReplayMsgid) :
    Window.Ordered { w with sa := sa, waiting := waiting, roundsLeft := roundsLeft } := by
  refine ⟨hle, ?_, hrounds, hleft, h.minted, ?_, h.completed, ?_, ?_, ?_, ?_⟩
  · rw [hrecv]
    exact h.recv_le
  · intro _ m hm
    exact Nat.lt_of_lt_of_le (h.minted_lt hrun m hm) hsend
  · rw [hrecv]
    exact h.completed_lt
  · intro hex
    exact absurd (hrun.symm.trans hex) (by simp)
  · rw [hinfo]
    exact h.cached
  · rw [hkept, hkeptId]
    exact h.kept

/-- a response is armed, or the attempt leaves the old one -/
theorem Window.Ordered.respond (h : w.Ordered) (hrun : w.exhausted = false) (id : Nat)
    (packet : Bytes) (dup : Bool) (local_ remote : Endpoint) (now : Nat) (large : Bool)
    (frags : Option (List Bytes)) :
    (w.respond id (transmitResponse w.sa id packet dup local_ remote now large frags)).Ordered := by
  have harm : ∀ (info : TransmitInfo) (body : ResponseBody), info.messageId = id →
      info.body = body →
      Window.Ordered { w with sa := { w.sa with responseInfo := info }
                              armed := (id, body) :: w.armed } := by
    intro info body hid hbody
    refine ⟨h.send_le, h.recv_le, h.rounds, h.roundsLeft, h.minted, h.minted_lt, h.completed,
      h.completed_lt, h.dead, ?_, ?_⟩
    · intro _
      show (info.messageId, info.body) ∈ (id, body) :: w.armed
      rw [hid, hbody]
      exact List.mem_cons_self
    · intro ps hps
      exact List.mem_cons_of_mem _ (h.kept ps hps)
  have hwhole : (w.respond id (transmitWhole w.sa id packet dup local_ remote now)).Ordered := by
    unfold transmitWhole
    split
    · exact harm _ _ rfl rfl
    · exact ⟨h.send_le, h.recv_le, h.rounds, h.roundsLeft, h.minted, h.minted_lt, h.completed,
        h.completed_lt, h.dead, h.cached, h.kept⟩
  unfold transmitResponse
  split
  · split
    · cases frags with
      | none => exact hwhole
      | some fs => exact harm _ _ rfl rfl
    · exact h
  · exact hwhole

theorem retransmitForcedSa_same (sa : Sa) (local_ remote : Endpoint) :
    (retransmitForcedSa sa local_ remote).sendMessageId = sa.sendMessageId
      ∧ (retransmitForcedSa sa local_ remote).recvMessageId = sa.recvMessageId
      ∧ (retransmitForcedSa sa local_ remote).state = sa.state
      ∧ (retransmitForcedSa sa local_ remote).intermediateMsgid = sa.intermediateMsgid
      ∧ (retransmitForcedSa sa local_ remote).intermediateReplay = sa.intermediateReplay
      ∧ (retransmitForcedSa sa local_ remote).intermediateReplayMsgid = sa.intermediateReplayMsgid
      ∧ (retransmitForcedSa sa local_ remote).responseInfo.messageId = sa.responseInfo.messageId
      ∧ (retransmitForcedSa sa local_ remote).responseInfo.body = sa.responseInfo.body := by
  unfold retransmitForcedSa
  split <;> exact ⟨rfl, rfl, rfl, rfl, rfl, rfl, rfl, rfl⟩

theorem TransmitInfo.armed_of_body {a b : TransmitInfo} (h : a.body = b.body) :
    a.armed = b.armed := by
  have hp : a.packet = b.packet := congrArg Prod.fst h
  have hf : a.frags = b.frags := congrArg Prod.snd h
  unfold TransmitInfo.armed
  rw [hp, hf]

/-- what an event may do to the window -/
def Window.Follows (w w' : Window) : Prop :=
  w'.Ordered ∧ w.sa.sendMessageId ≤ w'.sa.sendMessageId ∧ w.sa.recvMessageId ≤ w'.sa.recvMessageId

theorem Window.Ordered.stays (h : w.Ordered) : w.Follows w := ⟨h, Nat.le_refl _, Nat.le_refl _⟩

theorem Window.Ordered.request (h : w.Ordered) (id : Nat) (intermediate : Bool)
    (local_ remote : Endpoint) : w.Follows (w.request id intermediate local_ remote) := by
  unfold Window.request
  split
  · exact h.stays
  · split
    · obtain ⟨hsend, hrecv, hst, hmsgid, hkept, hkeptId, hid, hbody⟩ :=
        retransmitForcedSa_same w.sa local_ remote
      refine ⟨⟨?_, ?_, ?_, h.roundsLeft, h.minted, ?_, h.completed, ?_, ?_, ?_, ?_⟩, ?_, ?_⟩
      · rw [hsend]
        exact h.send_le
      · rw [hrecv]
        exact h.recv_le
      · rw [hmsgid]
        exact h.rounds
      · rw [hsend]
        exact h.minted_lt
      · rw [hrecv]
        exact h.completed_lt
      · rw [hrecv, hst]
        exact h.dead
      · intro harmed
        rw [TransmitInfo.armed_of_body hbody] at harmed
        rw [hid, hbody]
        exact h.cached harmed
      · rw [hkept, hkeptId]
        exact h.kept
      · exact Nat.le_of_eq hsend.symm
      · exact Nat.le_of_eq hrecv.symm
    · exact h.stays

theorem Window.Ordered.response (h : w.Ordered) (hrun : w.exhausted = false) (id : Nat)
    (accepts : Bool)
    (hno : ¬ (w.commits id accepts = true ∧ id = messageIdMax ∧ w.sa.sendMessageId = messageIdMax)) :
    w.Follows (w.response id accepts) := by
  unfold Window.response
  split
  · rename_i hcommit
    have hwin := checkMessageOrdering_response ((Bool.and_eq_true _ _).mp hcommit).1
    obtain ⟨hsend, hle⟩ := updateMessageIdResponse_send hwin.1 h.send_le
      (fun hmax => hno ⟨hcommit, hmax⟩)
    exact ⟨h.raiseSend hrun hsend hle rfl h.rounds h.roundsLeft rfl rfl rfl, hsend, Nat.le_refl _⟩
  · exact h.stays

theorem Window.Ordered.nextRound (h : w.Ordered) (hrun : w.exhausted = false) (id : Nat) :
    w.Follows (w.nextRound id) := by
  unfold Window.nextRound
  split
  · rename_i hfollow
    unfold Window.roundFollows at hfollow
    simp only [Bool.and_eq_true, beq_iff_eq, decide_eq_true_eq] at hfollow
    obtain ⟨⟨⟨hord, _⟩, hid⟩, hleft⟩ := hfollow
    have hwin := checkMessageOrdering_response hord
    have hrounds := h.rounds
    have hroundsLeft := h.roundsLeft
    have hmax : messageIdMax = 2 ^ 32 - 1 := rfl
    have hsend : w.sa.sendMessageId ≤ w.sa.intermediateMsgid + 2 := by omega
    refine ⟨h.raiseSend hrun hsend ?_ rfl ?_ (by omega) rfl rfl rfl, hsend, Nat.le_refl _⟩
    · show w.sa.intermediateMsgid + 2 ≤ messageIdMax
      omega
    · show w.sa.intermediateMsgid + 1 + (w.roundsLeft - 1) ≤ 8
      omega
  · exact h.stays

theorem Window.Ordered.initDone (h : w.Ordered) (hrun : w.exhausted = false)
    (intermediate : Bool) : w.Follows (windowStep w (.initDone intermediate)) := by
  have hmax : messageIdMax = 2 ^ 32 - 1 := rfl
  have hno : ¬ (0 = messageIdMax ∧ w.sa.sendMessageId = messageIdMax) := by omega
  obtain ⟨hsend, hle⟩ := updateMessageIdResponse_send (Nat.zero_le _) h.send_le hno
  refine ⟨h.raiseSend hrun hsend hle rfl ?_ h.roundsLeft rfl rfl rfl, hsend, Nat.le_refl _⟩
  have hrounds := h.rounds
  have hroundsLeft := h.roundsLeft
  show (if intermediate then 1 else w.sa.intermediateMsgid) + w.roundsLeft ≤ 8
  split <;> omega

/-- arming a response leaves the counters alone -/
theorem Window.respond_counters (w : Window) (id : Nat) (packet : Bytes) (dup : Bool)
    (local_ remote : Endpoint) (now : Nat) (large : Bool) (frags : Option (List Bytes)) :
    (w.respond id (transmitResponse w.sa id packet dup local_ remote now large frags)).sa.sendMessageId
        = w.sa.sendMessageId
      ∧ (w.respond id
          (transmitResponse w.sa id packet dup local_ remote now large frags)).sa.recvMessageId
        = w.sa.recvMessageId := by
  unfold transmitResponse transmitWhole
  cases large <;> cases dup <;> cases frags <;> exact ⟨rfl, rfl⟩

/-- an event keeps the order, and takes neither counter back -/
theorem windowStep_ordered (ev : WindowEvent) (h : w.Ordered) (hok : windowOk w ev) :
    w.Follows (windowStep w ev) := by
  have hrun := windowOk_running hok
  have hcomplete : ∀ id, w.Follows (w.complete id) := by
    intro id
    obtain ⟨hord, hrecv, hsend⟩ := h.complete hrun id
    exact ⟨hord, Nat.le_of_eq hsend.symm, hrecv⟩
  cases ev with
  | request id intermediate local_ remote now => exact h.request id intermediate local_ remote
  | complete id => exact hcomplete id
  | followup id sent =>
    cases sent with
    | true => exact hcomplete id
    | false => exact h.stays
  | mint waits =>
    obtain ⟨hord, hsend, hrecv⟩ := h.mint hrun waits
    exact ⟨hord, hsend, Nat.le_of_eq hrecv.symm⟩
  | respond id packet dup local_ remote now large frags =>
    obtain ⟨hsend, hrecv⟩ := w.respond_counters id packet dup local_ remote now large frags
    exact ⟨h.respond hrun id packet dup local_ remote now large frags, Nat.le_of_eq hsend.symm,
      Nat.le_of_eq hrecv.symm⟩
  | keepIntermediate id packets =>
    refine ⟨⟨h.send_le, h.recv_le, h.rounds, h.roundsLeft, h.minted, h.minted_lt, h.completed,
      h.completed_lt, h.dead, ?_, ?_⟩, Nat.le_refl _, Nat.le_refl _⟩
    · intro harmed
      exact List.mem_cons_of_mem _ (h.cached harmed)
    · intro ps hps
      cases hps
      exact List.mem_cons_self
  | response id accepts => exact h.response hrun id accepts hok.2
  | nextRound id => exact h.nextRound hrun id
  | initDone intermediate => exact h.initDone hrun intermediate
  | setState st =>
    exact ⟨h.sameCounters hrun rfl rfl rfl rfl rfl rfl, Nat.le_refl _, Nat.le_refl _⟩
  | redirect =>
    obtain ⟨_, hsend, hrecv⟩ := hok
    refine ⟨h.sameCounters hrun hsend.symm hrecv.symm rfl rfl rfl rfl, ?_, ?_⟩
    · exact Nat.le_of_eq hsend
    · exact Nat.le_of_eq hrecv

/-- a request that was completed, or one before it, is met with the response armed for its id, or
with nothing -/
theorem windowOut_completed (h : w.Ordered) {id : Nat} (hc : ∃ c ∈ w.completed, id ≤ c)
    (intermediate : Bool) (remote : Endpoint) (now : Nat) :
    ∀ x ∈ w.requestOut id intermediate remote now,
      ∃ body, x = .resent id body ∧ (id, body) ∈ w.armed := by
  intro x hx
  obtain ⟨c, hmem, hle⟩ := hc
  unfold Window.requestOut at hx
  split at hx
  · rename_i hrep
    split at hx
    · exact absurd hx List.not_mem_nil
    · rw [List.mem_singleton.mp hx]
      unfold Window.replays at hrep
      simp only [Bool.and_eq_true, beq_iff_eq] at hrep
      obtain ⟨ps, hps⟩ := Option.isSome_iff_exists.mp hrep.1.2
      refine ⟨_, rfl, ?_⟩
      rw [hps, hrep.2]
      exact h.kept ps hps
  · split at hx
    · rename_i hforced
      split at hx
      · rw [List.mem_singleton.mp hx]
        unfold retransmitForced responseArmedFor at hforced
        simp only [Bool.not_false, Bool.true_and, Bool.and_eq_true, beq_iff_eq] at hforced
        refine ⟨_, rfl, ?_⟩
        rw [← hforced.1]
        exact h.cached hforced.2
      · exact absurd hx List.not_mem_nil
    · have hrecv : id ≤ w.sa.recvMessageId ∧ (id = w.sa.recvMessageId → w.sa.state = .dead) := by
        cases hex : w.exhausted with
        | false =>
          have := h.completed_lt hex c hmem
          exact ⟨by omega, fun heq => by omega⟩
        | true =>
          obtain ⟨hdead, hall⟩ := h.dead hex
          exact ⟨Nat.le_trans hle (hall c hmem), fun _ => hdead⟩
      split at hx
      · rename_i hord
        rw [if_pos (hrecv.2 (checkMessageOrdering_request hord).symm)] at hx
        exact absurd hx List.not_mem_nil
      · rw [if_neg (by omega)] at hx
        exact absurd hx List.not_mem_nil

end

/-- in every run of a new SA up to the exhaustion of a counter in which no response with the last id
is committed when the counter stands there: no request id is completed twice, a request that was
completed or comes before one that was is met only with the response armed for its id, no id is
minted twice, and no counter goes down -/
theorem window_ordered (isInitiator : Bool) (spiI spiR : Bytes) (localEp remoteEp : Endpoint)
    (nrounds : Fin 8) (evs : List WindowEvent)
    (hrun : Run.Meets windowStep windowOk
      (Window.start (Sa.allocate isInitiator spiI spiR localEp remoteEp) nrounds) evs) :
    ∀ w ∈ Run.states windowStep
        (Window.start (Sa.allocate isInitiator spiI spiR localEp remoteEp) nrounds) evs,
      w.completed.Nodup
      ∧ (∀ id, (∃ c ∈ w.completed, id ≤ c) → ∀ intermediate local_ remote now,
          ∀ x ∈ windowOut w (.request id intermediate local_ remote now),
            ∃ body, x = .resent id body ∧ (id, body) ∈ w.armed)
      ∧ w.minted.Nodup
      ∧ ∀ ev, windowOk w ev → w.sa.sendMessageId ≤ (windowStep w ev).sa.sendMessageId
          ∧ w.sa.recvMessageId ≤ (windowStep w ev).sa.recvMessageId := by
  intro w hmem
  have hinit : (Window.start (Sa.allocate isInitiator spiI spiR localEp remoteEp) nrounds).Ordered := by
    have hn := nrounds.isLt
    refine ⟨Nat.zero_le _, Nat.zero_le _, ?_, ?_, List.nodup_nil, ?_, List.nodup_nil, ?_, ?_, ?_, ?_⟩
    · show 0 + nrounds.val ≤ 8
      omega
    · show nrounds.val ≤ 7
      omega
    · exact fun _ m hm => absurd hm List.not_mem_nil
    · exact fun _ c hc => absurd hc List.not_mem_nil
    · exact fun hex => nomatch hex
    · exact fun harmed => nomatch harmed
    · exact fun ps hps => nomatch hps
  have hstep : ∀ w ev, w.Ordered → windowOk w ev → (windowStep w ev).Ordered :=
    fun _ ev h hok => (windowStep_ordered ev h hok).1
  have hord : w.Ordered := Run.states_inv hstep evs _ hinit hrun w hmem
  refine ⟨hord.completed, fun id hc intermediate local_ remote now => ?_, hord.minted, ?_⟩
  · exact windowOut_completed hord hc intermediate remote now
  · intro ev hok
    exact (windowStep_ordered ev hord hok).2

/-- an initiator without IKE_INTERMEDIATE -/
def Window.initiator : Window :=
  Window.start (Sa.allocate true [1] [2] (Endpoint.v4 192 0 2 1 500) (Endpoint.v4 192 0 2 2 500)) 0

/-- IKE_AUTH is sent and answered, then a request of the peer comes twice -/
def windowRun : List WindowEvent :=
  [.initDone false, .mint true, .setState .iniIkeAuthRcvd, .response 1 true, .setState .established,
    .request 0 false (Endpoint.v4 192 0 2 1 500) (Endpoint.v4 192 0 2 2 500) 5, .complete 0,
    .respond 0 [7] true (Endpoint.v4 192 0 2 1 500) (Endpoint.v4 192 0 2 2 500) 5 false none,
    .request 0 false (Endpoint.v4 192 0 2 1 500) (Endpoint.v4 192 0 2 2 500) 7]

theorem window_ordered_windowRun :
    Run.Meets windowStep windowOk Window.initiator windowRun
      ∧ (windowRun.foldl windowStep Window.initiator).completed = [0]
      ∧ ∀ x ∈ windowOut (windowRun.foldl windowStep Window.initiator)
          (.request 0 false (Endpoint.v4 192 0 2 1 500) (Endpoint.v4 192 0 2 2 500) 9),
        ∃ body, x = .resent 0 body
          ∧ (0, body) ∈ (windowRun.foldl windowStep Window.initiator).armed := by
  refine ⟨by decide +kernel, by decide +kernel, ?_⟩
  have hmem : windowRun.foldl windowStep Window.initiator
      ∈ Run.states windowStep Window.initiator windowRun := Run.foldl_mem_states windowRun _
  have hmeets : Run.Meets windowStep windowOk Window.initiator windowRun := by decide +kernel
  exact (window_ordered true [1] [2] _ _ 0 windowRun hmeets _ hmem).2.1 0 (by decide +kernel)
    false _ _ 9

/-! ## a response with the last id -/

/-- the responses of a peer that answers IKE_AUTH with one id after the other -/
def climb (id n : Nat) : List WindowEvent := (List.range' id n).map fun id => .response id true

/-- each of them is committed before its request is looked up -/
theorem climb_send (n : Nat) : ∀ w : Window, w.sa.state = .iniIkeAuthRcvd → w.exhausted = false →
    w.sa.sendMessageId + n ≤ messageIdMax →
    (∀ w' ∈ Run.states windowStep w (climb w.sa.sendMessageId n), w'.exhausted = false)
      ∧ ((climb w.sa.sendMessageId n).foldl windowStep w).sa.sendMessageId = w.sa.sendMessageId + n
      ∧ ((climb w.sa.sendMessageId n).foldl windowStep w).sa.state = .iniIkeAuthRcvd := by
  induction n with
  | zero =>
    intro w hst hrun _
    refine ⟨fun w' hmem => ?_, rfl, hst⟩
    rw [List.mem_singleton.mp hmem]
    exact hrun
  | succ n ih =>
    intro w hst hrun hle
    have hmax : messageIdMax = 2 ^ 32 - 1 := rfl
    have hcommit : w.commits w.sa.sendMessageId true = true := by
      unfold Window.commits
      rw [hst]
      simp [checkMessageOrdering]
    have hstep : w.response w.sa.sendMessageId true = { w with
        sa := updateMessageIdResponse w.sa w.sa.sendMessageId
        waiting := w.waiting.filter fun x => x != w.sa.sendMessageId } := if_pos hcommit
    have hsend : (w.response w.sa.sendMessageId true).sa.sendMessageId
        = w.sa.sendMessageId + 1 := by
      rw [hstep]
      show (if w.sa.sendMessageId ≤ w.sa.sendMessageId then _ else _) = _
      rw [if_pos (Nat.le_refl _), Nat.mod_eq_of_lt (by omega)]
    have hnext := ih (w.response w.sa.sendMessageId true) (by rw [hstep]; exact hst)
      (by rw [hstep]; exact hrun) (by rw [hsend]; omega)
    rw [hsend] at hnext
    obtain ⟨hstates, hlast, hstate⟩ := hnext
    refine ⟨fun w' hmem => ?_, ?_, hstate⟩
    · rcases List.mem_cons.mp hmem with rfl | hmem
      · exact hrun
      · exact hstates w' hmem
    · rw [show w.sa.sendMessageId + (n + 1) = w.sa.sendMessageId + 1 + n by omega]
      exact hlast

/-- the initiator waits for the answer of IKE_AUTH, the counter at 2 -/
def Window.authSent : Window :=
  [WindowEvent.initDone false, .mint true, .setState .iniIkeAuthRcvd].foldl windowStep
    Window.initiator

/-- the counter stands at its last value -/
theorem response_wraps {w : Window} (hsend : w.sa.sendMessageId = messageIdMax)
    (hst : w.sa.state = .iniIkeAuthRcvd) :
    (windowStep w (.response messageIdMax true)).sa.sendMessageId = 0 := by
  have hcommit : w.commits messageIdMax true = true := by
    unfold Window.commits
    rw [hst]
    simp [checkMessageOrdering, hsend]
  show (w.response messageIdMax true).sa.sendMessageId = 0
  unfold Window.response
  rw [if_pos hcommit]
  show (if w.sa.sendMessageId ≤ messageIdMax then (messageIdMax + 1) % 2 ^ 32 else _) = 0
  rw [if_pos (Nat.le_of_eq hsend)]
  rfl

/-- the peer answers with the ids up to the last one: the counter falls from `0xFFFFFFFF` to 0 -/
theorem window_wraps :
    ∃ evs, (∀ w ∈ Run.states windowStep Window.initiator evs, w.exhausted = false)
      ∧ (evs.foldl windowStep Window.initiator).sa.sendMessageId = messageIdMax
      ∧ (windowStep (evs.foldl windowStep Window.initiator)
          (.response messageIdMax true)).sa.sendMessageId = 0 := by
  have htwo : Window.authSent.sa.sendMessageId = 2 := by decide +kernel
  have hst : Window.authSent.sa.state = .iniIkeAuthRcvd := by decide +kernel
  have hrun : Window.authSent.exhausted = false := by decide +kernel
  obtain ⟨n, hn⟩ : ∃ n, 2 + n = messageIdMax := ⟨messageIdMax - 2, by decide +kernel⟩
  have hclimb := climb_send n Window.authSent hst hrun (by rw [htwo, hn])
  rw [htwo, hn] at hclimb
  obtain ⟨hstates, hsend, hlast⟩ := hclimb
  refine ⟨.initDone false :: .mint true :: .setState .iniIkeAuthRcvd :: climb 2 n, ?_, hsend,
    response_wraps hsend hlast⟩
  intro w hmem
  rcases List.mem_cons.mp hmem with rfl | hmem
  · decide +kernel
  rcases List.mem_cons.mp hmem with rfl | hmem
  · decide +kernel
  rcases List.mem_cons.mp hmem with rfl | hmem
  · decide +kernel
  · exact hstates w hmem

end Ikev2
