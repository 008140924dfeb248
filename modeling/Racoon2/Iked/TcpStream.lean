import Racoon2.Lib.Run
import Racoon2.Iked.TcpFrame

/-!
# The send side of IKE over TCP

`tcp_stream_send` puts a message in the output buffer, `tcp_stream_flush` writes from it: as much as
the socket takes, until it says EAGAIN.  Without espintcp our own framing is in the buffer, behind
the stream prefix of the connection's originator.  With espintcp the kernel frames what one `send`
hands over, so the buffer has the bare marker and message, and the prefix is written before the
kernel's framing is loaded.

* `TcpStream.Sound`     what the peer may see: a part of the prefix and the framed messages, then the
                        records of the messages, one by one;
* `tcp_sends_in_order`  so it stays, as long as an espintcp stream has no short write and no two
                        messages in its buffer, and espintcp is switched on between messages;
* `tcp_prefix_twice`    a short write of the prefix.
-/

set_option linter.unusedVariables false

namespace Ikev2
open Bytes

/-! ## the stream -/

/-- `TCP_STREAM_OBUF_CAP` -/
def tcpStreamObufCap : Nat := 6 + 6 + tcpMaxlen

/-- what `send` does with the octets it is handed: it takes all but `left` of them, or fails -/
inductive SendAnswer where
  | wrote (left : Nat)
  | eintr
  | eagain
  | error
  deriving DecidableEq, Repr

/-- the answers of the socket, EAGAIN after the last, and whether the kernel loads its framing
(`TCP_ULP`) -/
structure SendEnv where
  answers : List SendAnswer
  ulp : Bool
  deriving DecidableEq, Repr

/-- `struct tcp_stream`, the part that sends.  `obuf` has the `obuf_len` octets in the buffer.  What
the stream was and did so far: whether we originated the connection, what each `send` took, and
whether the kernel framed it, and the messages that were put in the buffer, and in which mode -/
structure TcpStream where
  connecting : Bool
  espintcp : Bool
  espintcpUlp : Bool
  prefixPending : Bool
  prefixSent : Bool
  obuf : Bytes
  obufOff : Nat
  dead : Bool
  originator : Bool
  wire : List (Bool × Bytes)
  queued : List (Bool × Bytes)
  deriving DecidableEq, Repr

/-- `tcp_stream_accept` -/
def tcpStreamAccept : TcpStream where
  connecting := false
  espintcp := false
  espintcpUlp := false
  prefixPending := false
  prefixSent := true
  obuf := []
  obufOff := 0
  dead := false
  originator := false
  wire := []
  queued := []

/-- `tcp_stream_connect` -/
def tcpStreamConnect : TcpStream :=
  { tcpStreamAccept with connecting := true, prefixSent := false, originator := true }

section
variable (ts : TcpStream)

/-- what is still in the buffer -/
def TcpStream.pending : Bytes := ts.obuf.drop ts.obufOff

/-- the octets of one `send` are gone -/
def TcpStream.took (octets : Bytes) : TcpStream :=
  { ts with wire := ts.wire ++ [(ts.espintcpUlp, octets)] }

/-- the loop of `tcp_stream_flush` -/
def flushLoop : List SendAnswer → TcpStream → TcpStream × Int
  | [], ts =>
    if ts.obufOff < ts.obuf.length then (ts, 1) else ({ ts with obuf := [], obufOff := 0 }, 0)
  | answer :: answers, ts =>
    if ts.obufOff < ts.obuf.length then
      match answer with
      | .eintr => flushLoop answers ts
      | .eagain => (ts, 1)
      | .error => (ts, -1)
      | .wrote left =>
        let n := ts.obuf.length - ts.obufOff - left
        flushLoop answers
          { ts.took (slice ts.obuf ts.obufOff n) with obufOff := ts.obufOff + n }
    else ({ ts with obuf := [], obufOff := 0 }, 0)

/-- the originator of an espintcp stream writes the prefix plain, then loads the kernel's framing -/
def flushPrefix (env : SendEnv) : TcpStream × Int :=
  match env.answers with
  | [] => (ts, 1)
  | .eintr :: _ => (ts, 1)
  | .eagain :: _ => (ts, 1)
  | .error :: _ => (ts, -1)
  | .wrote left :: answers =>
    let written := tcpPrefixOctets.take (6 - left)
    if written.length ≠ 6 then (ts.took written, 1)
    else if !env.ulp then (ts.took written, -1)
    else flushLoop answers { ts.took written with espintcpUlp := true, prefixPending := false }

/-- `tcp_stream_flush` -/
def tcpStreamFlush (env : SendEnv) : TcpStream × Int :=
  if ts.dead then (ts, -1)
  else if ts.connecting then (ts, 1)
  else if ts.espintcp && ts.prefixPending && !ts.espintcpUlp then flushPrefix ts env
  else flushLoop env.answers ts

/-- the record goes behind what is in the buffer -/
def TcpStream.append (rec : Bytes) (mode : Bool) (ike : Bytes) : TcpStream :=
  { ts with obuf := ts.obuf ++ rec, prefixSent := true, queued := ts.queued ++ [(mode, ike)] }

/-- the second half of `tcp_stream_send`: make room, queue, flush -/
def sendRecord (rec ike : Bytes) (first second : SendEnv) : TcpStream × Int :=
  let ts := { ts with obuf := ts.obuf.drop ts.obufOff, obufOff := 0 }
  if tcpStreamObufCap < ts.obuf.length + rec.length then
    let flushed := tcpStreamFlush ts first
    if flushed.2 < 0 then (flushed.1, -1)
    else if tcpStreamObufCap < flushed.1.obuf.length + rec.length then (flushed.1, 2)
    else tcpStreamFlush (flushed.1.append rec ts.espintcp ike) second
  else tcpStreamFlush (ts.append rec ts.espintcp ike) second

/-- `tcp_stream_send`; `first` and `second` are for the flush that makes room and the last one -/
def tcpStreamSend (ike : Bytes) (first second : SendEnv) : TcpStream × Int :=
  if ts.dead then (ts, -1)
  else if ts.espintcp then
    let ts := if ts.prefixSent then ts else { ts with prefixPending := true, prefixSent := true }
    if tcpRecordCap < 4 + ike.length then (ts, 2)
    else sendRecord ts (nonEspMarker ++ ike) ike first second
  else
    let begun := if ts.prefixSent then some [] else tcpStreamBegin []
    match begun.bind (tcpRecordIke · ike) with
    | none => (ts, 2)
    | some rec => sendRecord ts rec ike first second

/-- `ts_ulp_apply` -/
def tsUlpApply (ulp : Bool) : TcpStream × Int :=
  if ts.espintcpUlp then (ts, 0) else if ulp then ({ ts with espintcpUlp := true }, 0) else (ts, -1)

/-- `tcp_stream_enable_espintcp` -/
def tcpStreamEnableEspintcp (ulp : Bool) : TcpStream × Int :=
  let ts := { ts with espintcp := true }
  if ts.prefixSent then tsUlpApply ts ulp else (ts, 0)

end

/-! ## runs -/

inductive TcpEvent where
  | send (ike : Bytes) (first second : SendEnv)
  | flush (env : SendEnv)
  /-- `tcp_stream_connect_done`, and what SO_ERROR says -/
  | connectDone (ok : Bool)
  | enable (ulp : Bool)
  /-- `tcp_srv_teardown` -/
  | teardown
  deriving DecidableEq, Repr

/-- the callers of `tcp_stream_send` and `tcp_stream_flush` give the stream up on -1 -/
def giveUp (r : TcpStream × Int) : TcpStream := if r.2 < 0 then { r.1 with dead := true } else r.1

def tcpStep (ts : TcpStream) : TcpEvent → TcpStream
  | .send ike first second => giveUp (tcpStreamSend ts ike first second)
  | .flush env => giveUp (tcpStreamFlush ts env)
  | .connectDone ok =>
    if ts.connecting then
      if ok then { ts with connecting := false } else { ts with dead := true }
    else ts
  | .enable ulp => (tcpStreamEnableEspintcp ts ulp).1
  | .teardown => { ts with dead := true }

/-! ## what the peer may see -/

/-- the octets that went out without the kernel's framing -/
def plainOf (wire : List (Bool × Bytes)) : Bytes := ((wire.filter (!·.1)).map Prod.snd).flatten

/-- the records of the kernel -/
def recordsOf (wire : List (Bool × Bytes)) : List Bytes := (wire.filter (·.1)).map Prod.snd

/-- the messages of a mode -/
def messagesOf (espintcp : Bool) (queued : List (Bool × Bytes)) : List Bytes :=
  (queued.filter (·.1 == espintcp)).map Prod.snd

section
variable (ts : TcpStream)

def TcpStream.start : Bytes := if ts.originator then tcpPrefixOctets else []

/-- the prefix and the messages with our own framing -/
def TcpStream.framed : Bytes := ts.start ++ (messagesOf false ts.queued).flatMap ikeRecord

/-- the records that the kernel is to make -/
def TcpStream.espRecords : List Bytes := (messagesOf true ts.queued).map (nonEspMarker ++ ·)

/-- the octets written are a part of the prefix and the framed messages; the records made are the
first messages of an espintcp stream, one by one; and where nothing waits in the buffer, nothing is
missing -/
structure TcpStream.Sound : Prop where
  plain : plainOf ts.wire <+: ts.framed
  records : recordsOf ts.wire <+: ts.espRecords
  order : recordsOf ts.wire ≠ [] → plainOf ts.wire = ts.framed
  kept : ts.dead = false → ts.pending = [] → ts.queued ≠ [] →
    plainOf ts.wire = ts.framed ∧ recordsOf ts.wire = ts.espRecords

end

/-- no write is short -/
def SendEnv.whole (env : SendEnv) : Bool :=
  env.answers.all fun
    | .wrote left => left == 0
    | _ => true

/-- an espintcp stream has no short write and no two messages in its buffer (a message that does not
fit beside what is there is not queued with it), and the mode is switched on between messages, with
a kernel that knows it -/
def tcpOk (ts : TcpStream) : TcpEvent → Prop
  | .send ike first second => ts.dead = true ∨ ts.espintcp = false ∨ first.whole = true ∧
      second.whole = true ∧
      (ts.pending = [] ∨ tcpStreamObufCap < ts.pending.length + (4 + ike.length))
  | .flush env => ts.dead = true ∨ ts.espintcp = false ∨ env.whole = true
  | .connectDone _ => True
  | .enable ulp => ts.dead = true ∨ ts.espintcpUlp = true ∨
      ts.pending = [] ∧ ts.prefixPending = false ∧ (ts.prefixSent = true → ulp = true)
  | .teardown => True

instance tcpOk.decidable (ts : TcpStream) : ∀ ev, Decidable (tcpOk ts ev)
  | .send ike first second => inferInstanceAs (Decidable (ts.dead = true ∨ ts.espintcp = false ∨
      first.whole = true ∧ second.whole = true ∧
      (ts.pending = [] ∨ tcpStreamObufCap < ts.pending.length + (4 + ike.length))))
  | .flush env => inferInstanceAs (Decidable (ts.dead = true ∨ ts.espintcp = false ∨ env.whole = true))
  | .connectDone _ => inferInstanceAs (Decidable True)
  | .enable ulp => inferInstanceAs (Decidable (ts.dead = true ∨ ts.espintcpUlp = true ∨
      ts.pending = [] ∧ ts.prefixPending = false ∧ (ts.prefixSent = true → ulp = true)))
  | .teardown => inferInstanceAs (Decidable True)

/-! ## the invariant -/

/-- what is in the buffer of an espintcp stream is one record -/
def oneRecord (octets : Bytes) : List Bytes := if octets = [] then [] else [octets]

section
variable (ts : TcpStream)

/-- our own framing -/
structure TcpStream.Manual : Prop where
  espintcp : ts.espintcp = false
  ulp : ts.espintcpUlp = false
  noPrefix : ts.prefixPending = false
  octets : plainOf ts.wire ++ ts.pending
    = (if ts.prefixSent then ts.start else []) ++ (messagesOf false ts.queued).flatMap ikeRecord
  records : recordsOf ts.wire = []
  messages : messagesOf true ts.queued = []
  fresh : ts.prefixSent = false → ts.originator = true ∧ ts.queued = []

/-- the kernel's framing -/
structure TcpStream.Loaded : Prop where
  espintcp : ts.espintcp = true
  ulp : ts.espintcpUlp = true
  noPrefix : ts.prefixPending = false
  sent : ts.prefixSent = true
  octets : plainOf ts.wire = ts.framed
  records : recordsOf ts.wire ++ oneRecord ts.pending = ts.espRecords

/-- espintcp is on, and the prefix is still to be written -/
structure TcpStream.Waiting : Prop where
  espintcp : ts.espintcp = true
  ulp : ts.espintcpUlp = false
  originator : ts.originator = true
  octets : plainOf ts.wire = []
  records : recordsOf ts.wire = []
  messages : messagesOf false ts.queued = []
  buffer : oneRecord ts.pending = ts.espRecords
  pend : ts.prefixPending = ts.prefixSent
  fresh : ts.prefixSent = false → ts.pending = []

inductive TcpStream.Live : Prop
  | manual (h : ts.Manual)
  | loaded (h : ts.Loaded)
  | waiting (h : ts.Waiting)

end

section
variable {ts : TcpStream} {wire queued : List (Bool × Bytes)} {o : Bytes}

theorem plainOf_plain : plainOf (wire ++ [(false, o)]) = plainOf wire ++ o := by
  simp [plainOf, List.filter_append]

theorem plainOf_record : plainOf (wire ++ [(true, o)]) = plainOf wire := by
  simp [plainOf, List.filter_append]

theorem recordsOf_plain : recordsOf (wire ++ [(false, o)]) = recordsOf wire := by
  simp [recordsOf, List.filter_append]

theorem recordsOf_record : recordsOf (wire ++ [(true, o)]) = recordsOf wire ++ [o] := by
  simp [recordsOf, List.filter_append]

theorem messagesOf_same (mode : Bool) :
    messagesOf mode (queued ++ [(mode, o)]) = messagesOf mode queued ++ [o] := by
  simp [messagesOf, List.filter_append]

theorem messagesOf_other {mode mode' : Bool} (h : mode' ≠ mode) :
    messagesOf mode (queued ++ [(mode', o)]) = messagesOf mode queued := by
  simp [messagesOf, List.filter_append, h]

theorem oneRecord_nil : oneRecord [] = [] := rfl

theorem oneRecord_ne {o : Bytes} (h : o ≠ []) : oneRecord o = [o] := if_neg h

theorem TcpStream.Manual.sound (h : ts.Manual) : ts.Sound := by
  have hrec : recordsOf ts.wire <+: ts.espRecords := by
    rw [h.records]
    exact List.nil_prefix
  cases hsent : ts.prefixSent with
  | true =>
    have hall : plainOf ts.wire ++ ts.pending = ts.framed := by
      have hoct := h.octets
      rw [hsent, if_pos rfl] at hoct
      exact hoct
    refine ⟨⟨ts.pending, hall⟩, hrec, fun hne => absurd h.records hne, fun _ hnil _ => ⟨?_, ?_⟩⟩
    · rw [← hall, hnil, List.append_nil]
    · rw [h.records]
      unfold TcpStream.espRecords
      rw [h.messages]
      rfl
  | false =>
    obtain ⟨_, hempty⟩ := h.fresh hsent
    have hoct := h.octets
    rw [hsent, if_neg (by simp), hempty] at hoct
    have hplain : plainOf ts.wire = [] := (List.append_eq_nil_iff.mp hoct).1
    refine ⟨?_, hrec, fun hne => absurd h.records hne, fun _ _ hq => absurd hempty hq⟩
    rw [hplain]
    exact List.nil_prefix

theorem TcpStream.Loaded.sound (h : ts.Loaded) : ts.Sound := by
  refine ⟨?_, ⟨_, h.records⟩, fun _ => h.octets, fun _ hnil _ => ⟨h.octets, ?_⟩⟩
  · rw [h.octets]
  · rw [← h.records, hnil, oneRecord_nil, List.append_nil]

theorem TcpStream.Waiting.sound (h : ts.Waiting) : ts.Sound := by
  refine ⟨?_, ?_, fun hne => absurd h.records hne, fun _ hnil hq => ?_⟩
  · rw [h.octets]
    exact List.nil_prefix
  · rw [h.records]
    exact List.nil_prefix
  · -- every message is in the buffer, so none was queued
    have hesp : messagesOf true ts.queued = [] := by
      have hbuf := h.buffer
      rw [hnil, oneRecord_nil] at hbuf
      exact List.map_eq_nil_iff.mp hbuf.symm
    refine absurd ?_ hq
    rcases hcase : ts.queued with _ | ⟨⟨mode, o⟩, rest⟩
    · rfl
    · have hman := h.messages
      rw [hcase] at hesp hman
      cases mode <;> simp [messagesOf] at hesp hman

theorem TcpStream.Live.sound (h : ts.Live) : ts.Sound := by
  cases h with
  | manual h => exact h.sound
  | loaded h => exact h.sound
  | waiting h => exact h.sound

end

/-! ## flushing -/

section
variable {ts : TcpStream}

/-- the loop writes from the buffer and changes nothing else; the buffer is emptied or kept -/
structure Flushed (ts : TcpStream) (obuf : Bytes) (off : Nat) (wire : List (Bool × Bytes))
    (ts' : TcpStream) : Prop where
  eq : ts' = { ts with obuf := obuf, obufOff := off, wire := wire }
  obuf : obuf = ts.obuf ∨ obuf = [] ∧ off = 0

/-- the loop ends when nothing is left -/
theorem TcpStream.pending_eq_nil : ts.pending = [] ↔ ¬ ts.obufOff < ts.obuf.length :=
  List.drop_eq_nil_iff.trans Nat.not_lt.symm

theorem flushLoop_idle (answers : List SendAnswer) (h : ts.pending = []) :
    flushLoop answers ts = ({ ts with obuf := [], obufOff := 0 }, 0) := by
  have hoff := TcpStream.pending_eq_nil.mp h
  cases answers with
  | nil => exact if_neg hoff
  | cons a as => exact if_neg hoff

/-- what one `send` takes is the front of what is in the buffer -/
theorem TcpStream.taken (ts : TcpStream) (n : Nat) :
    slice ts.obuf ts.obufOff n ++ ts.obuf.drop (ts.obufOff + n) = ts.pending :=
  slice_append_drop ts.obuf ts.obufOff n

theorem flushLoop_manual (answers : List SendAnswer) : ∀ ts : TcpStream, ts.espintcpUlp = false →
    ∃ obuf off wire, Flushed ts obuf off wire (flushLoop answers ts).1
      ∧ plainOf wire ++ obuf.drop off = plainOf ts.wire ++ ts.pending
      ∧ recordsOf wire = recordsOf ts.wire := by
  induction answers with
  | nil =>
    intro ts hulp
    unfold flushLoop
    split
    · exact ⟨_, _, _, ⟨rfl, Or.inl rfl⟩, rfl, rfl⟩
    · next hoff =>
      refine ⟨[], 0, ts.wire, ⟨rfl, Or.inr ⟨rfl, rfl⟩⟩, ?_, rfl⟩
      rw [TcpStream.pending_eq_nil.mpr hoff]
      rfl
  | cons answer answers ih =>
    intro ts hulp
    unfold flushLoop
    split
    · cases answer with
      | eintr => exact ih ts hulp
      | eagain => exact ⟨_, _, _, ⟨rfl, Or.inl rfl⟩, rfl, rfl⟩
      | error => exact ⟨_, _, _, ⟨rfl, Or.inl rfl⟩, rfl, rfl⟩
      | wrote left =>
        dsimp only
        generalize ts.obuf.length - ts.obufOff - left = n
        obtain ⟨obuf, off, wire, hfl, hplain, hrec⟩ := ih
          { ts.took (slice ts.obuf ts.obufOff n) with obufOff := ts.obufOff + n } hulp
        refine ⟨obuf, off, wire, ⟨hfl.eq, hfl.obuf⟩, ?_, ?_⟩
        · rw [hplain]
          show plainOf (ts.wire ++ [(ts.espintcpUlp, _)]) ++ ts.obuf.drop (ts.obufOff + n) = _
          rw [hulp, plainOf_plain, List.append_assoc, ts.taken]
        · rw [hrec]
          show recordsOf (ts.wire ++ [(ts.espintcpUlp, _)]) = _
          rw [hulp, recordsOf_plain]
    · next hoff =>
      refine ⟨[], 0, ts.wire, ⟨rfl, Or.inr ⟨rfl, rfl⟩⟩, ?_, rfl⟩
      rw [TcpStream.pending_eq_nil.mpr hoff]
      rfl

theorem flushLoop_loaded (answers : List SendAnswer) : ∀ ts : TcpStream, ts.espintcpUlp = true →
    (∀ left, .wrote left ∈ answers → left = 0) →
    ∃ obuf off wire, Flushed ts obuf off wire (flushLoop answers ts).1
      ∧ plainOf wire = plainOf ts.wire
      ∧ recordsOf wire ++ oneRecord (obuf.drop off) = recordsOf ts.wire ++ oneRecord ts.pending := by
  induction answers with
  | nil =>
    intro ts hulp hwhole
    unfold flushLoop
    split
    · exact ⟨_, _, _, ⟨rfl, Or.inl rfl⟩, rfl, rfl⟩
    · next hoff =>
      refine ⟨[], 0, ts.wire, ⟨rfl, Or.inr ⟨rfl, rfl⟩⟩, rfl, ?_⟩
      rw [TcpStream.pending_eq_nil.mpr hoff]
      rfl
  | cons answer answers ih =>
    intro ts hulp hwhole
    unfold flushLoop
    have hrest : ∀ left, .wrote left ∈ answers → left = 0 :=
      fun left hl => hwhole left (List.mem_cons_of_mem _ hl)
    split
    · next hoff =>
      cases answer with
      | eintr => exact ih ts hulp hrest
      | eagain => exact ⟨_, _, _, ⟨rfl, Or.inl rfl⟩, rfl, rfl⟩
      | error => exact ⟨_, _, _, ⟨rfl, Or.inl rfl⟩, rfl, rfl⟩
      | wrote left =>
        -- the whole buffer goes out as one record, and the loop is at its end
        have hleft := hwhole left List.mem_cons_self
        subst hleft
        have hend : ts.obufOff + (ts.obuf.length - ts.obufOff - 0) = ts.obuf.length := by omega
        have hall : slice ts.obuf ts.obufOff (ts.obuf.length - ts.obufOff - 0) = ts.pending := by
          have htaken := ts.taken (ts.obuf.length - ts.obufOff - 0)
          rw [hend, List.drop_length, List.append_nil] at htaken
          exact htaken
        have hne : ts.pending ≠ [] := fun hnil => TcpStream.pending_eq_nil.mp hnil hoff
        dsimp only
        rw [hend, hall, flushLoop_idle answers (by
          unfold TcpStream.pending TcpStream.took
          exact List.drop_length)]
        refine ⟨[], 0, _, ⟨rfl, Or.inr ⟨rfl, rfl⟩⟩, ?_, ?_⟩
        · show plainOf (ts.wire ++ [(ts.espintcpUlp, _)]) = _
          rw [hulp, plainOf_record]
        · show recordsOf (ts.wire ++ [(ts.espintcpUlp, _)]) ++ [] = _
          rw [hulp, recordsOf_record, List.append_nil, oneRecord_ne hne]
    · next hoff =>
      refine ⟨[], 0, ts.wire, ⟨rfl, Or.inr ⟨rfl, rfl⟩⟩, rfl, ?_⟩
      rw [TcpStream.pending_eq_nil.mpr hoff]
      rfl

theorem SendEnv.whole_iff {env : SendEnv} :
    env.whole = true ↔ ∀ left, .wrote left ∈ env.answers → left = 0 := by
  unfold SendEnv.whole
  rw [List.all_eq_true]
  constructor
  · intro h left hl
    simpa using h _ hl
  · intro h a ha
    cases a with
    | wrote left => simpa using h left ha
    | eintr => rfl
    | eagain => rfl
    | error => rfl

theorem TcpStream.Manual.flushLoop (h : ts.Manual) (answers : List SendAnswer) :
    (flushLoop answers ts).1.Manual := by
  obtain ⟨obuf, off, wire, hfl, hplain, hrec⟩ := flushLoop_manual answers ts h.ulp
  rw [hfl.eq]
  exact ⟨h.espintcp, h.ulp, h.noPrefix, hplain.trans h.octets, hrec.trans h.records, h.messages,
    h.fresh⟩

theorem TcpStream.Loaded.flushLoop (h : ts.Loaded) {answers : List SendAnswer}
    (hwhole : ∀ left, .wrote left ∈ answers → left = 0) : (flushLoop answers ts).1.Loaded := by
  obtain ⟨obuf, off, wire, hfl, hplain, hrec⟩ := flushLoop_loaded answers ts h.ulp hwhole
  rw [hfl.eq]
  exact ⟨h.espintcp, h.ulp, h.noPrefix, h.sent, hplain.trans h.octets, hrec.trans h.records⟩

/-- the stream is as it should be, or it is and the call says -1 -/
def GoesOn (r : TcpStream × Int) : Prop := r.1.Live ∨ (r.1.Sound ∧ r.2 < 0)

theorem flushPrefix_goesOn (h : ts.Waiting) (hsent : ts.prefixSent = true) {env : SendEnv}
    (hwhole : env.whole = true) : GoesOn (flushPrefix ts env) := by
  have hw := SendEnv.whole_iff.mp hwhole
  unfold flushPrefix
  split
  · exact Or.inl (.waiting h)
  · exact Or.inl (.waiting h)
  · exact Or.inl (.waiting h)
  · exact Or.inl (.waiting h)
  · next left answers heq =>
    rw [heq] at hw
    have hleft := hw left List.mem_cons_self
    subst hleft
    have hplain : plainOf (ts.wire ++ [(ts.espintcpUlp, tcpPrefixOctets)]) = ts.framed := by
      unfold TcpStream.framed TcpStream.start
      rw [h.ulp, plainOf_plain, h.octets, h.messages, h.originator, if_pos rfl]
      rfl
    have hrec : recordsOf (ts.wire ++ [(ts.espintcpUlp, tcpPrefixOctets)]) = [] := by
      rw [h.ulp, recordsOf_plain, h.records]
    dsimp only
    rw [if_neg (by decide)]
    split
    · -- the kernel does not load its framing
      refine Or.inr ⟨⟨?_, ?_, fun _ => hplain, fun _ hnil hq => ?_⟩, by show (-1 : Int) < 0; decide⟩
      · show plainOf (ts.wire ++ [(ts.espintcpUlp, tcpPrefixOctets)]) <+: ts.framed
        rw [hplain]
      · show recordsOf (ts.wire ++ [(ts.espintcpUlp, tcpPrefixOctets)]) <+: ts.espRecords
        rw [hrec]
        exact List.nil_prefix
      · refine ⟨hplain, hrec.trans ?_⟩
        have hbuf := h.buffer
        have hnil' : ts.pending = [] := hnil
        rw [hnil'] at hbuf
        exact hbuf
    · refine Or.inl (.loaded (TcpStream.Loaded.flushLoop ?_ fun left hl =>
        hw left (List.mem_cons_of_mem _ hl)))
      refine ⟨h.espintcp, rfl, rfl, hsent, hplain, ?_⟩
      show recordsOf (ts.wire ++ [(ts.espintcpUlp, tcpPrefixOctets)]) ++ oneRecord ts.pending = _
      rw [hrec, List.nil_append]
      exact h.buffer

theorem tcpStreamFlush_goesOn (h : ts.Live) {env : SendEnv}
    (hok : ts.espintcp = false ∨ env.whole = true) : GoesOn (tcpStreamFlush ts env) := by
  unfold tcpStreamFlush
  split
  · exact Or.inl h
  · split
    · exact Or.inl h
    · split
      · next hplen =>
        simp only [Bool.and_eq_true, Bool.not_eq_true'] at hplen
        obtain ⟨⟨hmode, hpend⟩, hulp⟩ := hplen
        cases h with
        | manual h => exact absurd (hmode.symm.trans h.espintcp) (by simp)
        | loaded h => exact absurd (hulp.symm.trans h.ulp) (by simp)
        | waiting h =>
          exact flushPrefix_goesOn h (h.pend.symm.trans hpend)
            (hok.resolve_left (by rw [hmode]; simp))
      · next hplen =>
        left
        cases h with
        | manual h => exact .manual (h.flushLoop env.answers)
        | loaded h =>
          exact .loaded (h.flushLoop (SendEnv.whole_iff.mp (hok.resolve_left (by
            rw [h.espintcp]; simp))))
        | waiting h =>
          -- nothing was sent yet
          have hsent : ts.prefixSent = false := by
            rw [h.espintcp, h.ulp, h.pend] at hplen
            simpa using hplen
          have hnil := h.fresh hsent
          rw [flushLoop_idle env.answers hnil]
          refine .waiting ⟨h.espintcp, h.ulp, h.originator, h.octets, h.records, h.messages, ?_,
            h.pend, fun _ => rfl⟩
          have hbuf := h.buffer
          rw [hnil] at hbuf
          exact hbuf

/-- a flush empties the buffer or keeps it, and leaves the modes alone -/
structure SameMode (ts ts' : TcpStream) : Prop where
  obuf : ts'.obuf = ts.obuf ∨ ts'.obuf = [] ∧ ts'.obufOff = 0
  espintcp : ts'.espintcp = ts.espintcp
  prefixSent : ts'.prefixSent = ts.prefixSent

theorem flushLoop_sameMode (answers : List SendAnswer) :
    ∀ ts : TcpStream, SameMode ts (flushLoop answers ts).1 := by
  induction answers with
  | nil =>
    intro ts
    unfold flushLoop
    split
    · exact ⟨Or.inl rfl, rfl, rfl⟩
    · exact ⟨Or.inr ⟨rfl, rfl⟩, rfl, rfl⟩
  | cons answer answers ih =>
    intro ts
    unfold flushLoop
    split
    · cases answer with
      | eintr => exact ih ts
      | eagain => exact ⟨Or.inl rfl, rfl, rfl⟩
      | error => exact ⟨Or.inl rfl, rfl, rfl⟩
      | wrote left =>
        have hnext := ih { ts.took (slice ts.obuf ts.obufOff (ts.obuf.length - ts.obufOff - left)) with
          obufOff := ts.obufOff + (ts.obuf.length - ts.obufOff - left) }
        exact ⟨hnext.obuf, hnext.espintcp, hnext.prefixSent⟩
    · exact ⟨Or.inr ⟨rfl, rfl⟩, rfl, rfl⟩

theorem tcpStreamFlush_sameMode (ts : TcpStream) (env : SendEnv) :
    SameMode ts (tcpStreamFlush ts env).1 := by
  have hsame : SameMode ts ts := ⟨Or.inl rfl, rfl, rfl⟩
  unfold tcpStreamFlush
  split
  · exact hsame
  · split
    · exact hsame
    · split
      · unfold flushPrefix
        split
        · exact hsame
        · exact hsame
        · exact hsame
        · exact hsame
        · dsimp only
          split
          · exact ⟨Or.inl rfl, rfl, rfl⟩
          · split
            · exact ⟨Or.inl rfl, rfl, rfl⟩
            · have hnext := flushLoop_sameMode ‹_› { ts.took (tcpPrefixOctets.take (6 - ‹_›)) with
                espintcpUlp := true, prefixPending := false }
              exact ⟨hnext.obuf, hnext.espintcp, hnext.prefixSent⟩
      · exact flushLoop_sameMode env.answers ts

/-! ## sending -/

theorem TcpStream.Live.compact (h : ts.Live) :
    TcpStream.Live { ts with obuf := ts.obuf.drop ts.obufOff, obufOff := 0 } := by
  cases h with
  | manual h =>
    exact .manual ⟨h.espintcp, h.ulp, h.noPrefix, h.octets, h.records, h.messages, h.fresh⟩
  | loaded h => exact .loaded ⟨h.espintcp, h.ulp, h.noPrefix, h.sent, h.octets, h.records⟩
  | waiting h =>
    exact .waiting ⟨h.espintcp, h.ulp, h.originator, h.octets, h.records, h.messages, h.buffer,
      h.pend, h.fresh⟩

/-- the record of a message in the mode of the stream -/
def TcpStream.RecordOf (ts : TcpStream) (rec ike : Bytes) : Prop :=
  if ts.espintcp then rec = nonEspMarker ++ ike ∧ ts.prefixSent = true
  else rec = (if ts.prefixSent then [] else tcpPrefixOctets) ++ ikeRecord ike

theorem TcpStream.Manual.append (h : ts.Manual) (hoff : ts.obufOff = 0) {rec ike : Bytes}
    (hrec : rec = (if ts.prefixSent then [] else tcpPrefixOctets) ++ ikeRecord ike) :
    (ts.append rec false ike).Manual := by
  have hpend : ts.pending = ts.obuf := by
    unfold TcpStream.pending
    rw [hoff, List.drop_zero]
  have hoct := h.octets
  rw [hpend] at hoct
  refine ⟨h.espintcp, h.ulp, h.noPrefix, ?_, h.records, ?_, fun hsent => nomatch hsent⟩
  · show plainOf ts.wire ++ (ts.obuf ++ rec).drop ts.obufOff
      = ts.start ++ (messagesOf false (ts.queued ++ [(false, ike)])).flatMap ikeRecord
    rw [hoff, List.drop_zero, messagesOf_same, List.flatMap_append, List.flatMap_singleton,
      ← List.append_assoc, hoct]
    cases hsent : ts.prefixSent with
    | true =>
      rw [hsent] at hrec
      rw [if_pos rfl, hrec, if_pos rfl, List.nil_append, List.append_assoc]
    | false =>
      obtain ⟨horig, hnone⟩ := h.fresh hsent
      rw [hsent] at hrec
      unfold TcpStream.start
      rw [if_neg (by simp), hrec, if_neg (by simp), horig, if_pos rfl, hnone]
      rfl
  · show messagesOf true (ts.queued ++ [(false, ike)]) = []
    rw [messagesOf_other (by simp), h.messages]

theorem espRecords_append (ts : TcpStream) (rec ike : Bytes) :
    (ts.append rec true ike).espRecords = ts.espRecords ++ [nonEspMarker ++ ike] := by
  show (messagesOf true (ts.queued ++ [(true, ike)])).map _ = _
  rw [messagesOf_same, List.map_append]
  rfl

theorem framed_append (ts : TcpStream) (rec ike : Bytes) :
    (ts.append rec true ike).framed = ts.framed := by
  show ts.start ++ (messagesOf false (ts.queued ++ [(true, ike)])).flatMap ikeRecord = _
  rw [messagesOf_other (by simp)]
  rfl

theorem marker_ne_nil (ike : Bytes) : nonEspMarker ++ ike ≠ [] := by
  unfold nonEspMarker
  simp

/-- an empty buffer takes a record -/
theorem TcpStream.append_pending (hoff : ts.obufOff = 0) (hnil : ts.obuf = []) (rec ike : Bytes)
    (mode : Bool) : (ts.append rec mode ike).pending = rec := by
  show (ts.obuf ++ rec).drop ts.obufOff = rec
  rw [hoff, hnil]
  rfl

theorem TcpStream.pending_nil (hnil : ts.obuf = []) : ts.pending = [] := by
  unfold TcpStream.pending
  rw [hnil, List.drop_nil]

theorem TcpStream.Loaded.append (h : ts.Loaded) (hoff : ts.obufOff = 0) (hnil : ts.obuf = [])
    (ike : Bytes) : (ts.append (nonEspMarker ++ ike) true ike).Loaded := by
  have hrecs := h.records
  rw [TcpStream.pending_nil hnil, oneRecord_nil, List.append_nil] at hrecs
  refine ⟨h.espintcp, h.ulp, h.noPrefix, rfl, ?_, ?_⟩
  · rw [framed_append]
    exact h.octets
  · rw [TcpStream.append_pending hoff hnil, oneRecord_ne (marker_ne_nil ike), espRecords_append]
    show recordsOf ts.wire ++ _ = _
    rw [hrecs]

theorem TcpStream.Waiting.append (h : ts.Waiting) (hoff : ts.obufOff = 0) (hnil : ts.obuf = [])
    (hsent : ts.prefixSent = true) (ike : Bytes) :
    (ts.append (nonEspMarker ++ ike) true ike).Waiting := by
  have hbuf := h.buffer
  rw [TcpStream.pending_nil hnil, oneRecord_nil] at hbuf
  refine ⟨h.espintcp, h.ulp, h.originator, h.octets, h.records, ?_, ?_, h.pend.trans hsent,
    fun hno => nomatch hno⟩
  · show messagesOf false (ts.queued ++ [(true, ike)]) = []
    rw [messagesOf_other (by simp), h.messages]
  · rw [TcpStream.append_pending hoff hnil, oneRecord_ne (marker_ne_nil ike), espRecords_append,
      ← hbuf]
    rfl

theorem TcpStream.Live.append (h : ts.Live) (hoff : ts.obufOff = 0) {rec ike : Bytes}
    (hrec : ts.RecordOf rec ike) (hroom : ts.espintcp = true → ts.obuf = []) :
    (ts.append rec ts.espintcp ike).Live := by
  unfold TcpStream.RecordOf at hrec
  cases h with
  | manual h =>
    rw [h.espintcp] at hrec ⊢
    exact .manual (h.append hoff hrec)
  | loaded h =>
    rw [h.espintcp] at hrec hroom ⊢
    rw [hrec.1]
    exact .loaded (h.append hoff (hroom rfl) ike)
  | waiting h =>
    rw [h.espintcp] at hrec hroom ⊢
    rw [hrec.1]
    exact .waiting (h.append hoff (hroom rfl) hrec.2 ike)

theorem sendRecord_goesOn (h : ts.Live) {rec ike : Bytes} {first second : SendEnv}
    (hrec : ts.RecordOf rec ike)
    (hok : ts.espintcp = false ∨ first.whole = true ∧ second.whole = true ∧
      (ts.pending = [] ∨ tcpStreamObufCap < ts.pending.length + rec.length)) :
    GoesOn (sendRecord ts rec ike first second) := by
  have hcompact := h.compact
  unfold sendRecord
  dsimp only
  split
  · next hfull =>
    have hflush : GoesOn (tcpStreamFlush
        { ts with obuf := ts.obuf.drop ts.obufOff, obufOff := 0 } first) :=
      tcpStreamFlush_goesOn hcompact (hok.imp_right And.left)
    have hmode := tcpStreamFlush_sameMode
      { ts with obuf := ts.obuf.drop ts.obufOff, obufOff := 0 } first
    generalize tcpStreamFlush { ts with obuf := ts.obuf.drop ts.obufOff, obufOff := 0 } first = r
      at hflush hmode ⊢
    split
    · next hneg =>
      rcases hflush with hlive | ⟨hsound, _⟩
      · exact Or.inl hlive
      · exact Or.inr ⟨hsound, by show (-1 : Int) < 0; decide⟩
    · next hneg =>
      have hlive := hflush.resolve_right fun hs => hneg hs.2
      split
      · exact Or.inl hlive
      · next hroom =>
        -- there is room now, so the buffer was emptied
        obtain ⟨hnil, hoff⟩ := hmode.obuf.resolve_left fun hsame => hroom (by rw [hsame]; exact hfull)
        have hrec' : r.1.RecordOf rec ike := by
          unfold TcpStream.RecordOf at hrec ⊢
          rw [hmode.espintcp, hmode.prefixSent]
          exact hrec
        have happ := hlive.append hoff hrec' fun _ => hnil
        rw [hmode.espintcp] at happ
        exact tcpStreamFlush_goesOn happ (hok.imp
          (fun hm => (show (r.1.append rec ts.espintcp ike).espintcp = false from
            hmode.espintcp.trans hm)) fun hw => hw.2.1)
  · next hfits =>
    have happ := hcompact.append rfl hrec fun hesp => by
      have hw := hok.resolve_left (by
        rw [show ts.espintcp = true from hesp]
        simp)
      exact hw.2.2.resolve_right hfits
    exact tcpStreamFlush_goesOn happ (hok.imp_right fun hw => hw.2.1)

/-- the prefix is marked before the message of an espintcp stream is looked at -/
theorem TcpStream.Live.marked (h : ts.Live) (hmode : ts.espintcp = true) :
    ∃ ts' : TcpStream, (if ts.prefixSent then ts
        else { ts with prefixPending := true, prefixSent := true }) = ts'
      ∧ ts'.Live ∧ ts'.espintcp = true ∧ ts'.prefixSent = true ∧ ts'.pending = ts.pending := by
  by_cases hsent : ts.prefixSent = true
  · rw [if_pos hsent]
    exact ⟨ts, rfl, h, hmode, hsent, rfl⟩
  · rw [if_neg hsent]
    refine ⟨_, rfl, ?_, hmode, rfl, rfl⟩
    cases h with
    | manual h => exact absurd (hmode.symm.trans h.espintcp) (by simp)
    | loaded h => exact absurd h.sent hsent
    | waiting h =>
      exact .waiting ⟨h.espintcp, h.ulp, h.originator, h.octets, h.records, h.messages, h.buffer,
        rfl, fun hno => nomatch hno⟩

theorem tcpStreamSend_goesOn (h : ts.Live) {ike : Bytes} {first second : SendEnv}
    (hok : tcpOk ts (.send ike first second)) (halive : ts.dead = false) :
    GoesOn (tcpStreamSend ts ike first second) := by
  have hok := Or.resolve_left hok (by rw [halive]; simp)
  unfold tcpStreamSend
  rw [if_neg (by rw [halive]; simp)]
  split
  · next hmode =>
    have hw := hok.resolve_left (by rw [hmode]; simp)
    dsimp only
    obtain ⟨ts', hmarked, hlive', hmode', hsent', hpend'⟩ := h.marked hmode
    rw [hmarked]
    split
    · exact Or.inl hlive'
    · refine sendRecord_goesOn hlive' ?_ (Or.inr ⟨hw.1, hw.2.1, ?_⟩)
      · unfold TcpStream.RecordOf
        rw [hmode', if_pos rfl]
        exact ⟨rfl, hsent'⟩
      · rw [hpend', List.length_append]
        exact hw.2.2
  · next hmode =>
    have hmode' : ts.espintcp = false := by simpa using hmode
    dsimp only
    split
    · exact Or.inl h
    · next rec hrec =>
      refine sendRecord_goesOn h ?_ (Or.inl hmode')
      unfold TcpStream.RecordOf
      rw [hmode', if_neg (by simp)]
      cases hsent : ts.prefixSent with
      | true =>
        rw [hsent, if_pos rfl] at hrec
        exact tcpRecordIke_eq hrec
      | false =>
        rw [hsent, if_neg (by simp)] at hrec
        exact tcpRecordIke_eq hrec

/-! ## every run -/

/-- a live stream keeps the invariant, a dead one what was written -/
def TcpStream.Inv (ts : TcpStream) : Prop := ts.Live ∨ (ts.Sound ∧ ts.dead = true)

theorem TcpStream.Inv.sound (h : ts.Inv) : ts.Sound := h.elim TcpStream.Live.sound And.left

theorem TcpStream.Sound.bury (h : ts.Sound) : TcpStream.Sound { ts with dead := true } :=
  ⟨h.plain, h.records, h.order, fun hno => nomatch hno⟩

theorem GoesOn.giveUp {r : TcpStream × Int} (h : GoesOn r) : (giveUp r).Inv := by
  unfold Ikev2.giveUp
  split
  · exact Or.inr ⟨(h.elim TcpStream.Live.sound And.left).bury, rfl⟩
  · next hneg => exact Or.inl (h.resolve_right fun hs => hneg hs.2)

theorem tcpStreamEnableEspintcp_live (h : ts.Live) {ulp : Bool}
    (hok : ts.espintcpUlp = true ∨ ts.pending = [] ∧ ts.prefixPending = false ∧
      (ts.prefixSent = true → ulp = true)) : (tcpStreamEnableEspintcp ts ulp).1.Live := by
  unfold tcpStreamEnableEspintcp tsUlpApply
  dsimp only
  cases h with
  | loaded h =>
    rw [if_pos h.sent, if_pos h.ulp]
    exact .loaded ⟨rfl, h.ulp, h.noPrefix, h.sent, h.octets, h.records⟩
  | manual h =>
    obtain ⟨hnil, _, hulp⟩ := hok.resolve_left (by rw [h.ulp]; simp)
    have hoct := h.octets
    rw [hnil, List.append_nil] at hoct
    have hesp : ts.espRecords = [] := by
      unfold TcpStream.espRecords
      rw [h.messages]
      rfl
    split
    · next hsent =>
      rw [if_neg (by rw [h.ulp]; simp), if_pos (hulp hsent)]
      rw [if_pos hsent] at hoct
      refine .loaded ⟨rfl, rfl, h.noPrefix, hsent, hoct, ?_⟩
      show recordsOf ts.wire ++ oneRecord ts.pending = ts.espRecords
      rw [h.records, hnil, hesp]
      rfl
    · next hsent =>
      have hsent' : ts.prefixSent = false := by simpa using hsent
      obtain ⟨horig, hnone⟩ := h.fresh hsent'
      rw [if_neg hsent, hnone] at hoct
      refine .waiting ⟨rfl, h.ulp, horig, hoct, h.records, ?_, ?_, h.noPrefix.trans hsent'.symm,
        fun _ => hnil⟩
      · show messagesOf false ts.queued = []
        rw [hnone]
        rfl
      · show oneRecord ts.pending = ts.espRecords
        rw [hnil, hesp]
        rfl
  | waiting h =>
    obtain ⟨hnil, hpend, _⟩ := hok.resolve_left (by rw [h.ulp]; simp)
    rw [if_neg (by rw [← h.pend, hpend]; simp)]
    exact .waiting ⟨rfl, h.ulp, h.originator, h.octets, h.records, h.messages, h.buffer, h.pend,
      h.fresh⟩

theorem TcpStream.Live.connected (h : ts.Live) : TcpStream.Live { ts with connecting := false } := by
  cases h with
  | manual h =>
    exact .manual ⟨h.espintcp, h.ulp, h.noPrefix, h.octets, h.records, h.messages, h.fresh⟩
  | loaded h => exact .loaded ⟨h.espintcp, h.ulp, h.noPrefix, h.sent, h.octets, h.records⟩
  | waiting h =>
    exact .waiting ⟨h.espintcp, h.ulp, h.originator, h.octets, h.records, h.messages, h.buffer,
      h.pend, h.fresh⟩

/-- a dead stream writes nothing and queues nothing -/
theorem tcpStep_dead (h : ts.Sound) (hdead : ts.dead = true) (ev : TcpEvent) :
    (tcpStep ts ev).Sound ∧ (tcpStep ts ev).dead = true := by
  have hsame : ∀ ts' : TcpStream, ts'.wire = ts.wire → ts'.queued = ts.queued →
      ts'.originator = ts.originator → ts'.dead = true → ts'.Sound ∧ ts'.dead = true := by
    intro ts' hwire hqueued horig hdead'
    have hframed : ts'.framed = ts.framed := by
      unfold TcpStream.framed TcpStream.start
      rw [hqueued, horig]
    have hesp : ts'.espRecords = ts.espRecords := by
      unfold TcpStream.espRecords
      rw [hqueued]
    refine ⟨⟨?_, ?_, ?_, fun hno => absurd (hdead'.symm.trans hno) (by simp)⟩, hdead'⟩
    · rw [hwire, hframed]
      exact h.plain
    · rw [hwire, hesp]
      exact h.records
    · rw [hwire, hframed]
      exact h.order
  cases ev with
  | send ike first second =>
    have hend : tcpStreamSend ts ike first second = (ts, -1) := if_pos hdead
    show (giveUp (tcpStreamSend ts ike first second)).Sound ∧ _
    rw [show tcpStep ts (.send ike first second) = giveUp (tcpStreamSend ts ike first second) from rfl,
      hend]
    exact hsame _ rfl rfl rfl rfl
  | flush env =>
    have hend : tcpStreamFlush ts env = (ts, -1) := if_pos hdead
    rw [show tcpStep ts (.flush env) = giveUp (tcpStreamFlush ts env) from rfl, hend]
    exact hsame _ rfl rfl rfl rfl
  | connectDone ok =>
    unfold tcpStep
    dsimp only
    split
    · split
      · exact hsame _ rfl rfl rfl hdead
      · exact hsame _ rfl rfl rfl rfl
    · exact ⟨h, hdead⟩
  | enable ulp =>
    unfold tcpStep tcpStreamEnableEspintcp tsUlpApply
    dsimp only
    split
    · split
      · exact hsame _ rfl rfl rfl hdead
      · split <;> exact hsame _ rfl rfl rfl hdead
    · exact hsame _ rfl rfl rfl hdead
  | teardown => exact hsame _ rfl rfl rfl rfl

/-- the step -/
theorem tcpStep_inv (ts : TcpStream) (ev : TcpEvent) (h : ts.Inv) (hok : tcpOk ts ev) :
    (tcpStep ts ev).Inv := by
  by_cases hdead : ts.dead = true
  · exact Or.inr (tcpStep_dead h.sound hdead ev)
  have hlive := h.resolve_right fun hs => hdead hs.2
  cases ev with
  | send ike first second =>
    exact (tcpStreamSend_goesOn hlive hok (by simpa using hdead)).giveUp
  | flush env => exact (tcpStreamFlush_goesOn hlive (hok.resolve_left hdead)).giveUp
  | connectDone ok =>
    unfold tcpStep
    dsimp only
    split
    · split
      · exact Or.inl hlive.connected
      · exact Or.inr ⟨hlive.sound.bury, rfl⟩
    · exact h
  | enable ulp => exact Or.inl (tcpStreamEnableEspintcp_live hlive (hok.resolve_left hdead))
  | teardown => exact Or.inr ⟨hlive.sound.bury, rfl⟩

end

theorem tcpStreamAccept_live : tcpStreamAccept.Live :=
  .manual ⟨rfl, rfl, rfl, rfl, rfl, rfl, fun hno => nomatch hno⟩

theorem tcpStreamConnect_live : tcpStreamConnect.Live :=
  .manual ⟨rfl, rfl, rfl, rfl, rfl, rfl, fun _ => ⟨rfl, rfl⟩⟩

/-- in every run of either end of a connection in which espintcp has whole writes and one message at
a time in the buffer, the peer sees the prefix and the framed messages, or the records, as they were
accepted; without espintcp every run is such a run -/
theorem tcp_sends_in_order (ts : TcpStream) (hts : ts = tcpStreamAccept ∨ ts = tcpStreamConnect)
    (events : List TcpEvent) (hok : Run.Meets tcpStep tcpOk ts events) :
    ∀ ts' ∈ Run.states tcpStep ts events, ts'.Sound := by
  have hstart : ts.Inv := by
    rcases hts with rfl | rfl
    · exact Or.inl tcpStreamAccept_live
    · exact Or.inl tcpStreamConnect_live
  intro ts' hmem
  exact (Run.states_inv tcpStep_inv events ts hstart hok ts' hmem).sound

/-- the originator connects, switches espintcp on and sends two messages with EAGAIN between them -/
def espintcpRun : List TcpEvent :=
  [.enable true, .send [1, 2] ⟨[], true⟩ ⟨[], true⟩, .connectDone true,
    .flush ⟨[.wrote 0, .eintr, .eagain], true⟩, .flush ⟨[.wrote 0], true⟩,
    .send [3] ⟨[], true⟩ ⟨[.wrote 0], true⟩]

theorem tcp_sends_in_order_espintcp :
    Run.Meets tcpStep tcpOk tcpStreamConnect espintcpRun
    ∧ ∀ ts' ∈ Run.states tcpStep tcpStreamConnect espintcpRun, ts'.Sound :=
  ⟨by decide, tcp_sends_in_order tcpStreamConnect (Or.inr rfl) espintcpRun (by decide)⟩

/-- a short write of the prefix: the next flush writes it from its start; and two messages that wait
for the connection go out in one record -/
theorem tcp_prefix_twice :
    (∃ ts' ∈ Run.states tcpStep tcpStreamConnect [.enable true, .connectDone true,
        .send [1, 2] ⟨[], true⟩ ⟨[.wrote 3], true⟩, .flush ⟨[.wrote 0, .wrote 0], true⟩],
      ¬ ts'.Sound)
    ∧ ∃ ts' ∈ Run.states tcpStep tcpStreamConnect [.enable true, .send [1, 2] ⟨[], true⟩ ⟨[], true⟩,
        .send [3] ⟨[], true⟩ ⟨[], true⟩, .connectDone true, .flush ⟨[.wrote 0, .wrote 0], true⟩],
      ¬ ts'.Sound := by
  refine ⟨⟨_, Run.foldl_mem_states _ _, fun h => ?_⟩, ⟨_, Run.foldl_mem_states _ _, fun h => ?_⟩⟩
  · exact absurd h.plain (by decide)
  · exact absurd h.records (by decide)

end Ikev2
