import Racoon2.Lib.Bytes
import Racoon2.Lib.Feed

/-!
# IKE over TCP: the framing and the de-framer

`tcp_stream_begin` and `tcp_record_ike` write the stream, `tcp_decap_feed` takes it apart again.  The
de-framer is fed what one `read` returns, so a piece may end anywhere: in the stream prefix, in the
two octets of Len, in the payload.  It copies as many octets as the phase still wants and acts when
the phase is complete; `decapOctet` is the same machine, one octet at a time.

* `tcpDecapFeed_eq_run`     a piece is taken octet by octet;
* `tcp_encapsulation`       the round trip, and that the cutting of a stream does not matter.
-/

set_option linter.unusedVariables false

namespace Ikev2
open Bytes

/-! ## writing -/

/-- `IKEV2_TCP_PREFIX`: "IKETCP" -/
def tcpPrefixOctets : Bytes := [0x49, 0x4b, 0x45, 0x54, 0x43, 0x50]

def tcpMaxlen : Nat := 65535

/-- `IKE_RECORD_OVERHEAD`: Len and the non-ESP marker -/
def ikeRecordOverhead : Nat := 6

/-- `sizeof(out->stream)` of `struct tcp_record` -/
def tcpRecordCap : Nat := 6 + 6 + tcpMaxlen

def nonEspMarker : Bytes := [0, 0, 0, 0]

/-- `tcp_stream_begin`; `out` is `stream` up to `stream_len`, `none` is -1 -/
def tcpStreamBegin (out : Bytes) : Option Bytes :=
  if out.length ≠ 0 then none else some tcpPrefixOctets

/-- `tcp_record_ike` -/
def tcpRecordIke (out ike : Bytes) : Option Bytes :=
  if tcpMaxlen - ikeRecordOverhead < ike.length then none
  else
    let len := ike.length + ikeRecordOverhead
    if tcpRecordCap < out.length + len then none
    else some (out ++ enc16 len ++ nonEspMarker ++ ike)

/-- the stream of a connection's originator: the prefix, then a record for each message, each
encoded in a record of its own -/
def tcpStreamOf (msgs : List Bytes) : Option Bytes :=
  (tcpStreamBegin []).bind fun begun =>
    (msgs.mapM (tcpRecordIke [])).map fun records => begun ++ records.flatten

/-! ## the de-framer -/

inductive DecapPhase where
  | streamStart
  | len
  | payload
  deriving DecidableEq, Repr

inductive FrameKind where
  | ike
  | esp
  deriving DecidableEq, Repr

/-- `struct tcp_decap_state`; the writes to `buf` stay below `tcpMaxlen` (`DecapState.Ok.inside`) -/
structure DecapState where
  buf : Nat → UInt8
  pos : Nat
  reclen : Nat
  phase : DecapPhase

/-- `tcp_decap_init` -/
def tcpDecapInit (expectPrefix : Bool) : DecapState where
  buf := fun _ => 0
  pos := 0
  reclen := 0
  phase := if expectPrefix then .streamStart else .len

/-- what the phase takes in all -/
def DecapState.wanted (s : DecapState) : Nat :=
  match s.phase with
  | .streamStart => 6
  | .len => 2
  | .payload => s.reclen - 2

/-- `memcpy(buf + i, q, q.length)` -/
def memcpy (buf : Nat → UInt8) (i : Nat) (q : Bytes) : Nat → UInt8 := fun j =>
  if i ≤ j ∧ j < i + q.length then byteAt q (j - i) else buf j

/-- the octets of the buffer from `i` on -/
def readBuf (buf : Nat → UInt8) (i n : Nat) : Bytes := (List.range n).map fun k => buf (i + k)

/-- the octets `q` go behind those the phase has -/
def DecapState.copy (s : DecapState) (q : Bytes) : DecapState :=
  { s with buf := memcpy s.buf s.pos q, pos := s.pos + q.length }

section
variable {τ : Type} (cb : τ → Bytes → FrameKind → τ × Bool)

/-- the callback has the record; a value other than 0 ends the stream -/
def decapDeliver (x : DecapState × τ) (pkt : Bytes) (kind : FrameKind) :
    (DecapState × τ) × Bool :=
  if (cb x.2 pkt kind).2 then (({ x.1 with pos := 0, phase := .len }, (cb x.2 pkt kind).1), true)
  else ((x.1, (cb x.2 pkt kind).1), false)

/-- the phase has all its octets; `false` is the return of -1 -/
def decapDone (x : DecapState × τ) : (DecapState × τ) × Bool :=
  let s := x.1
  match s.phase with
  | .streamStart =>
    if readBuf s.buf 0 6 ≠ tcpPrefixOctets then (x, false)
    else (({ s with pos := 0, phase := .len }, x.2), true)
  | .len =>
    let reclen := (s.buf 0).toNat * 256 + (s.buf 1).toNat
    if reclen = 0 ∨ reclen = 1 then (({ s with reclen := reclen }, x.2), false)
    else if reclen = 2 then (({ s with reclen := reclen, pos := 0, phase := .len }, x.2), true)
    else (({ s with reclen := reclen, pos := 0, phase := .payload }, x.2), true)
  | .payload =>
    let plen := s.reclen - 2
    -- the NAT keepalive
    if plen = 1 ∧ s.buf 0 = 0xff then (({ s with pos := 0, phase := .len }, x.2), true)
    else if plen < 4 then (x, false)
    else if s.buf 0 = 0 ∧ s.buf 1 = 0 ∧ s.buf 2 = 0 ∧ s.buf 3 = 0 then
      decapDeliver cb x (readBuf s.buf 4 (plen - 4)) .ike
    else decapDeliver cb x (readBuf s.buf 0 plen) .esp

/-- the loop of `tcp_decap_feed`; a turn takes at least one octet -/
def feedLoop : Nat → DecapState × τ → Bytes → (DecapState × τ) × Bool
  | 0, x, _ => (x, true)
  | n+1, x, p =>
    if p.length = 0 then (x, true)
    else
      let want := min (x.1.wanted - x.1.pos) p.length
      let s := x.1.copy (p.take want)
      if s.pos < s.wanted then feedLoop n (s, x.2) (p.drop want)
      else
        let r := decapDone cb (s, x.2)
        if r.2 then feedLoop n r.1 (p.drop want) else r

/-- `tcp_decap_feed` -/
def tcpDecapFeed (x : DecapState × τ) (p : Bytes) : (DecapState × τ) × Bool :=
  feedLoop cb p.length x p

/-- one octet of the stream -/
def decapOctet (x : DecapState × τ) (b : UInt8) : (DecapState × τ) × Bool :=
  let s := x.1.copy [b]
  if s.pos < s.wanted then ((s, x.2), true) else decapDone cb (s, x.2)

end

/-! ## the readable socket -/

/-- what one `read` returns; with no more of them the socket says EAGAIN -/
inductive ReadResult where
  | data (octets : Bytes)
  | eintr
  | fin
  | error
  deriving DecidableEq, Repr

/-- what the callback of a `struct tcp_stream` works on; `env` is behind the dispatch function -/
structure Receiver (τ : Type) where
  shortDrops : Nat
  dead : Bool
  env : τ

def sizeofIkev2Header : Nat := 28

section
variable {τ : Type} (dispatch : τ → Bytes → τ × Bool)

/-- `stream_frame_cb`; `dispatch` says whether it left the stream dead -/
def streamFrameCb (r : Receiver τ) (pkt : Bytes) (kind : FrameKind) : Receiver τ × Bool :=
  if kind ≠ .ike then (r, true)
  else if pkt.length < sizeofIkev2Header then ({ r with shortDrops := r.shortDrops + 1 }, true)
  else
    let dead := r.dead || (dispatch r.env pkt).2
    ({ r with env := (dispatch r.env pkt).1, dead := dead }, !dead)

/-- the loop of `tcp_stream_on_readable`, and its `ret` -/
def onReadableLoop (espintcp : Bool) :
    Int → DecapState × Receiver τ → List ReadResult → (DecapState × Receiver τ) × Int
  | ret, x, [] => (x, if x.2.dead then -1 else ret)
  | ret, x, r :: reads =>
    if x.2.dead then (x, -1)
    else
      match r with
      | .eintr => onReadableLoop espintcp ret x reads
      | .fin => (x, -1)
      | .error => (x, -1)
      | .data buf =>
        if espintcp then
          -- the kernel has taken Len off and hands over one frame
          if buf.length < 4 then (x, 0)
          else if buf.take 4 ≠ nonEspMarker then onReadableLoop espintcp 1 x reads
          else
            let d := streamFrameCb dispatch x.2 (buf.drop 4) .ike
            if d.2 then onReadableLoop espintcp 1 (x.1, d.1) reads else ((x.1, d.1), -1)
        else
          let d := tcpDecapFeed (streamFrameCb dispatch) x buf
          if d.2 then onReadableLoop espintcp 1 d.1 reads else (d.1, -1)

/-- the caller closes the stream on a return of -1 -/
def staysOpen (r : (DecapState × Receiver τ) × Int) : (DecapState × Receiver τ) × Bool :=
  (r.1, decide (0 ≤ r.2))

/-- `tcp_stream_on_readable`, and whether the stream stays open -/
def tcpStreamOnReadable (espintcp : Bool) (x : DecapState × Receiver τ) (reads : List ReadResult) :
    (DecapState × Receiver τ) × Bool := staysOpen (onReadableLoop dispatch espintcp 0 x reads)

end

/-- the octets that were read -/
def ReadResult.octets : ReadResult → Bytes
  | .data buf => buf
  | _ => []

/-- the connection is still there -/
def ReadResult.alive : ReadResult → Bool
  | .data _ => true
  | .eintr => true
  | _ => false

/-! ## pieces and octets -/

/-- the phase wants more, and its octets fit `buf` -/
structure DecapState.Ok (s : DecapState) : Prop where
  wants : s.pos < s.wanted
  inside : s.wanted ≤ tcpMaxlen

theorem memcpy_append (buf : Nat → UInt8) (i : Nat) (a b : Bytes) :
    memcpy (memcpy buf i a) (i + a.length) b = memcpy buf i (a ++ b) := by
  funext j
  unfold memcpy
  rw [List.length_append]
  by_cases hb : i + a.length ≤ j ∧ j < i + a.length + b.length
  · have hj : j - i = a.length + (j - (i + a.length)) := by omega
    rw [if_pos hb, if_pos (by omega), hj, byteAt_append_right]
  · rw [if_neg hb]
    by_cases ha : i ≤ j ∧ j < i + a.length
    · rw [if_pos ha, if_pos (by omega), byteAt_append_left _ _ _ (by omega)]
    · rw [if_neg ha, if_neg (by omega)]

theorem memcpy_nil (buf : Nat → UInt8) (i : Nat) : memcpy buf i [] = buf := by
  funext j
  unfold memcpy
  rw [if_neg (by rw [List.length_nil]; omega)]

theorem memcpy_at (buf : Nat → UInt8) (q : Bytes) {j : Nat} (h : j < q.length) :
    memcpy buf 0 q j = byteAt q j := by
  unfold memcpy
  rw [if_pos ⟨by omega, by omega⟩]
  rfl

theorem readBuf_memcpy (buf : Nat → UInt8) (q : Bytes) {i n : Nat} (h : i + n ≤ q.length) :
    readBuf (memcpy buf 0 q) i n = slice q i n := by
  have hlen : (readBuf (memcpy buf 0 q) i n).length = n := by
    unfold readBuf
    rw [List.length_map, List.length_range]
  apply eq_of_byteAt (hlen.trans (slice_length q i n h).symm)
  intro k hk
  rw [hlen] at hk
  have hleft : byteAt (readBuf (memcpy buf 0 q) i n) k = byteAt q (i + k) := by
    rw [← memcpy_at buf q (show i + k < q.length by omega)]
    unfold readBuf byteAt
    rw [List.getD_eq_getElem?_getD, List.getElem?_map, List.getElem?_range hk]
    rfl
  rw [hleft]
  unfold slice
  rw [byteAt_take _ _ _ hk]
  unfold byteAt
  rw [List.getD_eq_getElem?_getD, List.getD_eq_getElem?_getD, List.getElem?_drop]

section
variable {s : DecapState}

theorem DecapState.copy_nil (s : DecapState) : s.copy [] = s := by
  unfold DecapState.copy
  rw [memcpy_nil]
  rfl

theorem DecapState.copy_append (s : DecapState) (a b : Bytes) :
    (s.copy a).copy b = s.copy (a ++ b) := by
  unfold DecapState.copy
  dsimp only
  rw [memcpy_append, List.length_append, Nat.add_assoc]

theorem DecapState.Ok.copy (h : s.Ok) {q : Bytes} (hq : s.pos + q.length < s.wanted) :
    (s.copy q).Ok := ⟨hq, h.inside⟩

end

theorem tcpDecapInit_ok (expectPrefix : Bool) : (tcpDecapInit expectPrefix).Ok := by
  cases expectPrefix <;> exact ⟨by decide, by decide⟩

section
variable {τ : Type} {cb : τ → Bytes → FrameKind → τ × Bool} {x : DecapState × τ}

theorem decapDone_ok (x : DecapState × τ) (h : (decapDone cb x).2 = true) :
    (decapDone cb x).1.1.Ok := by
  have hlen : ∀ (s : DecapState) (n : Nat),
      DecapState.Ok { s with reclen := n, pos := 0, phase := .len } :=
    fun s n => ⟨by show 0 < 2; omega, by show 2 ≤ 65535; omega⟩
  have hdeliver : ∀ pkt kind, (decapDeliver cb x pkt kind).2 = true →
      (decapDeliver cb x pkt kind).1.1.Ok := by
    intro pkt kind
    unfold decapDeliver
    split
    · exact fun _ => hlen x.1 x.1.reclen
    · intro hoff
      cases hoff
  revert h
  unfold decapDone
  dsimp only
  split
  · split
    · intro hoff
      cases hoff
    · exact fun _ => hlen x.1 x.1.reclen
  · split
    · intro hoff
      cases hoff
    · split
      · exact fun _ => hlen x.1 _
      · next hne h2 =>
        intro _
        have h0 := (x.1.buf 0).toNat_lt
        have h1 := (x.1.buf 1).toNat_lt
        constructor
        · show 0 < (x.1.buf 0).toNat * 256 + (x.1.buf 1).toNat - 2
          omega
        · show (x.1.buf 0).toNat * 256 + (x.1.buf 1).toNat - 2 ≤ 65535
          omega
  · split
    · exact fun _ => hlen x.1 x.1.reclen
    · split
      · intro hoff
        cases hoff
      · split
        · exact hdeliver _ _
        · exact hdeliver _ _

theorem decapOctet_ok (x : DecapState × τ) (b : UInt8) (hx : x.1.Ok)
    (h : (decapOctet cb x b).2 = true) : (decapOctet cb x b).1.1.Ok := by
  revert h
  unfold decapOctet
  dsimp only
  split
  · next hmore => exact fun _ => hx.copy hmore
  · exact decapDone_ok _

/-- fewer octets than the phase wants are only copied -/
theorem run_copy (q : Bytes) : ∀ x : DecapState × τ, x.1.pos + q.length < x.1.wanted →
    Feed.run (decapOctet cb) x q = ((x.1.copy q, x.2), true) := by
  induction q with
  | nil =>
    intro x _
    rw [Feed.run_nil, DecapState.copy_nil]
  | cons b q ih =>
    intro x hq
    rw [List.length_cons] at hq
    have hb : decapOctet cb x b = ((x.1.copy [b], x.2), true) := by
      unfold decapOctet
      dsimp only
      rw [if_pos]
      show x.1.pos + 1 < x.1.wanted
      omega
    have hrest : (x.1.copy [b]).pos + q.length < (x.1.copy [b]).wanted := by
      show x.1.pos + 1 + q.length < x.1.wanted
      omega
    rw [Feed.run_cons_on hb, ih (x.1.copy [b], x.2) hrest, DecapState.copy_append]
    rfl

/-- exactly the octets that the phase wants complete it -/
theorem run_done (q : Bytes) (hne : q ≠ []) (hq : x.1.pos + q.length = x.1.wanted) :
    Feed.run (decapOctet cb) x q = decapDone cb (x.1.copy q, x.2) := by
  obtain ⟨q, b, rfl⟩ := List.eq_nil_or_concat q |>.resolve_left hne
  rw [List.length_concat] at hq
  rw [List.concat_eq_append, Feed.run_append_on (run_copy q x (by omega)), Feed.run_singleton]
  unfold decapOctet
  dsimp only
  rw [DecapState.copy_append, if_neg]
  show ¬ x.1.pos + (q ++ [b]).length < x.1.wanted
  rw [List.length_append, List.length_singleton]
  omega

/-- the loop takes a piece as the machine takes its octets -/
theorem feedLoop_eq_run (n : Nat) : ∀ (x : DecapState × τ) (p : Bytes), x.1.Ok → p.length ≤ n →
    feedLoop cb n x p = Feed.run (decapOctet cb) x p := by
  induction n with
  | zero =>
    intro x p _ hp
    rw [List.length_eq_zero_iff.mp (Nat.le_zero.mp hp)]
    rfl
  | succ n ih =>
    intro x p hx hp
    unfold feedLoop
    by_cases hnil : p.length = 0
    · rw [if_pos hnil, List.eq_nil_of_length_eq_zero hnil]
      rfl
    · rw [if_neg hnil]
      have hwants := hx.wants
      dsimp only
      generalize hwant : min (x.1.wanted - x.1.pos) p.length = want
      have htake : (p.take want).length = want := by
        rw [List.length_take]
        omega
      have hdrop : (p.drop want).length ≤ n := by
        rw [List.length_drop]
        omega
      have hsplit : Feed.run (decapOctet cb) x p
          = Feed.run (decapOctet cb) x (p.take want ++ p.drop want) := by
        rw [List.take_append_drop]
      rw [hsplit]
      by_cases hmore : x.1.pos + want < x.1.wanted
      · rw [if_pos (by show x.1.pos + (p.take want).length < x.1.wanted; omega),
          Feed.run_append_on (run_copy _ x (by omega)), ih _ _ (hx.copy (by omega)) hdrop]
      · have hdone : Feed.run (decapOctet cb) x (p.take want)
            = decapDone cb (x.1.copy (p.take want), x.2) :=
          run_done _ (by rw [Ne, ← List.length_eq_zero_iff]; omega) (by omega)
        rw [if_neg (by show ¬ x.1.pos + (p.take want).length < x.1.wanted; omega)]
        split
        · next hgo =>
          rw [Feed.run_append_on (hdone.trans (Prod.ext rfl hgo)), ih _ _ (decapDone_ok _ hgo) hdrop]
        · next hstop =>
          have hstop' : (decapDone cb (x.1.copy (p.take want), x.2)).2 = false := by simpa using hstop
          rw [Feed.run_append_off (hdone.trans (Prod.ext rfl hstop'))]
          exact Prod.ext rfl hstop'

theorem tcpDecapFeed_eq_run (x : DecapState × τ) (p : Bytes) (hx : x.1.Ok) :
    tcpDecapFeed cb x p = Feed.run (decapOctet cb) x p :=
  feedLoop_eq_run p.length x p hx (Nat.le_refl _)

/-- the pieces of a stream, one after the other -/
theorem run_pieces (pieces : List Bytes) (x : DecapState × τ) (hx : x.1.Ok) :
    Feed.run (tcpDecapFeed cb) x pieces = Feed.run (decapOctet cb) x pieces.flatten :=
  Feed.run_flatten (fun x => x.1.Ok) (fun x b h hgo => decapOctet_ok x b h hgo)
    (fun x p h => tcpDecapFeed_eq_run x p h) pieces x hx

end

/-! ## the socket -/

section
variable {τ : Type} {dispatch : τ → Bytes → τ × Bool}

/-- the de-framer wants more and the stream was not torn down -/
structure Reading (x : DecapState × Receiver τ) : Prop where
  ok : x.1.Ok
  alive : x.2.dead = false

theorem streamFrameCb_alive (r : Receiver τ) (pkt : Bytes) (kind : FrameKind)
    (hr : r.dead = false) (h : (streamFrameCb dispatch r pkt kind).2 = true) :
    (streamFrameCb dispatch r pkt kind).1.dead = false := by
  revert h
  unfold streamFrameCb
  split
  · exact fun _ => hr
  · split
    · exact fun _ => hr
    · intro hgo
      simpa using hgo

theorem decapDone_alive (x : DecapState × Receiver τ) (hx : x.2.dead = false)
    (h : (decapDone (streamFrameCb dispatch) x).2 = true) :
    (decapDone (streamFrameCb dispatch) x).1.2.dead = false := by
  have hdeliver : ∀ pkt kind, (decapDeliver (streamFrameCb dispatch) x pkt kind).2 = true →
      (decapDeliver (streamFrameCb dispatch) x pkt kind).1.2.dead = false := by
    intro pkt kind
    unfold decapDeliver
    split
    · next hgo => exact fun _ => streamFrameCb_alive x.2 pkt kind hx hgo
    · intro hoff
      cases hoff
  revert h
  unfold decapDone
  dsimp only
  split
  · split <;> exact fun _ => hx
  · split
    · exact fun _ => hx
    · split <;> exact fun _ => hx
  · split
    · exact fun _ => hx
    · split
      · exact fun _ => hx
      · split
        · exact hdeliver _ _
        · exact hdeliver _ _

theorem decapOctet_reading (x : DecapState × Receiver τ) (b : UInt8) (hx : Reading x)
    (h : (decapOctet (streamFrameCb dispatch) x b).2 = true) :
    Reading (decapOctet (streamFrameCb dispatch) x b).1 := by
  refine ⟨decapOctet_ok x b hx.ok h, ?_⟩
  revert h
  unfold decapOctet
  dsimp only
  split
  · exact fun _ => hx.alive
  · exact decapDone_alive _ hx.alive

/-- one call reads its octets one by one -/
theorem onReadableLoop_eq_run (reads : List ReadResult) : ∀ (ret : Int) (x : DecapState × Receiver τ),
    0 ≤ ret → Reading x → (∀ r ∈ reads, r.alive = true) →
    staysOpen (onReadableLoop dispatch false ret x reads)
    = Feed.run (decapOctet (streamFrameCb dispatch)) x (reads.flatMap ReadResult.octets) := by
  induction reads with
  | nil =>
    intro ret x hret hx _
    unfold onReadableLoop staysOpen
    dsimp only
    rw [hx.alive, if_neg (by simp), decide_eq_true hret]
    rfl
  | cons r reads ih =>
    intro ret x hret hx hall
    have hrest : ∀ r ∈ reads, r.alive = true := fun r hr => hall r (List.mem_cons_of_mem _ hr)
    have hr := hall r List.mem_cons_self
    unfold onReadableLoop
    rw [if_neg (by rw [hx.alive]; simp), List.flatMap_cons]
    cases r with
    | eintr => exact ih ret x hret hx hrest
    | fin => cases hr
    | error => cases hr
    | data buf =>
      dsimp only
      rw [if_neg (by simp), tcpDecapFeed_eq_run x buf hx.ok]
      show _ = Feed.run _ x (buf ++ reads.flatMap ReadResult.octets)
      rcases h : Feed.run (decapOctet (streamFrameCb dispatch)) x buf with ⟨x', go⟩
      cases go with
      | true =>
        have hx' := Feed.run_inv Reading decapOctet_reading buf x hx (by rw [h])
        rw [h] at hx'
        rw [Feed.run_append_on h]
        exact ih 1 x' (by decide) hx' hrest
      | false =>
        rw [Feed.run_append_off h]
        rfl

/-- the calls of a whole connection -/
theorem run_calls (calls : List (List ReadResult)) (x : DecapState × Receiver τ) (hx : Reading x)
    (hall : ∀ reads ∈ calls, ∀ r ∈ reads, r.alive = true) :
    Feed.run (tcpStreamOnReadable dispatch false) x calls
    = Feed.run (decapOctet (streamFrameCb dispatch)) x
        (calls.flatten.flatMap ReadResult.octets) := by
  induction calls generalizing x with
  | nil => rfl
  | cons reads calls ih =>
    have hcall : tcpStreamOnReadable dispatch false x reads
        = Feed.run (decapOctet (streamFrameCb dispatch)) x (reads.flatMap ReadResult.octets) :=
      onReadableLoop_eq_run reads 0 x (by decide) hx (hall reads List.mem_cons_self)
    rw [List.flatten_cons, List.flatMap_append]
    rcases h : Feed.run (decapOctet (streamFrameCb dispatch)) x (reads.flatMap ReadResult.octets)
      with ⟨x', go⟩
    have hx' : (Feed.run (decapOctet (streamFrameCb dispatch)) x
          (reads.flatMap ReadResult.octets)).2 = true →
        Reading (Feed.run (decapOctet (streamFrameCb dispatch)) x
          (reads.flatMap ReadResult.octets)).1 :=
      Feed.run_inv Reading decapOctet_reading _ x hx
    rw [h] at hcall hx'
    cases go with
    | true =>
      rw [Feed.run_cons_on hcall, Feed.run_append_on h]
      exact ih x' (hx' rfl) fun reads hr => hall reads (List.mem_cons_of_mem _ hr)
    | false => rw [Feed.run_cons_off hcall, Feed.run_append_off h]

end

/-! ## reading what was written -/

/-- a callback that keeps the records it is handed -/
def keepFrames (frames : List (Bytes × FrameKind)) (pkt : Bytes) (kind : FrameKind) :
    List (Bytes × FrameKind) × Bool := (frames ++ [(pkt, kind)], true)

/-- between two records -/
structure DecapState.Idle (s : DecapState) : Prop where
  phase : s.phase = .len
  pos : s.pos = 0

/-- the record of a message -/
def ikeRecord (ike : Bytes) : Bytes := enc16 (ike.length + ikeRecordOverhead) ++ (nonEspMarker ++ ike)

theorem tcpRecordIke_some {ike : Bytes} (h : ike.length ≤ 65529) :
    tcpRecordIke [] ike = some (ikeRecord ike) := by
  unfold tcpRecordIke ikeRecord tcpRecordCap tcpMaxlen ikeRecordOverhead
  dsimp only
  rw [if_neg (by omega), if_neg (by rw [List.length_nil]; omega), List.nil_append,
    List.append_assoc]

theorem tcpRecordIke_eq {out ike rec : Bytes} (h : tcpRecordIke out ike = some rec) :
    rec = out ++ ikeRecord ike := by
  unfold tcpRecordIke at h
  dsimp only at h
  split at h
  · cases h
  · split at h
    · cases h
    · rw [← Option.some.inj h]
      unfold ikeRecord
      simp only [List.append_assoc]

theorem mapM_tcpRecordIke (msgs : List Bytes) (h : ∀ m ∈ msgs, m.length ≤ 65529) :
    msgs.mapM (tcpRecordIke []) = some (msgs.map ikeRecord) := by
  induction msgs with
  | nil => rfl
  | cons m msgs ih =>
    rw [List.mapM_cons, tcpRecordIke_some (h m List.mem_cons_self),
      ih fun m hm => h m (List.mem_cons_of_mem _ hm)]
    rfl

theorem tcpStreamOf_some (msgs : List Bytes) (h : ∀ m ∈ msgs, m.length ≤ 65529) :
    tcpStreamOf msgs = some (tcpPrefixOctets ++ msgs.flatMap ikeRecord) := by
  unfold tcpStreamOf
  rw [mapM_tcpRecordIke msgs h]
  rfl

section
variable {τ : Type} {cb : τ → Bytes → FrameKind → τ × Bool} {s : DecapState}

/-- the Len of a record is read -/
theorem run_len (hs : s.Idle) (a : τ) {n : Nat} (hn : n < 65536) (h3 : 3 ≤ n) :
    ∃ buf, Feed.run (decapOctet cb) (s, a) (enc16 n) = ((⟨buf, 0, n, .payload⟩, a), true) := by
  have hwanted : s.wanted = 2 := by
    unfold DecapState.wanted
    rw [hs.phase]
  have hval := octets_value hn
  have hrun : Feed.run (decapOctet cb) (s, a) (enc16 n) = decapDone cb (s.copy (enc16 n), a) :=
    run_done (enc16 n) (by unfold enc16; simp) (by rw [hs.pos, hwanted]; rfl)
  refine ⟨(s.copy (enc16 n)).buf, ?_⟩
  have h0 : (s.copy (enc16 n)).buf 0 = UInt8.ofNat (n / 256) := by
    show memcpy s.buf s.pos (enc16 n) 0 = _
    rw [hs.pos, memcpy_at _ _ (by show 0 < 2; omega)]
    rfl
  have h1 : (s.copy (enc16 n)).buf 1 = UInt8.ofNat n := by
    show memcpy s.buf s.pos (enc16 n) 1 = _
    rw [hs.pos, memcpy_at _ _ (by show 1 < 2; omega)]
    rfl
  have hphase : (s.copy (enc16 n)).phase = .len := hs.phase
  rw [hrun]
  unfold decapDone
  dsimp only
  rw [hphase]
  dsimp only
  rw [h0, h1, hval, if_neg (by omega), if_neg (by omega)]

/-- a payload behind the non-ESP marker is an IKE message -/
theorem decapDone_ike (a : τ) (hphase : s.phase = .payload) (hplen : 4 ≤ s.reclen - 2)
    (hmarker : ∀ j, j < 4 → s.buf j = 0) :
    decapDone cb (s, a) = decapDeliver cb (s, a) (readBuf s.buf 4 (s.reclen - 2 - 4)) .ike := by
  unfold decapDone
  dsimp only
  rw [hphase]
  dsimp only
  rw [if_neg (fun h => by omega), if_neg (by omega), if_pos ⟨hmarker 0 (by omega),
    hmarker 1 (by omega), hmarker 2 (by omega), hmarker 3 (by omega)⟩]

/-- the payload of a record is read -/
theorem run_payload (buf : Nat → UInt8) (a : τ) {n : Nat} (ike : Bytes) (hn : n = ike.length + 6) :
    Feed.run (decapOctet cb) (⟨buf, 0, n, .payload⟩, a) (nonEspMarker ++ ike)
    = decapDeliver cb ((⟨buf, 0, n, .payload⟩ : DecapState).copy (nonEspMarker ++ ike), a) ike .ike := by
  have hlen : (nonEspMarker ++ ike).length = n - 2 := by
    rw [List.length_append]
    show 4 + ike.length = n - 2
    omega
  have hzero : ∀ j, j < 4 → memcpy buf 0 (nonEspMarker ++ ike) j = 0 := by
    intro j hj
    rw [memcpy_at _ _ (by omega), byteAt_append_left _ _ _ hj]
    obtain rfl | rfl | rfl | rfl : j = 0 ∨ j = 1 ∨ j = 2 ∨ j = 3 := by omega
    all_goals rfl
  have hpkt : readBuf (memcpy buf 0 (nonEspMarker ++ ike)) 4 (n - 2 - 4) = ike := by
    rw [readBuf_memcpy _ _ (by omega)]
    have happ := slice_append_right nonEspMarker ike 0 (n - 2 - 4)
    have htake : slice ike 0 (n - 2 - 4) = ike := by
      unfold slice
      rw [List.drop_zero, List.take_of_length_le (by omega)]
    exact happ.trans htake
  rw [run_done (nonEspMarker ++ ike) (by unfold nonEspMarker; simp) (by show 0 + _ = n - 2; omega),
    decapDone_ike a rfl (by show 4 ≤ n - 2; omega) hzero]
  exact congrArg (fun pkt => decapDeliver cb _ pkt .ike) hpkt

end

/-- a record is handed over -/
theorem run_ikeRecord {s : DecapState} (hs : s.Idle) (frames : List (Bytes × FrameKind)) {ike : Bytes}
    (h : ike.length ≤ 65529) : ∃ s' : DecapState, s'.Idle ∧
      Feed.run (decapOctet keepFrames) (s, frames) (ikeRecord ike)
      = ((s', frames ++ [(ike, .ike)]), true) := by
  unfold ikeRecord ikeRecordOverhead
  have h3 : 3 ≤ ike.length + 6 := by omega
  have hlt : ike.length + 6 < 65536 := by omega
  obtain ⟨buf, hlen⟩ := run_len hs frames hlt h3
  refine ⟨{ (⟨buf, 0, ike.length + 6, .payload⟩ : DecapState).copy (nonEspMarker ++ ike) with
    pos := 0, phase := .len }, ⟨rfl, rfl⟩, ?_⟩
  rw [Feed.run_append_on hlen, run_payload buf frames ike rfl]
  rfl

theorem run_records (msgs : List Bytes) (h : ∀ m ∈ msgs, m.length ≤ 65529) :
    ∀ (s : DecapState) (frames : List (Bytes × FrameKind)), s.Idle →
      ∃ s' : DecapState, s'.Idle ∧
        Feed.run (decapOctet keepFrames) (s, frames) (msgs.flatMap ikeRecord)
        = ((s', frames ++ msgs.map fun m => (m, .ike)), true) := by
  induction msgs with
  | nil =>
    intro s frames hs
    exact ⟨s, hs, by rw [List.map_nil, List.append_nil]; rfl⟩
  | cons m msgs ih =>
    intro s frames hs
    obtain ⟨s₁, hs₁, hrec⟩ := run_ikeRecord hs frames (h m List.mem_cons_self)
    obtain ⟨s₂, hs₂, hrest⟩ := ih (fun m hm => h m (List.mem_cons_of_mem _ hm)) s₁
      (frames ++ [(m, .ike)]) hs₁
    refine ⟨s₂, hs₂, ?_⟩
    rw [List.flatMap_cons, Feed.run_append_on hrec, hrest, List.map_cons, List.append_assoc]
    rfl

/-- the prefix is read -/
theorem run_begin (frames : List (Bytes × FrameKind)) : ∃ s : DecapState, s.Idle ∧
    Feed.run (decapOctet keepFrames) (tcpDecapInit true, frames) tcpPrefixOctets
    = ((s, frames), true) := by
  refine ⟨{ (tcpDecapInit true).copy tcpPrefixOctets with pos := 0, phase := .len }, ⟨rfl, rfl⟩, ?_⟩
  have hread : readBuf (memcpy (tcpDecapInit true).buf 0 tcpPrefixOctets) 0 6 = tcpPrefixOctets := by
    rw [readBuf_memcpy _ _ (by decide)]
    rfl
  rw [run_done tcpPrefixOctets (by decide) rfl]
  unfold decapDone
  show (if readBuf (memcpy (tcpDecapInit true).buf 0 tcpPrefixOctets) 0 6 ≠ tcpPrefixOctets then _
    else _) = _
  rw [if_neg (not_not.mpr hread)]

/-- what was framed after the prefix is delivered, however the stream is cut into reads; and for
every stream, prefixed or not, and every callback the cutting does not matter: neither to what is
handed over nor to the state it ends in, also where a Len or a payload is malformed or the callback
ends the stream, nor for a whole `struct tcp_stream` that reads from its socket -/
theorem tcp_encapsulation (msgs : List Bytes)
    (hlen : ∀ m ∈ msgs, 1 ≤ m.length ∧ m.length ≤ 65529) :
    (∃ stream, tcpStreamOf msgs = some stream
      ∧ ∀ pieces : List Bytes, pieces.flatten = stream →
        ∃ s : DecapState, s.Idle ∧ Feed.run (tcpDecapFeed keepFrames) (tcpDecapInit true, []) pieces
          = ((s, msgs.map fun m => (m, .ike)), true))
    ∧ (∀ (τ : Type) (cb : τ → Bytes → FrameKind → τ × Bool) (a : τ) (expectPrefix : Bool)
        (pieces pieces' : List Bytes), pieces.flatten = pieces'.flatten →
        Feed.run (tcpDecapFeed cb) (tcpDecapInit expectPrefix, a) pieces
        = Feed.run (tcpDecapFeed cb) (tcpDecapInit expectPrefix, a) pieces')
    ∧ (∀ (τ : Type) (dispatch : τ → Bytes → τ × Bool) (env : τ) (expectPrefix : Bool)
        (calls calls' : List (List ReadResult)),
        (∀ reads ∈ calls, ∀ r ∈ reads, r.alive = true) →
        (∀ reads ∈ calls', ∀ r ∈ reads, r.alive = true) →
        calls.flatten.flatMap ReadResult.octets = calls'.flatten.flatMap ReadResult.octets →
        Feed.run (tcpStreamOnReadable dispatch false) (tcpDecapInit expectPrefix, ⟨0, false, env⟩) calls
        = Feed.run (tcpStreamOnReadable dispatch false) (tcpDecapInit expectPrefix, ⟨0, false, env⟩)
            calls') := by
  have hmax : ∀ m ∈ msgs, m.length ≤ 65529 := fun m hm => (hlen m hm).2
  refine ⟨⟨_, tcpStreamOf_some msgs hmax, fun pieces hcut => ?_⟩, ?_, ?_⟩
  · obtain ⟨s₁, hs₁, hbegin⟩ := run_begin []
    obtain ⟨s₂, hs₂, hrecs⟩ := run_records msgs hmax s₁ [] hs₁
    refine ⟨s₂, hs₂, ?_⟩
    rw [run_pieces pieces _ (tcpDecapInit_ok true), hcut, Feed.run_append_on hbegin, hrecs]
    rfl
  · intro τ cb a expectPrefix pieces pieces' hsame
    have hok : (tcpDecapInit expectPrefix, a).1.Ok := tcpDecapInit_ok expectPrefix
    rw [run_pieces pieces _ hok, run_pieces pieces' _ hok, hsame]
  · intro τ dispatch env expectPrefix calls calls' halive halive' hsame
    have hok : Reading (tcpDecapInit expectPrefix, (⟨0, false, env⟩ : Receiver τ)) :=
      ⟨tcpDecapInit_ok expectPrefix, rfl⟩
    rw [run_calls calls _ hok halive, run_calls calls' _ hok halive', hsame]

/-- two messages, one of them a single octet -/
theorem tcp_encapsulation_two :
    (∀ m ∈ [[7], [1, 2, 3]], 1 ≤ m.length ∧ m.length ≤ 65529)
    ∧ ∃ stream, tcpStreamOf [[7], [1, 2, 3]] = some stream
      ∧ ∀ pieces : List Bytes, pieces.flatten = stream →
        ∃ s : DecapState, s.Idle ∧ Feed.run (tcpDecapFeed keepFrames) (tcpDecapInit true, []) pieces
          = ((s, [([7], .ike), ([1, 2, 3], .ike)]), true) :=
  ⟨by decide, (tcp_encapsulation [[7], [1, 2, 3]] (by decide)).1⟩

end Ikev2
