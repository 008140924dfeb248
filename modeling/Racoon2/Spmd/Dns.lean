import Racoon2.Lib.Reads

/-!
# The parser for DNS replies

`snoop_reply` walks the records that the four counts of a reply announce. A name is a chain of
labels and pointers; the walk reads octets at offsets that the message gives.

* `getName`, `parseRr`, `snoopReply`: the parser, with a log of its reads;
* `Expands`: the labels of an encoded name, after RFC 1035;
* `NameAt`, `RunsOut`: the names that the parser can hold, and those that have no end in the message.
-/

set_option linter.unusedVariables false

namespace Spmd
open Bytes

/-! ## the parser -/

/-- MAX_NAME_LEN -/
def maxNameLen : Nat := 256

/-- GET_OFFSET -/
def getOffset (x y : UInt8) : Nat := (x &&& 0x3f).toNat * 256 + y.toNat

section
variable (m : Memory)

/-- the loop of `get_name`; `text` is what was written to the name, `follow` the call for a pointer -/
def nameLoop (namesz : Nat) (follow : Nat → Bytes → Walk (Nat × Bytes)) (start : Nat) :
    Nat → Nat → Bytes → Walk (Nat × Bytes)
  | 0, _, _ => ⟨[], .stuck⟩
  | fuel + 1, pos, text => do
    let label ← Walk.read m pos
    if label = 0 then
      if text = [] then
        if namesz ≤ 1 then Walk.fail else pure (pos + 1 - start, [46, 0])
      else if namesz ≤ text.length then Walk.fail
      else pure (pos + 1 - start, text ++ [0])
    else if label &&& 0xc0 = 0xc0 then
      if m.size ≤ pos + 1 then Walk.fail
      else do
        let low ← Walk.read m (pos + 1)
        if m.size ≤ getOffset label low then Walk.fail
        else do
          let (_, name) ← follow (getOffset label low) text
          pure (pos + 2 - start, name)
    else if label &&& 0xc0 = 0 then
      if m.left (pos + 1) < label.toNat then Walk.fail
      else if namesz ≤ text.length + label.toNat + 1 then Walk.fail
      else do
        let octets ← Walk.copy m (pos + 1) label.toNat
        nameLoop namesz follow start fuel (pos + 1 + label.toNat) (text ++ octets ++ [46])
    else Walk.fail

/-- `get_name`, for at most `calls` calls; the length of the encoded name and the name with its NUL.
Every round of the loop but the last writes to the name, so `namesz` rounds are enough -/
def getName (namesz : Nat) : Nat → Nat → Bytes → Walk (Nat × Bytes)
  | 0, _, _ => Walk.fail
  | calls + 1, pos, text =>
    if m.size ≤ pos then Walk.fail
    else nameLoop m namesz (getName namesz calls) pos (namesz + 1) pos text

/-- the address of an A or AAAA record -/
inductive RrAddr where
  | inet (octets : Bytes)
  | inet6 (octets : Bytes)
  deriving DecidableEq, Repr

/-- `struct rr` -/
structure Rr where
  name : Bytes
  type : Nat
  class_ : Nat
  ttl : Nat
  rdlen : Nat
  rdata : Bytes
  sa : Option RrAddr
  deriving DecidableEq, Repr

def typeA : Nat := 1
def typeCname : Nat := 5
def typeAaaa : Nat := 28

/-- the calls of `get_name` for one name -/
def maxDepth : Nat := 16

/-- the rdata of `parse_rr` -/
def parseRdata (rr : Rr) (p : Nat) : Walk (Rr × Nat) :=
  if rr.type = typeA then
    if rr.rdlen ≠ 4 then Walk.fail
    else do
      let octets ← Walk.copy m p rr.rdlen
      pure ({ rr with sa := some (.inet octets) }, p + rr.rdlen)
  else if rr.type = typeAaaa then
    if rr.rdlen ≠ 16 then Walk.fail
    else do
      let octets ← Walk.copy m p rr.rdlen
      pure ({ rr with sa := some (.inet6 octets) }, p + rr.rdlen)
  else if rr.type = typeCname then do
    let (_, name) ← getName m maxNameLen maxDepth p []
    pure ({ rr with rdata := name }, p + rr.rdlen)
  else if maxNameLen < rr.rdlen then Walk.fail
  else do
    let octets ← Walk.copy m p rr.rdlen
    pure ({ rr with rdata := octets }, p + rr.rdlen)

/-- what `parse_rr` reads behind the name -/
def parseFields (question : Bool) (name : Bytes) (p : Nat) : Walk (Rr × Nat) :=
  if m.left p < 2 then Walk.fail
  else do
    let type ← Walk.copy m p 2
    if m.left (p + 2) < 2 then Walk.fail
    else do
      let class_ ← Walk.copy m (p + 2) 2
      if question then
        pure (⟨name, be16 type 0, be16 class_ 0, 0, 0, [], none⟩, p + 4)
      else if m.left (p + 4) < 6 then Walk.fail
      else do
        let ttl ← Walk.copy m (p + 4) 4
        let rdlen ← Walk.copy m (p + 8) 2
        if m.left (p + 10) < be16 rdlen 0 then Walk.fail
        else
          let rr : Rr := ⟨name, be16 type 0, be16 class_ 0, be32 ttl 0, be16 rdlen 0, [], none⟩
          parseRdata m rr (p + 10)

/-- `parse_rr`; the record and the place behind it -/
def parseRr (question : Bool) (pos : Nat) : Walk (Rr × Nat) :=
  if m.size < pos then Walk.fail
  else do
    let (len, name) ← getName m maxNameLen maxDepth pos []
    parseFields m question name (pos + len)

/-- one of the loops of `snoop_reply` -/
def parseRrs (question : Bool) : Nat → Nat → Walk (List Rr × Nat)
  | 0, pos => pure ([], pos)
  | n + 1, pos => do
    let (rr, pos) ← parseRr m question pos
    let (rrs, pos) ← parseRrs question n pos
    pure (rr :: rrs, pos)

/-- the bits of `flags` that GET_QR and its kind take out -/
structure DnsFlags where
  qr : Nat
  opcode : Nat
  aa : Nat
  tc : Nat
  rd : Nat
  ra : Nat
  rcode : Nat
  deriving DecidableEq, Repr

def getFlags (x : Nat) : DnsFlags where
  qr := (x &&& 0x8000) >>> 15
  opcode := (x &&& 0x7800) >>> 11
  aa := (x &&& 0x400) >>> 10
  tc := (x &&& 0x200) >>> 9
  rd := (x &&& 0x100) >>> 8
  ra := (x &&& 0x80) >>> 7
  rcode := x &&& 0xf

/-- `struct dns_data` -/
structure DnsData where
  id : Nat
  flags : DnsFlags
  qdcount : Nat
  ancount : Nat
  nscount : Nat
  arcount : Nat
  q : List Rr
  a : List Rr
  ns : List Rr
  ar : List Rr
  deriving DecidableEq, Repr

/-- sizeof(struct dnsh) -/
def dnshSize : Nat := 12

/-- `snoop_reply` -/
def snoopReply : Walk DnsData :=
  if m.size < dnshSize then Walk.fail
  else do
    let dh ← Walk.copy m 0 dnshSize
    let (q, p) ← parseRrs m true (be16 dh 4) dnshSize
    let (a, p) ← parseRrs m false (be16 dh 6) p
    let (ns, p) ← parseRrs m false (be16 dh 8) p
    let (ar, p) ← parseRrs m false (be16 dh 10) p
    pure ⟨be16 dh 0, getFlags (be16 dh 2), be16 dh 4, be16 dh 6, be16 dh 8, be16 dh 10, q, a, ns, ar⟩

end

/-! ## names and records in a message -/

/-- the labels of the name encoded at `pos`, and the place behind the code; RFC 1035 4.1.4 -/
inductive Expands (msg : Bytes) : Nat → List Bytes → Nat → Prop
  | root {pos} : pos < msg.length → byteAt msg pos = 0 → Expands msg pos [] (pos + 1)
  | label {pos labels next} : pos < msg.length → byteAt msg pos ≠ 0 →
      byteAt msg pos &&& 0xc0 = 0 → pos + 1 + (byteAt msg pos).toNat ≤ msg.length →
      Expands msg (pos + 1 + (byteAt msg pos).toNat) labels next →
      Expands msg pos (slice msg (pos + 1) (byteAt msg pos).toNat :: labels) next
  | pointer {pos labels next} : pos + 1 < msg.length → byteAt msg pos &&& 0xc0 = 0xc0 →
      Expands msg (getOffset (byteAt msg pos) (byteAt msg (pos + 1))) labels next →
      Expands msg pos labels (pos + 2)

/-- the text of a name behind the octets in `text`: a dot after every label, one for the root -/
def nameText (text : Bytes) (labels : List Bytes) : Bytes :=
  if text = [] ∧ labels = [] then [46] else text ++ labels.flatMap (· ++ [46])

/-- a name that the parser can hold: `calls` calls of `get_name` follow its pointers, and its text
fits behind the `idx` octets that are there -/
inductive NameAt (msg : Bytes) : Nat → Nat → Nat → List Bytes → Nat → Prop
  | root {calls idx pos} : pos < msg.length → byteAt msg pos = 0 →
      NameAt msg (calls + 1) idx pos [] (pos + 1)
  | label {calls idx pos labels next} : pos < msg.length → byteAt msg pos ≠ 0 →
      byteAt msg pos &&& 0xc0 = 0 → pos + 1 + (byteAt msg pos).toNat ≤ msg.length →
      idx + (byteAt msg pos).toNat + 1 < maxNameLen →
      NameAt msg (calls + 1) (idx + (byteAt msg pos).toNat + 1)
        (pos + 1 + (byteAt msg pos).toNat) labels next →
      NameAt msg (calls + 1) idx pos
        (slice msg (pos + 1) (byteAt msg pos).toNat :: labels) next
  | pointer {calls idx pos labels next} : pos + 1 < msg.length →
      byteAt msg pos &&& 0xc0 = 0xc0 →
      getOffset (byteAt msg pos) (byteAt msg (pos + 1)) < msg.length →
      NameAt msg calls idx (getOffset (byteAt msg pos) (byteAt msg (pos + 1))) labels next →
      NameAt msg (calls + 1) idx pos labels (pos + 2)

/-- the labels of a name, followed as far as the parser can hold them, come to the end of the
message before a root label or a pointer -/
inductive RunsOut (msg : Bytes) : Nat → Nat → Nat → Prop
  | ends {calls idx} : RunsOut msg (calls + 1) idx msg.length
  | label {calls idx pos} : pos < msg.length → byteAt msg pos ≠ 0 →
      byteAt msg pos &&& 0xc0 = 0 → pos + 1 + (byteAt msg pos).toNat ≤ msg.length →
      idx + (byteAt msg pos).toNat + 1 < maxNameLen →
      RunsOut msg (calls + 1) (idx + (byteAt msg pos).toNat + 1)
        (pos + 1 + (byteAt msg pos).toNat) →
      RunsOut msg (calls + 1) idx pos
  | pointer {calls idx pos} : pos + 1 < msg.length → byteAt msg pos &&& 0xc0 = 0xc0 →
      getOffset (byteAt msg pos) (byteAt msg (pos + 1)) < msg.length →
      RunsOut msg calls idx (getOffset (byteAt msg pos) (byteAt msg (pos + 1))) →
      RunsOut msg (calls + 1) idx pos

theorem NameAt.expands {msg : Bytes} {calls idx pos next : Nat} {labels : List Bytes}
    (h : NameAt msg calls idx pos labels next) : Expands msg pos labels next := by
  induction h with
  | root hpos hzero => exact .root hpos hzero
  | label hpos hzero htag hlen _ _ ih => exact .label hpos hzero htag hlen ih
  | pointer hpos htag _ _ ih => exact .pointer hpos htag ih

/-- the code of a name ends behind its start, inside the message -/
theorem NameAt.next_bounds {msg : Bytes} {calls idx pos next : Nat} {labels : List Bytes}
    (h : NameAt msg calls idx pos labels next) : pos < next ∧ next ≤ msg.length := by
  induction h with
  | root hpos => exact ⟨Nat.lt_succ_self _, hpos⟩
  | label _ _ _ _ _ _ ih => omega
  | pointer hpos => omega

theorem NameAt.pos_lt {msg : Bytes} {calls idx pos next : Nat} {labels : List Bytes}
    (h : NameAt msg calls idx pos labels next) : pos < msg.length :=
  Nat.lt_of_lt_of_le h.next_bounds.1 h.next_bounds.2

/-! ## one name -/

section
variable {m : Memory}

/-- the results of `get_name` for the name at `pos`, counted from `start` -/
def NameResult (msg : Bytes) (calls start pos : Nat) (text : Bytes) (r : Nat × Bytes) : Prop :=
  ∃ labels next, NameAt msg calls text.length pos labels next ∧
    r = (next - start, nameText text labels ++ [0])

def FollowMeets (m : Memory) (calls : Nat) (follow : Nat → Bytes → Walk (Nat × Bytes)) : Prop :=
  ∀ pos text, pos < m.size → text.length < maxNameLen →
    (follow pos text).Meets m.size (NameResult m.octets calls pos pos text)
      (RunsOut m.octets calls text.length pos)

theorem nameText_append (text label : Bytes) (labels : List Bytes) :
    nameText (text ++ label ++ [46]) labels = nameText text (label :: labels) := by
  unfold nameText
  rw [if_neg (fun h => by simp at h), if_neg (fun h => by simp at h), List.flatMap_cons]
  simp only [List.append_assoc]

theorem written_length (text : Bytes) {pos n : Nat} (h : pos + n ≤ m.size) :
    (text ++ slice m.octets pos n ++ [46]).length = text.length + n + 1 := by
  rw [List.length_append, List.length_append, slice_length _ _ _ h]
  rfl

variable {calls start pos : Nat} {text : Bytes}

theorem nameResult_root {r : Nat × Bytes} (hpos : pos < m.size) (hzero : byteAt m.octets pos = 0) :
    r = (pos + 1 - start, nameText text [] ++ [0]) ↔
      NameResult m.octets (calls + 1) start pos text r := by
  constructor
  · exact fun h => ⟨[], pos + 1, .root hpos hzero, h⟩
  · rintro ⟨labels, next, hname, rfl⟩
    cases hname with
    | root _ _ => rfl
    | label _ hzero' => exact absurd hzero hzero'
    | pointer _ htag => rw [hzero] at htag; cases htag

theorem runsOut_root (hpos : pos < m.size) (hzero : byteAt m.octets pos = 0) :
    ¬ RunsOut m.octets (calls + 1) text.length pos := by
  intro h
  cases h with
  | ends => exact absurd hpos (Nat.lt_irrefl _)
  | label _ hzero' => exact absurd hzero hzero'
  | pointer _ htag => rw [hzero] at htag; cases htag

section
variable (htag : byteAt m.octets pos &&& 0xc0 = 0) (hzero : byteAt m.octets pos ≠ 0)

include htag hzero

theorem nameResult_label (hpos : pos < m.size) (calls start : Nat) (text : Bytes)
    (r : Nat × Bytes) :
    NameResult m.octets (calls + 1) start pos text r ↔
      pos + 1 + (byteAt m.octets pos).toNat ≤ m.size ∧
      text.length + (byteAt m.octets pos).toNat + 1 < maxNameLen ∧
      NameResult m.octets (calls + 1) start (pos + 1 + (byteAt m.octets pos).toNat)
        (text ++ slice m.octets (pos + 1) (byteAt m.octets pos).toNat ++ [46]) r := by
  constructor
  · rintro ⟨labels, next, hname, rfl⟩
    cases hname with
    | root _ hzero' => exact absurd hzero' hzero
    | label _ _ _ hlen hroom hname =>
      rw [← written_length text hlen] at hname
      exact ⟨hlen, hroom, _, _, hname, by rw [nameText_append]⟩
    | pointer _ htag' => exact absurd (htag.symm.trans htag') (by decide)
  · rintro ⟨hlen, hroom, labels, next, hname, rfl⟩
    rw [written_length text hlen] at hname
    exact ⟨_, _, .label hpos hzero htag hlen hroom hname, by rw [nameText_append]⟩

theorem runsOut_label (hpos : pos < m.size) (calls : Nat) (text : Bytes) :
    RunsOut m.octets (calls + 1) text.length pos ↔
      pos + 1 + (byteAt m.octets pos).toNat ≤ m.size ∧
      text.length + (byteAt m.octets pos).toNat + 1 < maxNameLen ∧
      RunsOut m.octets (calls + 1) (text.length + (byteAt m.octets pos).toNat + 1)
        (pos + 1 + (byteAt m.octets pos).toNat) := by
  constructor
  · intro h
    cases h with
    | ends => exact absurd hpos (Nat.lt_irrefl _)
    | label _ _ _ hlen hroom h => exact ⟨hlen, hroom, h⟩
    | pointer _ htag' => exact absurd (htag.symm.trans htag') (by decide)
  · rintro ⟨hlen, hroom, h⟩
    exact .label hpos hzero htag hlen hroom h

end

section
variable {r : Nat × Bytes} (htag : byteAt m.octets pos &&& 0xc0 = 0xc0)

include htag

theorem nameResult_pointer :
    NameResult m.octets (calls + 1) start pos text r ↔
      pos + 1 < m.size ∧
      getOffset (byteAt m.octets pos) (byteAt m.octets (pos + 1)) < m.size ∧
      ∃ name, NameResult m.octets calls
          (getOffset (byteAt m.octets pos) (byteAt m.octets (pos + 1)))
          (getOffset (byteAt m.octets pos) (byteAt m.octets (pos + 1))) text name ∧
        r = (pos + 2 - start, name.2) := by
  constructor
  · rintro ⟨labels, next, hname, rfl⟩
    cases hname with
    | root _ hzero => rw [hzero] at htag; cases htag
    | label _ _ htag' => exact absurd (htag'.symm.trans htag) (by decide)
    | pointer hpos _ hoff hname => exact ⟨hpos, hoff, _, ⟨_, _, hname, rfl⟩, rfl⟩
  · rintro ⟨hpos, hoff, _, ⟨labels, next, hname, rfl⟩, rfl⟩
    exact ⟨_, _, .pointer hpos htag hoff hname, rfl⟩

theorem runsOut_pointer (hpos : pos < m.size) :
    RunsOut m.octets (calls + 1) text.length pos ↔
      pos + 1 < m.size ∧
      getOffset (byteAt m.octets pos) (byteAt m.octets (pos + 1)) < m.size ∧
      RunsOut m.octets calls text.length
        (getOffset (byteAt m.octets pos) (byteAt m.octets (pos + 1))) := by
  constructor
  · intro h
    cases h with
    | ends => exact absurd hpos (Nat.lt_irrefl _)
    | label _ _ htag' => exact absurd (htag'.symm.trans htag) (by decide)
    | pointer hpos _ hoff h => exact ⟨hpos, hoff, h⟩
  · rintro ⟨hpos, hoff, h⟩
    exact .pointer hpos htag hoff h

end

theorem nameResult_other {r : Nat × Bytes} (hzero : byteAt m.octets pos ≠ 0)
    (hptr : byteAt m.octets pos &&& 0xc0 ≠ 0xc0) (hlab : byteAt m.octets pos &&& 0xc0 ≠ 0) :
    ¬ NameResult m.octets (calls + 1) start pos text r := by
  rintro ⟨labels, next, hname, rfl⟩
  cases hname with
  | root _ hzero' => exact hzero hzero'
  | label _ _ htag => exact hlab htag
  | pointer _ htag => exact hptr htag

theorem runsOut_other (hpos : pos < m.size)
    (hptr : byteAt m.octets pos &&& 0xc0 ≠ 0xc0) (hlab : byteAt m.octets pos &&& 0xc0 ≠ 0) :
    ¬ RunsOut m.octets (calls + 1) text.length pos := by
  intro h
  cases h with
  | ends => exact absurd hpos (Nat.lt_irrefl _)
  | label _ _ htag => exact hlab htag
  | pointer _ htag => exact hptr htag

/-- a round of the loop that reads the root label -/
theorem root_meets (hpos : pos < m.size) (htext : text.length < maxNameLen)
    (hzero : byteAt m.octets pos = 0) :
    (if text = [] then
        if maxNameLen ≤ 1 then Walk.fail else pure (pos + 1 - start, [46, 0])
      else if maxNameLen ≤ text.length then Walk.fail
      else pure (pos + 1 - start, text ++ [0]) : Walk (Nat × Bytes)).Meets m.size
      (NameResult m.octets (calls + 1) start pos text)
      (RunsOut m.octets (calls + 1) text.length pos) := by
  have hpure : (pure (pos + 1 - start, nameText text [] ++ [0]) : Walk (Nat × Bytes)).Meets m.size
      (NameResult m.octets (calls + 1) start pos text)
      (RunsOut m.octets (calls + 1) text.length pos) :=
    (Walk.Meets.pure _).congr (fun r => nameResult_root hpos hzero)
      ⟨False.elim, runsOut_root hpos hzero⟩
  by_cases hempty : text = []
  · subst hempty
    rw [if_pos rfl, if_neg (by decide)]
    exact hpure
  · rw [if_neg hempty, if_neg (Nat.not_le_of_lt htext)]
    unfold nameText at hpure
    rw [if_neg (fun h => hempty h.1), List.flatMap_nil, List.append_nil] at hpure
    exact hpure

/-- a round of the loop that reads a pointer -/
theorem pointer_meets {follow : Nat → Bytes → Walk (Nat × Bytes)}
    (hfollow : FollowMeets m calls follow) (hpos : pos < m.size) (htext : text.length < maxNameLen)
    (htag : byteAt m.octets pos &&& 0xc0 = 0xc0) :
    (if m.size ≤ pos + 1 then Walk.fail
      else do
        let low ← Walk.read m (pos + 1)
        if m.size ≤ getOffset (byteAt m.octets pos) low then Walk.fail
        else do
          let (_, name) ← follow (getOffset (byteAt m.octets pos) low) text
          pure (pos + 2 - start, name) : Walk (Nat × Bytes)).Meets m.size
      (NameResult m.octets (calls + 1) start pos text)
      (RunsOut m.octets (calls + 1) text.length pos) := by
  refine .refuse (fun r h => Nat.not_le_of_lt ((nameResult_pointer htag).mp h).1)
    (fun h => Nat.not_le_of_lt ((runsOut_pointer htag hpos).mp h).1) fun hnext => ?_
  refine .read_bind (Nat.lt_of_not_le hnext) ?_
  refine .refuse (fun r h => Nat.not_le_of_lt ((nameResult_pointer htag).mp h).2.1)
    (fun h => Nat.not_le_of_lt ((runsOut_pointer htag hpos).mp h).2.1) fun hoff => ?_
  refine ((hfollow _ text (Nat.lt_of_not_le hoff) htext).bind
    fun name _ => Walk.Meets.pure (pos + 2 - start, name.2)).congr (fun r => ?_) ?_
  · rw [nameResult_pointer htag]
    exact ⟨fun h => ⟨Nat.lt_of_not_le hnext, Nat.lt_of_not_le hoff, h⟩, fun h => h.2.2⟩
  · rw [runsOut_pointer htag hpos]
    simp only [and_false, exists_false, or_false]
    exact ⟨fun h => ⟨Nat.lt_of_not_le hnext, Nat.lt_of_not_le hoff, h⟩, fun h => h.2.2⟩

theorem nameLoop_meets {follow : Nat → Bytes → Walk (Nat × Bytes)}
    (hfollow : FollowMeets m calls follow) (fuel : Nat) :
    ∀ pos text, pos ≤ m.size → text.length < maxNameLen → maxNameLen < fuel + text.length →
      (nameLoop m maxNameLen follow start fuel pos text).Meets m.size
        (NameResult m.octets (calls + 1) start pos text)
        (RunsOut m.octets (calls + 1) text.length pos) := by
  induction fuel with
  | zero => intro pos text _ htext hfuel; omega
  | succ fuel ih =>
    intro pos text hpos htext hfuel
    unfold nameLoop
    rcases Nat.lt_or_eq_of_le hpos with hpos | rfl
    · apply Walk.Meets.read_bind hpos
      split
      · next hzero => exact root_meets hpos htext hzero
      next hzero =>
      split
      · next htag => exact pointer_meets hfollow hpos htext htag
      next hptr =>
      split
      · next htag =>
        have hresult := nameResult_label htag hzero hpos calls start text
        have hruns := runsOut_label htag hzero hpos calls text
        rw [m.left_of_le hpos]
        refine .refuse (fun r h => ?_) (fun h => ?_) fun hlen => ?_
        · have := ((hresult r).mp h).1
          omega
        · have := (hruns.mp h).1
          omega
        refine .refuse (fun r h => Nat.not_le_of_lt ((hresult r).mp h).2.1)
          (fun h => Nat.not_le_of_lt (hruns.mp h).2.1) fun hroom => ?_
        have hin : pos + 1 + (byteAt m.octets pos).toNat ≤ m.size := by omega
        have hwritten := written_length text hin
        refine .copy_bind hin ?_
        refine (ih _ (text ++ slice m.octets (pos + 1) (byteAt m.octets pos).toNat ++ [46]) hin ?_
          ?_).congr (fun r => ?_) ?_
        · omega
        · omega
        · rw [hresult r]
          exact ⟨fun h => ⟨hin, Nat.lt_of_not_le hroom, h⟩, fun h => h.2.2⟩
        · rw [hruns, hwritten]
          exact ⟨fun h => ⟨hin, Nat.lt_of_not_le hroom, h⟩, fun h => h.2.2⟩
      · next hlab =>
        exact Walk.Meets.fail.congr
          (fun r => ⟨False.elim, nameResult_other hzero hptr hlab⟩)
          ⟨False.elim, runsOut_other hpos hptr hlab⟩
    · exact .of_past (Walk.Past.bind ⟨.read m.size, List.mem_singleton_self _,
        Nat.lt_irrefl _⟩) .ends

theorem getName_meets (calls : Nat) :
    ∀ pos text, text.length < maxNameLen →
      (getName m maxNameLen calls pos text).Meets m.size
        (NameResult m.octets calls pos pos text)
        (pos < m.size ∧ RunsOut m.octets calls text.length pos) := by
  induction calls with
  | zero =>
    intro pos text _
    refine Walk.Meets.fail.congr (fun r => ⟨False.elim, ?_⟩) ⟨False.elim, ?_⟩
    · rintro ⟨_, _, h, _⟩
      cases h
    · rintro ⟨_, h⟩
      cases h
  | succ calls ih =>
    intro pos text htext
    have hfollow : FollowMeets m calls (getName m maxNameLen calls) := fun pos text hpos htext =>
      (ih pos text htext).congr (fun _ => Iff.rfl) ⟨And.right, fun h => ⟨hpos, h⟩⟩
    refine .refuse (fun r h => ?_) (fun h => Nat.not_le_of_lt h.1) fun hpos => ?_
    · obtain ⟨_, _, h, _⟩ := h
      exact Nat.not_le_of_lt h.pos_lt
    · have hpos := Nat.lt_of_not_le hpos
      exact (nameLoop_meets hfollow _ pos text (Nat.le_of_lt hpos) htext (by omega)).congr
        (fun _ => Iff.rfl) ⟨fun h => ⟨hpos, h⟩, And.right⟩

end

/-! ## one record -/

section
variable (msg : Bytes) (name : Nat → List Bytes → Nat → Prop)

/-- what stands at `p` as the rdata of a record -/
inductive RdataAt (rr : Rr) (p : Nat) : Rr → Prop
  | inet : rr.type = typeA → rr.rdlen = 4 →
      RdataAt rr p { rr with sa := some (.inet (slice msg p rr.rdlen)) }
  | inet6 : rr.type = typeAaaa → rr.rdlen = 16 →
      RdataAt rr p { rr with sa := some (.inet6 (slice msg p rr.rdlen)) }
  | cname {labels next} : rr.type = typeCname → name p labels next →
      RdataAt rr p { rr with rdata := nameText [] labels ++ [0] }
  | other : rr.type ≠ typeA → rr.type ≠ typeAaaa → rr.type ≠ typeCname →
      rr.rdlen ≤ maxNameLen → RdataAt rr p { rr with rdata := slice msg p rr.rdlen }

/-- the fields at `p` behind the owner name of a record, and the place behind them -/
inductive FieldsAt (owner : Bytes) (p : Nat) : Bool → Rr × Nat → Prop
  | question : p + 4 ≤ msg.length →
      FieldsAt owner p true (⟨owner, be16 msg p, be16 msg (p + 2), 0, 0, [], none⟩, p + 4)
  | resource {rr} : p + 10 ≤ msg.length → p + 10 + be16 msg (p + 8) ≤ msg.length →
      RdataAt msg name ⟨owner, be16 msg p, be16 msg (p + 2), be32 msg (p + 4),
        be16 msg (p + 8), [], none⟩ (p + 10) rr →
      FieldsAt owner p false (rr, p + 10 + be16 msg (p + 8))

/-- a record at `pos`, of the question section or of another one -/
def RecordAt (question : Bool) (pos : Nat) (r : Rr × Nat) : Prop :=
  ∃ labels p, name pos labels p ∧ FieldsAt msg name (nameText [] labels ++ [0]) p question r

/-- as many records one behind the other -/
inductive RecordsAt (question : Bool) : Nat → Nat → List Rr × Nat → Prop
  | nil {pos} : RecordsAt question 0 pos ([], pos)
  | cons {n pos rr rrs} : RecordAt msg name question pos rr →
      RecordsAt question n rr.2 rrs → RecordsAt question (n + 1) pos (rr.1 :: rrs.1, rrs.2)

end

section
variable (msg : Bytes)

/-- a name that the parser can hold, from the start of the buffer for it -/
def HeldAt : Nat → List Bytes → Nat → Prop := NameAt msg maxDepth 0

/-- a name begins at `pos` that runs out -/
def NameRunsOut (pos : Nat) : Prop := pos < msg.length ∧ RunsOut msg maxDepth 0 pos

/-- the name in the CNAME rdata runs out -/
def FieldsRunOut (p : Nat) (question : Bool) : Prop :=
  question = false ∧ be16 msg p = typeCname ∧ p + 10 + be16 msg (p + 8) ≤ msg.length ∧
    NameRunsOut msg (p + 10)

/-- a name of the record at `pos` runs out -/
def RecordRunsOut (question : Bool) (pos : Nat) : Prop :=
  NameRunsOut msg pos ∨ ∃ labels p, HeldAt msg pos labels p ∧ FieldsRunOut msg p question

/-- such a record is among those that the parser comes to -/
inductive RecordsRunOut (question : Bool) : Nat → Nat → Prop
  | here {n pos} : RecordRunsOut msg question pos → RecordsRunOut question (n + 1) pos
  | later {n pos r} : RecordAt msg (HeldAt msg) question pos r →
      RecordsRunOut question n r.2 → RecordsRunOut question (n + 1) pos

end

section
variable {m : Memory}

section
variable {msg : Bytes} {name : Nat → List Bytes → Nat → Prop} {rr r : Rr} {p : Nat}

theorem rdataAt_inet (htype : rr.type = typeA) :
    RdataAt msg name rr p r ↔
      rr.rdlen = 4 ∧ r = { rr with sa := some (.inet (slice msg p rr.rdlen)) } := by
  constructor
  · intro h
    cases h with
    | inet _ hlen => exact ⟨hlen, rfl⟩
    | inet6 htype' => exact absurd (htype.symm.trans htype') (by decide)
    | cname htype' => exact absurd (htype.symm.trans htype') (by decide)
    | other hne => exact absurd htype hne
  · rintro ⟨hlen, rfl⟩
    exact .inet htype hlen

theorem rdataAt_inet6 (htype : rr.type = typeAaaa) :
    RdataAt msg name rr p r ↔
      rr.rdlen = 16 ∧ r = { rr with sa := some (.inet6 (slice msg p rr.rdlen)) } := by
  constructor
  · intro h
    cases h with
    | inet htype' => exact absurd (htype.symm.trans htype') (by decide)
    | inet6 _ hlen => exact ⟨hlen, rfl⟩
    | cname htype' => exact absurd (htype.symm.trans htype') (by decide)
    | other _ hne => exact absurd htype hne
  · rintro ⟨hlen, rfl⟩
    exact .inet6 htype hlen

theorem rdataAt_cname (htype : rr.type = typeCname) :
    RdataAt msg name rr p r ↔
      ∃ labels next, name p labels next ∧ r = { rr with rdata := nameText [] labels ++ [0] } := by
  constructor
  · intro h
    cases h with
    | inet htype' => exact absurd (htype.symm.trans htype') (by decide)
    | inet6 htype' => exact absurd (htype.symm.trans htype') (by decide)
    | cname _ hname => exact ⟨_, _, hname, rfl⟩
    | other _ _ hne => exact absurd htype hne
  · rintro ⟨labels, next, hname, rfl⟩
    exact .cname htype hname

theorem rdataAt_other (ha : rr.type ≠ typeA) (haaaa : rr.type ≠ typeAaaa)
    (hcname : rr.type ≠ typeCname) :
    RdataAt msg name rr p r ↔
      rr.rdlen ≤ maxNameLen ∧ r = { rr with rdata := slice msg p rr.rdlen } := by
  constructor
  · intro h
    cases h with
    | inet htype => exact absurd htype ha
    | inet6 htype => exact absurd htype haaaa
    | cname htype => exact absurd htype hcname
    | other _ _ _ hlen => exact ⟨hlen, rfl⟩
  · rintro ⟨hlen, rfl⟩
    exact .other ha haaaa hcname hlen

end

/-- rdata that is copied when its length is right -/
theorem copied_meets {rr : Rr} {p : Nat} {c : Prop} [Decidable c] {f : Bytes → Rr}
    {bad : Prop} (h : p + rr.rdlen ≤ m.size) (hbad : ¬ bad)
    (hrdata : ∀ r, RdataAt m.octets (HeldAt m.octets) rr p r ↔
      ¬ c ∧ r = f (slice m.octets p rr.rdlen)) :
    (if c then Walk.fail
      else do
        let octets ← Walk.copy m p rr.rdlen
        pure (f octets, p + rr.rdlen) : Walk (Rr × Nat)).Meets m.size
      (fun r => RdataAt m.octets (HeldAt m.octets) rr p r.1 ∧ r.2 = p + rr.rdlen) bad := by
  refine .refuse (fun r hr => ((hrdata r.1).mp hr.1).1) (fun hb => absurd hb hbad) fun hlen => ?_
  refine .copy_bind h ((Walk.Meets.pure _).congr (fun r => ?_) ⟨False.elim, hbad⟩)
  rw [hrdata, Prod.ext_iff]
  exact ⟨fun hr => ⟨⟨hlen, hr.1⟩, hr.2⟩, fun hr => ⟨hr.1.2, hr.2⟩⟩

theorem parseRdata_meets {rr : Rr} {p : Nat} (h : p + rr.rdlen ≤ m.size) :
    (parseRdata m rr p).Meets m.size
      (fun r => RdataAt m.octets (HeldAt m.octets) rr p r.1 ∧ r.2 = p + rr.rdlen)
      (rr.type = typeCname ∧ NameRunsOut m.octets p) := by
  unfold parseRdata
  split
  · next ha =>
    refine copied_meets h (fun hb => ?_) fun r => ?_
    · exact absurd (ha.symm.trans hb.1) (by decide)
    · rw [rdataAt_inet ha, Decidable.not_not]
  next ha =>
  split
  · next haaaa =>
    refine copied_meets h (fun hb => ?_) fun r => ?_
    · exact absurd (haaaa.symm.trans hb.1) (by decide)
    · rw [rdataAt_inet6 haaaa, Decidable.not_not]
  next haaaa =>
  split
  · next hcname =>
    refine ((getName_meets maxDepth p [] (by decide)).bind fun name _ =>
      Walk.Meets.pure ({ rr with rdata := name.2 }, p + rr.rdlen)).congr (fun r => ?_) ?_
    · rw [rdataAt_cname hcname]
      constructor
      · rintro ⟨_, ⟨labels, next, hname, rfl⟩, rfl⟩
        exact ⟨⟨labels, next, hname, rfl⟩, rfl⟩
      · rintro ⟨⟨labels, next, hname, hr⟩, hnext⟩
        exact ⟨_, ⟨labels, next, hname, rfl⟩, Prod.ext hr hnext⟩
    · simp only [and_false, exists_false, or_false]
      exact ⟨fun hb => ⟨hcname, hb⟩, And.right⟩
  · next hcname =>
    refine copied_meets h (fun hb => hcname hb.1) fun r => ?_
    rw [rdataAt_other ha haaaa hcname, Nat.not_lt]

theorem parseFields_meets (question : Bool) (owner : Bytes) {p : Nat} (hp : p ≤ m.size) :
    (parseFields m question owner p).Meets m.size
      (FieldsAt m.octets (HeldAt m.octets) owner p question)
      (FieldsRunOut m.octets p question) := by
  have hgood : ∀ r, FieldsAt m.octets (HeldAt m.octets) owner p question r → p + 4 ≤ m.size := by
    intro r h
    cases h with
    | question h => exact h
    | resource h => exact Nat.le_trans (by omega) h
  have hbad : FieldsRunOut m.octets p question → p + 10 ≤ m.size :=
    fun h => Nat.le_trans (Nat.le_add_right _ _) h.2.2.1
  unfold parseFields
  rw [m.left_of_le hp]
  refine .refuse (fun r h => ?_) (fun h => ?_) fun h2 => ?_
  · have := hgood r h
    omega
  · have := hbad h
    omega
  refine .copy_bind (by omega) ?_
  rw [m.left_of_le (by omega)]
  refine .refuse (fun r h => ?_) (fun h => ?_) fun h4 => ?_
  · have := hgood r h
    omega
  · have := hbad h
    omega
  refine .copy_bind (by omega) ?_
  rw [be16_slice _ (by omega), be16_slice _ (by omega)]
  cases question with
  | true =>
    rw [if_pos rfl]
    refine (Walk.Meets.pure _).congr (fun r => ?_) ⟨False.elim, fun h => nomatch h.1⟩
    constructor
    · rintro rfl
      exact .question (show p + 4 ≤ m.size by omega)
    · intro h
      cases h
      rfl
  | false =>
    rw [if_neg (by decide), m.left_of_le (by omega)]
    refine .refuse (fun r h => ?_) (fun h => ?_) fun h10 => ?_
    · cases h with
      | resource h =>
        have h : p + 10 ≤ m.size := h
        omega
    · have := hbad h
      omega
    refine .copy_bind (by omega) (.copy_bind (by omega) ?_)
    rw [be32_slice _ (by omega), be16_slice _ (by omega), m.left_of_le (by omega)]
    refine .refuse (fun r h => ?_) (fun h => ?_) fun hlen => ?_
    · cases h with
      | resource _ h =>
        have h : p + 10 + be16 m.octets (p + 8) ≤ m.size := h
        simp only [Nat.add_zero]
        omega
    · have h : p + 10 + be16 m.octets (p + 8) ≤ m.size := h.2.2.1
      simp only [Nat.add_zero]
      omega
    simp only [Nat.add_zero] at hlen ⊢
    have hin : p + 10 + be16 m.octets (p + 8) ≤ m.size := by omega
    refine (parseRdata_meets hin).congr (fun r => ?_) ?_
    · obtain ⟨rr, next⟩ := r
      constructor
      · rintro ⟨hr, rfl⟩
        exact .resource (show p + 10 ≤ m.size by omega) hin hr
      · intro h
        cases h with
        | resource _ _ hr => exact ⟨hr, rfl⟩
    · exact ⟨fun h => ⟨rfl, h.1, hin, h.2⟩, fun h => ⟨h.2.1, h.2.2.2⟩⟩

theorem parseRr_meets (question : Bool) {pos : Nat} (hpos : pos ≤ m.size) :
    (parseRr m question pos).Meets m.size
      (RecordAt m.octets (HeldAt m.octets) question pos)
      (RecordRunsOut m.octets question pos) := by
  unfold parseRr
  rw [if_neg (Nat.not_lt_of_le hpos)]
  have hfields : ∀ x, NameResult m.octets maxDepth pos pos [] x →
      (parseFields m question x.2 (pos + x.1)).Meets m.size
        (FieldsAt m.octets (HeldAt m.octets) x.2 (pos + x.1) question)
        (FieldsRunOut m.octets (pos + x.1) question) := by
    rintro _ ⟨labels, next, hname, rfl⟩
    have hnext : next ≤ m.size := hname.next_bounds.2
    exact parseFields_meets question _ (by omega)
  refine ((getName_meets maxDepth pos [] (by decide)).bind hfields).congr (fun r => ?_) ?_
  · constructor
    · rintro ⟨_, ⟨labels, next, hname, rfl⟩, hr⟩
      rw [Nat.add_sub_cancel' (Nat.le_of_lt hname.next_bounds.1)] at hr
      exact ⟨labels, next, hname, hr⟩
    · rintro ⟨labels, next, hname, hr⟩
      refine ⟨_, ⟨labels, next, hname, rfl⟩, ?_⟩
      rw [Nat.add_sub_cancel' (Nat.le_of_lt hname.next_bounds.1)]
      exact hr
  · constructor
    · rintro (h | ⟨_, ⟨labels, next, hname, rfl⟩, hr⟩)
      · exact .inl h
      · rw [Nat.add_sub_cancel' (Nat.le_of_lt hname.next_bounds.1)] at hr
        exact .inr ⟨labels, next, hname, hr⟩
    · rintro (h | ⟨labels, next, hname, hr⟩)
      · exact .inl h
      · refine .inr ⟨_, ⟨labels, next, hname, rfl⟩, ?_⟩
        rw [Nat.add_sub_cancel' (Nat.le_of_lt hname.next_bounds.1)]
        exact hr

/-- a record ends inside the message -/
theorem RecordAt.next_le {msg : Bytes} {name : Nat → List Bytes → Nat → Prop} {question : Bool}
    {pos : Nat} {r : Rr × Nat} (h : RecordAt msg name question pos r) : r.2 ≤ msg.length := by
  obtain ⟨labels, p, _, hfields⟩ := h
  cases hfields with
  | question h => exact h
  | resource _ h => exact h

theorem parseRrs_meets (question : Bool) (n : Nat) :
    ∀ pos, pos ≤ m.size → (parseRrs m question n pos).Meets m.size
      (RecordsAt m.octets (HeldAt m.octets) question n pos)
      (RecordsRunOut m.octets question n pos) := by
  induction n with
  | zero =>
    intro pos _
    refine (Walk.Meets.pure ([], pos)).congr (fun r => ⟨?_, fun h => ?_⟩)
      ⟨False.elim, fun h => nomatch h⟩
    · rintro rfl
      exact .nil
    · cases h
      rfl
  | succ n ih =>
    intro pos hpos
    refine ((parseRr_meets question hpos).bind fun rr hrr =>
      (ih rr.2 hrr.next_le).bind fun rrs _ =>
        Walk.Meets.pure (rr.1 :: rrs.1, rrs.2)).congr (fun r => ?_) ?_
    · constructor
      · rintro ⟨rr, hrr, rrs, hrrs, rfl⟩
        exact .cons hrr hrrs
      · intro h
        cases h with
        | cons hrr hrrs => exact ⟨_, hrr, _, hrrs, rfl⟩
    · simp only [and_false, exists_false, or_false]
      constructor
      · rintro (h | ⟨rr, hrr, h⟩)
        · exact .here h
        · exact .later hrr h
      · intro h
        cases h with
        | here h => exact .inl h
        | later hrr h => exact .inr ⟨_, hrr, h⟩

end

/-! ## the whole reply -/

section
variable (msg : Bytes)

/-- the sections of a reply, with their counts -/
def sections : List (Bool × Nat) :=
  [(true, be16 msg 4), (false, be16 msg 6), (false, be16 msg 8), (false, be16 msg 10)]

/-- the records that the four counts of the header announce, one section behind the other -/
def Announced (name : Nat → List Bytes → Nat → Prop) (d : DnsData) : Prop :=
  (∃ pq pa pns par,
    RecordsAt msg name true (be16 msg 4) dnshSize (d.q, pq) ∧
    RecordsAt msg name false (be16 msg 6) pq (d.a, pa) ∧
    RecordsAt msg name false (be16 msg 8) pa (d.ns, pns) ∧
    RecordsAt msg name false (be16 msg 10) pns (d.ar, par)) ∧
  d.id = be16 msg 0 ∧ d.flags = getFlags (be16 msg 2) ∧ d.qdcount = be16 msg 4 ∧
  d.ancount = be16 msg 6 ∧ d.nscount = be16 msg 8 ∧ d.arcount = be16 msg 10

/-- a name of a record in these sections runs out -/
inductive SectionsRunOut : List (Bool × Nat) → Nat → Prop
  | here {question n rest pos} : RecordsRunOut msg question n pos →
      SectionsRunOut ((question, n) :: rest) pos
  | later {question n rest pos r} : RecordsAt msg (HeldAt msg) question n pos r →
      SectionsRunOut rest r.2 → SectionsRunOut ((question, n) :: rest) pos

/-- a name of the reply runs out -/
def ReplyRunsOut : Prop := dnshSize ≤ msg.length ∧ SectionsRunOut msg (sections msg) dnshSize

theorem sectionsRunOut_cons {question : Bool} {n pos : Nat} {rest : List (Bool × Nat)} :
    SectionsRunOut msg ((question, n) :: rest) pos ↔
      RecordsRunOut msg question n pos ∨
        ∃ r, RecordsAt msg (HeldAt msg) question n pos r ∧ SectionsRunOut msg rest r.2 := by
  constructor
  · intro h
    cases h with
    | here h => exact .inl h
    | later hr h => exact .inr ⟨_, hr, h⟩
  · rintro (h | ⟨r, hr, h⟩)
    · exact .here h
    · exact .later hr h

end

theorem RecordsAt.next_le {msg : Bytes} {name : Nat → List Bytes → Nat → Prop} {question : Bool}
    {n pos : Nat} {r : List Rr × Nat} (h : RecordsAt msg name question n pos r)
    (hpos : pos ≤ msg.length) : r.2 ≤ msg.length := by
  induction h with
  | nil => exact hpos
  | cons hr _ ih => exact ih hr.next_le

section
variable {m : Memory}

/-- what `snoop_reply` is to do with the message in `m` -/
structure ReplyMeets (m : Memory) : Prop where
  ends : (snoopReply m).Ends
  inside : (snoopReply m).Inside m.size
  announced : ∀ d, (snoopReply m).outcome = .done d → Announced m.octets (Expands m.octets) d

theorem snoopReply_meets :
    (snoopReply m).Meets m.size
      (fun d => dnshSize ≤ m.octets.length ∧ Announced m.octets (HeldAt m.octets) d)
      (ReplyRunsOut m.octets) := by
  unfold snoopReply
  refine .refuse (fun d h => Nat.not_lt_of_le h.1) (fun h => Nat.not_lt_of_le h.1) fun hsize => ?_
  have hsize : dnshSize ≤ m.size := Nat.le_of_not_lt hsize
  refine .copy_bind (by omega) ?_
  have hdh : ∀ {i}, i + 2 ≤ dnshSize → be16 (slice m.octets 0 dnshSize) i = be16 m.octets i := by
    intro i hi
    rw [be16_slice _ hi, Nat.zero_add]
  simp only [hdh (show 0 + 2 ≤ dnshSize by decide), hdh (show 2 + 2 ≤ dnshSize by decide),
    hdh (show 4 + 2 ≤ dnshSize by decide), hdh (show 6 + 2 ≤ dnshSize by decide),
    hdh (show 8 + 2 ≤ dnshSize by decide), hdh (show 10 + 2 ≤ dnshSize by decide)]
  refine ((parseRrs_meets true _ dnshSize hsize).bind fun q hq =>
    (parseRrs_meets false _ q.2 (hq.next_le hsize)).bind fun a ha =>
      (parseRrs_meets false _ a.2 (ha.next_le (hq.next_le hsize))).bind fun ns hns =>
        (parseRrs_meets false _ ns.2 (hns.next_le (ha.next_le (hq.next_le hsize)))).bind
          fun ar _ => Walk.Meets.pure (DnsData.mk (be16 m.octets 0) (getFlags (be16 m.octets 2))
            (be16 m.octets 4) (be16 m.octets 6) (be16 m.octets 8) (be16 m.octets 10)
            q.1 a.1 ns.1 ar.1)).congr (fun d => ?_) ?_
  · constructor
    · rintro ⟨q, hq, a, ha, ns, hns, ar, har, rfl⟩
      exact ⟨hsize, ⟨q.2, a.2, ns.2, ar.2, hq, ha, hns, har⟩, rfl, rfl, rfl, rfl, rfl, rfl⟩
    · obtain ⟨_, _, _, _, _, _, _, _, _, _⟩ := d
      rintro ⟨_, ⟨pq, pa, pns, par, hq, ha, hns, har⟩, rfl, rfl, rfl, rfl, rfl, rfl⟩
      exact ⟨_, hq, _, ha, _, hns, _, har, rfl⟩
  · unfold ReplyRunsOut sections
    have hnil : ∀ pos, ¬ SectionsRunOut m.octets [] pos := fun pos h => nomatch h
    simp only [sectionsRunOut_cons, and_false, exists_false, or_false, hnil]
    exact ⟨fun h => ⟨hsize, h⟩, And.right⟩

/-! ## every walk ends -/

/-- a name of the parser: text that ends in a dot and fits with its NUL -/
def NameFits (name : Bytes) : Prop :=
  ∃ text, name = text ++ [0] ∧ text.getLast? = some 46 ∧ text.length < maxNameLen

theorem nameLoop_gives {start : Nat} {follow : Nat → Bytes → Walk (Nat × Bytes)}
    (hfollow : ∀ pos text, text.length < maxNameLen → (text ≠ [] → text.getLast? = some 46) →
      (follow pos text).Gives fun r => NameFits r.2) (fuel : Nat) :
    ∀ pos text, text.length < maxNameLen → (text ≠ [] → text.getLast? = some 46) →
      maxNameLen < fuel + text.length →
      (nameLoop m maxNameLen follow start fuel pos text).Gives fun r => NameFits r.2 := by
  induction fuel with
  | zero => intro pos text htext _ hfuel; omega
  | succ fuel ih =>
    intro pos text htext hdot hfuel
    refine .bind (.read m pos) fun label _ => .ite (fun _ => ?root) fun _ => ?_
    case root =>
      refine .ite (fun _ => .ite (fun _ => .fail) fun _ => .pure ⟨[46], rfl, rfl, by decide⟩)
        fun hne => .ite (fun _ => .fail) fun _ => .pure ⟨text, rfl, hdot hne, htext⟩
    refine .ite (fun _ => ?pointer) fun _ => ?_
    case pointer =>
      refine .ite (fun _ => .fail) fun _ => .bind (.read m _) fun low _ =>
        .ite (fun _ => .fail) fun _ => ?_
      exact .bind (hfollow _ _ htext hdot) fun r hr => .pure hr
    refine .ite (fun _ => .ite (fun _ => .fail) fun _ => .ite (fun _ => .fail) fun hroom => ?_)
      fun _ => .fail
    refine .bind (.copy m _ _) fun octets hoctets => ?_
    have hlen : (text ++ octets ++ [46]).length = text.length + label.toNat + 1 := by
      rw [List.length_append, List.length_append, hoctets]
      rfl
    refine ih _ (text ++ octets ++ [46]) (by omega) (fun _ => ?_) (by omega)
    rw [List.getLast?_append, List.getLast?_singleton]
    rfl

theorem getName_gives (calls : Nat) :
    ∀ pos text, text.length < maxNameLen → (text ≠ [] → text.getLast? = some 46) →
      (getName m maxNameLen calls pos text).Gives fun r => NameFits r.2 := by
  induction calls with
  | zero => exact fun _ _ _ _ => .fail
  | succ calls ih =>
    intro pos text htext hdot
    exact .ite (fun _ => .fail) fun _ => nameLoop_gives ih _ pos text htext hdot (by omega)

/-- a record of the parser has a name, and an address if its type is A or AAAA -/
structure Rr.Parsed (rr : Rr) : Prop where
  name : NameFits rr.name
  addressed : rr.type = typeA ∨ rr.type = typeAaaa → ∃ a, rr.sa = some a

theorem parseRdata_gives (rr : Rr) (p : Nat) (hname : NameFits rr.name) :
    (parseRdata m rr p).Gives fun r => r.1.Parsed := by
  refine .ite (fun _ => ?_) fun ha => .ite (fun _ => ?_) fun haaaa => .ite (fun _ => ?_)
    fun _ => .ite (fun _ => .fail) fun _ => ?_
  · exact .ite (fun _ => .fail) fun _ => .bind (.copy m _ _) fun octets _ =>
      .pure ⟨hname, fun _ => ⟨_, rfl⟩⟩
  · exact .ite (fun _ => .fail) fun _ => .bind (.copy m _ _) fun octets _ =>
      .pure ⟨hname, fun _ => ⟨_, rfl⟩⟩
  · exact .bind (getName_gives _ _ _ (by decide) (fun h => absurd rfl h)) fun _ _ =>
      .pure ⟨hname, fun h => absurd h (not_or.mpr ⟨ha, haaaa⟩)⟩
  · exact .bind (.copy m _ _) fun _ _ =>
      .pure ⟨hname, fun h => absurd h (not_or.mpr ⟨ha, haaaa⟩)⟩

/-- a question has the name, but no address -/
theorem parseRr_gives (question : Bool) (pos : Nat) :
    (parseRr m question pos).Gives fun r => question = false → r.1.Parsed := by
  refine .ite (fun _ => .fail) fun _ => .bind
    (getName_gives _ _ _ (by decide) (fun h => absurd rfl h)) fun x hx => ?_
  refine .ite (fun _ => .fail) fun _ => .bind (.copy m _ _) fun type _ => ?_
  refine .ite (fun _ => .fail) fun _ => .bind (.copy m _ _) fun class_ _ => ?_
  refine .ite (fun hq => .pure fun h => ?_) fun _ => .ite (fun _ => .fail) fun _ => ?_
  · exact absurd (hq.symm.trans h) (by decide)
  refine .bind (.copy m _ _) fun ttl _ => .bind (.copy m _ _) fun rdlen _ => ?_
  refine .ite (fun _ => .fail) fun _ => ?_
  have hrdata := parseRdata_gives (m := m)
    ⟨x.2, be16 type 0, be16 class_ 0, be32 ttl 0, be16 rdlen 0, [], none⟩ (pos + x.1 + 10) hx
  exact ⟨hrdata.1, fun r hr _ => hrdata.2 r hr⟩

theorem parseRrs_gives (question : Bool) (n : Nat) :
    ∀ pos, (parseRrs m question n pos).Gives
      fun r => question = false → ∀ rr ∈ r.1, rr.Parsed := by
  induction n with
  | zero => exact fun _ => .pure fun _ rr hrr => nomatch hrr
  | succ n ih =>
    intro pos
    refine .bind (parseRr_gives _ _) fun rr hrr => .bind (ih _) fun rrs hrrs => .pure fun hq => ?_
    exact List.forall_mem_cons.mpr ⟨hrr hq, hrrs hq⟩

/-- the parser ends, whatever lies behind the message, and its answers are parsed records -/
theorem snoopReply_gives : (snoopReply m).Gives fun d => ∀ rr ∈ d.a, rr.Parsed := by
  refine .ite (fun _ => .fail) fun _ => .bind (.copy m _ _) fun dh _ => ?_
  refine .bind (parseRrs_gives _ _ _) fun q _ => .bind (parseRrs_gives _ _ _) fun a ha => ?_
  refine .bind (parseRrs_gives _ _ _) fun ns _ => .bind (parseRrs_gives _ _ _) fun ar _ => ?_
  exact .pure (ha rfl)

/-! ## the result -/

section
variable {msg : Bytes} {name name' : Nat → List Bytes → Nat → Prop}
  (hname : ∀ {pos labels next}, name pos labels next → name' pos labels next)

include hname

theorem RecordsAt.mono {question : Bool} {n pos : Nat} {r : List Rr × Nat}
    (h : RecordsAt msg name question n pos r) : RecordsAt msg name' question n pos r := by
  have hrdata : ∀ {rr p r}, RdataAt msg name rr p r → RdataAt msg name' rr p r := by
    intro rr p r h
    cases h with
    | inet htype hlen => exact .inet htype hlen
    | inet6 htype hlen => exact .inet6 htype hlen
    | cname htype h => exact .cname htype (hname h)
    | other ha haaaa hcname hlen => exact .other ha haaaa hcname hlen
  induction h with
  | nil => exact .nil
  | cons hr _ ih =>
    obtain ⟨labels, p, howner, hfields⟩ := hr
    refine .cons ⟨labels, p, hname howner, ?_⟩ ih
    cases hfields with
    | question h => exact .question h
    | resource h hlen h' => exact .resource h hlen (hrdata h')

theorem Announced.mono {d : DnsData} (h : Announced msg name d) : Announced msg name' d := by
  obtain ⟨⟨pq, pa, pns, par, hq, ha, hns, har⟩, hcounts⟩ := h
  exact ⟨⟨pq, pa, pns, par, hq.mono hname, ha.mono hname, hns.mono hname, har.mono hname⟩,
    hcounts⟩

end

/-- the parser keeps inside the message and gives the records that the reply announces exactly when
no name that it comes to runs out -/
theorem snoopReply_inside_iff (m : Memory) : ReplyMeets m ↔ ¬ ReplyRunsOut m.octets := by
  have hmeets := snoopReply_meets (m := m)
  constructor
  · intro h hruns
    exact Walk.not_inside_iff.mpr (hmeets.past hruns) h.inside
  · intro hruns
    refine ⟨snoopReply_gives.1, hmeets.inside hruns, fun d hd => ?_⟩
    exact ((hmeets.done hruns d).mp hd).2.mono NameAt.expands

/-- one question, whose only label ends with the message -/
def cutQuestion : Memory where
  octets := [0, 0, 0, 0, 0, 1, 0, 0, 0, 0, 0, 0, 3, 97, 98, 99]
  beyond := fun _ => 0
  octets_length := by decide

theorem snoopReply_reads_past : ¬ ReplyMeets cutQuestion := by
  intro h
  have hread : 16 < cutQuestion.size := h.inside (.read 16) (by decide)
  exact absurd hread (by decide)

end

end Spmd
