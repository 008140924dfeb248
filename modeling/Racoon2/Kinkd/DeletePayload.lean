import Racoon2.Lib.Rows
import Racoon2.Kinkd.Install

/-!
# The payloads of DELETE

KINK deletes SAs with ISAKMP Delete payloads.  The one who deletes sends the SPIs of its inbound SAs; the
other one answers every SPI that it has read, with the SPI of the other direction in a Delete payload or
with the SPI itself in a Notification.

* `isakmpParsewoh`       `isakmp_parsewoh`, payloads in a row;
* `isakmpInfoPrepD2`     `isakmp_info_prep_d2`, the message;
* `isakmpInfoRecvD`      `isakmp_info_recv_d`, with the function that deletes as a parameter;
* `recvD_eq`             the answers as a row of payloads, whatever the message is;
* `parse_octets`         such a row is read back.
-/

set_option linter.unusedVariables false

namespace Kink
open Bytes Rows

/-! ## payloads without the base header -/

/-- `struct isakmp_parse_t`; the pointer is what the buffer has from there on -/
structure Parsed where
  type : UInt8
  len : Nat
  ptr : Bytes
  deriving DecidableEq, Repr

/-- `isakmp_parsewoh`; a payload has four octets at least, so that a step for each octet is enough -/
def isakmpParsewoh : Nat → UInt8 → Bytes → Option (List Parsed)
  | 0, _, _ => some []
  | fuel + 1, np, gen =>
    if gen.length = 0 ∨ np = 0 then some []
    else if gen.length ≤ 4 then none
    else if be16 gen 2 < 4 ∨ gen.length < be16 gen 2 then none
    else (isakmpParsewoh fuel (byteAt gen 0) (gen.drop (be16 gen 2))).map (⟨np, be16 gen 2, gen⟩ :: ·)

/-- `isakmp_parse_noheader` -/
def isakmpParseNoheader (buf : Bytes) (np : UInt8) : Option (List Parsed) :=
  isakmpParsewoh buf.length np buf

def nptypeN : UInt8 := 11
def nptypeD : UInt8 := 12

/-- `struct isakmp_pl_d` -/
structure PlD where
  np : UInt8
  reserved : UInt8
  len : Nat
  doi : Nat
  protoId : UInt8
  spiSize : UInt8
  numSpi : Nat
  deriving DecidableEq, Repr

namespace PlD

def size : Nat := 12

def read (b : Bytes) : PlD :=
  ⟨byteAt b 0, byteAt b 1, be16 b 2, be32 b 4, byteAt b 8, byteAt b 9, be16 b 10⟩

def octets (d : PlD) : Bytes :=
  [d.np, d.reserved] ++ enc16 d.len ++ enc32 d.doi ++ [d.protoId, d.spiSize] ++ enc16 d.numSpi

theorem read_octets {d : PlD} (hlen : d.len < 65536) (hdoi : d.doi < 2 ^ 32) (hnum : d.numSpi < 65536)
    (rest : Bytes) : read (d.octets ++ rest) = d := by
  have hlenAt : be16 (d.octets ++ rest) 2 = d.len := be16_enc16 hlen []
  have hdoiAt : be32 (d.octets ++ rest) 4 = d.doi := be32_enc32 hdoi []
  have hnumAt : be16 (d.octets ++ rest) 10 = d.numSpi := be16_enc16 hnum []
  unfold read
  rw [hlenAt, hdoiAt, hnumAt]
  rfl

end PlD

/-! ## the message -/

/-- the loop of `isakmp_info_prep_d2`: what is written, where the open header stands and what it
will be -/
structure PrepD where
  payload : Bytes
  h : Option Nat
  d : PlD
  deriving DecidableEq, Repr

/-- the header is written when the next one begins, or behind the loop -/
def PrepD.close (st : PrepD) : Bytes :=
  match st.h with
  | none => st.payload
  | some h => put st.payload h st.d.octets

/-- the last `spisize` octets of the SPI -/
def spiOctets (pr : SaProto) : Bytes :=
  if pr.spi = 0 then [] else (enc32 pr.spi).drop (4 - pr.spisize)

/-- one round of the loop; `d.h.reserved` is what the stack has there -/
def prepDStep (st : PrepD) (pr : SaProto) : PrepD :=
  let payload := st.close
  let p := payload ++ List.replicate PlD.size 0 ++ spiOctets pr
  { payload := p
    h := some payload.length
    d := { st.d with
      np := nptypeD
      len := p.length - payload.length
      doi := 1
      protoId := UInt8.ofNat pr.protoId
      spiSize := UInt8.ofNat pr.spisize
      numSpi := if pr.spi = 0 then 0 else 1 } }

/-- `isakmp_info_prep_d2`; `d` is not initialised -/
def isakmpInfoPrepD2 (d : PlD) (approval : SaProp) : Option Bytes :=
  let st := approval.protos.foldl prepDStep ⟨[], none, d⟩
  if st.h = none then none else some { st with d := { st.d with np := 0 } }.close

/-! ## the answer -/

/-- `delete_func`: what it returns, the SPI it leaves and what it changes -/
abbrev DeleteFunc (σ : Type) := Nat → Nat → σ → Nat × Nat × σ

/-- what a payload asks for -/
inductive DeleteRequest where
  | unexpected
  | ignored
  | ipcomp
  | delete (d : PlD) (spis : List Nat)
  deriving DecidableEq, Repr

/-- the SPIs behind the header -/
def spisAt (ptr : Bytes) (numSpi : Nat) : List Nat :=
  (List.range numSpi).map fun i => be32 ptr (PlD.size + 4 * i)

/-- the checks of `isakmp_info_recv_d`. The header is copied before its length is known: a short last
payload has it end in what lies `beyond` the buffer -/
def deleteRequest (beyond : Bytes) (pa : Parsed) : DeleteRequest :=
  if pa.type ≠ nptypeD then .unexpected
  else
    let d := PlD.read (pa.ptr ++ beyond)
    if d.doi ≠ 1 then .ignored
    else if (d.len : Int) - PlD.size ≠ d.numSpi * d.spiSize.toNat then .ignored
    else if d.protoId = 2 ∨ d.protoId = 3 then
      if d.spiSize ≠ 4 then .ignored else .delete d (spisAt pa.ptr d.numSpi)
    else if d.protoId = 4 then .ipcomp
    else .ignored

section
variable {σ : Type} (func : DeleteFunc σ)

/-- the loop over the SPIs: the SPIs of the Delete payload, the Notifications, and where the last one
stands -/
structure SpiLoop (σ : Type) where
  s : σ
  spis : Bytes
  delCnt : Nat
  nv : Bytes
  npOffN : Nat

def SpiLoop.delete (d : PlD) (st : SpiLoop σ) (spi : Nat) : SpiLoop σ :=
  let (ret, spi, s) := func d.protoId.toNat spi st.s
  if ret = 0 then { st with s := s, spis := st.spis ++ enc32 spi, delCnt := st.delCnt + 1 }
  else { st with
    s := s
    nv := st.nv ++ ([nptypeN, 0] ++ enc16 16 ++ enc32 d.doi ++ [d.protoId, d.spiSize] ++ enc16 ret
      ++ enc32 spi)
    npOffN := st.nv.length }

/-- the loop over the payloads: `rmsg` with the type of its first payload in front, and `np_off` -/
structure RecvD (σ : Type) where
  s : σ
  rmsg : Bytes
  npOff : Nat

/-- the Delete payload of the answer -/
def RecvD.addDelete (st : RecvD σ) (d : PlD) (lp : SpiLoop σ) : RecvD σ :=
  if lp.delCnt ≠ 0 then
    let dr := { d with reserved := 0, len := PlD.size + lp.delCnt * d.spiSize.toNat, numSpi := lp.delCnt }
    { st with
      rmsg := put (st.rmsg ++ (dr.octets ++ lp.spis)) st.npOff [nptypeD]
      npOff := st.rmsg.length }
  else st

/-- its Notifications -/
def RecvD.addNotify (st : RecvD σ) (lp : SpiLoop σ) : RecvD σ :=
  if lp.nv.length ≠ 0 then
    { st with
      rmsg := put (st.rmsg ++ lp.nv) st.npOff [nptypeN]
      npOff := st.rmsg.length + lp.npOffN }
  else st

def RecvD.deletes (st : RecvD σ) (d : PlD) (spis : List Nat) : RecvD σ :=
  let lp := spis.foldl (SpiLoop.delete func d) ⟨st.s, [], 0, [], 0⟩
  ({ st with s := lp.s }.addDelete d lp).addNotify lp

/-- ISAKMP_NTYPE_PAYLOAD_MALFORMED -/
def ntypePayloadMalformed : Int := 16
/-- ISAKMP_INTERNAL_ERROR -/
def internalError : Int := -1

/-- the loop; an error leaves what was deleted before it -/
def recvDLoop : List DeleteRequest → RecvD σ → Except (σ × Int) (RecvD σ)
  | [], st => .ok st
  | .unexpected :: _, st => .error (st.s, ntypePayloadMalformed)
  | .ignored :: rest, st => recvDLoop rest st
  | .ipcomp :: _, st => .error (st.s, internalError)
  | .delete d spis :: rest, st => recvDLoop rest (st.deletes func d spis)

/-- `isakmp_info_recv_d`: the first payload type and the payloads of the answer -/
def isakmpInfoRecvD (beyond msg : Bytes) (np : UInt8) (s : σ) : σ × Except Int (UInt8 × Bytes) :=
  match isakmpParseNoheader msg np with
  | none => (s, .error internalError)
  | some pas =>
    match recvDLoop func (pas.map (deleteRequest beyond)) ⟨s, [0], 0⟩ with
    | .error (s, error) => (s, .error error)
    | .ok st =>
      let rmsg := put st.rmsg st.npOff [0]
      (st.s, .ok (byteAt rmsg 0, rmsg.drop 1))

end

/-! ## rows of payloads are read back -/

/-- a payload with its length -/
def payloadItem (type reserved : UInt8) (body : Bytes) : Item :=
  ⟨type, reserved :: (enc16 (4 + body.length) ++ body)⟩

/-- a payload that the parser takes -/
def ItemFits (x : Item) : Prop :=
  ∃ reserved body, x = payloadItem x.type reserved body ∧ body ≠ [] ∧ 4 + body.length < 65536 ∧ x.type ≠ 0

/-- a payload that was read -/
def Parsed.item (pa : Parsed) : Item := ⟨pa.type, (pa.ptr.take pa.len).drop 1⟩

/-- the payload stands in what the pointer has, with its length -/
def Parsed.Inside (pa : Parsed) : Prop := pa.len = be16 pa.ptr 2 ∧ 4 ≤ pa.len ∧ pa.len ≤ pa.ptr.length

theorem isakmpParsewoh_inside (fuel : Nat) : ∀ (np : UInt8) (gen : Bytes) (pas : List Parsed),
    isakmpParsewoh fuel np gen = some pas → ∀ pa ∈ pas, pa.Inside := by
  induction fuel with
  | zero =>
    intro np gen pas h pa hpa
    obtain rfl : [] = pas := Option.some.inj h
    cases hpa
  | succ fuel ih =>
    intro np gen pas h pa hpa
    rw [isakmpParsewoh] at h
    by_cases hend : gen.length = 0 ∨ np = 0
    · rw [if_pos hend] at h
      obtain rfl : [] = pas := Option.some.inj h
      cases hpa
    rw [if_neg hend] at h
    by_cases hshort : gen.length ≤ 4
    · rw [if_pos hshort] at h
      cases h
    rw [if_neg hshort] at h
    by_cases hlen : be16 gen 2 < 4 ∨ gen.length < be16 gen 2
    · rw [if_pos hlen] at h
      cases h
    rw [if_neg hlen] at h
    obtain ⟨rest, hrest, rfl⟩ := Option.map_eq_some_iff.mp h
    rcases List.mem_cons.mp hpa with rfl | hpa
    · exact ⟨rfl, by show 4 ≤ be16 gen 2; omega, by show be16 gen 2 ≤ gen.length; omega⟩
    · exact ih _ _ _ hrest pa hpa

/-- the parser at a payload of a row -/
theorem isakmpParsewoh_item {x : Item} (hx : ItemFits x) (np : UInt8) (tail : Bytes) (fuel : Nat) :
    isakmpParsewoh (fuel + 1) x.type (np :: (x.rest ++ tail))
      = (isakmpParsewoh fuel np tail).map (⟨x.type, x.rest.length + 1,
        np :: (x.rest ++ tail)⟩ :: ·) := by
  obtain ⟨reserved, body, hitem, hbody, hlen, htype⟩ := hx
  have hrest : x.rest = reserved :: (enc16 (4 + body.length) ++ body) := congrArg Item.rest hitem
  have hpos : 0 < body.length := List.length_pos_iff.mpr hbody
  have hlength : x.rest.length + 1 = 4 + body.length := by
    rw [hrest]
    show (enc16 (4 + body.length) ++ body).length + 1 + 1 = _
    rw [List.length_append]
    show 2 + body.length + 1 + 1 = _
    omega
  have hgen : (np :: (x.rest ++ tail)).length = 4 + body.length + tail.length := by
    rw [List.length_cons, List.length_append]
    omega
  have hbe : be16 (np :: (x.rest ++ tail)) 2 = 4 + body.length := by
    rw [hrest]
    show be16 ([np, reserved] ++ ((enc16 (4 + body.length) ++ body) ++ tail))
      ([np, reserved].length + 0) = _
    rw [be16_append_right, List.append_assoc]
    exact be16_enc16 hlen (body ++ tail)
  have hdrop : (np :: (x.rest ++ tail)).drop (4 + body.length) = tail := by
    rw [← hlength, List.drop_succ_cons, List.drop_left]
  rw [isakmpParsewoh, if_neg, if_neg, if_neg, hbe, hdrop, hlength]
  · rfl
  · rw [hbe, hgen]
    omega
  · rw [hgen]
    omega
  · rintro (h | h)
    · cases h
    · exact htype h

/-- what the parser makes of a row -/
theorem isakmpParsewoh_octets (xs : List Item) : (∀ x ∈ xs, ItemFits x) → ∀ fuel,
    (octets 0 xs).length ≤ fuel →
    ∃ pas, isakmpParsewoh fuel (headType 0 xs) (octets 0 xs) = some pas ∧ pas.map Parsed.item = xs := by
  induction xs with
  | nil =>
    intro _ fuel _
    refine ⟨[], ?_, rfl⟩
    cases fuel with
    | zero => rfl
    | succ fuel => rfl
  | cons x xs ih =>
    intro hfits fuel hfuel
    rw [octets, List.length_cons] at hfuel
    obtain ⟨fuel, rfl⟩ : ∃ k, fuel = k + 1 := ⟨fuel - 1, by omega⟩
    rw [List.length_append] at hfuel
    obtain ⟨pas, hpas, hitems⟩ := ih (fun y hy => hfits y (List.mem_cons_of_mem x hy)) fuel (by omega)
    refine ⟨⟨x.type, x.rest.length + 1, headType 0 xs :: (x.rest ++ octets 0 xs)⟩ :: pas, ?_, ?_⟩
    · show isakmpParsewoh (fuel + 1) x.type (headType 0 xs :: (x.rest ++ octets 0 xs)) = _
      rw [isakmpParsewoh_item (hfits x List.mem_cons_self), hpas]
      rfl
    · have hitem : (Parsed.mk x.type (x.rest.length + 1)
          (headType 0 xs :: (x.rest ++ octets 0 xs))).item
          = x := by
        unfold Parsed.item
        dsimp only
        rw [List.take_succ_cons, List.take_left, List.drop_succ_cons, List.drop_zero]
      rw [List.map_cons, hitem, hitems]

theorem parse_octets {xs : List Item} (hfits : ∀ x ∈ xs, ItemFits x) :
    ∃ pas, isakmpParseNoheader (octets 0 xs) (headType 0 xs) = some pas ∧ pas.map Parsed.item = xs :=
  isakmpParsewoh_octets xs hfits _ (Nat.le_refl _)

/-! ## what is asked and what is answered -/

section
variable {σ : Type} (func : DeleteFunc σ)

/-- the SPIs of a payload one after the other: what the function returns and the SPI it leaves -/
def judge (protoId : Nat) : σ → List Nat → σ × List (Nat × Nat)
  | s, [] => (s, [])
  | s, spi :: rest =>
    let r := func protoId spi s
    let j := judge protoId r.2.2 rest
    (j.1, (r.1, r.2.1) :: j.2)

def deleted (vs : List (Nat × Nat)) : List Nat := (vs.filter fun v => v.1 = 0).map Prod.snd

def refused (vs : List (Nat × Nat)) : List (Nat × Nat) := vs.filter fun v => v.1 ≠ 0

/-- a Delete payload -/
def deleteItem (protoId : UInt8) (spis : List Nat) : Item :=
  ⟨nptypeD, 0 :: (enc16 (12 + 4 * spis.length) ++ (enc32 1 ++ [protoId, 4] ++ enc16 spis.length
    ++ spis.flatMap enc32))⟩

/-- a Notification -/
def notifyItem (protoId : UInt8) (v : Nat × Nat) : Item :=
  ⟨nptypeN, 0 :: (enc16 16 ++ (enc32 1 ++ [protoId, 4] ++ enc16 v.1 ++ enc32 v.2))⟩

def notifyItems (protoId : UInt8) (vs : List (Nat × Nat)) : List Item :=
  (refused vs).map (notifyItem protoId)

/-- the payloads that answer one payload -/
def answerItems (protoId : UInt8) (vs : List (Nat × Nat)) : List Item :=
  (if deleted vs = [] then [] else [deleteItem protoId (deleted vs)]) ++ notifyItems protoId vs

/-- the answer to payloads, as a row -/
def serve : List DeleteRequest → σ → Except (σ × Int) (σ × List Item)
  | [], s => .ok (s, [])
  | .unexpected :: _, s => .error (s, ntypePayloadMalformed)
  | .ignored :: rest, s => serve rest s
  | .ipcomp :: _, s => .error (s, internalError)
  | .delete d spis :: rest, s =>
    let j := judge func d.protoId.toNat s spis
    (serve rest j.1).map fun r => (r.1, answerItems d.protoId j.2 ++ r.2)

/-- what the checks of a payload promise -/
def PlD.Asks (d : PlD) (spis : List Nat) : Prop :=
  d.doi = 1 ∧ d.spiSize = 4 ∧ spis.length = d.numSpi ∧ d.len = PlD.size + 4 * d.numSpi ∧ d.len < 65536 ∧
    (d.protoId = 2 ∨ d.protoId = 3)

theorem deleteRequest_asks {beyond : Bytes} {pa : Parsed} {d : PlD} {spis : List Nat}
    (h : deleteRequest beyond pa = .delete d spis) :
    pa.type = nptypeD ∧ d = PlD.read (pa.ptr ++ beyond) ∧ spis = spisAt pa.ptr d.numSpi ∧
      d.Asks spis := by
  unfold deleteRequest at h
  by_cases htype : pa.type ≠ nptypeD
  · rw [if_pos htype] at h
    cases h
  rw [if_neg htype] at h
  dsimp only at h
  generalize hd : PlD.read (pa.ptr ++ beyond) = d' at h
  by_cases hdoi : d'.doi ≠ 1
  · rw [if_pos hdoi] at h
    cases h
  rw [if_neg hdoi] at h
  by_cases hlen : (d'.len : Int) - PlD.size ≠ d'.numSpi * d'.spiSize.toNat
  · rw [if_pos hlen] at h
    cases h
  rw [if_neg hlen] at h
  by_cases hproto : d'.protoId = 2 ∨ d'.protoId = 3
  · rw [if_pos hproto] at h
    by_cases hsize : d'.spiSize ≠ 4
    · rw [if_pos hsize] at h
      cases h
    rw [if_neg hsize] at h
    obtain ⟨rfl, rfl⟩ := DeleteRequest.delete.inj h
    have hsize := not_not.mp hsize
    have hlen := not_not.mp hlen
    rw [hsize] at hlen
    have hfour : (d'.len : Int) - 12 = d'.numSpi * 4 := hlen
    have hbound : d'.len < 65536 := by
      rw [← hd]
      exact be16_lt _ 2
    refine ⟨not_not.mp htype, rfl, rfl, not_not.mp hdoi, hsize, ?_, ?_, hbound, hproto⟩
    · unfold spisAt
      rw [List.length_map, List.length_range]
    · show d'.len = 12 + 4 * d'.numSpi
      omega
  · rw [if_neg hproto] at h
    by_cases hipcomp : d'.protoId = 4
    · rw [if_pos hipcomp] at h
      cases h
    · rw [if_neg hipcomp] at h
      cases h

/-! ## the loop over the SPIs -/

/-- the loop has the verdicts `vs` -/
structure SpiLoop.Holds (protoId : UInt8) (lp : SpiLoop σ) (vs : List (Nat × Nat)) : Prop where
  spis : lp.spis = (deleted vs).flatMap enc32
  delCnt : lp.delCnt = (deleted vs).length
  nv : lp.nv = octets nptypeN (notifyItems protoId vs)
  npOffN : notifyItems protoId vs ≠ [] →
    lp.npOffN = (octets nptypeN (notifyItems protoId vs).dropLast).length

variable {func} {d : PlD} {spis : List Nat}

theorem deleted_concat (vs : List (Nat × Nat)) (v : Nat × Nat) :
    deleted (vs ++ [v]) = deleted vs ++ if v.1 = 0 then [v.2] else [] := by
  unfold deleted
  rw [List.filter_append, List.map_append]
  congr 1
  by_cases h : v.1 = 0
  · rw [if_pos h, List.filter_cons_of_pos (by simpa using h)]
    rfl
  · rw [if_neg h, List.filter_cons_of_neg (by simpa using h)]
    rfl

theorem notifyItems_concat (protoId : UInt8) (vs : List (Nat × Nat)) (v : Nat × Nat) :
    notifyItems protoId (vs ++ [v]) = notifyItems protoId vs
      ++ if v.1 = 0 then [] else [notifyItem protoId v] := by
  unfold notifyItems refused
  rw [List.filter_append, List.map_append]
  congr 1
  by_cases h : v.1 = 0
  · rw [if_pos h, List.filter_cons_of_neg (by simpa using h)]
    rfl
  · rw [if_neg h, List.filter_cons_of_pos (by simpa using h)]
    rfl

theorem SpiLoop.delete_holds {lp : SpiLoop σ} {vs : List (Nat × Nat)} (hasks : d.Asks spis)
    (h : lp.Holds d.protoId vs) (spi : Nat) :
    (lp.delete func d spi).s = (func d.protoId.toNat spi lp.s).2.2 ∧
      (lp.delete func d spi).Holds d.protoId
        (vs ++ [((func d.protoId.toNat spi lp.s).1, (func d.protoId.toNat spi lp.s).2.1)]) := by
  obtain ⟨hdoi, hsize, -⟩ := hasks
  unfold SpiLoop.delete
  generalize func d.protoId.toNat spi lp.s = r
  obtain ⟨ret, spi', s⟩ := r
  dsimp only
  by_cases hret : ret = 0
  · rw [if_pos hret]
    refine ⟨rfl, ⟨?_, ?_, ?_, ?_⟩⟩
    · rw [deleted_concat, if_pos hret, List.flatMap_append, ← h.spis]
      show lp.spis ++ enc32 spi' = lp.spis ++ (enc32 spi' ++ [])
      rw [List.append_nil]
    · rw [deleted_concat, if_pos hret, List.length_append, ← h.delCnt]
      rfl
    · rw [notifyItems_concat, if_pos hret, List.append_nil]
      exact h.nv
    · rw [notifyItems_concat, if_pos hret, List.append_nil]
      exact h.npOffN
  · rw [if_neg hret]
    refine ⟨rfl, ⟨?_, ?_, ?_, ?_⟩⟩
    · rw [deleted_concat, if_neg hret, List.append_nil]
      exact h.spis
    · rw [deleted_concat, if_neg hret, List.append_nil]
      exact h.delCnt
    · rw [notifyItems_concat, if_neg hret, octets_append, hdoi, hsize]
      show _ = octets nptypeN (notifyItems d.protoId vs) ++ _
      rw [← h.nv]
      rfl
    · intro _
      rw [notifyItems_concat, if_neg hret, List.dropLast_concat, ← h.nv]

/-- the whole loop -/
theorem SpiLoop.foldl_holds (func : DeleteFunc σ) (hasks : d.Asks spis) (todo : List Nat) :
    ∀ (lp : SpiLoop σ) (vs : List (Nat × Nat)), lp.Holds d.protoId vs →
    (todo.foldl (SpiLoop.delete func d) lp).s = (judge func d.protoId.toNat lp.s todo).1 ∧
      (todo.foldl (SpiLoop.delete func d) lp).Holds d.protoId
        (vs ++ (judge func d.protoId.toNat lp.s todo).2) := by
  induction todo with
  | nil =>
    intro lp vs h
    refine ⟨rfl, ?_⟩
    show lp.Holds d.protoId (vs ++ [])
    rw [List.append_nil]
    exact h
  | cons spi todo ih =>
    intro lp vs h
    obtain ⟨hs, hdelete⟩ := SpiLoop.delete_holds hasks h spi
    have hih := ih (lp.delete func d spi) _ hdelete
    rw [hs, List.append_assoc] at hih
    exact hih

/-! ## the answer is a row -/

/-- `rmsg` is the row of the payloads, `np_off` where the next type is written -/
def RecvD.Holds (st : RecvD σ) (items : List Item) : Prop :=
  (∃ last, st.rmsg = front last items) ∧ st.npOff = place items

theorem RecvD.addDelete_holds {st : RecvD σ} {items : List Item} {lp : SpiLoop σ}
    {vs : List (Nat × Nat)}
    (hasks : d.Asks spis) (hlp : lp.Holds d.protoId vs) (h : st.Holds items) :
    (st.addDelete d lp).s = st.s ∧ (st.addDelete d lp).Holds
      (items ++ if deleted vs = [] then [] else [deleteItem d.protoId (deleted vs)]) := by
  obtain ⟨⟨last, hrmsg⟩, hplace⟩ := h
  obtain ⟨hdoi, hsize, -⟩ := hasks
  unfold RecvD.addDelete
  by_cases hcnt : lp.delCnt ≠ 0
  · have hne : deleted vs ≠ [] := by
      rw [hlp.delCnt] at hcnt
      exact fun h => hcnt (congrArg List.length h)
    rw [if_pos hcnt, if_neg hne]
    refine ⟨rfl, ⟨d.np, ?_⟩, ?_⟩
    · show put (st.rmsg ++ _) st.npOff [nptypeD] = _
      rw [hrmsg, hplace, put_front, front_append, hlp.spis, hlp.delCnt, hsize, hdoi, Nat.mul_comm]
      show _ = front nptypeD items ++ (d.np :: (_ ++ []))
      rw [List.append_nil]
      rfl
    · show st.rmsg.length = _
      rw [place_append last _ _ (List.cons_ne_nil _ _), hrmsg]
      rfl
  · have hnil : deleted vs = [] := by
      rw [hlp.delCnt] at hcnt
      exact List.length_eq_zero_iff.mp (not_not.mp hcnt)
    rw [if_neg hcnt, if_pos hnil, List.append_nil]
    exact ⟨rfl, ⟨last, hrmsg⟩, hplace⟩

theorem headType_notifyItems (protoId : UInt8) (vs : List (Nat × Nat)) :
    headType nptypeN (notifyItems protoId vs) = nptypeN := by
  unfold notifyItems
  cases refused vs with
  | nil => rfl
  | cons v rest => rfl

theorem RecvD.addNotify_holds {st : RecvD σ} {items : List Item} {lp : SpiLoop σ} {protoId : UInt8}
    {vs : List (Nat × Nat)} (hlp : lp.Holds protoId vs) (h : st.Holds items) :
    (st.addNotify lp).s = st.s ∧ (st.addNotify lp).Holds (items ++ notifyItems protoId vs) := by
  obtain ⟨⟨last, hrmsg⟩, hplace⟩ := h
  unfold RecvD.addNotify
  by_cases hnv : lp.nv.length ≠ 0
  · have hne : notifyItems protoId vs ≠ [] := by
      intro hnil
      rw [hlp.nv, hnil] at hnv
      exact hnv rfl
    rw [if_pos hnv]
    refine ⟨rfl, ⟨nptypeN, ?_⟩, ?_⟩
    · show put (st.rmsg ++ lp.nv) st.npOff [nptypeN] = _
      rw [hrmsg, hplace, put_front, front_append, headType_notifyItems, hlp.nv]
    · show st.rmsg.length + lp.npOffN = _
      rw [place_append nptypeN _ _ hne, hlp.npOffN hne, hrmsg, front_length last items nptypeN]
  · have hnil : notifyItems protoId vs = [] := by
      rw [hlp.nv] at hnv
      cases hitems : notifyItems protoId vs with
      | nil => rfl
      | cons x rest =>
        rw [hitems] at hnv
        exact absurd (List.length_eq_zero_iff.mp (not_not.mp hnv)) (List.cons_ne_nil _ _)
    rw [if_neg hnv, hnil, List.append_nil]
    exact ⟨rfl, ⟨last, hrmsg⟩, hplace⟩

theorem RecvD.deletes_holds (func : DeleteFunc σ) {st : RecvD σ} {items : List Item}
    (hasks : d.Asks spis) (h : st.Holds items) :
    (st.deletes func d spis).s = (judge func d.protoId.toNat st.s spis).1 ∧
      (st.deletes func d spis).Holds
        (items ++ answerItems d.protoId (judge func d.protoId.toNat st.s spis).2) := by
  have hempty : (⟨st.s, [], 0, [], 0⟩ : SpiLoop σ).Holds d.protoId [] :=
    ⟨rfl, rfl, rfl, fun h => absurd rfl h⟩
  have hfold := SpiLoop.foldl_holds func hasks spis _ _ hempty
  rw [List.nil_append] at hfold
  obtain ⟨hs, hlp⟩ := hfold
  unfold RecvD.deletes
  dsimp only
  generalize spis.foldl (SpiLoop.delete func d) ⟨st.s, [], 0, [], 0⟩ = lp at hs hlp
  have hstart : RecvD.Holds { st with s := lp.s } items := h
  obtain ⟨hs', hdelete⟩ := RecvD.addDelete_holds hasks hlp hstart
  obtain ⟨hs'', hnotify⟩ := RecvD.addNotify_holds hlp hdelete
  refine ⟨?_, ?_⟩
  · rw [hs'', hs', hs]
  · unfold answerItems
    rw [← List.append_assoc]
    exact hnotify

/-- the requests are what the checks let through -/
def RequestsAsk (reqs : List DeleteRequest) : Prop :=
  ∀ d spis, DeleteRequest.delete d spis ∈ reqs → d.Asks spis

theorem RequestsAsk.tail {r : DeleteRequest} {reqs : List DeleteRequest}
    (h : RequestsAsk (r :: reqs)) :
    RequestsAsk reqs := fun d spis hmem => h d spis (List.mem_cons_of_mem r hmem)

/-- the loop over the payloads makes the row of the answers, and stops where that stops -/
theorem recvDLoop_serve (reqs : List DeleteRequest) :
    RequestsAsk reqs → ∀ (st : RecvD σ) (items : List Item),
    st.Holds items →
    (∀ e, serve func reqs st.s = .error e → recvDLoop func reqs st = .error e) ∧
    (∀ s' more, serve func reqs st.s = .ok (s', more) →
      ∃ st', recvDLoop func reqs st = .ok st' ∧ st'.s = s' ∧ st'.Holds (items ++ more)) := by
  induction reqs with
  | nil =>
    intro _ st items h
    refine ⟨fun e he => (by cases he), fun s' more hok => ?_⟩
    obtain ⟨rfl, rfl⟩ := Prod.mk.inj (Except.ok.inj hok)
    refine ⟨st, rfl, rfl, ?_⟩
    rw [List.append_nil]
    exact h
  | cons r reqs ih =>
    intro hask st items h
    cases r with
    | unexpected =>
      exact ⟨fun e he => congrArg Except.error (Except.error.inj he),
        fun s' more hok => (by cases hok)⟩
    | ignored => exact ih hask.tail st items h
    | ipcomp =>
      exact ⟨fun e he => congrArg Except.error (Except.error.inj he),
        fun s' more hok => (by cases hok)⟩
    | delete d spis =>
      obtain ⟨hs, hholds⟩ := RecvD.deletes_holds func (hask d spis List.mem_cons_self) h
      obtain ⟨herror, hok⟩ := ih hask.tail (st.deletes func d spis) _ hholds
      rw [hs] at herror hok
      refine ⟨fun e he => ?_, fun s' more hserve => ?_⟩
      · refine herror e ?_
        unfold serve at he
        dsimp only at he
        cases hrest : serve func reqs (judge func d.protoId.toNat st.s spis).1 with
        | error e' =>
          rw [hrest] at he
          exact congrArg Except.error (Except.error.inj he)
        | ok r =>
          rw [hrest] at he
          cases he
      · unfold serve at hserve
        dsimp only at hserve
        cases hrest : serve func reqs (judge func d.protoId.toNat st.s spis).1 with
        | error e' =>
          rw [hrest] at hserve
          cases hserve
        | ok r =>
          rw [hrest] at hserve
          obtain ⟨rfl, rfl⟩ := Prod.mk.inj (Except.ok.inj hserve)
          obtain ⟨st', hst', hs', hholds'⟩ := hok r.1 r.2 hrest
          refine ⟨st', hst', hs', ?_⟩
          rw [← List.append_assoc]
          exact hholds'

theorem requestsAsk_map (beyond : Bytes) (pas : List Parsed) :
    RequestsAsk (pas.map (deleteRequest beyond)) := by
  intro d spis hmem
  obtain ⟨pa, -, hpa⟩ := List.mem_map.mp hmem
  exact (deleteRequest_asks hpa).2.2.2

/-- the answer to a message is the row -/
theorem recvD_eq (func : DeleteFunc σ) {msg : Bytes} {np : UInt8} {pas : List Parsed}
    (beyond : Bytes) (s : σ)
    (hparse : isakmpParseNoheader msg np = some pas) :
    (∀ s' e, serve func (pas.map (deleteRequest beyond)) s = .error (s', e) →
      isakmpInfoRecvD func beyond msg np s = (s', .error e)) ∧
    (∀ s' items, serve func (pas.map (deleteRequest beyond)) s = .ok (s', items) →
      isakmpInfoRecvD func beyond msg np s = (s', .ok (headType 0 items, octets 0 items))) := by
  have hholds : (⟨s, [0], 0⟩ : RecvD σ).Holds [] := ⟨⟨0, rfl⟩, rfl⟩
  obtain ⟨herror, hok⟩ :=
    recvDLoop_serve (pas.map (deleteRequest beyond)) (requestsAsk_map beyond pas) _ _ hholds
  unfold isakmpInfoRecvD
  rw [hparse]
  dsimp only
  refine ⟨fun s' e h => ?_, fun s' items h => ?_⟩
  · rw [herror _ h]
  · obtain ⟨st, hst, hs, ⟨last, hrmsg⟩, hplace⟩ := hok _ _ h
    have hrow : put st.rmsg st.npOff [0] = front 0 items := by
      have hput := put_front last items 0 []
      rw [List.append_nil, List.append_nil] at hput
      rw [hrmsg, hplace]
      exact hput
    rw [hst]
    dsimp only
    rw [hrow, hs]
    rfl

end

end Kink
