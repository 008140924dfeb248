import Racoon2.Lib.Bytes

/-!
# EAP packets

`ikev2_eap.c` reads and writes the header of EAP: a code, an identifier, the length of the whole
packet and, in a Request or a Response, a type.  What the IKEv2 payload has after that length is not
part of the packet.

* `decode`, `encode`          a packet, and its octets;
* `identityString`, `responseType`   the two other readers of the header;
* `Packet.Fits`               a packet whose length can be written;
* `decode_iff`                `decode` takes off exactly what `encode` writes;
* `identityString_iff`        an identity is the data of a Response that `decode` reads.
-/

set_option linter.unusedVariables false

namespace Eap
open Bytes

def codeRequest : UInt8 := 1
def codeResponse : UInt8 := 2
def codeSuccess : UInt8 := 3
def codeFailure : UInt8 := 4

def typeIdentity : UInt8 := 1

/-- `struct ikev2_eap_packet`; `type` is 0 unless the packet has one -/
structure Packet where
  code : UInt8
  identifier : UInt8
  length : Nat
  type : UInt8
  data : Bytes
  deriving DecidableEq, Repr

/-- only Request and Response carry a type -/
def hasType (code : UInt8) : Bool := code == codeRequest || code == codeResponse

/-- the octets before the data -/
def headSize (code : UInt8) : Nat := if hasType code then 5 else 4

/-- `ikev2_eap_decode` -/
def decode (raw : Bytes) : Option Packet :=
  if raw.length < 4 then none
  else if be16 raw 2 < 4 ∨ raw.length < be16 raw 2 then none
  else if hasType (byteAt raw 0) then
    if be16 raw 2 < 5 then none
    else some ⟨byteAt raw 0, byteAt raw 1, be16 raw 2, byteAt raw 4, slice raw 5 (be16 raw 2 - 5)⟩
  else some ⟨byteAt raw 0, byteAt raw 1, be16 raw 2, 0, slice raw 4 (be16 raw 2 - 4)⟩

/-- `ikev2_eap_encode_packet`; the buffer has the length modulo 2^16, and `none` is the copy that
leaves it -/
def encode (p : Packet) : Option Bytes :=
  if (headSize p.code + p.data.length) % 65536 < headSize p.code + p.data.length then none
  else some ([p.code, p.identifier] ++ enc16 (headSize p.code + p.data.length)
    ++ (if hasType p.code then [p.type] else []) ++ p.data)

/-- `ikev2_eap_build_identity_request` -/
def buildIdentityRequest (identifier : UInt8) : Option Bytes :=
  encode ⟨codeRequest, identifier, 0, typeIdentity, []⟩

/-- `ikev2_eap_build_success` -/
def buildSuccess (identifier : UInt8) : Option Bytes := encode ⟨codeSuccess, identifier, 0, 0, []⟩

/-- `ikev2_eap_build_failure` -/
def buildFailure (identifier : UInt8) : Option Bytes := encode ⟨codeFailure, identifier, 0, 0, []⟩

/-- a string ends at its first NUL -/
def cString (b : Bytes) : Bytes := b.takeWhile (· != 0)

/-- `ikev2_eap_identity_string` -/
def identityString (raw : Bytes) : Option Bytes :=
  if raw.length < 5 then none
  else if byteAt raw 0 ≠ codeResponse ∨ byteAt raw 4 ≠ typeIdentity then none
  else if be16 raw 2 < 5 ∨ raw.length < be16 raw 2 then none
  else if be16 raw 2 = 5 then none
  else some (cString (slice raw 5 (be16 raw 2 - 5)))

/-- `ikev2_eap_response_type`; `none` is -1 -/
def responseType (resp : Bytes) : Option UInt8 :=
  match decode resp with
  | none => none
  | some p => if p.code = codeResponse then some p.type else none

/-! ## decoding what was encoded -/

/-- the length counts all octets, fits two of them, and there is a type only where one is sent -/
structure Packet.Fits (p : Packet) : Prop where
  length : p.length = headSize p.code + p.data.length
  bound : p.length < 65536
  type : hasType p.code = false → p.type = 0

theorem headSize_of_type {code : UInt8} (h : hasType code = true) : headSize code = 5 := if_pos h

theorem headSize_of_not_type {code : UInt8} (h : hasType code = false) : headSize code = 4 := by
  unfold headSize
  rw [h]
  rfl

theorem encode_of_lt {p : Packet} (h : headSize p.code + p.data.length < 65536) :
    encode p = some ([p.code, p.identifier] ++ enc16 (headSize p.code + p.data.length)
      ++ (if hasType p.code then [p.type] else []) ++ p.data) := by
  unfold encode
  rw [Nat.mod_eq_of_lt h, if_neg (Nat.lt_irrefl _)]

theorem encode_of_fits {p : Packet} (h : p.Fits) :
    encode p = some ([p.code, p.identifier] ++ enc16 p.length
      ++ (if hasType p.code then [p.type] else []) ++ p.data) := by
  rw [encode_of_lt (h.length ▸ h.bound), ← h.length]

theorem encode_empty_typed {code : UInt8} (h : hasType code = true) (identifier type : UInt8) :
    encode ⟨code, identifier, 0, type, []⟩ = some [code, identifier, 0, 5, type] := by
  have hhead : headSize code = 5 := headSize_of_type h
  rw [encode_of_lt (by show headSize code + 0 < 65536; omega)]
  show some ([code, identifier] ++ enc16 (headSize code + 0) ++ (if hasType code = true then [type] else [])
    ++ []) = _
  rw [hhead, if_pos h]
  rfl

theorem encode_empty {code : UInt8} (h : hasType code = false) (identifier : UInt8) :
    encode ⟨code, identifier, 0, 0, []⟩ = some [code, identifier, 0, 4] := by
  have hhead : headSize code = 4 := headSize_of_not_type h
  rw [encode_of_lt (by show headSize code + 0 < 65536; omega)]
  show some ([code, identifier] ++ enc16 (headSize code + 0) ++ (if hasType code = true then [0] else [])
    ++ []) = _
  rw [hhead, h]
  rfl

theorem buildIdentityRequest_eq (identifier : UInt8) :
    buildIdentityRequest identifier = some [codeRequest, identifier, 0, 5, typeIdentity] :=
  encode_empty_typed (by decide) identifier typeIdentity

theorem buildSuccess_eq (identifier : UInt8) :
    buildSuccess identifier = some [codeSuccess, identifier, 0, 4] := encode_empty (by decide) identifier

theorem buildFailure_eq (identifier : UInt8) :
    buildFailure identifier = some [codeFailure, identifier, 0, 4] := encode_empty (by decide) identifier

/-- the header of a packet as `encode` writes it -/
theorem head_octets (code identifier : UInt8) {n : Nat} (hn : n < 65536) (rest : Bytes) :
    byteAt ([code, identifier] ++ enc16 n ++ rest) 0 = code
      ∧ byteAt ([code, identifier] ++ enc16 n ++ rest) 1 = identifier
      ∧ be16 ([code, identifier] ++ enc16 n ++ rest) 2 = n
      ∧ ([code, identifier] ++ enc16 n ++ rest).drop 4 = rest := by
  refine ⟨rfl, rfl, ?_, rfl⟩
  show be16 (enc16 n ++ rest) 0 = n
  exact be16_enc16 hn rest

theorem decode_of_fits {p : Packet} (h : p.Fits) (rest : Bytes) :
    decode ([p.code, p.identifier] ++ enc16 p.length
      ++ (if hasType p.code then [p.type] else []) ++ p.data ++ rest) = some p := by
  obtain ⟨hcode, hid, hlen, hdrop⟩ := head_octets p.code p.identifier h.bound
    ((if hasType p.code then [p.type] else []) ++ p.data ++ rest)
  obtain ⟨raw, hraw⟩ : ∃ raw, raw = [p.code, p.identifier] ++ enc16 p.length
      ++ ((if hasType p.code then [p.type] else []) ++ p.data ++ rest) := ⟨_, rfl⟩
  rw [← hraw] at hcode hid hlen hdrop
  have hsize : raw.length = 4 + ((if hasType p.code then [p.type] else []) ++ p.data ++ rest).length := by
    rw [hraw, List.length_append]
    rfl
  rw [List.append_assoc, List.append_assoc, ← List.append_assoc _ p.data rest, ← hraw]
  unfold decode
  rw [hcode, hid, hlen, h.length]
  cases htype : hasType p.code with
  | true =>
    have hhead : headSize p.code = 5 := headSize_of_type htype
    rw [htype, if_pos rfl] at hsize hdrop
    rw [List.append_assoc, List.length_append, List.length_append] at hsize
    have htake : byteAt raw 4 = p.type := by
      have := byteAt_drop raw 4 0
      rw [hdrop] at this
      exact this.symm
    have hdata : slice raw 5 p.data.length = p.data := by
      unfold slice
      rw [show raw.drop 5 = (raw.drop 4).drop 1 from (List.drop_drop (i := 1) (j := 4)).symm, hdrop]
      exact List.take_left' rfl
    rw [hhead, if_neg (by omega), if_neg (by simp only [List.length_singleton] at hsize; omega),
      if_pos rfl, if_neg (by omega), htake, Nat.add_sub_cancel_left, hdata, ← hhead, ← h.length]
  | false =>
    have hhead : headSize p.code = 4 := headSize_of_not_type htype
    rw [htype, if_neg (by decide), List.nil_append] at hsize hdrop
    rw [List.length_append] at hsize
    have hdata : slice raw 4 p.data.length = p.data := by
      unfold slice
      rw [hdrop]
      exact List.take_left' rfl
    rw [hhead, if_neg (by omega), if_neg (by omega), if_neg (by decide), Nat.add_sub_cancel_left,
      hdata, ← hhead, ← h.length, ← h.type htype]

/-! ## encoding what was decoded -/

/-- the four octets that a header reads are its first four -/
theorem take_four {raw : Bytes} (h : 4 ≤ raw.length) :
    raw = [byteAt raw 0, byteAt raw 1] ++ enc16 (be16 raw 2) ++ raw.drop 4 := by
  rw [enc16_be16]
  match raw, h with
  | a :: b :: c :: d :: rest, _ => rfl

theorem decode_fits {raw : Bytes} {p : Packet} (h : decode raw = some p) : p.Fits := by
  unfold decode at h
  split at h
  · cases h
  next hshort =>
  split at h
  · cases h
  next hlen =>
  rw [not_or] at hlen
  split at h
  · next htype =>
    split at h
    · cases h
    next hfive =>
    obtain rfl := Option.some.inj h
    refine ⟨?_, be16_lt raw 2, fun hnot => ?_⟩
    · show be16 raw 2 = headSize (byteAt raw 0) + (slice raw 5 (be16 raw 2 - 5)).length
      rw [headSize_of_type htype, slice_length _ _ _ (by omega)]
      omega
    · rw [htype] at hnot
      cases hnot
  · next htype =>
    obtain rfl := Option.some.inj h
    have htype : hasType (byteAt raw 0) = false := Bool.eq_false_iff.mpr htype
    refine ⟨?_, be16_lt raw 2, fun _ => rfl⟩
    show be16 raw 2 = headSize (byteAt raw 0) + (slice raw 4 (be16 raw 2 - 4)).length
    rw [headSize_of_not_type htype, slice_length _ _ _ (by omega)]
    omega

theorem decode_split {raw : Bytes} {p : Packet} (h : decode raw = some p) :
    raw = [p.code, p.identifier] ++ enc16 p.length
      ++ (if hasType p.code then [p.type] else []) ++ p.data ++ raw.drop p.length := by
  unfold decode at h
  split at h
  · cases h
  next hshort =>
  split at h
  · cases h
  next hlen =>
  rw [not_or] at hlen
  have hhead := take_four (Nat.le_of_not_lt hshort)
  split at h
  · next htype =>
    split at h
    · cases h
    next hfive =>
    obtain rfl := Option.some.inj h
    have hfour : raw.drop 4 = [byteAt raw 4] ++ slice raw 5 (be16 raw 2 - 5) ++ raw.drop (be16 raw 2) := by
      have hrest := slice_append_drop raw 5 (be16 raw 2 - 5)
      rw [show 5 + (be16 raw 2 - 5) = be16 raw 2 by omega] at hrest
      rw [List.append_assoc, hrest, show raw.drop 5 = (raw.drop 4).drop 1 from (List.drop_drop (i := 1) (j := 4)).symm]
      have hone : 0 < (raw.drop 4).length := by
        rw [List.length_drop]
        omega
      have hat : byteAt raw 4 = byteAt (raw.drop 4) 0 := (byteAt_drop raw 4 0).symm
      rw [hat]
      match raw.drop 4, hone with
      | a :: rest, _ => rfl
    show raw = [byteAt raw 0, byteAt raw 1] ++ enc16 (be16 raw 2)
      ++ (if hasType (byteAt raw 0) then [byteAt raw 4] else []) ++ slice raw 5 (be16 raw 2 - 5)
      ++ raw.drop (be16 raw 2)
    rw [if_pos htype, List.append_assoc, List.append_assoc, ← List.append_assoc [byteAt raw 4], ← hfour]
    exact hhead
  · next htype =>
    obtain rfl := Option.some.inj h
    have hrest := slice_append_drop raw 4 (be16 raw 2 - 4)
    rw [show 4 + (be16 raw 2 - 4) = be16 raw 2 by omega] at hrest
    show raw = [byteAt raw 0, byteAt raw 1] ++ enc16 (be16 raw 2)
      ++ (if hasType (byteAt raw 0) then [0] else []) ++ slice raw 4 (be16 raw 2 - 4)
      ++ raw.drop (be16 raw 2)
    rw [if_neg htype, List.append_nil, List.append_assoc, hrest]
    exact hhead

/-- `decode` accepts a packet with anything behind it, and nothing else -/
theorem decode_iff (raw : Bytes) (p : Packet) :
    decode raw = some p ↔ p.Fits ∧ ∃ b rest, encode p = some b ∧ raw = b ++ rest := by
  constructor
  · intro h
    have hfits := decode_fits h
    exact ⟨hfits, _, raw.drop p.length, encode_of_fits hfits, decode_split h⟩
  · rintro ⟨hfits, b, rest, hb, rfl⟩
    rw [encode_of_fits hfits] at hb
    obtain rfl := Option.some.inj hb
    exact decode_of_fits hfits rest

/-! ## the other readers -/

/-- a Response of type Identity, as `decode` reads it -/
theorem identityString_iff (raw : Bytes) (s : Bytes) :
    identityString raw = some s ↔ ∃ p, decode raw = some p ∧ p.code = codeResponse
      ∧ p.type = typeIdentity ∧ p.data ≠ [] ∧ s = cString p.data := by
  have hresp : ∀ c : UInt8, c = codeResponse → hasType c = true := by
    intro c hc
    subst hc
    rfl
  unfold identityString decode
  constructor
  · intro h
    split at h
    · cases h
    next hshort =>
    split at h
    · cases h
    next hkind =>
    rw [not_or, not_not, not_not] at hkind
    split at h
    · cases h
    next hlen =>
    rw [not_or] at hlen
    split at h
    · cases h
    next hempty =>
    obtain rfl := Option.some.inj h
    rw [if_neg (by omega), if_neg (by omega), if_pos (hresp _ hkind.1), if_neg (by omega)]
    refine ⟨_, rfl, hkind.1, hkind.2, ?_, rfl⟩
    intro hnil
    have hsize := slice_length raw 5 (be16 raw 2 - 5) (by omega)
    rw [show slice raw 5 (be16 raw 2 - 5) = [] from hnil] at hsize
    have hzero : 0 = be16 raw 2 - 5 := hsize
    omega
  · rintro ⟨p, hp, hcode, htype, hdata, rfl⟩
    split at hp
    · cases hp
    next hshort =>
    split at hp
    · cases hp
    next hlen =>
    rw [not_or] at hlen
    split at hp
    · split at hp
      · cases hp
      next hfive =>
      obtain rfl := Option.some.inj hp
      have hne : be16 raw 2 ≠ 5 := by
        intro h
        refine hdata ?_
        show slice raw 5 (be16 raw 2 - 5) = []
        rw [h]
        exact List.take_zero
      rw [if_neg (by omega), if_neg (by rw [not_or, not_not, not_not]; exact ⟨hcode, htype⟩),
        if_neg (by omega), if_neg hne]
    · next hnot =>
      obtain rfl := Option.some.inj hp
      exact absurd (hresp _ hcode) hnot

/-- the wire format: `decode` inverts `encode`, up to what follows the packet, and the identity for
RADIUS is read from the same octets -/
theorem eap_wire_format (raw : Bytes) :
    (∀ p, decode raw = some p ↔ p.Fits ∧ ∃ b rest, encode p = some b ∧ raw = b ++ rest)
      ∧ (∀ s, identityString raw = some s ↔ ∃ p, decode raw = some p ∧ p.code = codeResponse
        ∧ p.type = typeIdentity ∧ p.data ≠ [] ∧ s = cString p.data) :=
  ⟨decode_iff raw, identityString_iff raw⟩

end Eap
