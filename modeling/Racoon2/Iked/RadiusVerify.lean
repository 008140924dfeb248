import Racoon2.Iked.Radius

/-!
# RADIUS responses

`ikev2_radius_verify_response`: the Response Authenticator, the attributes, and the
Message-Authenticator among them.

* `locateMa`, `checkMsgAuth`, `verifyResponse`   the checks, in the order of the source;
* `Authentic`               what a response has to be, in terms of its attributes;
* `verify_response_iff`     the checks accept exactly that.
-/

set_option linter.unusedVariables false

open Bytes

namespace Radius

/-- `struct ikev2_radius_response` -/
structure Response where
  code : UInt8
  identifier : UInt8
  authenticator : Bytes
  reqAuth : Bytes
  attrs : List Tlv
  deriving DecidableEq, Repr

/-- `radius_locate_ma`: the offset of the value, from the parsed attributes and the octets of the
packet in step; `found` is the offset of one that was found before -/
def locateMa (pkt : Bytes) (len : Nat) : List Tlv → Nat → Option Nat → Option Nat
  | [], off, found => found
  | a :: as, off, found =>
    if len < off + 2 then none
    else if len < off + (byteAt pkt (off + 1)).toNat then none
    else if a.type = attrMessageAuth then
      if found.isSome ∨ a.value.length ≠ authLen then none
      else locateMa pkt len as (off + (byteAt pkt (off + 1)).toNat) (some (off + 2))
    else locateMa pkt len as (off + (byteAt pkt (off + 1)).toNat) found

section
variable (md5 : Bytes → Octets 16) (hmacmd5 : Bytes → Bytes → Octets 16)

/-- `radius_check_msg_auth` -/
def checkMsgAuth (attrs : List Tlv) (pkt : Bytes) (len : Nat) (reqAuth : Octets 16)
    (secret : Bytes) : Bool :=
  match locateMa pkt len attrs headerLen none with
  | none => false
  | some maPos =>
    let work := put (put (pkt.take len) 4 reqAuth.1) maPos (List.replicate authLen 0)
    (hmacmd5 secret work).1 == slice pkt maPos authLen

/-- `ikev2_radius_verify_response`; `mem` if there is memory for all its buffers -/
def verifyResponse (mem : Bool) (id : UInt8) (reqAuth : Octets 16) (respRaw secret : Bytes) :
    Option Response :=
  if respRaw.length < headerLen then none
  else if byteAt respRaw 1 ≠ id then none
  else
    let hlen := be16 respRaw 2
    if hlen < headerLen ∨ respRaw.length < hlen then none
    else if !mem then none
    else
      let attrs := slice respRaw headerLen (hlen - headerLen)
      if (md5 (respRaw.take 4 ++ reqAuth.1 ++ attrs ++ secret)).1 ≠ slice respRaw 4 authLen then none
      else
        match parseAttrs attrs with
        | none => none
        | some as =>
          if checkMsgAuth hmacmd5 as respRaw hlen reqAuth secret then
            some ⟨byteAt respRaw 0, byteAt respRaw 1, slice respRaw 4 authLen, reqAuth.1, as⟩
          else none

/-- a datagram in `ikev2_radius_exchange` -/
def exchangeDatagram (mem : Bool) (id : UInt8) (reqAuth : Octets 16) (rbuf secret : Bytes) :
    Option Response :=
  if byteAt rbuf 0 = codeAccessAccept ∨ byteAt rbuf 0 = codeAccessReject
      ∨ byteAt rbuf 0 = codeAccessChallenge then
    verifyResponse md5 hmacmd5 mem id reqAuth rbuf secret
  else none

/-! ## what is accepted -/

/-- a response with its one Message-Authenticator between the attributes `pre` and `post` -/
structure Authentic (id : UInt8) (reqAuth : Octets 16) (raw secret : Bytes) (pre : List Tlv)
    (ma : Bytes) (post : List Tlv) : Prop where
  length : headerLen ≤ be16 raw 2 ∧ be16 raw 2 ≤ raw.length
  identifier : byteAt raw 1 = id
  fits : ∀ a ∈ pre ++ ⟨attrMessageAuth, ma⟩ :: post, a.Fits
  tiles : slice raw headerLen (be16 raw 2 - headerLen) =
    Tlv.encodeAll (pre ++ ⟨attrMessageAuth, ma⟩ :: post)
  authenticator : slice raw 4 authLen =
    (md5 (raw.take 4 ++ reqAuth.1 ++ slice raw headerLen (be16 raw 2 - headerLen) ++ secret)).1
  once : ∀ a ∈ pre ++ post, a.type ≠ attrMessageAuth
  ma_length : ma.length = authLen
  ma_value : ma = (hmacmd5 secret (raw.take 4 ++ reqAuth.1 ++ Tlv.encodeAll (pre
    ++ ⟨attrMessageAuth, List.replicate authLen 0⟩ :: post))).1

end

/-! ## the attributes in step with the packet -/

/-- the attributes `as` are in the packet from `off` on, and end at `len` -/
def Tiled (pkt : Bytes) (len : Nat) (as : List Tlv) (off : Nat) : Prop :=
  ∃ front tail, pkt = front ++ Tlv.encodeAll as ++ tail ∧ off = front.length
    ∧ len = off + (Tlv.encodeAll as).length

section
variable {pkt : Bytes} {len off : Nat} {a : Tlv} {as : List Tlv}

theorem Tiled.tail (h : Tiled pkt len (a :: as) off) : Tiled pkt len as (off + a.encode.length) := by
  obtain ⟨front, tail, rfl, rfl, rfl⟩ := h
  refine ⟨front ++ a.encode, tail, ?_, ?_, ?_⟩
  · rw [Tlv.encodeAll_cons, List.append_assoc front a.encode]
  · rw [List.length_append]
  · rw [Tlv.encodeAll_cons, List.length_append, Nat.add_assoc]

/-- an attribute that the walk comes to -/
theorem locateMa_cons (h : Tiled pkt len (a :: as) off) (hfits : a.Fits) (found : Option Nat) :
    locateMa pkt len (a :: as) off found =
      if a.type = attrMessageAuth then
        if found.isSome ∨ a.value.length ≠ authLen then none
        else locateMa pkt len as (off + a.encode.length) (some (off + 2))
      else locateMa pkt len as (off + a.encode.length) found := by
  obtain ⟨front, tail, rfl, rfl, rfl⟩ := h
  have hoctet : (byteAt (front ++ Tlv.encodeAll (a :: as) ++ tail) (front.length + 1)).toNat =
      a.encode.length := by
    rw [List.append_assoc, byteAt_append_right, Tlv.encode_length]
    exact octet_value (by unfold Tlv.Fits at hfits; omega)
  have hlen := Tlv.encode_length a
  rw [locateMa, hoctet, Tlv.encodeAll_cons, List.length_append, if_neg (by omega),
    if_neg (by omega)]

/-- a second Message-Authenticator is an error -/
theorem locateMa_some (h : Tiled pkt len as off) (hfits : ∀ a ∈ as, a.Fits) {q p : Nat} :
    locateMa pkt len as off (some q) = some p ↔ (∀ a ∈ as, a.type ≠ attrMessageAuth) ∧ p = q := by
  induction as generalizing off with
  | nil => exact ⟨fun h => ⟨List.forall_mem_nil _, (Option.some.inj h).symm⟩, fun h => h.2 ▸ rfl⟩
  | cons a as ih =>
    obtain ⟨ha, hrest⟩ := List.forall_mem_cons.mp hfits
    rw [locateMa_cons h ha, List.forall_mem_cons]
    by_cases htype : a.type = attrMessageAuth
    · rw [if_pos htype, if_pos (.inl rfl)]
      exact ⟨fun hc => (nomatch hc), fun hc => absurd htype hc.1.1⟩
    · rw [if_neg htype, ih h.tail hrest]
      exact ⟨fun hc => ⟨⟨htype, hc.1⟩, hc.2⟩, fun hc => ⟨hc.1.2, hc.2⟩⟩

/-- the one Message-Authenticator, of 16 octets -/
theorem locateMa_none (h : Tiled pkt len as off) (hfits : ∀ a ∈ as, a.Fits) {p : Nat} :
    locateMa pkt len as off none = some p ↔ ∃ pre ma post, as = pre ++ ⟨attrMessageAuth, ma⟩ :: post
      ∧ (∀ a ∈ pre ++ post, a.type ≠ attrMessageAuth) ∧ ma.length = authLen
      ∧ p = off + (Tlv.encodeAll pre).length + 2 := by
  induction as generalizing off with
  | nil =>
    refine ⟨fun hc => (nomatch hc), ?_⟩
    rintro ⟨pre, ma, post, hnil, -⟩
    exact absurd hnil (List.append_ne_nil_of_right_ne_nil _ (List.cons_ne_nil _ _)).symm
  | cons a as ih =>
    obtain ⟨ha, hrest⟩ := List.forall_mem_cons.mp hfits
    rw [locateMa_cons h ha]
    by_cases htype : a.type = attrMessageAuth
    · rw [if_pos htype]
      constructor
      · intro hc
        split at hc
        · cases hc
        next hma =>
        obtain ⟨hno, rfl⟩ := (locateMa_some h.tail hrest).mp hc
        rw [not_or, not_not] at hma
        refine ⟨[], a.value, as, ?_, hno, hma.2, rfl⟩
        rw [← htype]
        rfl
      · rintro ⟨pre, ma, post, has, hno, hlen, rfl⟩
        cases pre with
        | nil =>
          obtain ⟨rfl, rfl⟩ := List.cons.inj has
          rw [if_neg (by rw [not_or, not_not]; exact ⟨fun hc => (nomatch hc), hlen⟩)]
          exact (locateMa_some h.tail hrest).mpr ⟨hno, rfl⟩
        | cons b pre =>
          obtain ⟨rfl, -⟩ := List.cons.inj has
          exact absurd htype (hno _ List.mem_cons_self)
    · rw [if_neg htype, ih h.tail hrest]
      constructor
      · rintro ⟨pre, ma, post, rfl, hno, hlen, rfl⟩
        refine ⟨a :: pre, ma, post, rfl, List.forall_mem_cons.mpr ⟨htype, hno⟩, hlen, ?_⟩
        rw [Tlv.encodeAll_cons, List.length_append, Nat.add_assoc off]
      · rintro ⟨pre, ma, post, has, hno, hlen, rfl⟩
        cases pre with
        | nil =>
          obtain ⟨rfl, -⟩ := List.cons.inj has
          exact absurd rfl htype
        | cons b pre =>
          obtain ⟨rfl, rfl⟩ := List.cons.inj has
          refine ⟨pre, ma, post, rfl, (List.forall_mem_cons.mp hno).2, hlen, ?_⟩
          rw [Tlv.encodeAll_cons, List.length_append]
          omega

end

/-! ## the checks -/

section
variable {md5 : Bytes → Octets 16} {hmacmd5 : Bytes → Bytes → Octets 16} {raw secret : Bytes}
  {reqAuth : Octets 16} {id : UInt8}

/-- the octets of a response up to its Length -/
theorem raw_take (hlen : headerLen ≤ be16 raw 2) :
    raw.take (be16 raw 2) = raw.take 4
      ++ (slice raw 4 authLen ++ slice raw headerLen (be16 raw 2 - headerLen)) := by
  have hzero : ∀ n, raw.take n = slice raw 0 n := fun n => rfl
  have hend : authLen + (be16 raw 2 - headerLen) = be16 raw 2 - 4 := by
    unfold headerLen authLen at *
    omega
  show _ = _ ++ (slice raw 4 authLen ++ slice raw (4 + authLen) _)
  rw [slice_add, hend, hzero, hzero, slice_add raw 0 4, Nat.add_sub_cancel' (by
    unfold headerLen at hlen
    omega)]

/-- a value of 16 octets among the attributes -/
theorem encodeAll_auth {pre post : List Tlv} {v : Bytes} (h : v.length = authLen) :
    Tlv.encodeAll (pre ++ ⟨attrMessageAuth, v⟩ :: post) =
      Tlv.encodeAll pre ++ [attrMessageAuth, 18] ++ (v ++ Tlv.encodeAll post) := by
  rw [Tlv.encodeAll_append, Tlv.encodeAll_cons, encode_auth ⟨v, h⟩, List.append_assoc,
    List.append_assoc]

/-- the octets that the HMAC is taken of, and those that it is compared with -/
theorem work_eq (reqAuth : Octets 16) (hlen : headerLen ≤ be16 raw 2 ∧ be16 raw 2 ≤ raw.length) {pre post : List Tlv}
    {ma : Bytes} (hma : ma.length = authLen)
    (htiles : slice raw headerLen (be16 raw 2 - headerLen) =
      Tlv.encodeAll (pre ++ ⟨attrMessageAuth, ma⟩ :: post)) :
    put (put (raw.take (be16 raw 2)) 4 reqAuth.1) (headerLen + (Tlv.encodeAll pre).length + 2)
      (List.replicate authLen 0) = raw.take 4 ++ reqAuth.1 ++ Tlv.encodeAll (pre
        ++ ⟨attrMessageAuth, List.replicate authLen 0⟩ :: post)
    ∧ slice raw (headerLen + (Tlv.encodeAll pre).length + 2) authLen = ma := by
  have hhead : (raw.take 4).length = 4 := List.length_take_of_le (by unfold headerLen at hlen; omega)
  have hauth : (slice raw 4 authLen).length = authLen :=
    slice_length _ _ _ (by unfold headerLen at hlen; unfold authLen; omega)
  have htake : raw.take (be16 raw 2) = raw.take 4 ++ (slice raw 4 authLen
      ++ (Tlv.encodeAll pre ++ [attrMessageAuth, 18] ++ (ma ++ Tlv.encodeAll post))) := by
    rw [raw_take hlen.1, htiles, encodeAll_auth hma]
  have hpos : ∀ auth : Bytes, auth.length = authLen → (raw.take 4 ++ auth ++ (Tlv.encodeAll pre
      ++ [attrMessageAuth, 18])).length = headerLen + (Tlv.encodeAll pre).length + 2 := by
    intro auth h
    rw [List.length_append, List.length_append, List.length_append, hhead, h]
    exact (Nat.add_assoc _ _ _).symm
  constructor
  · have hfirst : put (raw.take (be16 raw 2)) 4 reqAuth.1 = raw.take 4 ++ reqAuth.1
        ++ (Tlv.encodeAll pre ++ [attrMessageAuth, 18]) ++ (ma ++ Tlv.encodeAll post) := by
      rw [htake, List.append_assoc (raw.take 4 ++ reqAuth.1), List.append_assoc (raw.take 4)]
      have hput := put_append (raw.take 4) (Tlv.encodeAll pre ++ [attrMessageAuth, 18]
        ++ (ma ++ Tlv.encodeAll post)) (hauth.trans reqAuth.2.symm)
      rw [hhead] at hput
      exact hput
    rw [hfirst, ← hpos _ reqAuth.2, put_append _ _ (hma.trans (List.length_replicate).symm),
      encodeAll_auth List.length_replicate, List.append_assoc]
  · have hraw : raw = raw.take 4 ++ slice raw 4 authLen ++ (Tlv.encodeAll pre
        ++ [attrMessageAuth, 18]) ++ (ma ++ (Tlv.encodeAll post ++ raw.drop (be16 raw 2))) := by
      conv_lhs => rw [← List.take_append_drop (be16 raw 2) raw, htake]
      simp only [List.append_assoc]
    have hslice := slice_append_right (raw.take 4 ++ slice raw 4 authLen ++ (Tlv.encodeAll pre
      ++ [attrMessageAuth, 18])) (ma ++ (Tlv.encodeAll post ++ raw.drop (be16 raw 2))) 0 authLen
    rw [← hraw, hpos _ hauth, Nat.add_zero, slice_zero_append _ _ _ hma] at hslice
    exact hslice

theorem checkMsgAuth_iff (hlen : headerLen ≤ be16 raw 2 ∧ be16 raw 2 ≤ raw.length) {as : List Tlv}
    (hfits : ∀ a ∈ as, a.Fits)
    (htiles : slice raw headerLen (be16 raw 2 - headerLen) = Tlv.encodeAll as) :
    checkMsgAuth hmacmd5 as raw (be16 raw 2) reqAuth secret = true ↔
      ∃ pre ma post, as = pre ++ ⟨attrMessageAuth, ma⟩ :: post
        ∧ (∀ a ∈ pre ++ post, a.type ≠ attrMessageAuth) ∧ ma.length = authLen
        ∧ ma = (hmacmd5 secret (raw.take 4 ++ reqAuth.1 ++ Tlv.encodeAll (pre
          ++ ⟨attrMessageAuth, List.replicate authLen 0⟩ :: post))).1 := by
  have htiled : Tiled raw (be16 raw 2) as headerLen := by
    refine ⟨raw.take headerLen, raw.drop (be16 raw 2), ?_, ?_, ?_⟩
    · rw [← htiles]
      show _ = slice raw 0 headerLen ++ slice raw (0 + headerLen) _ ++ _
      rw [slice_add, Nat.add_sub_cancel' hlen.1]
      exact (List.take_append_drop _ raw).symm
    · exact (List.length_take_of_le (Nat.le_trans hlen.1 hlen.2)).symm
    · rw [← htiles, slice_length _ _ _ (by omega)]
      omega
  unfold checkMsgAuth
  constructor
  · intro h
    split at h
    · cases h
    next p hp =>
    obtain ⟨pre, ma, post, has, hno, hma, rfl⟩ := (locateMa_none htiled hfits).mp hp
    obtain ⟨hw, hs⟩ := work_eq reqAuth hlen hma (has ▸ htiles)
    dsimp only at h
    rw [hw, hs, beq_iff_eq] at h
    exact ⟨pre, ma, post, has, hno, hma, h.symm⟩
  · rintro ⟨pre, ma, post, has, hno, hma, hvalue⟩
    obtain ⟨hw, hs⟩ := work_eq reqAuth hlen hma (has ▸ htiles)
    rw [(locateMa_none htiled hfits).mpr ⟨pre, ma, post, has, hno, hma, rfl⟩]
    dsimp only
    rw [hw, hs, beq_iff_eq]
    exact hvalue.symm

/-- the checks in the order of the source -/
theorem verifyResponse_cases {mem : Bool} {resp : Response} :
    verifyResponse md5 hmacmd5 mem id reqAuth raw secret = some resp ↔ mem = true
      ∧ (headerLen ≤ be16 raw 2 ∧ be16 raw 2 ≤ raw.length) ∧ byteAt raw 1 = id
      ∧ slice raw 4 authLen = (md5 (raw.take 4 ++ reqAuth.1
        ++ slice raw headerLen (be16 raw 2 - headerLen) ++ secret)).1
      ∧ ∃ as, parseAttrs (slice raw headerLen (be16 raw 2 - headerLen)) = some as
        ∧ checkMsgAuth hmacmd5 as raw (be16 raw 2) reqAuth secret = true
        ∧ resp = ⟨byteAt raw 0, id, slice raw 4 authLen, reqAuth.1, as⟩ := by
  unfold verifyResponse
  constructor
  · intro h
    split at h
    · cases h
    split at h
    · cases h
    next hid =>
    rw [not_not] at hid
    dsimp only at h
    split at h
    · cases h
    next hlen =>
    split at h
    · cases h
    next hmem =>
    split at h
    · cases h
    next hauth =>
    split at h
    · cases h
    next as has =>
    split at h
    · next hma =>
      refine ⟨?_, by omega, hid, (not_not.mp hauth).symm, as, has, hma, ?_⟩
      · rw [Bool.not_eq_true', Bool.not_eq_false] at hmem
        exact hmem
      · rw [← hid]
        exact (Option.some.inj h).symm
    · cases h
  · rintro ⟨rfl, hlen, rfl, hauth, as, has, hma, rfl⟩
    rw [if_neg (by omega), if_neg (not_not_intro rfl)]
    dsimp only
    rw [if_neg (by omega), if_neg (by decide), if_neg (not_not_intro hauth.symm), has]
    dsimp only
    rw [if_pos hma]

end

/-- a response is accepted exactly if it is authentic, whatever its code is; the exchange passes on
those of three codes only -/
theorem response_accepted_iff (md5 : Bytes → Octets 16) (hmacmd5 : Bytes → Bytes → Octets 16)
    (mem : Bool) (id : UInt8) (reqAuth : Octets 16) (raw secret : Bytes) :
    ((verifyResponse md5 hmacmd5 mem id reqAuth raw secret).isSome = true ↔ mem = true
      ∧ ∃ pre ma post, Authentic md5 hmacmd5 id reqAuth raw secret pre ma post) ∧
    ((exchangeDatagram md5 hmacmd5 mem id reqAuth raw secret).isSome = true ↔
      (byteAt raw 0 = codeAccessAccept ∨ byteAt raw 0 = codeAccessReject
        ∨ byteAt raw 0 = codeAccessChallenge) ∧ mem = true
      ∧ ∃ pre ma post, Authentic md5 hmacmd5 id reqAuth raw secret pre ma post) := by
  have hverify : (verifyResponse md5 hmacmd5 mem id reqAuth raw secret).isSome = true ↔ mem = true
      ∧ ∃ pre ma post, Authentic md5 hmacmd5 id reqAuth raw secret pre ma post := by
    rw [Option.isSome_iff_exists]
    constructor
    · rintro ⟨resp, hresp⟩
      obtain ⟨hmem, hlen, hid, hauth, as, has, hma, -⟩ := verifyResponse_cases.mp hresp
      obtain ⟨hfits, htiles⟩ := (Tlv.readAll_iff (Nat.le_refl _)).mp has
      obtain ⟨pre, ma, post, rfl, hno, hmalen, hvalue⟩ :=
        (checkMsgAuth_iff hlen hfits htiles).mp hma
      exact ⟨hmem, pre, ma, post, hlen, hid, hfits, htiles, hauth, hno, hmalen, hvalue⟩
    · rintro ⟨hmem, pre, ma, post, h⟩
      refine ⟨_, verifyResponse_cases.mpr ⟨hmem, h.length, h.identifier, h.authenticator, _,
        (Tlv.readAll_iff (Nat.le_refl _)).mpr ⟨h.fits, h.tiles⟩, ?_, rfl⟩⟩
      exact (checkMsgAuth_iff h.length h.fits h.tiles).mpr
        ⟨pre, ma, post, rfl, h.once, h.ma_length, h.ma_value⟩
  refine ⟨hverify, ?_⟩
  unfold exchangeDatagram
  split
  · next hcode => rw [hverify, and_iff_right hcode]
  · next hcode => exact ⟨fun h => (nomatch h), fun h => absurd h.1 hcode⟩

/-- an Accounting-Response of digests that are all zero -/
def accountingResponse : Bytes :=
  [5, 9, 0, 38] ++ List.replicate 16 0 ++ [80, 18] ++ List.replicate 16 0

/-- its code belongs to no Access-Request, and it is accepted -/
theorem accounting_response_accepted :
    (verifyResponse (fun _ => ⟨List.replicate 16 0, rfl⟩) (fun _ _ => ⟨List.replicate 16 0, rfl⟩) true 9
      ⟨List.replicate 16 1, rfl⟩ accountingResponse [115]).isSome = true ∧
    byteAt accountingResponse 0 ≠ codeAccessAccept ∧ byteAt accountingResponse 0 ≠ codeAccessReject ∧
    byteAt accountingResponse 0 ≠ codeAccessChallenge := by
  decide

end Radius
