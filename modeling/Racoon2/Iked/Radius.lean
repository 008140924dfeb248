import Racoon2.Lib.Tlv

/-!
# RADIUS requests

`ikev2_radius_build_request`: an Access-Request with an EAP message, in attributes of at most 253
octets, and `ikev2_radius_eap_message`, which puts such attributes together again.

* `putEap`, `buildRequest`         the request;
* `parseAttrs`, `eapMessage`       the attributes of a packet and their EAP message;
* `buildRequest_of_buildable`      what is built;
* `request_codec_iff`              when it is a packet that gives the EAP message back.
-/

set_option linter.unusedVariables false

open Bytes

namespace Radius

def codeAccessRequest : UInt8 := 1
def codeAccessAccept : UInt8 := 2
def codeAccessReject : UInt8 := 3
def codeAccessChallenge : UInt8 := 11

def attrUserName : UInt8 := 1
def attrNasIpAddress : UInt8 := 4
def attrNasPort : UInt8 := 5
def attrState : UInt8 := 24
def attrNasIdentifier : UInt8 := 32
def attrEapMessage : UInt8 := 79
def attrMessageAuth : UInt8 := 80

def authLen : Nat := 16
def headerLen : Nat := 20
def maxValue : Nat := 253

/-- `RADIUS_RECV_MAX`: RADIUS packets cap at 4096 octets -/
def recvMax : Nat := 4096

/-! ## the request -/

/-- `struct ikev2_radius_opt`; a string or a state that is absent is empty -/
structure Opt where
  userName : Bytes
  nasIp : Bytes
  nasId : Bytes
  nasPort : UInt32
  state : Bytes
  secret : Bytes

/-- `radius_put_attr`; the packet grows by 256 octets, which is enough for any attribute -/
def putAttr (pkt : Bytes) (a : Tlv) : Option Bytes :=
  if maxValue < a.value.length then none else some (pkt ++ a.encode)

/-- `radius_put_eap` -/
def putEap (pkt : Bytes) (data : Bytes) : Option Bytes :=
  if maxValue < data.length then
    match putAttr pkt ⟨attrEapMessage, data.take maxValue⟩ with
    | none => none
    | some pkt => putEap pkt (data.drop maxValue)
  else putAttr pkt ⟨attrEapMessage, data⟩
termination_by data.length
decreasing_by
  unfold maxValue at *
  rw [List.length_drop]
  omega

/-- the optional attributes, in the order of `ikev2_radius_build_request` -/
def Opt.attrs (inetPton : Bytes → Option (Octets 4)) (opt : Opt) : List Tlv :=
  (if opt.userName ≠ [] then [⟨attrUserName, opt.userName⟩] else [])
  ++ (if opt.nasIp ≠ [] then (inetPton opt.nasIp).elim [] fun a => [⟨attrNasIpAddress, a.1⟩]
    else if opt.nasId ≠ [] then [⟨attrNasIdentifier, opt.nasId⟩]
    else [])
  ++ (if opt.nasPort ≠ 0 then [⟨attrNasPort, enc32 opt.nasPort.toNat⟩] else [])
  ++ (if opt.state ≠ [] then [⟨attrState, opt.state⟩] else [])

/-- what `ikev2_radius_build_request` calls -/
structure Calls where
  /-- there is memory for all its buffers -/
  mem : Bool
  /-- `RAND_bytes` -/
  rand : Option (Octets 16)
  inetPton : Bytes → Option (Octets 4)
  /-- `eay_hmacmd5_one`, unless it fails -/
  hmacmd5 : Option (Bytes → Bytes → Octets 16)

/-- the header, and the Message-Authenticator in the last octets -/
def sign (hmacmd5 : Bytes → Bytes → Octets 16) (id : UInt8) (secret : Bytes) (pkt : Bytes) : Bytes :=
  let pkt := [codeAccessRequest, id] ++ enc16 pkt.length ++ pkt.drop 4
  pkt.take (pkt.length - authLen) ++ (hmacmd5 secret pkt).1

/-- `ikev2_radius_build_request` -/
def buildRequest (calls : Calls) (id : UInt8) (eap : Bytes) (opt : Opt) : Option Bytes :=
  if !calls.mem then none
  else do
    let reqauth ← calls.rand
    let pkt ← (opt.attrs calls.inetPton).foldlM putAttr ([0, 0, 0, 0] ++ reqauth.1)
    let pkt ← putEap pkt eap
    let pkt ← putAttr pkt ⟨attrMessageAuth, List.replicate authLen 0⟩
    let hmacmd5 ← calls.hmacmd5
    return sign hmacmd5 id opt.secret pkt

/-- `radius_parse_attrs` -/
def parseAttrs (v : Bytes) : Option (List Tlv) := Tlv.readAll v.length v

/-- `ikev2_radius_eap_message`; `none` if there is no EAP-Message attribute -/
def eapMessage (attrs : List Tlv) : Option Bytes :=
  if attrs.filter (fun a => a.type == attrEapMessage) = [] then none
  else some ((attrs.filter fun a => a.type == attrEapMessage).flatMap Tlv.value)

/-! ## the attributes of a request -/

/-- the attributes that `radius_put_eap` makes of `n` octets -/
def eapCount (n : Nat) : Nat := if n = 0 then 1 else (n + 252) / 253

theorem putAttr_eq_some {pkt pkt' : Bytes} {a : Tlv} :
    putAttr pkt a = some pkt' ↔ a.Fits ∧ pkt' = pkt ++ a.encode := by
  unfold putAttr maxValue Tlv.Fits
  split
  · next h => exact ⟨fun hc => (nomatch hc), fun hc => absurd hc.1 (Nat.not_le_of_lt h)⟩
  · next h =>
    refine ⟨fun hc => ⟨Nat.le_of_not_lt h, (Option.some.inj hc).symm⟩, ?_⟩
    rintro ⟨-, rfl⟩
    rfl

theorem foldlM_putAttr {pkt pkt' : Bytes} {as : List Tlv} :
    as.foldlM putAttr pkt = some pkt' ↔ (∀ a ∈ as, a.Fits) ∧ pkt' = pkt ++ Tlv.encodeAll as := by
  induction as generalizing pkt with
  | nil =>
    show some pkt = some pkt' ↔ _
    rw [Option.some.injEq, Tlv.encodeAll_nil, List.append_nil]
    exact ⟨fun h => ⟨List.forall_mem_nil _, h.symm⟩, fun h => h.2.symm⟩
  | cons a as ih =>
    rw [List.foldlM_cons, List.forall_mem_cons, Tlv.encodeAll_cons, ← List.append_assoc]
    show (putAttr pkt a).bind _ = _ ↔ _
    rw [Option.bind_eq_some_iff]
    constructor
    · rintro ⟨p, hp, hrest⟩
      obtain ⟨hfits, rfl⟩ := putAttr_eq_some.mp hp
      obtain ⟨hall, rfl⟩ := ih.mp hrest
      exact ⟨⟨hfits, hall⟩, rfl⟩
    · rintro ⟨⟨hfits, hall⟩, rfl⟩
      exact ⟨_, putAttr_eq_some.mpr ⟨hfits, rfl⟩, ih.mpr ⟨hall, rfl⟩⟩

/-- the EAP message in attributes -/
structure Split (data : Bytes) (as : List Tlv) : Prop where
  fits : ∀ a ∈ as, a.Fits
  type : ∀ a ∈ as, a.type = attrEapMessage
  nonempty : as ≠ []
  value : as.flatMap Tlv.value = data
  count : as.length = eapCount data.length

theorem putEap_eq (pkt data : Bytes) :
    ∃ as, Split data as ∧ putEap pkt data = some (pkt ++ Tlv.encodeAll as) := by
  fun_induction putEap pkt data with
  | case1 pkt data hlong hnone =>
    have hchunk : (⟨attrEapMessage, data.take maxValue⟩ : Tlv).Fits := List.length_take_le _ _
    rw [putAttr_eq_some.mpr ⟨hchunk, rfl⟩] at hnone
    cases hnone
  | case2 pkt data hlong pkt' hput ih =>
    obtain ⟨hchunk, rfl⟩ := putAttr_eq_some.mp hput
    obtain ⟨as, has, heap⟩ := ih
    refine ⟨⟨attrEapMessage, data.take maxValue⟩ :: as, ⟨?_, ?_, ?_, ?_, ?_⟩, ?_⟩
    · exact List.forall_mem_cons.mpr ⟨hchunk, has.fits⟩
    · exact List.forall_mem_cons.mpr ⟨rfl, has.type⟩
    · exact List.cons_ne_nil _ _
    · rw [List.flatMap_cons, has.value]
      exact List.take_append_drop _ _
    · rw [List.length_cons, has.count, List.length_drop]
      unfold eapCount maxValue at *
      rw [if_neg (by omega), if_neg (by omega)]
      omega
    · rw [heap, Tlv.encodeAll_cons, List.append_assoc]
  | case3 pkt data hshort =>
    have hfits : (⟨attrEapMessage, data⟩ : Tlv).Fits := Nat.le_of_not_lt hshort
    refine ⟨[⟨attrEapMessage, data⟩], ⟨?_, ?_, ?_, ?_, ?_⟩, ?_⟩
    · exact List.forall_mem_singleton.mpr hfits
    · exact List.forall_mem_singleton.mpr rfl
    · exact List.cons_ne_nil _ _
    · exact List.append_nil data
    · unfold eapCount
      unfold maxValue at hshort
      split
      · rfl
      · show 1 = _
        omega
    · rw [putAttr_eq_some.mpr ⟨hfits, rfl⟩, Tlv.encodeAll_cons, Tlv.encodeAll_nil, List.append_nil]

/-! ## the packet -/

/-- none of the calls fails, and the optional attributes have at most 253 octets -/
structure Buildable (calls : Calls) (opt : Opt) : Prop where
  mem : calls.mem = true
  rand : calls.rand.isSome = true
  hmacmd5 : calls.hmacmd5.isSome = true
  fits : ∀ a ∈ opt.attrs calls.inetPton, a.Fits

/-- the octets of a request -/
def requestOctets (inetPton : Bytes → Option (Octets 4)) (opt : Opt) (eap : Bytes) : Nat :=
  headerLen + ((opt.attrs inetPton).map fun a => a.value.length + 2).sum
    + (eap.length + 2 * eapCount eap.length) + (authLen + 2)

/-- the optional attributes, the EAP message in `as`, and the Message-Authenticator -/
def requestAttrs (inetPton : Bytes → Option (Octets 4)) (opt : Opt) (as : List Tlv)
    (mac : Octets 16) : List Tlv :=
  opt.attrs inetPton ++ as ++ [⟨attrMessageAuth, mac.1⟩]

section
variable {calls : Calls} {id : UInt8} {eap : Bytes} {opt : Opt}

theorem Split.octets {as : List Tlv} (h : Split eap as) :
    (Tlv.encodeAll as).length = eap.length + 2 * eapCount eap.length := by
  have hsum : ∀ as : List Tlv, (as.map fun a => a.value.length + 2).sum =
      (as.flatMap Tlv.value).length + 2 * as.length := by
    intro as
    induction as with
    | nil => rfl
    | cons a as ih =>
      rw [List.map_cons, List.sum_cons, ih, List.flatMap_cons, List.length_append, List.length_cons]
      omega
  rw [Tlv.encodeAll_length, hsum, h.value, h.count]

theorem encode_auth (mac : Octets 16) :
    (⟨attrMessageAuth, mac.1⟩ : Tlv).encode = [attrMessageAuth, 18] ++ mac.1 := by
  unfold Tlv.encode
  dsimp only
  rw [mac.2]
  rfl

/-- the header is set, and the authenticator takes the place of the zeros -/
theorem sign_eq (id : UInt8) (f : Bytes → Bytes → Octets 16) (secret body : Bytes) (r : Octets 16) :
    ∃ mac : Octets 16, sign f id secret ([0, 0, 0, 0] ++ r.1 ++ body
        ++ (⟨attrMessageAuth, List.replicate authLen 0⟩ : Tlv).encode) =
      [codeAccessRequest, id] ++ enc16 (headerLen + body.length + (authLen + 2)) ++ r.1 ++ body
        ++ (⟨attrMessageAuth, mac.1⟩ : Tlv).encode := by
  have hlen : ([0, 0, 0, 0] ++ r.1 ++ body
      ++ (⟨attrMessageAuth, List.replicate authLen 0⟩ : Tlv).encode).length =
      headerLen + body.length + (authLen + 2) := by
    rw [List.length_append, List.length_append, List.length_append, r.2, Tlv.encode_length,
      List.length_replicate]
    rfl
  have hcut : ∀ head : Bytes, (head ++ List.replicate authLen 0).take
      ((head ++ List.replicate authLen 0).length - authLen) = head := by
    intro head
    rw [List.length_append, List.length_replicate, Nat.add_sub_cancel, List.take_left]
  have hpkt : [codeAccessRequest, id] ++ enc16 (headerLen + body.length + (authLen + 2))
      ++ ([0, 0, 0, 0] ++ r.1 ++ body
        ++ (⟨attrMessageAuth, List.replicate authLen 0⟩ : Tlv).encode).drop 4 =
      [codeAccessRequest, id] ++ enc16 (headerLen + body.length + (authLen + 2)) ++ r.1 ++ body
        ++ [attrMessageAuth, 18] ++ List.replicate authLen 0 := by
    simp only [List.append_assoc]
    rfl
  refine ⟨f secret ([codeAccessRequest, id] ++ enc16 (headerLen + body.length + (authLen + 2))
    ++ r.1 ++ body ++ [attrMessageAuth, 18] ++ List.replicate authLen 0), ?_⟩
  unfold sign
  rw [hlen, hpkt]
  dsimp only
  rw [hcut, encode_auth, List.append_assoc _ [attrMessageAuth, 18]]

/-- a request that is built -/
theorem buildRequest_of_buildable (h : Buildable calls opt) (id : UInt8) (eap : Bytes) :
    ∃ (as : List Tlv) (r mac : Octets 16), Split eap as ∧
      buildRequest calls id eap opt = some ([codeAccessRequest, id]
        ++ enc16 (requestOctets calls.inetPton opt eap) ++ r.1
        ++ Tlv.encodeAll (requestAttrs calls.inetPton opt as mac)) := by
  obtain ⟨r, hr⟩ := Option.isSome_iff_exists.mp h.rand
  obtain ⟨f, hf⟩ := Option.isSome_iff_exists.mp h.hmacmd5
  obtain ⟨as, has, heap⟩ := putEap_eq
    ([0, 0, 0, 0] ++ r.1 ++ Tlv.encodeAll (opt.attrs calls.inetPton)) eap
  have hma : (⟨attrMessageAuth, List.replicate authLen 0⟩ : Tlv).Fits := by decide
  obtain ⟨mac, hmac⟩ := sign_eq id f opt.secret
    (Tlv.encodeAll (opt.attrs calls.inetPton ++ as)) r
  refine ⟨as, r, mac, has, ?_⟩
  have hoctets : headerLen + (Tlv.encodeAll (opt.attrs calls.inetPton ++ as)).length + (authLen + 2) =
      requestOctets calls.inetPton opt eap := by
    unfold requestOctets
    rw [Tlv.encodeAll_append, List.length_append, has.octets, Tlv.encodeAll_length, Nat.add_assoc]
    omega
  unfold buildRequest
  rw [h.mem, hr, hf, if_neg (by decide)]
  show (Option.bind (List.foldlM putAttr _ _) _) = _
  rw [foldlM_putAttr.mpr ⟨h.fits, rfl⟩, Option.bind_some]
  show (Option.bind (putEap _ _) _) = _
  rw [heap, Option.bind_some]
  show (Option.bind (putAttr _ _) _) = _
  rw [putAttr_eq_some.mpr ⟨hma, rfl⟩, Option.bind_some]
  show some (sign f id opt.secret _) = _
  rw [List.append_assoc _ (Tlv.encodeAll _) (Tlv.encodeAll as), ← Tlv.encodeAll_append, hmac, hoctets,
    requestAttrs, Tlv.encodeAll_append (_ ++ as), Tlv.encodeAll_cons, Tlv.encodeAll_nil, List.append_nil,
    ← List.append_assoc]

theorem buildable_of_buildRequest {pkt : Bytes} (h : buildRequest calls id eap opt = some pkt) :
    Buildable calls opt := by
  unfold buildRequest at h
  split at h
  · cases h
  next hmem =>
  obtain ⟨r, hr, h⟩ := Option.bind_eq_some_iff.mp h
  obtain ⟨pkt₁, hattrs, h⟩ := Option.bind_eq_some_iff.mp h
  obtain ⟨pkt₂, -, h⟩ := Option.bind_eq_some_iff.mp h
  obtain ⟨pkt₃, -, h⟩ := Option.bind_eq_some_iff.mp h
  obtain ⟨f, hf, -⟩ := Option.bind_eq_some_iff.mp h
  refine ⟨?_, Option.isSome_iff_exists.mpr ⟨r, hr⟩, Option.isSome_iff_exists.mpr ⟨f, hf⟩,
    (foldlM_putAttr.mp hattrs).1⟩
  cases hc : calls.mem with
  | true => rfl
  | false =>
    rw [hc] at hmem
    exact absurd rfl hmem

end

/-! ## what a request carries -/

/-- a RADIUS packet with one Message-Authenticator whose EAP-Message attributes give `eap` -/
structure Carries (eap pkt : Bytes) : Prop where
  size : pkt.length ≤ recvMax
  length : be16 pkt 2 = pkt.length
  attrs : ∃ as, parseAttrs (pkt.drop headerLen) = some as ∧ pkt.drop headerLen = Tlv.encodeAll as
    ∧ (∀ a ∈ as, 2 ≤ a.encode.length ∧ a.encode.length ≤ 255)
    ∧ (as.filter fun a => a.type == attrMessageAuth).length = 1
    ∧ eapMessage as = some eap

section
variable {inetPton : Bytes → Option (Octets 4)} {opt : Opt} {eap : Bytes}

theorem opt_attrs_type {a : Tlv} (h : a ∈ opt.attrs inetPton) :
    a.type ≠ attrEapMessage ∧ a.type ≠ attrMessageAuth := by
  have hone : ∀ (c : Prop) [Decidable c] (b : Tlv), a ∈ (if c then [b] else []) →
      a.type = b.type := by
    intro c _ b hb
    split at hb
    · rw [List.mem_singleton.mp hb]
    · cases hb
  have htype : a.type ∈ [attrUserName, attrNasIpAddress, attrNasIdentifier, attrNasPort,
      attrState] := by
    unfold Opt.attrs at h
    rw [List.mem_append, List.mem_append, List.mem_append] at h
    rcases h with ((h | h) | h) | h
    · rw [hone _ _ h]
      exact List.mem_of_elem_eq_true rfl
    · split at h
      · cases hp : inetPton opt.nasIp with
        | none =>
          rw [hp] at h
          cases h
        | some ip =>
          rw [hp] at h
          rw [List.mem_singleton.mp h]
          exact List.mem_of_elem_eq_true rfl
      · rw [hone _ _ h]
        exact List.mem_of_elem_eq_true rfl
    · rw [hone _ _ h]
      exact List.mem_of_elem_eq_true rfl
    · rw [hone _ _ h]
      exact List.mem_of_elem_eq_true rfl
  simp only [List.mem_cons, List.not_mem_nil, or_false] at htype
  rcases htype with htype | htype | htype | htype | htype <;> rw [htype] <;> decide

theorem filter_opt_attrs (type : UInt8) (h : type = attrEapMessage ∨ type = attrMessageAuth) :
    (opt.attrs inetPton).filter (fun a => a.type == type) = [] := by
  refine List.filter_eq_nil_iff.mpr fun a ha hc => ?_
  rw [beq_iff_eq] at hc
  rcases h with rfl | rfl
  · exact (opt_attrs_type ha).1 hc
  · exact (opt_attrs_type ha).2 hc

theorem Split.filter {as : List Tlv} (h : Split eap as) (type : UInt8) :
    as.filter (fun a => a.type == type) = if type = attrEapMessage then as else [] := by
  split
  · next htype =>
    refine List.filter_eq_self.mpr fun a ha => ?_
    rw [h.type a ha, htype]
    decide
  · next htype =>
    refine List.filter_eq_nil_iff.mpr fun a ha hc => htype ?_
    rw [← beq_iff_eq.mp hc, h.type a ha]

/-- the attributes of a request, whatever its authenticator is -/
theorem requestAttrs_carry {as : List Tlv} (has : Split eap as) (mac : Octets 16)
    (hfits : ∀ a ∈ opt.attrs inetPton, a.Fits) :
    (∀ a ∈ requestAttrs inetPton opt as mac, a.Fits)
      ∧ ((requestAttrs inetPton opt as mac).filter fun a => a.type == attrMessageAuth).length = 1
      ∧ eapMessage (requestAttrs inetPton opt as mac) = some eap := by
  unfold requestAttrs
  have hmac : (⟨attrMessageAuth, mac.1⟩ : Tlv).Fits := by
    show mac.1.length ≤ 253
    rw [mac.2]
    decide
  refine ⟨?_, ?_, ?_⟩
  · exact List.forall_mem_append.mpr
      ⟨List.forall_mem_append.mpr ⟨hfits, has.fits⟩, List.forall_mem_singleton.mpr hmac⟩
  · rw [List.filter_append, List.filter_append, filter_opt_attrs _ (.inr rfl), has.filter,
      if_neg (by decide)]
    rfl
  · unfold eapMessage
    rw [List.filter_append, List.filter_append, filter_opt_attrs _ (.inl rfl), has.filter,
      if_pos rfl]
    show (if as ++ [] = [] then none else some ((as ++ []).flatMap Tlv.value)) = _
    rw [List.append_nil, if_neg has.nonempty, has.value]

end

section
variable {inetPton : Bytes → Option (Octets 4)} {opt : Opt} {eap : Bytes} {as : List Tlv} {id : UInt8}

theorem request_length (inetPton : Bytes → Option (Octets 4)) (opt : Opt) (id : UInt8)
    (has : Split eap as) (r mac : Octets 16) :
    ([codeAccessRequest, id] ++ enc16 (requestOctets inetPton opt eap) ++ r.1
      ++ Tlv.encodeAll (requestAttrs inetPton opt as mac)).length = requestOctets inetPton opt eap := by
  have hattrs : (Tlv.encodeAll (requestAttrs inetPton opt as mac)).length =
      ((opt.attrs inetPton).map fun a => a.value.length + 2).sum
        + (eap.length + 2 * eapCount eap.length) + (authLen + 2) := by
    unfold requestAttrs
    rw [Tlv.encodeAll_append, Tlv.encodeAll_append, List.length_append, List.length_append,
      has.octets, Tlv.encodeAll_length, Tlv.encodeAll_cons, Tlv.encodeAll_nil, List.append_nil,
      Tlv.encode_length, mac.2]
    rfl
  rw [List.length_append, List.length_append, r.2, hattrs]
  unfold requestOctets
  show 4 + 16 + _ = 20 + _ + _ + _
  omega

/-- the attributes begin behind the header -/
theorem request_drop (r mac : Octets 16) (n : Nat) :
    ([codeAccessRequest, id] ++ enc16 n ++ r.1
      ++ Tlv.encodeAll (requestAttrs inetPton opt as mac)).drop headerLen =
      Tlv.encodeAll (requestAttrs inetPton opt as mac) := by
  apply List.drop_left'
  rw [List.length_append, r.2]
  rfl

end

/-- what is built is a packet that carries the EAP message exactly if its octets are at most 4096 -/
theorem request_codec_iff (calls : Calls) (id : UInt8) (eap : Bytes) (opt : Opt) :
    (∀ pkt, buildRequest calls id eap opt = some pkt → Carries eap pkt) ↔
      (Buildable calls opt → requestOctets calls.inetPton opt eap ≤ recvMax) := by
  constructor
  · intro h hb
    obtain ⟨as, r, mac, has, hbuild⟩ := buildRequest_of_buildable hb id eap
    rw [← request_length calls.inetPton opt id has r mac]
    exact (h _ hbuild).size
  · intro h pkt hpkt
    have hb := buildable_of_buildRequest hpkt
    obtain ⟨as, r, mac, has, hbuild⟩ := buildRequest_of_buildable hb id eap
    obtain rfl := Option.some.inj (hbuild.symm.trans hpkt)
    have hlen := request_length calls.inetPton opt id has r mac
    have hsize := h hb
    obtain ⟨hfits, hma, heap⟩ := requestAttrs_carry has mac hb.fits
    refine ⟨hlen ▸ hsize, ?_, requestAttrs calls.inetPton opt as mac, ?_, ?_, ?_, hma, heap⟩
    · rw [hlen]
      exact octets_value (Nat.lt_of_le_of_lt hsize (by decide))
    · rw [request_drop]
      exact (Tlv.readAll_iff (Nat.le_refl _)).mpr ⟨hfits, rfl⟩
    · exact request_drop r mac _
    · intro a ha
      rw [Tlv.encode_length]
      exact ⟨Nat.le_add_left _ _, Nat.add_le_add_right (hfits a ha) 2⟩

def zeros : Octets 16 := ⟨List.replicate 16 0, rfl⟩

/-- digests and random octets that are all zero, and an option without attributes -/
def zeroCalls : Calls where
  mem := true
  rand := some zeros
  inetPton := fun _ => none
  hmacmd5 := some fun _ _ => zeros

def emptyOpt : Opt := ⟨[], [], [], 0, [], [115]⟩

/-- an EAP message of 5000 octets is built into a packet of 5078 -/
theorem long_eap_not_carried :
    ¬ ∀ pkt, buildRequest zeroCalls 1 (List.replicate 5000 7) emptyOpt = some pkt →
      Carries (List.replicate 5000 7) pkt := by
  intro h
  have hb : Buildable zeroCalls emptyOpt := ⟨rfl, rfl, rfl, List.forall_mem_nil _⟩
  obtain ⟨as, r, mac, has, hbuild⟩ := buildRequest_of_buildable hb 1 (List.replicate 5000 7)
  have hsize := (h _ hbuild).size
  rw [request_length _ _ _ has r mac] at hsize
  unfold requestOctets at hsize
  rw [List.length_replicate] at hsize
  revert hsize
  decide

end Radius
