import Racoon2.Iked.Auth

/-!
# The CFG_REPLY that the initiator reads

A Configuration payload is a list of attributes, each with a type, a length and a value.
`ikev2_process_cfg_reply_attribs` walks them (`ikev2cfg_attr_len` bounds each step) and keeps what
they say in the Child SA.  An attribute of a fixed size that has another one rejects the reply; the
walk stops there.  What the names of split DNS need is in `ikev2_dns_domain_normalize` and
`ikev2_dns_domain_allowed`.

* `cfgAttrs`                     the attributes in the octets; `cfgAttrs_encode`;
* `cfgReplyAttr`                 one attribute;
* `processCfgReplyAttribs`       the reply.
-/

set_option linter.unusedVariables false

namespace Ikev2
open Bytes

/-! ## attributes -/

structure CfgAttr where
  type : Nat
  value : Bytes
  deriving DecidableEq, Repr

def cfgInternalIp4Address : Nat := 1
def cfgInternalIp4Netmask : Nat := 2
def cfgInternalIp4Dns : Nat := 3
def cfgInternalIp4Nbns : Nat := 4
def cfgInternalAddressExpiry : Nat := 5
def cfgInternalIp4Dhcp : Nat := 6
def cfgApplicationVersion : Nat := 7
def cfgInternalIp6Address : Nat := 8
def cfgInternalIp6Dns : Nat := 10
def cfgInternalIp6Dhcp : Nat := 12
def cfgInternalIp4Subnet : Nat := 13
def cfgSupportedAttributes : Nat := 14
def cfgInternalIp6Subnet : Nat := 15
def cfgMip6HomePrefix : Nat := 16
def cfgInternalDnsDomain : Nat := 25
def cfgInternalDnssecTa : Nat := 26

/-- `ikev2_cfg_attr_len`; 0: any length -/
def cfgAttrLen (type : Nat) : Nat :=
  [0, 4, 4, 4, 4, 4, 4, 0, 17, 0, 16, 16, 16, 8, 0, 17, 21].getD type 0

def CfgAttr.lengthOk (a : CfgAttr) : Bool :=
  cfgAttrLen a.type == 0 || a.value.length == cfgAttrLen a.type

/-- `cfg_attrib_set`, and the value -/
def CfgAttr.encode (a : CfgAttr) : Bytes := enc16 a.type ++ enc16 a.value.length ++ a.value

/-- the walk: `ikev2cfg_attr_len` lets it step over an attribute that fits; the highest bit of the type
is reserved.  There are at most `n` attributes -/
def cfgAttrs : Nat → Bytes → List CfgAttr
  | 0, _ => []
  | n + 1, b =>
    if b.length < 4 then []
    else if b.length < 4 + be16 b 2 then []
    else ⟨be16 b 0 % 32768, slice b 4 (be16 b 2)⟩ :: cfgAttrs n (b.drop (4 + be16 b 2))

/-! ## names -/

def hyphen : UInt8 := 45

def isLdh (c : UInt8) : Bool :=
  (97 ≤ c && c ≤ 122) || (65 ≤ c && c ≤ 90) || (48 ≤ c && c ≤ 57) || c == hyphen

/-- the loop of `ikev2_dns_domain_normalize`: the octets of the label so far, and the last octet -/
def normalizeLoop : Nat → UInt8 → Bytes → Option Bytes
  | lab, prev, [] => if lab = 0 ∨ prev = hyphen then none else some []
  | lab, prev, c :: rest =>
    if c = dot then
      if lab = 0 ∨ prev = hyphen then none else (normalizeLoop 0 c rest).map (dot :: ·)
    else if !isLdh c then none
    else if c = hyphen ∧ lab = 0 then none
    else if 63 < lab + 1 then none
    else (normalizeLoop (lab + 1) c rest).map (toLower c :: ·)

/-- one dot at the end goes -/
def dropDot (v : Bytes) : Bytes := if v.getLast? = some dot then v.dropLast else v

/-- `ikev2_dns_domain_normalize`, with a buffer of 256 -/
def dnsDomainNormalize (v : Bytes) : Option Bytes :=
  if (dropDot v).length = 0 ∨ 253 < (dropDot v).length then none else normalizeLoop 0 0 (dropDot v)

/-- comma, space and tab separate the entries of the allowlist -/
def isSeparator (c : UInt8) : Bool := c == 44 || c == 32 || c == 9

/-- the test of an entry in `ikev2_dns_domain_allowed` -/
def entryAllows (dom entry : Bytes) : Bool :=
  0 < entry.length && entry.length ≤ dom.length
    && (dom.drop (dom.length - entry.length)).map toLower == entry.map toLower
    && (entry.length == dom.length || byteAt dom (dom.length - entry.length - 1) == dot)

/-- the loop of `ikev2_dns_domain_allowed`; every round takes an octet at least -/
def allowedLoop (dom : Bytes) : Nat → Bytes → Bool
  | 0, _ => false
  | n + 1, list =>
    if list = [] then false
    else
      let start := list.dropWhile isSeparator
      let entry := start.takeWhile fun c => !isSeparator c
      if entryAllows dom (dropDot entry) then true
      else allowedLoop dom n (start.dropWhile fun c => !isSeparator c)

/-- `ikev2_dns_domain_allowed` -/
def dnsDomainAllowed (dom : Bytes) : Option Bytes → Bool
  | none => false
  | some list => allowedLoop dom list.length list

/-- a domain is taken, in lower case -/
def acceptDomain (allow : Option Bytes) (v : Bytes) : Option Bytes :=
  match dnsDomainNormalize v with
  | none => none
  | some dom => if dnsDomainAllowed dom allow then some dom else none

/-! ## the Child SA -/

/-- what a CFG_REPLY leaves in `struct ikev2_child_sa`; `struct rcf_address` is an address with a
prefix length -/
structure CfgChild where
  internalIp4Addr : List (Bytes × Nat)
  internalIp6Addr : List (Bytes × Nat)
  loanList : List (Bytes × Nat)
  internalIp4Dns : List (Bytes × Nat)
  internalIp6Dns : List (Bytes × Nat)
  internalIp4Nbns : List (Bytes × Nat)
  internalIp4Dhcp : List (Bytes × Nat)
  internalIp6Dhcp : List (Bytes × Nat)
  internalIp4Subnet : List (Bytes × Nat)
  internalIp6Subnet : List (Bytes × Nat)
  internalAddressExpiry : Nat
  peerApplicationVersion : Option Bytes
  internalDnsDomain : Option Bytes
  internalDnssecTa : Option Bytes
  deriving DecidableEq, Repr

/-- a Child SA before any reply -/
def CfgChild.fresh : CfgChild := ⟨[], [], [], [], [], [], [], [], [], [], 0, none, none, none⟩

/-- the walk: the Child SA, `prev_type`, `got_dns` and `got_split` -/
structure CfgWalk where
  child : CfgChild
  prevType : Nat
  gotDns : Bool
  gotSplit : Bool
  deriving DecidableEq, Repr

/-- the bits of a netmask from the top: the loop that counts them -/
def maskLength (m : Nat) : Nat → Nat → Nat
  | 0, plen => plen
  | n + 1, plen => if m &&& (0x80000000 >>> plen) ≠ 0 then maskLength m n (plen + 1) else plen

/-- the netmask of a prefix length -/
def netmask (plen : Nat) : Nat := if plen = 0 then 0 else (0xffffffff <<< (32 - plen)) % 2 ^ 32

/-- the domains accumulate, with a space in between -/
def addDomain (field : Option Bytes) (dom : Bytes) : Bytes :=
  if (field.getD []).length = 0 then dom else field.getD [] ++ 32 :: dom

section
variable (allow : Option Bytes) (w : CfgWalk) (value : Bytes)

/-- INTERNAL_IP4_SUBNET -/
def cfgIp4Subnet : CfgWalk :=
  let m := be32 value 4
  let plen := maskLength m 32 0
  if m ≠ netmask plen then w
  else { w with child := { w.child with
    internalIp4Subnet := (slice value 0 4, plen) :: w.child.internalIp4Subnet } }

/-- INTERNAL_IP6_SUBNET -/
def cfgIp6Subnet : CfgWalk :=
  let plen := (byteAt value 16).toNat
  if 128 < plen then w
  else { w with child := { w.child with
    internalIp6Subnet := (slice value 0 16, plen) :: w.child.internalIp6Subnet } }

/-- INTERNAL_DNS_DOMAIN -/
def cfgDnsDomain : CfgWalk :=
  match acceptDomain allow value with
  | none => { w with prevType := 0 }
  | some dom =>
    { w with
      child := { w.child with internalDnsDomain := some (addDomain w.child.internalDnsDomain dom) }
      gotSplit := true
      prevType := cfgInternalDnsDomain }

/-- INTERNAL_DNSSEC_TA -/
def cfgDnssecTa : CfgWalk :=
  if w.prevType ≠ cfgInternalDnsDomain ∧ w.prevType ≠ cfgInternalDnssecTa then { w with prevType := 0 }
  else if value.length < 5 then w
  else
    { w with
      child := { w.child with internalDnssecTa := some value }
      gotSplit := true
      prevType := cfgInternalDnssecTa }

/-- the attributes whose value is kept, other than those of split DNS -/
def cfgOther (a : CfgAttr) : CfgWalk :=
  let child := w.child
  let v4 := (slice a.value 0 4, 0)
  let v6 := (slice a.value 0 16, 0)
  if a.type = cfgInternalIp4Address then
    { w with child := { child with
      internalIp4Addr := v4 :: child.internalIp4Addr, loanList := v4 :: child.loanList } }
  else if a.type = cfgInternalIp6Address then
    { w with child := { child with
      internalIp6Addr := v6 :: child.internalIp6Addr, loanList := v6 :: child.loanList } }
  else if a.type = cfgInternalIp4Dns then
    { w with child := { child with internalIp4Dns := v4 :: child.internalIp4Dns }, gotDns := true }
  else if a.type = cfgInternalIp4Nbns then
    { w with child := { child with internalIp4Nbns := v4 :: child.internalIp4Nbns } }
  else if a.type = cfgInternalAddressExpiry then
    { w with child := { child with internalAddressExpiry := be32 a.value 0 } }
  else if a.type = cfgInternalIp4Dhcp then
    { w with child := { child with internalIp4Dhcp := v4 :: child.internalIp4Dhcp } }
  else if a.type = cfgApplicationVersion then
    { w with child := { child with peerApplicationVersion := some a.value } }
  else if a.type = cfgInternalIp6Dns then
    { w with child := { child with internalIp6Dns := v6 :: child.internalIp6Dns }, gotDns := true }
  else if a.type = cfgInternalIp6Dhcp then
    { w with child := { child with internalIp6Dhcp := v6 :: child.internalIp6Dhcp } }
  else if a.type = cfgInternalIp4Subnet then cfgIp4Subnet w a.value
  else if a.type = cfgInternalIp6Subnet then cfgIp6Subnet w a.value
  else w

end

/-- one attribute; `none`: the reply is rejected -/
def cfgReplyAttr (allow : Option Bytes) (w : CfgWalk) (a : CfgAttr) : Option CfgWalk :=
  if !a.lengthOk then none
  else if a.type = cfgInternalDnsDomain then some (cfgDnsDomain allow w a.value)
  else if a.type = cfgInternalDnssecTa then some (cfgDnssecTa w a.value)
  else some { cfgOther w a with prevType := 0 }

/-- the attributes up to one that rejects the reply -/
def cfgReplyLoop (allow : Option Bytes) : CfgWalk → List CfgAttr → CfgWalk × Bool
  | w, [] => (w, true)
  | w, a :: as =>
    match cfgReplyAttr allow w a with
    | none => (w, false)
    | some w => cfgReplyLoop allow w as

/-- `ikev2_process_cfg_reply_attribs`: the Child SA, and whether the reply was accepted.  The octets are
those behind the header of the payload -/
def processCfgReplyAttribs (allow : Option Bytes) (child : CfgChild) (b : Bytes) : CfgChild × Bool :=
  let r := cfgReplyLoop allow ⟨child, 0, false, false⟩ (cfgAttrs b.length b)
  if !r.2 then (r.1.child, false)
  else if r.1.gotSplit && !r.1.gotDns then
    ({ r.1.child with
      internalDnsDomain := child.internalDnsDomain, internalDnssecTa := child.internalDnssecTa }, true)
  else (r.1.child, true)

/-! ## the octets of an attribute -/

/-- the two fields hold the type and the length -/
def CfgAttr.Fits (a : CfgAttr) : Prop := a.type < 32768 ∧ a.value.length < 65536

theorem CfgAttr.encode_length (a : CfgAttr) : a.encode.length = 4 + a.value.length := by
  unfold CfgAttr.encode enc16
  rw [List.length_append]
  rfl

theorem CfgAttr.be16_encode (a : CfgAttr) (h : a.Fits) (rest : Bytes) :
    be16 (a.encode ++ rest) 0 = a.type ∧ be16 (a.encode ++ rest) 2 = a.value.length := by
  have htype : a.encode ++ rest = enc16 a.type ++ (enc16 a.value.length ++ (a.value ++ rest)) := by
    unfold CfgAttr.encode
    rw [List.append_assoc, List.append_assoc]
  rw [htype]
  constructor
  · exact be16_enc16 (Nat.lt_trans h.1 (by decide)) _
  · have hskip := be16_append_right (enc16 a.type) (enc16 a.value.length ++ (a.value ++ rest)) 0
    exact hskip.trans (be16_enc16 h.2 _)

/-- what is written is read back -/
theorem cfgAttrs_encode (as : List CfgAttr) (hfits : ∀ a ∈ as, a.Fits) (n : Nat) (hn : as.length ≤ n) :
    cfgAttrs n (as.flatMap CfgAttr.encode) = as := by
  induction as generalizing n with
  | nil => cases n <;> rfl
  | cons a as ih =>
    cases n with
    | zero => cases hn
    | succ n =>
      have hfit := hfits a List.mem_cons_self
      obtain ⟨htype, hlen⟩ := a.be16_encode hfit (as.flatMap CfgAttr.encode)
      have hsize : (a.encode ++ as.flatMap CfgAttr.encode).length =
          4 + a.value.length + (as.flatMap CfgAttr.encode).length := by
        rw [List.length_append, a.encode_length]
      have hvalue : slice (a.encode ++ as.flatMap CfgAttr.encode) 4 a.value.length = a.value :=
        slice_zero_append a.value _ _ rfl
      have hrest : (a.encode ++ as.flatMap CfgAttr.encode).drop (4 + a.value.length) =
          as.flatMap CfgAttr.encode := by
        rw [← a.encode_length]
        exact List.drop_left
      rw [List.flatMap_cons, cfgAttrs, hlen, htype, hsize, if_neg (by omega), if_neg (by omega), hvalue,
        hrest, Nat.mod_eq_of_lt hfit.1,
        ih (fun x hx => hfits x (List.mem_cons_of_mem a hx)) n (Nat.le_of_succ_le_succ hn)]

end Ikev2
