import Racoon2.Iked.ConfigReply

/-!
# The CFG_REPLY that the responder builds, and what the initiator makes of it

`ikev2_create_config_reply` lists the leased addresses, the servers of the configuration that were asked
for, and the subnets of the negotiated selectors.  `ikev2_process_cfg_reply_attribs` of the other side
puts each attribute it keeps in front of a list.

* `createConfigReply`     the attributes of the reply;
* `CfgField`, `kept`      the lists of the Child SA, and what an attribute adds to one;
* `cfgReplyLoop_kept`     what a walk adds;
* `replied`               what the responder has for a list.
-/

set_option linter.unusedVariables false

namespace Ikev2
open Bytes

/-! ## the responder -/

inductive CfgAddr where
  | v4 (a : Octets 4)
  | v6 (a : Octets 16)

def CfgAddr.octets : CfgAddr → Bytes
  | .v4 a => a.val
  | .v6 a => a.val

def CfgAddr.isV4 : CfgAddr → Bool
  | .v4 _ => true
  | .v6 _ => false

/-- `struct rc_addrlist`; no address: not RCT_ADDR_INET, or NULL -/
structure CfgItem where
  addr : Option CfgAddr
  prefixlen : Int

/-- `struct rcf_address` of the lease list -/
structure CfgLease where
  addr : CfgAddr
  prefixlen : Nat

/-- `struct rcf_remote`, with the lists that `rcs_extend_addrlist` makes of the configured ones (`none`: it
fails) -/
structure CfgConf where
  applicationVersion : Option Bytes
  dns : Option (Option (List CfgItem))
  nbns : Option (Option (List CfgItem))
  dhcp : Option (Option (List CfgItem))
  mip6HomePrefix : Option (Option (List CfgItem))
  legacySplitNetmask : Bool
  dnsDomain : Option Bytes
  dnssecTa : Option Bytes

/-- `struct ikev2_child_param`: how often an attribute was asked for -/
structure CfgParam where
  applicationVersion : Nat
  ip4Dns : Nat
  ip6Dns : Nat
  ip4Nbns : Nat
  ip4Dhcp : Nat
  ip6Dhcp : Nat
  ip4Subnet : Nat
  ip6Subnet : Nat
  dnsDomain : Nat
  dnssecTa : Nat
  mip6HomePrefix : Nat
  supportedAttributes : Nat

/-- `struct ikev2_child_sa`: the leases, and the destinations of each selector -/
structure CfgReplyChild where
  leaseList : List CfgLease
  selectors : List (List CfgItem)

/-- an address of the lease list -/
def leaseAttr (lease : CfgLease) : CfgAttr :=
  match lease.addr with
  | .v4 a => ⟨cfgInternalIp4Address, a.val⟩
  | .v6 a => ⟨cfgInternalIp6Address, a.val ++ [UInt8.ofNat lease.prefixlen]⟩

/-- `ikev2_cfg_add_addrlist` -/
def cfgAddAddrlist (t4 t6 : Nat) : List CfgItem → Nat → Nat → List CfgAttr
  | [], _, _ => []
  | item :: items, n4, n6 =>
    match item.addr with
    | none => cfgAddAddrlist t4 t6 items n4 n6
    | some (.v4 a) =>
      if 0 < n4 then ⟨t4, a.val⟩ :: cfgAddAddrlist t4 t6 items (n4 - 1) n6
      else cfgAddAddrlist t4 t6 items n4 n6
    | some (.v6 a) =>
      if 0 < n6 then ⟨t6, a.val⟩ :: cfgAddAddrlist t4 t6 items n4 (n6 - 1)
      else cfgAddAddrlist t4 t6 items n4 n6

/-- a list of servers, if one is asked for and it is configured -/
def serverAttrs (conf : Option (Option (List CfgItem))) (t4 t6 n4 n6 : Nat) : Option (List CfgAttr) :=
  if n4 = 0 ∧ n6 = 0 then some []
  else
    match conf with
    | none => some []
    | some list => list.map fun items => cfgAddAddrlist t4 t6 items n4 n6

/-- a prefix length beyond the limits is cut -/
def clampPrefix (max : Nat) (prefixlen : Int) : Nat := min max prefixlen.toNat

/-- a destination of a selector -/
def subnetAttrs (param : CfgParam) (legacy : Bool) (item : CfgItem) : List CfgAttr :=
  match item.addr with
  | none => []
  | some (.v4 a) =>
    if 0 < param.ip4Subnet then
      let mask := enc32 (netmask (clampPrefix 32 item.prefixlen))
      ⟨cfgInternalIp4Subnet, a.val ++ mask⟩ ::
        (if legacy then [⟨cfgInternalIp4Netmask, mask⟩] else [])
    else []
  | some (.v6 a) =>
    if 0 < param.ip6Subnet then
      [⟨cfgInternalIp6Subnet, a.val ++ [UInt8.ofNat (clampPrefix 128 item.prefixlen)]⟩]
    else []

/-- the masks of the IPv4 destinations -/
def v4Masks (items : List CfgItem) : List Bytes :=
  items.filterMap fun item =>
    match item.addr with
    | some (.v4 _) => some (enc32 (netmask (clampPrefix 32 item.prefixlen)))
    | _ => none

/-- the one INTERNAL_IP4_NETMASK, for the one IPv4 subnet of a client that gets an IPv4 address -/
def netmaskAttrs (param : CfgParam) (assigned legacy : Bool) (items : List CfgItem) : List CfgAttr :=
  if !legacy && assigned && 0 < param.ip4Subnet then
    match v4Masks items with
    | [mask] => [⟨cfgInternalIp4Netmask, mask⟩]
    | _ => []
  else []

def hexDigit (c : UInt8) : Option UInt8 :=
  if 48 ≤ c ∧ c ≤ 57 then some (c - 48)
  else if 97 ≤ c ∧ c ≤ 102 then some (c - 87)
  else if 65 ≤ c ∧ c ≤ 70 then some (c - 55)
  else none

def hexPairs : Bytes → Option Bytes
  | [] => some []
  | [_] => none
  | hi :: lo :: rest =>
    match hexDigit hi, hexDigit lo, hexPairs rest with
    | some h, some l, some out => some ((h * 16 + l) :: out)
    | _, _, _ => none

/-- `dnssec_ta_decode` -/
def dnssecTaDecode (hex : Bytes) : Option Bytes := if hex.length < 10 then none else hexPairs hex

/-- INTERNAL_DNS_DOMAIN, and the anchor behind it -/
def splitAttrs (conf : CfgConf) (param : CfgParam) (emittedDns : Bool) : List CfgAttr :=
  match conf.dnsDomain with
  | none => []
  | some dom =>
    if emittedDns && 0 < param.dnsDomain then
      ⟨cfgInternalDnsDomain, dom⟩ ::
        (if 0 < param.dnssecTa then
          match conf.dnssecTa.bind dnssecTaDecode with
          | none => []
          | some ta => [⟨cfgInternalDnssecTa, ta⟩]
        else [])
    else []

/-- MIP6_HOME_PREFIX: the first address of the list -/
def mip6Attrs (conf : CfgConf) (param : CfgParam) : Option (List CfgAttr) :=
  if param.mip6HomePrefix = 0 then some []
  else
    match conf.mip6HomePrefix with
    | none => some []
    | some (some (⟨some (.v6 a), prefixlen⟩ :: _)) =>
      some [⟨cfgMip6HomePrefix, enc32 0 ++ a.val ++ [UInt8.ofNat (prefixlen % 256).toNat]⟩]
    | some _ => none

/-- SUPPORTED_ATTRIBUTES -/
def supportedAttrs (conf : CfgConf) (param : CfgParam) : List CfgAttr :=
  if 0 < param.supportedAttributes then
    [⟨cfgSupportedAttributes, ([1, 2, 3, 5, 6, 7, 8, 10, 12, 13, 14, 15] ++
      (if conf.nbns.isSome then [4] else [])).flatMap enc16⟩]
  else []

/-- the leases, and APPLICATION_VERSION -/
def leaseAttrs (conf : CfgConf) (param : CfgParam) (leases : List CfgLease) : List CfgAttr :=
  leases.map leaseAttr ++
    (if 0 < param.applicationVersion then
      [⟨cfgApplicationVersion, conf.applicationVersion.getD []⟩] else [])

/-- the subnets of all selectors -/
def allSubnetAttrs (conf : CfgConf) (param : CfgParam) (leases : List CfgLease) (items : List CfgItem) :
    List CfgAttr :=
  let assigned := leases.any fun lease => lease.addr.isV4
  let legacy := assigned && conf.legacySplitNetmask
  items.flatMap (subnetAttrs param legacy) ++ netmaskAttrs param assigned legacy items

/-- `ikev2_create_config_reply`; `none`: -1 -/
def createConfigReply (conf : CfgConf) (child : Option CfgReplyChild) (param : CfgParam) :
    Option (List CfgAttr) :=
  let leases := (child.map CfgReplyChild.leaseList).getD []
  let items := ((child.map CfgReplyChild.selectors).getD []).flatten
  match serverAttrs conf.dns cfgInternalIp4Dns cfgInternalIp6Dns param.ip4Dns param.ip6Dns,
      serverAttrs conf.nbns cfgInternalIp4Nbns 0 param.ip4Nbns 0,
      serverAttrs conf.dhcp cfgInternalIp4Dhcp cfgInternalIp6Dhcp param.ip4Dhcp param.ip6Dhcp,
      mip6Attrs conf param with
  | some dns, some nbns, some dhcp, some mip6 =>
    some (leaseAttrs conf param leases ++ dns ++ nbns ++ dhcp ++ allSubnetAttrs conf param leases items
      ++ splitAttrs conf param (!dns.isEmpty) ++ mip6 ++ supportedAttrs conf param)
  | _, _, _, _ => none

/-- the body of the payload: `cfg_type` and the attributes -/
def cfgReplyBody (as : List CfgAttr) : Bytes := [2, 0, 0, 0] ++ as.flatMap CfgAttr.encode

/-- the payload, as `ikev2_payloads_to_blob` writes it; it refuses one that is too long -/
def cfgPayload (next : UInt8) (body : Bytes) : Option Bytes :=
  if 0xffff - 4 < body.length then none
  else some ([next, 0] ++ enc16 (4 + body.length) ++ body)

/-- `ikev2_process_config_reply` -/
def processConfigReply (allow : Option Bytes) (child : CfgChild) (payload : Bytes) : CfgChild × Bool :=
  if byteAt payload 4 = 2 then processCfgReplyAttribs allow child (slice payload 8 (be16 payload 2 - 8))
  else (child, true)

/-! ## the lists of the Child SA -/

inductive CfgField where
  | ip4Addr
  | ip6Addr
  | loan
  | ip4Dns
  | ip6Dns
  | ip4Nbns
  | ip4Dhcp
  | ip6Dhcp
  | ip4Subnet
  | ip6Subnet
  deriving DecidableEq, Repr

def CfgChild.list (child : CfgChild) : CfgField → List (Bytes × Nat)
  | .ip4Addr => child.internalIp4Addr
  | .ip6Addr => child.internalIp6Addr
  | .loan => child.loanList
  | .ip4Dns => child.internalIp4Dns
  | .ip6Dns => child.internalIp6Dns
  | .ip4Nbns => child.internalIp4Nbns
  | .ip4Dhcp => child.internalIp4Dhcp
  | .ip6Dhcp => child.internalIp6Dhcp
  | .ip4Subnet => child.internalIp4Subnet
  | .ip6Subnet => child.internalIp6Subnet

/-- what an attribute adds to a list -/
def kept (f : CfgField) (a : CfgAttr) : Option (Bytes × Nat) :=
  match f with
  | .ip4Addr => if a.type = cfgInternalIp4Address then some (slice a.value 0 4, 0) else none
  | .ip6Addr => if a.type = cfgInternalIp6Address then some (slice a.value 0 16, 0) else none
  | .loan =>
    if a.type = cfgInternalIp4Address then some (slice a.value 0 4, 0)
    else if a.type = cfgInternalIp6Address then some (slice a.value 0 16, 0)
    else none
  | .ip4Dns => if a.type = cfgInternalIp4Dns then some (slice a.value 0 4, 0) else none
  | .ip6Dns => if a.type = cfgInternalIp6Dns then some (slice a.value 0 16, 0) else none
  | .ip4Nbns => if a.type = cfgInternalIp4Nbns then some (slice a.value 0 4, 0) else none
  | .ip4Dhcp => if a.type = cfgInternalIp4Dhcp then some (slice a.value 0 4, 0) else none
  | .ip6Dhcp => if a.type = cfgInternalIp6Dhcp then some (slice a.value 0 16, 0) else none
  | .ip4Subnet =>
    if a.type = cfgInternalIp4Subnet ∧ be32 a.value 4 = netmask (maskLength (be32 a.value 4) 32 0) then
      some (slice a.value 0 4, maskLength (be32 a.value 4) 32 0)
    else none
  | .ip6Subnet =>
    if a.type = cfgInternalIp6Subnet ∧ (byteAt a.value 16).toNat ≤ 128 then
      some (slice a.value 0 16, (byteAt a.value 16).toNat)
    else none

theorem cfgIp4Subnet_list (w : CfgWalk) (value : Bytes) (f : CfgField) :
    (cfgIp4Subnet w value).child.list f =
      (kept f ⟨cfgInternalIp4Subnet, value⟩).toList ++ w.child.list f := by
  unfold cfgIp4Subnet
  dsimp only
  by_cases h : be32 value 4 = netmask (maskLength (be32 value 4) 32 0)
  · rw [if_neg (by simpa using h)]
    cases f with
    | ip4Subnet =>
      unfold kept
      dsimp only
      rw [if_pos ⟨rfl, h⟩]
      rfl
    | _ => rfl
  · rw [if_pos h]
    cases f with
    | ip4Subnet =>
      unfold kept
      dsimp only
      rw [if_neg (fun hc => h hc.2)]
      rfl
    | _ => rfl

theorem cfgIp6Subnet_list (w : CfgWalk) (value : Bytes) (f : CfgField) :
    (cfgIp6Subnet w value).child.list f =
      (kept f ⟨cfgInternalIp6Subnet, value⟩).toList ++ w.child.list f := by
  unfold cfgIp6Subnet
  dsimp only
  by_cases h : 128 < (byteAt value 16).toNat
  · rw [if_pos h]
    cases f with
    | ip6Subnet =>
      unfold kept
      dsimp only
      rw [if_neg (fun hc => Nat.not_lt.mpr hc.2 h)]
      rfl
    | _ => rfl
  · rw [if_neg h]
    cases f with
    | ip6Subnet =>
      unfold kept
      dsimp only
      rw [if_pos ⟨rfl, Nat.not_lt.mp h⟩]
      rfl
    | _ => rfl

/-- the types that a list takes -/
def CfgField.types : CfgField → List Nat
  | .ip4Addr => [cfgInternalIp4Address]
  | .ip6Addr => [cfgInternalIp6Address]
  | .loan => [cfgInternalIp4Address, cfgInternalIp6Address]
  | .ip4Dns => [cfgInternalIp4Dns]
  | .ip6Dns => [cfgInternalIp6Dns]
  | .ip4Nbns => [cfgInternalIp4Nbns]
  | .ip4Dhcp => [cfgInternalIp4Dhcp]
  | .ip6Dhcp => [cfgInternalIp6Dhcp]
  | .ip4Subnet => [cfgInternalIp4Subnet]
  | .ip6Subnet => [cfgInternalIp6Subnet]

theorem kept_other (f : CfgField) (a : CfgAttr) (h : a.type ∉ f.types) : kept f a = none := by
  cases f with
  | loan =>
    unfold CfgField.types at h
    simp only [List.mem_cons, not_or] at h
    exact (if_neg h.1).trans (if_neg h.2.1)
  | ip4Subnet => exact if_neg fun hc => h (List.mem_singleton.mpr hc.1)
  | ip6Subnet => exact if_neg fun hc => h (List.mem_singleton.mpr hc.1)
  | _ => exact if_neg fun hc => h (List.mem_singleton.mpr hc)

/-- the types of the attributes that are put in a list -/
def listedTypes : List Nat :=
  [cfgInternalIp4Address, cfgInternalIp6Address, cfgInternalIp4Dns, cfgInternalIp4Nbns,
    cfgInternalIp4Dhcp, cfgInternalIp6Dns, cfgInternalIp6Dhcp, cfgInternalIp4Subnet, cfgInternalIp6Subnet]

theorem CfgField.types_listed (f : CfgField) : ∀ t ∈ f.types, t ∈ listedTypes := by
  cases f <;> decide

theorem kept_unlisted (f : CfgField) (a : CfgAttr) (h : a.type ∉ listedTypes) : kept f a = none :=
  kept_other f a fun hc => h (f.types_listed a.type hc)

theorem cfgOther_unlisted (w : CfgWalk) (a : CfgAttr) (f : CfgField) (h : a.type ∉ listedTypes) :
    (cfgOther w a).child.list f = w.child.list f := by
  unfold listedTypes at h
  simp only [List.mem_cons, not_or] at h
  obtain ⟨h4a, h6a, h4n, h4b, h4h, h6n, h6h, h4s, h6s, -⟩ := h
  unfold cfgOther
  dsimp only
  rw [if_neg h4a, if_neg h6a, if_neg h4n, if_neg h4b]
  by_cases hexpiry : a.type = cfgInternalAddressExpiry
  · rw [if_pos hexpiry]
    cases f <;> rfl
  · rw [if_neg hexpiry, if_neg h4h]
    by_cases hversion : a.type = cfgApplicationVersion
    · rw [if_pos hversion]
      cases f <;> rfl
    · rw [if_neg hversion, if_neg h6n, if_neg h6h, if_neg h4s, if_neg h6s]

theorem cfgOther_list (w : CfgWalk) (a : CfgAttr) (f : CfgField) :
    (cfgOther w a).child.list f = (kept f a).toList ++ w.child.list f := by
  by_cases hlist : a.type ∈ listedTypes
  · obtain ⟨type, value⟩ := a
    unfold listedTypes at hlist
    simp only [List.mem_cons, List.not_mem_nil, or_false] at hlist
    rcases hlist with rfl | rfl | rfl | rfl | rfl | rfl | rfl | rfl | rfl
    iterate 7 cases f <;> rfl
    · exact cfgIp4Subnet_list w value f
    · exact cfgIp6Subnet_list w value f
  · rw [kept_unlisted f a hlist]
    exact cfgOther_unlisted w a f hlist

theorem cfgDnsDomain_list (allow : Option Bytes) (w : CfgWalk) (value : Bytes) (f : CfgField) :
    (cfgDnsDomain allow w value).child.list f = w.child.list f := by
  unfold cfgDnsDomain
  cases acceptDomain allow value with
  | none => rfl
  | some dom => cases f <;> rfl

theorem cfgDnssecTa_list (w : CfgWalk) (value : Bytes) (f : CfgField) :
    (cfgDnssecTa w value).child.list f = w.child.list f := by
  unfold cfgDnssecTa
  split_ifs with hprev hshort
  · rfl
  · rfl
  · cases f <;> rfl

/-- an attribute of the right size is put in front of its list -/
theorem cfgReplyAttr_kept (allow : Option Bytes) (w : CfgWalk) (a : CfgAttr) (h : a.lengthOk = true) :
    ∃ w', cfgReplyAttr allow w a = some w' ∧
      ∀ f, w'.child.list f = (kept f a).toList ++ w.child.list f := by
  unfold cfgReplyAttr
  rw [h]
  simp only [Bool.not_true, Bool.false_eq_true, if_false]
  by_cases hdom : a.type = cfgInternalDnsDomain
  · have hunlisted : a.type ∉ listedTypes := by rw [hdom]; decide
    refine ⟨_, if_pos hdom, fun f => ?_⟩
    rw [kept_unlisted f a hunlisted]
    exact cfgDnsDomain_list allow w a.value f
  · rw [if_neg hdom]
    by_cases hta : a.type = cfgInternalDnssecTa
    · have hunlisted : a.type ∉ listedTypes := by rw [hta]; decide
      refine ⟨_, if_pos hta, fun f => ?_⟩
      rw [kept_unlisted f a hunlisted]
      exact cfgDnssecTa_list w a.value f
    · refine ⟨_, if_neg hta, fun f => ?_⟩
      exact cfgOther_list w a f

/-- a walk over attributes of the right sizes reaches the end, and each list has what they add -/
theorem cfgReplyLoop_kept (allow : Option Bytes) (as : List CfgAttr) (hlen : ∀ a ∈ as, a.lengthOk = true)
    (w : CfgWalk) :
    (cfgReplyLoop allow w as).2 = true ∧
      ∀ f, (cfgReplyLoop allow w as).1.child.list f = (as.filterMap (kept f)).reverse ++ w.child.list f := by
  induction as generalizing w with
  | nil => exact ⟨rfl, fun f => rfl⟩
  | cons a as ih =>
    obtain ⟨w', hstep, hadd⟩ := cfgReplyAttr_kept allow w a (hlen a List.mem_cons_self)
    have hloop : cfgReplyLoop allow w (a :: as) = cfgReplyLoop allow w' as := by
      rw [cfgReplyLoop, hstep]
    obtain ⟨hend, hlists⟩ := ih (fun x hx => hlen x (List.mem_cons_of_mem a hx)) w'
    rw [hloop]
    refine ⟨hend, fun f => ?_⟩
    rw [hlists f, hadd f, List.filterMap_cons]
    cases kept f a with
    | none => rfl
    | some x => simp

/-- the roll-back of split DNS is not about the lists -/
theorem processCfgReplyAttribs_kept (allow : Option Bytes) (child : CfgChild) (as : List CfgAttr)
    (hfits : ∀ a ∈ as, a.Fits) (hlen : ∀ a ∈ as, a.lengthOk = true) :
    (processCfgReplyAttribs allow child (as.flatMap CfgAttr.encode)).2 = true ∧
      ∀ f, (processCfgReplyAttribs allow child (as.flatMap CfgAttr.encode)).1.list f =
        (as.filterMap (kept f)).reverse ++ child.list f := by
  have hcount : as.length ≤ (as.flatMap CfgAttr.encode).length := by
    clear hfits hlen
    induction as with
    | nil => exact Nat.le_refl 0
    | cons a as ih =>
      rw [List.flatMap_cons, List.length_append, a.encode_length, List.length_cons]
      omega
  have hread := cfgAttrs_encode as hfits _ hcount
  obtain ⟨hend, hlists⟩ := cfgReplyLoop_kept allow as hlen ⟨child, 0, false, false⟩
  unfold processCfgReplyAttribs
  dsimp only
  rw [hread, hend]
  simp only [Bool.not_true, Bool.false_eq_true, if_false]
  split_ifs with hback
  · refine ⟨rfl, fun f => ?_⟩
    rw [← hlists f]
    cases f <;> rfl
  · exact ⟨rfl, hlists⟩

/-! ## what the responder has for each list -/

def CfgItem.v4 (item : CfgItem) : Option Bytes :=
  match item.addr with
  | some (.v4 a) => some a.val
  | _ => none

def CfgItem.v6 (item : CfgItem) : Option Bytes :=
  match item.addr with
  | some (.v6 a) => some a.val
  | _ => none

/-- the first `n` servers of a family that are configured -/
def servers (conf : Option (Option (List CfgItem))) (pick : CfgItem → Option Bytes) (n : Nat) :
    List (Bytes × Nat) :=
  match conf with
  | some (some items) => ((items.filterMap pick).take n).map fun a => (a, 0)
  | _ => []

/-- the destinations of a family, with their prefix lengths -/
def subnets (items : List CfgItem) (pick : CfgItem → Option Bytes) : List (Bytes × Nat) :=
  items.filterMap fun item => (pick item).map fun a => (a, item.prefixlen.toNat)

def CfgLease.item (lease : CfgLease) : CfgItem := ⟨some lease.addr, lease.prefixlen⟩

def replied (conf : CfgConf) (leases : List CfgLease) (items : List CfgItem) (param : CfgParam) :
    CfgField → List (Bytes × Nat)
  | .ip4Addr => leases.filterMap fun lease => lease.item.v4.map fun a => (a, 0)
  | .ip6Addr => leases.filterMap fun lease => lease.item.v6.map fun a => (a, 0)
  | .loan => leases.map fun lease => (lease.addr.octets, 0)
  | .ip4Dns => servers conf.dns CfgItem.v4 param.ip4Dns
  | .ip6Dns => servers conf.dns CfgItem.v6 param.ip6Dns
  | .ip4Nbns => servers conf.nbns CfgItem.v4 param.ip4Nbns
  | .ip4Dhcp => servers conf.dhcp CfgItem.v4 param.ip4Dhcp
  | .ip6Dhcp => servers conf.dhcp CfgItem.v6 param.ip6Dhcp
  | .ip4Subnet => if 0 < param.ip4Subnet then subnets items CfgItem.v4 else []
  | .ip6Subnet => if 0 < param.ip6Subnet then subnets items CfgItem.v6 else []

/-- the prefix lengths that the address families have -/
def CfgItem.PrefixOk (item : CfgItem) : Prop :=
  match item.addr with
  | some (.v4 _) => 0 ≤ item.prefixlen ∧ item.prefixlen ≤ 32
  | some (.v6 _) => 0 ≤ item.prefixlen ∧ item.prefixlen ≤ 128
  | none => True

/-! ## the parts of the reply -/

/-- an attribute of one of the types, of the size that the other side expects -/
def CfgAttr.Made (types : List Nat) (a : CfgAttr) : Prop := a.type ∈ types ∧ a.lengthOk = true

theorem made_of_length {types : List Nat} {t n : Nat} {value : Bytes} (htype : t ∈ types)
    (hlen : value.length = n) (hsize : cfgAttrLen t = n) : CfgAttr.Made types ⟨t, value⟩ := by
  refine ⟨htype, ?_⟩
  unfold CfgAttr.lengthOk
  rw [hlen, hsize, beq_self_eq_true, Bool.or_true]

theorem made_of_any {types : List Nat} {t : Nat} {value : Bytes} (htype : t ∈ types)
    (hsize : cfgAttrLen t = 0) : CfgAttr.Made types ⟨t, value⟩ := by
  refine ⟨htype, ?_⟩
  unfold CfgAttr.lengthOk
  rw [hsize, beq_self_eq_true, Bool.true_or]

theorem slice_whole (a : Bytes) (n : Nat) (h : a.length = n) : slice a 0 n = a := by
  unfold slice
  rw [List.drop_zero, ← h, List.take_length]

/-- of the attributes of a list of servers, those of IPv4 -/
theorem cfgAddAddrlist_v4 (g : CfgAttr → Option (Bytes × Nat)) (t4 t6 : Nat)
    (h4 : ∀ a : Bytes, a.length = 4 → g ⟨t4, a⟩ = some (a, 0)) (h6 : ∀ a, g ⟨t6, a⟩ = none)
    (items : List CfgItem) (n4 n6 : Nat) :
    (cfgAddAddrlist t4 t6 items n4 n6).filterMap g =
      ((items.filterMap CfgItem.v4).take n4).map fun a => (a, 0) := by
  induction items generalizing n4 n6 with
  | nil => simp [cfgAddAddrlist]
  | cons item items ih =>
    obtain ⟨addr, prefixlen⟩ := item
    rcases addr with _ | a | a
    · exact ih n4 n6
    · cases n4 with
      | zero => exact ih 0 n6
      | succ n =>
        show List.filterMap g (⟨t4, a.val⟩ :: cfgAddAddrlist t4 t6 items n n6) = _
        rw [List.filterMap_cons_some (h4 a.val a.property), ih n n6]
        rfl
    · cases n6 with
      | zero => exact ih n4 0
      | succ n =>
        show List.filterMap g (⟨t6, a.val⟩ :: cfgAddAddrlist t4 t6 items n4 n) = _
        rw [List.filterMap_cons_none (h6 a.val), ih n4 n]
        rfl

/-- and those of IPv6 -/
theorem cfgAddAddrlist_v6 (g : CfgAttr → Option (Bytes × Nat)) (t4 t6 : Nat)
    (h4 : ∀ a, g ⟨t4, a⟩ = none) (h6 : ∀ a : Bytes, a.length = 16 → g ⟨t6, a⟩ = some (a, 0))
    (items : List CfgItem) (n4 n6 : Nat) :
    (cfgAddAddrlist t4 t6 items n4 n6).filterMap g =
      ((items.filterMap CfgItem.v6).take n6).map fun a => (a, 0) := by
  induction items generalizing n4 n6 with
  | nil => simp [cfgAddAddrlist]
  | cons item items ih =>
    obtain ⟨addr, prefixlen⟩ := item
    rcases addr with _ | a | a
    · exact ih n4 n6
    · cases n4 with
      | zero => exact ih 0 n6
      | succ n =>
        show List.filterMap g (⟨t4, a.val⟩ :: cfgAddAddrlist t4 t6 items n n6) = _
        rw [List.filterMap_cons_none (h4 a.val), ih n n6]
        rfl
    · cases n6 with
      | zero => exact ih n4 0
      | succ n =>
        show List.filterMap g (⟨t6, a.val⟩ :: cfgAddAddrlist t4 t6 items n4 n) = _
        rw [List.filterMap_cons_some (h6 a.val a.property), ih n4 n]
        rfl

/-- each attribute of a list of servers has an address of its family -/
theorem cfgAddAddrlist_made {t4 t6 : Nat} {types : List Nat} {n6 : Nat}
    (h4 : ∀ a : Bytes, a.length = 4 → CfgAttr.Made types ⟨t4, a⟩)
    (h6 : 0 < n6 → ∀ a : Bytes, a.length = 16 → CfgAttr.Made types ⟨t6, a⟩)
    (items : List CfgItem) (n4 : Nat) :
    ∀ x ∈ cfgAddAddrlist t4 t6 items n4 n6, x.Made types := by
  induction items generalizing n4 n6 with
  | nil =>
    intro x hx
    cases hx
  | cons item items ih =>
    obtain ⟨addr, prefixlen⟩ := item
    rcases addr with _ | a | a
    · exact ih h6 n4
    · cases n4 with
      | zero => exact ih h6 0
      | succ n => exact List.forall_mem_cons.mpr ⟨h4 a.val a.property, ih h6 n⟩
    · cases n6 with
      | zero => exact ih h6 n4
      | succ n =>
        have h6' := h6 (Nat.succ_pos n)
        exact List.forall_mem_cons.mpr ⟨h6' a.val a.property, ih (fun _ => h6') n4⟩

section
variable {conf : Option (Option (List CfgItem))} {t4 t6 n4 n6 : Nat} {as : List CfgAttr}

/-- the servers are those of the expanded list, or there are none -/
theorem serverAttrs_cases (h : serverAttrs conf t4 t6 n4 n6 = some as) :
    (as = [] ∧ ((n4 = 0 ∧ n6 = 0) ∨ conf = none)) ∨
      ∃ items, conf = some (some items) ∧ as = cfgAddAddrlist t4 t6 items n4 n6 := by
  unfold serverAttrs at h
  split_ifs at h with hn
  · exact .inl ⟨(Option.some.inj h).symm, .inl hn⟩
  · rcases conf with _ | _ | items
    · exact .inl ⟨(Option.some.inj h).symm, .inr rfl⟩
    · cases h
    · exact .inr ⟨items, rfl, (Option.some.inj h).symm⟩

theorem serverAttrs_v4 (h : serverAttrs conf t4 t6 n4 n6 = some as) (g : CfgAttr → Option (Bytes × Nat))
    (h4 : ∀ a : Bytes, a.length = 4 → g ⟨t4, a⟩ = some (a, 0)) (h6 : ∀ a, g ⟨t6, a⟩ = none) :
    as.filterMap g = servers conf CfgItem.v4 n4 := by
  rcases serverAttrs_cases h with ⟨rfl, ⟨rfl, -⟩ | rfl⟩ | ⟨items, rfl, rfl⟩
  · rcases conf with _ | _ | items <;> rfl
  · rfl
  · exact cfgAddAddrlist_v4 g t4 t6 h4 h6 items n4 n6

theorem serverAttrs_v6 (h : serverAttrs conf t4 t6 n4 n6 = some as) (g : CfgAttr → Option (Bytes × Nat))
    (h4 : ∀ a, g ⟨t4, a⟩ = none) (h6 : ∀ a : Bytes, a.length = 16 → g ⟨t6, a⟩ = some (a, 0)) :
    as.filterMap g = servers conf CfgItem.v6 n6 := by
  rcases serverAttrs_cases h with ⟨rfl, ⟨-, rfl⟩ | rfl⟩ | ⟨items, rfl, rfl⟩
  · rcases conf with _ | _ | items <;> rfl
  · rfl
  · exact cfgAddAddrlist_v6 g t4 t6 h4 h6 items n4 n6

theorem serverAttrs_made {types : List Nat} (h : serverAttrs conf t4 t6 n4 n6 = some as)
    (h4 : ∀ a : Bytes, a.length = 4 → CfgAttr.Made types ⟨t4, a⟩)
    (h6 : 0 < n6 → ∀ a : Bytes, a.length = 16 → CfgAttr.Made types ⟨t6, a⟩) :
    ∀ x ∈ as, x.Made types := by
  rcases serverAttrs_cases h with ⟨rfl, -⟩ | ⟨items, -, rfl⟩
  · intro x hx
    cases hx
  · exact cfgAddAddrlist_made h4 h6 items n4

end

/-- attributes of other types add nothing -/
theorem filterMap_kept_nil {f : CfgField} {as : List CfgAttr} {types : List Nat}
    (hmade : ∀ a ∈ as, a.Made types) (hother : ∀ t ∈ types, t ∉ f.types) :
    as.filterMap (kept f) = [] := by
  rw [List.filterMap_eq_nil_iff]
  intro a ha
  exact kept_other f a (hother a.type (hmade a ha).1)

def leaseTypes : List Nat := [cfgInternalIp4Address, cfgInternalIp6Address, cfgApplicationVersion]

def subnetTypes : List Nat := [cfgInternalIp4Subnet, cfgInternalIp4Netmask, cfgInternalIp6Subnet]

def restTypes : List Nat :=
  [cfgInternalDnsDomain, cfgInternalDnssecTa, cfgMip6HomePrefix, cfgSupportedAttributes]

theorem leaseAttrs_made (conf : CfgConf) (param : CfgParam) (leases : List CfgLease) :
    ∀ a ∈ leaseAttrs conf param leases, a.Made leaseTypes := by
  intro a ha
  unfold leaseAttrs at ha
  rcases List.mem_append.mp ha with ha | ha
  · obtain ⟨lease, -, rfl⟩ := List.mem_map.mp ha
    obtain ⟨addr, prefixlen⟩ := lease
    cases addr with
    | v4 a => exact made_of_length (by decide) a.property rfl
    | v6 a =>
      have hlen : (a.val ++ [UInt8.ofNat prefixlen]).length = 17 := by
        rw [List.length_append, a.property]
        rfl
      exact made_of_length (by decide) hlen rfl
  · split_ifs at ha
    · rw [List.mem_singleton.mp ha]
      exact made_of_any (by decide) rfl
    · cases ha

theorem subnetAttrs_made (param : CfgParam) (legacy : Bool) (item : CfgItem) :
    ∀ a ∈ subnetAttrs param legacy item, a.Made subnetTypes := by
  intro a ha
  obtain ⟨addr, prefixlen⟩ := item
  rcases addr with _ | x | x
  · cases ha
  · have hlen : (x.val ++ enc32 (netmask (clampPrefix 32 prefixlen))).length = 8 := by
      rw [List.length_append, x.property]
      rfl
    unfold subnetAttrs at ha
    dsimp only at ha
    split_ifs at ha
    · simp only [List.mem_cons, List.not_mem_nil, or_false] at ha
      rcases ha with rfl | rfl
      · exact made_of_length (by decide) hlen rfl
      · exact made_of_length (by decide) (enc32_length _) rfl
    · rw [List.mem_singleton.mp ha]
      exact made_of_length (by decide) hlen rfl
    · cases ha
  · have hlen : (x.val ++ [UInt8.ofNat (clampPrefix 128 prefixlen)]).length = 17 := by
      rw [List.length_append, x.property]
      rfl
    unfold subnetAttrs at ha
    dsimp only at ha
    split_ifs at ha
    · rw [List.mem_singleton.mp ha]
      exact made_of_length (by decide) hlen rfl
    · cases ha

theorem v4Masks_length (items : List CfgItem) : ∀ mask ∈ v4Masks items, mask.length = 4 := by
  intro mask h
  obtain ⟨item, -, hmask⟩ := List.mem_filterMap.mp h
  split at hmask
  · rw [← Option.some.inj hmask]
    exact enc32_length _
  · cases hmask

theorem netmaskAttrs_made (param : CfgParam) (assigned legacy : Bool) (items : List CfgItem) :
    ∀ a ∈ netmaskAttrs param assigned legacy items, a.Made subnetTypes := by
  intro a ha
  unfold netmaskAttrs at ha
  split_ifs at ha
  · split at ha
    · rename_i mask hmasks
      have hlen := v4Masks_length items mask (by rw [hmasks]; exact List.mem_cons_self)
      rw [List.mem_singleton.mp ha]
      exact made_of_length (by decide) hlen rfl
    · cases ha
  · cases ha

theorem allSubnetAttrs_made (conf : CfgConf) (param : CfgParam) (leases : List CfgLease)
    (items : List CfgItem) : ∀ a ∈ allSubnetAttrs conf param leases items, a.Made subnetTypes := by
  intro a ha
  unfold allSubnetAttrs at ha
  rcases List.mem_append.mp ha with ha | ha
  · obtain ⟨item, -, hitem⟩ := List.mem_flatMap.mp ha
    exact subnetAttrs_made param _ item a hitem
  · exact netmaskAttrs_made param _ _ items a ha

theorem splitAttrs_made (conf : CfgConf) (param : CfgParam) (emittedDns : Bool) :
    ∀ a ∈ splitAttrs conf param emittedDns, a.Made restTypes := by
  intro a ha
  unfold splitAttrs at ha
  split at ha
  · cases ha
  · split_ifs at ha
    · rcases List.mem_cons.mp ha with rfl | ha
      · exact made_of_any (by decide) rfl
      · split at ha
        · cases ha
        · rw [List.mem_singleton.mp ha]
          exact made_of_any (by decide) rfl
    · rw [List.mem_singleton.mp ha]
      exact made_of_any (by decide) rfl
    · cases ha

theorem mip6Attrs_made {conf : CfgConf} {param : CfgParam} {as : List CfgAttr}
    (h : mip6Attrs conf param = some as) : ∀ a ∈ as, a.Made restTypes := by
  intro a ha
  unfold mip6Attrs at h
  split_ifs at h
  · rw [← Option.some.inj h] at ha
    cases ha
  · split at h
    · rw [← Option.some.inj h] at ha
      cases ha
    · rename_i x prefixlen _ _
      have hlen : (enc32 0 ++ x.val ++ [UInt8.ofNat (prefixlen % 256).toNat]).length = 21 := by
        rw [List.length_append, List.length_append, x.property]
        rfl
      rw [← Option.some.inj h] at ha
      rw [List.mem_singleton.mp ha]
      exact made_of_length (by decide) hlen rfl
    · cases h

theorem supportedAttrs_made (conf : CfgConf) (param : CfgParam) :
    ∀ a ∈ supportedAttrs conf param, a.Made restTypes := by
  intro a ha
  unfold supportedAttrs at ha
  split_ifs at ha
  · rw [List.mem_singleton.mp ha]
    exact made_of_any (by decide) rfl
  · rw [List.mem_singleton.mp ha]
    exact made_of_any (by decide) rfl
  · cases ha

/-! ## what the other side makes of the parts -/

theorem netmask_lt (p : Nat) : netmask p < 2 ^ 32 := by
  unfold netmask
  split_ifs with h
  · decide
  · exact Nat.mod_lt _ (by decide)

/-- the bits of a mask are counted back -/
theorem maskLength_netmask (p : Nat) (h : p ≤ 32) : maskLength (netmask p) 32 0 = p := by
  have hall : ∀ q : Fin 33, maskLength (netmask q.val) 32 0 = q.val := by decide
  exact hall ⟨p, Nat.lt_succ_of_le h⟩

theorem kept_ip4Subnet (a : Octets 4) (p : Nat) (h : p ≤ 32) :
    kept .ip4Subnet ⟨cfgInternalIp4Subnet, a.val ++ enc32 (netmask p)⟩ = some (a.val, p) := by
  have hmask : be32 (a.val ++ enc32 (netmask p)) 4 = netmask p := by
    have hskip := be32_append_right a.val (enc32 (netmask p)) 0
    rw [a.property] at hskip
    have hread := be32_enc32 (netmask_lt p) []
    rw [List.append_nil] at hread
    exact hskip.trans hread
  unfold kept
  dsimp only
  rw [hmask, maskLength_netmask p h, if_pos ⟨rfl, rfl⟩, slice_zero_append a.val _ 4 a.property]

theorem kept_ip6Subnet (a : Octets 16) (p : Nat) (h : p ≤ 128) :
    kept .ip6Subnet ⟨cfgInternalIp6Subnet, a.val ++ [UInt8.ofNat p]⟩ = some (a.val, p) := by
  have hplen : (byteAt (a.val ++ [UInt8.ofNat p]) 16).toNat = p := by
    have hskip := byteAt_append_right a.val [UInt8.ofNat p] 0
    rw [a.property] at hskip
    rw [hskip]
    exact UInt8.toNat_ofNat_of_lt' (Nat.lt_of_le_of_lt h (by decide))
  unfold kept
  dsimp only
  rw [hplen, if_pos ⟨rfl, h⟩, slice_zero_append a.val _ 16 a.property]

theorem subnetAttrs_kept4 (param : CfgParam) (legacy : Bool) (item : CfgItem) (h : item.PrefixOk) :
    (subnetAttrs param legacy item).filterMap (kept .ip4Subnet) =
      if 0 < param.ip4Subnet then (item.v4.map fun a => (a, item.prefixlen.toNat)).toList else [] := by
  obtain ⟨addr, prefixlen⟩ := item
  rcases addr with _ | a | a
  · split_ifs <;> rfl
  · have hle : prefixlen ≤ 32 := h.2
    have hclamp : clampPrefix 32 prefixlen = prefixlen.toNat := by
      unfold clampPrefix
      omega
    have hkept := kept_ip4Subnet a prefixlen.toNat (by omega)
    unfold subnetAttrs
    dsimp only
    rw [hclamp]
    by_cases hask : 0 < param.ip4Subnet
    · rw [if_pos hask, if_pos hask, List.filterMap_cons_some hkept]
      cases legacy <;> rfl
    · rw [if_neg hask, if_neg hask]
      rfl
  · have hnone : (subnetAttrs param legacy ⟨some (.v6 a), prefixlen⟩).filterMap (kept .ip4Subnet) = [] := by
      unfold subnetAttrs
      dsimp only
      split_ifs <;> rfl
    rw [hnone]
    split_ifs <;> rfl

theorem subnetAttrs_kept6 (param : CfgParam) (legacy : Bool) (item : CfgItem) (h : item.PrefixOk) :
    (subnetAttrs param legacy item).filterMap (kept .ip6Subnet) =
      if 0 < param.ip6Subnet then (item.v6.map fun a => (a, item.prefixlen.toNat)).toList else [] := by
  obtain ⟨addr, prefixlen⟩ := item
  rcases addr with _ | a | a
  · split_ifs <;> rfl
  · have hnone : (subnetAttrs param legacy ⟨some (.v4 a), prefixlen⟩).filterMap (kept .ip6Subnet) = [] := by
      unfold subnetAttrs
      dsimp only
      split_ifs <;> rfl
    rw [hnone]
    split_ifs <;> rfl
  · have hle : prefixlen ≤ 128 := h.2
    have hclamp : clampPrefix 128 prefixlen = prefixlen.toNat := by
      unfold clampPrefix
      omega
    have hkept := kept_ip6Subnet a prefixlen.toNat (by omega)
    unfold subnetAttrs
    dsimp only
    rw [hclamp]
    by_cases hask : 0 < param.ip6Subnet
    · rw [if_pos hask, if_pos hask, List.filterMap_cons_some hkept]
      rfl
    · rw [if_neg hask, if_neg hask]
      rfl

/-- a list of subnets, part by part -/
theorem subnets_of_parts (g : CfgAttr → Option (Bytes × Nat)) (make : CfgItem → List CfgAttr)
    (pick : CfgItem → Option Bytes) (n : Nat) (items : List CfgItem)
    (hpart : ∀ item ∈ items, (make item).filterMap g =
      if 0 < n then ((pick item).map fun a => (a, item.prefixlen.toNat)).toList else []) :
    (items.flatMap make).filterMap g = if 0 < n then subnets items pick else [] := by
  induction items with
  | nil => split_ifs <;> rfl
  | cons item items ih =>
    rw [List.flatMap_cons, List.filterMap_append, hpart item List.mem_cons_self,
      ih fun x hx => hpart x (List.mem_cons_of_mem item hx)]
    by_cases hn : 0 < n
    · rw [if_pos hn, if_pos hn, if_pos hn]
      unfold subnets
      rw [List.filterMap_cons]
      cases pick item <;> rfl
    · rw [if_neg hn, if_neg hn, if_neg hn]
      rfl

/-- the leases are told one by one -/
theorem leaseAttrs_kept (conf : CfgConf) (param : CfgParam) (leases : List CfgLease) (f : CfgField)
    (hversion : cfgApplicationVersion ∉ f.types) :
    (leaseAttrs conf param leases).filterMap (kept f) =
      leases.filterMap fun lease => kept f (leaseAttr lease) := by
  unfold leaseAttrs
  have hsilent : (if 0 < param.applicationVersion then
      [(⟨cfgApplicationVersion, conf.applicationVersion.getD []⟩ : CfgAttr)] else []).filterMap (kept f)
        = [] := by
    split_ifs with hask
    · exact List.filterMap_cons_none (kept_other f _ hversion)
    · rfl
  rw [List.filterMap_append, hsilent, List.append_nil, List.filterMap_map]
  rfl

theorem kept_leaseAttr4 (lease : CfgLease) :
    kept .ip4Addr (leaseAttr lease) = lease.item.v4.map fun a => (a, 0) := by
  obtain ⟨addr, prefixlen⟩ := lease
  cases addr with
  | v4 a =>
    show some (slice a.val 0 4, 0) = some (a.val, 0)
    rw [slice_whole a.val 4 a.property]
  | v6 a => rfl

theorem kept_leaseAttr6 (lease : CfgLease) :
    kept .ip6Addr (leaseAttr lease) = lease.item.v6.map fun a => (a, 0) := by
  obtain ⟨addr, prefixlen⟩ := lease
  cases addr with
  | v4 a => rfl
  | v6 a =>
    show some (slice (a.val ++ [UInt8.ofNat prefixlen]) 0 16, 0) = some (a.val, 0)
    rw [slice_zero_append a.val _ 16 a.property]

theorem kept_leaseAttr_loan (lease : CfgLease) :
    kept .loan (leaseAttr lease) = some (lease.addr.octets, 0) := by
  obtain ⟨addr, prefixlen⟩ := lease
  cases addr with
  | v4 a =>
    show some (slice a.val 0 4, 0) = some (a.val, 0)
    rw [slice_whole a.val 4 a.property]
  | v6 a =>
    show some (slice (a.val ++ [UInt8.ofNat prefixlen]) 0 16, 0) = some (a.val, 0)
    rw [slice_zero_append a.val _ 16 a.property]

theorem allSubnetAttrs_kept (conf : CfgConf) (param : CfgParam) (leases : List CfgLease)
    (items : List CfgItem) (hplen : ∀ item ∈ items, item.PrefixOk) :
    (allSubnetAttrs conf param leases items).filterMap (kept .ip4Subnet) =
        (if 0 < param.ip4Subnet then subnets items CfgItem.v4 else []) ∧
      (allSubnetAttrs conf param leases items).filterMap (kept .ip6Subnet) =
        (if 0 < param.ip6Subnet then subnets items CfgItem.v6 else []) := by
  unfold allSubnetAttrs
  dsimp only
  have hmask : ∀ (f : CfgField) (assigned legacy : Bool), cfgInternalIp4Netmask ∉ f.types →
      (netmaskAttrs param assigned legacy items).filterMap (kept f) = [] := by
    intro f assigned legacy hf
    unfold netmaskAttrs
    split_ifs
    · split
      · exact List.filterMap_cons_none (kept_other f _ hf)
      · rfl
    · rfl
  rw [List.filterMap_append, List.filterMap_append, hmask .ip4Subnet _ _ (by decide),
    hmask .ip6Subnet _ _ (by decide), List.append_nil, List.append_nil]
  constructor
  · exact subnets_of_parts _ _ CfgItem.v4 _ items fun item h =>
      subnetAttrs_kept4 param _ item (hplen item h)
  · exact subnets_of_parts _ _ CfgItem.v6 _ items fun item h =>
      subnetAttrs_kept6 param _ item (hplen item h)

/-! ## the reply -/

section
variable {conf : CfgConf} {param : CfgParam} {leases : List CfgLease} {items : List CfgItem}
variable {dns nbns dhcp rest : List CfgAttr}

def dnsTypes : List Nat := [cfgInternalIp4Dns, cfgInternalIp6Dns]

def nbnsTypes : List Nat := [cfgInternalIp4Nbns]

def dhcpTypes : List Nat := [cfgInternalIp4Dhcp, cfgInternalIp6Dhcp]

/-- the parts of a reply -/
structure ReplyParts (conf : CfgConf) (param : CfgParam) (dns nbns dhcp rest : List CfgAttr) : Prop where
  hdns : serverAttrs conf.dns cfgInternalIp4Dns cfgInternalIp6Dns param.ip4Dns param.ip6Dns = some dns
  hnbns : serverAttrs conf.nbns cfgInternalIp4Nbns 0 param.ip4Nbns 0 = some nbns
  hdhcp : serverAttrs conf.dhcp cfgInternalIp4Dhcp cfgInternalIp6Dhcp param.ip4Dhcp param.ip6Dhcp
    = some dhcp
  hrest : ∀ a ∈ rest, a.Made restTypes

variable (h : ReplyParts conf param dns nbns dhcp rest)
include h

theorem ReplyParts.made_dns : ∀ a ∈ dns, a.Made dnsTypes :=
  serverAttrs_made h.hdns (fun a ha => made_of_length (by decide) ha rfl)
    fun _ a ha => made_of_length (by decide) ha rfl

theorem ReplyParts.made_nbns : ∀ a ∈ nbns, a.Made nbnsTypes :=
  serverAttrs_made h.hnbns (fun a ha => made_of_length (by decide) ha rfl)
    fun hn => absurd hn (Nat.lt_irrefl 0)

theorem ReplyParts.made_dhcp : ∀ a ∈ dhcp, a.Made dhcpTypes :=
  serverAttrs_made h.hdhcp (fun a ha => made_of_length (by decide) ha rfl)
    fun _ a ha => made_of_length (by decide) ha rfl

/-- each part is for its own lists -/
theorem ReplyParts.filterMap_kept (hplen : ∀ item ∈ items, item.PrefixOk) (f : CfgField) :
    (leaseAttrs conf param leases ++ dns ++ nbns ++ dhcp ++ allSubnetAttrs conf param leases items
      ++ rest).filterMap (kept f) = replied conf leases items param f := by
  have hlease := fun f => filterMap_kept_nil (f := f) (leaseAttrs_made conf param leases)
  have hdns := fun f => filterMap_kept_nil (f := f) h.made_dns
  have hnbns := fun f => filterMap_kept_nil (f := f) h.made_nbns
  have hdhcp := fun f => filterMap_kept_nil (f := f) h.made_dhcp
  have hsubnet := fun f => filterMap_kept_nil (f := f) (allSubnetAttrs_made conf param leases items)
  have hrest : rest.filterMap (kept f) = [] :=
    filterMap_kept_nil h.hrest (by cases f <;> decide)
  have h4 : ∀ a : Bytes, a.length = 4 → some (slice a 0 4, 0) = some (a, 0) := by
    intro a ha
    rw [slice_whole a 4 ha]
  have h6 : ∀ a : Bytes, a.length = 16 → some (slice a 0 16, 0) = some (a, 0) := by
    intro a ha
    rw [slice_whole a 16 ha]
  simp only [List.filterMap_append, hrest, List.append_nil]
  cases f with
  | ip4Addr =>
    rw [hdns _ (by decide), hnbns _ (by decide), hdhcp _ (by decide), hsubnet _ (by decide)]
    simp only [List.append_nil]
    rw [leaseAttrs_kept conf param leases _ (by decide)]
    exact List.filterMap_congr fun lease _ => kept_leaseAttr4 lease
  | ip6Addr =>
    rw [hdns _ (by decide), hnbns _ (by decide), hdhcp _ (by decide), hsubnet _ (by decide)]
    simp only [List.append_nil]
    rw [leaseAttrs_kept conf param leases _ (by decide)]
    exact List.filterMap_congr fun lease _ => kept_leaseAttr6 lease
  | loan =>
    rw [hdns _ (by decide), hnbns _ (by decide), hdhcp _ (by decide), hsubnet _ (by decide)]
    simp only [List.append_nil]
    rw [leaseAttrs_kept conf param leases _ (by decide), funext kept_leaseAttr_loan]
    exact congrFun List.filterMap_eq_map' leases
  | ip4Dns =>
    rw [hlease _ (by decide), hnbns _ (by decide), hdhcp _ (by decide), hsubnet _ (by decide)]
    simp only [List.append_nil, List.nil_append]
    exact serverAttrs_v4 h.hdns _ h4 fun _ => rfl
  | ip6Dns =>
    rw [hlease _ (by decide), hnbns _ (by decide), hdhcp _ (by decide), hsubnet _ (by decide)]
    simp only [List.append_nil, List.nil_append]
    exact serverAttrs_v6 h.hdns _ (fun _ => rfl) h6
  | ip4Nbns =>
    rw [hlease _ (by decide), hdns _ (by decide), hdhcp _ (by decide), hsubnet _ (by decide)]
    simp only [List.append_nil, List.nil_append]
    exact serverAttrs_v4 h.hnbns _ h4 fun _ => rfl
  | ip4Dhcp =>
    rw [hlease _ (by decide), hdns _ (by decide), hnbns _ (by decide), hsubnet _ (by decide)]
    simp only [List.append_nil, List.nil_append]
    exact serverAttrs_v4 h.hdhcp _ h4 fun _ => rfl
  | ip6Dhcp =>
    rw [hlease _ (by decide), hdns _ (by decide), hnbns _ (by decide), hsubnet _ (by decide)]
    simp only [List.append_nil, List.nil_append]
    exact serverAttrs_v6 h.hdhcp _ (fun _ => rfl) h6
  | ip4Subnet =>
    rw [hlease _ (by decide), hdns _ (by decide), hnbns _ (by decide), hdhcp _ (by decide)]
    exact (allSubnetAttrs_kept conf param leases items hplen).1
  | ip6Subnet =>
    rw [hlease _ (by decide), hdns _ (by decide), hnbns _ (by decide), hdhcp _ (by decide)]
    exact (allSubnetAttrs_kept conf param leases items hplen).2

/-- the other side can read all of it -/
theorem ReplyParts.readable :
    ∀ a ∈ leaseAttrs conf param leases ++ dns ++ nbns ++ dhcp ++ allSubnetAttrs conf param leases items
      ++ rest, a.lengthOk = true ∧ a.type < 32768 := by
  have hsmall : ∀ types : List Nat, (∀ t ∈ types, t < 32768) → ∀ as : List CfgAttr,
      (∀ a ∈ as, a.Made types) → ∀ a ∈ as, a.lengthOk = true ∧ a.type < 32768 :=
    fun types htypes as hmade a ha => ⟨(hmade a ha).2, htypes a.type (hmade a ha).1⟩
  simp only [List.forall_mem_append]
  exact ⟨⟨⟨⟨⟨hsmall leaseTypes (by decide) _ (leaseAttrs_made conf param leases),
    hsmall dnsTypes (by decide) _ h.made_dns⟩, hsmall nbnsTypes (by decide) _ h.made_nbns⟩,
    hsmall dhcpTypes (by decide) _ h.made_dhcp⟩,
    hsmall subnetTypes (by decide) _ (allSubnetAttrs_made conf param leases items)⟩,
    hsmall restTypes (by decide) _ h.hrest⟩

end

/-- the leases of the Child SA -/
def replyLeases (child : Option CfgReplyChild) : List CfgLease := (child.map CfgReplyChild.leaseList).getD []

/-- the destinations of its selectors -/
def replyItems (child : Option CfgReplyChild) : List CfgItem :=
  ((child.map CfgReplyChild.selectors).getD []).flatten

theorem createConfigReply_parts {conf : CfgConf} {child : Option CfgReplyChild} {param : CfgParam}
    {as : List CfgAttr} (h : createConfigReply conf child param = some as) :
    ∃ dns nbns dhcp rest, ReplyParts conf param dns nbns dhcp rest ∧
      as = leaseAttrs conf param (replyLeases child) ++ dns ++ nbns ++ dhcp
        ++ allSubnetAttrs conf param (replyLeases child) (replyItems child) ++ rest := by
  unfold createConfigReply at h
  dsimp only at h
  split at h
  · rename_i dns nbns dhcp mip6 hdns hnbns hdhcp hmip6
    refine ⟨dns, nbns, dhcp, splitAttrs conf param (!dns.isEmpty) ++ mip6 ++ supportedAttrs conf param,
      ⟨hdns, hnbns, hdhcp, ?_⟩, ?_⟩
    · simp only [List.forall_mem_append]
      exact ⟨⟨splitAttrs_made conf param _, mip6Attrs_made hmip6⟩, supportedAttrs_made conf param⟩
    · rw [← Option.some.inj h]
      simp only [List.append_assoc]
      rfl
  · cases h

/-- the reply is accepted, and in front of what the lists had stands what the responder has, the last
first -/
def RoundTrip (conf : CfgConf) (child : Option CfgReplyChild) (param : CfgParam) (before : CfgChild)
    (result : CfgChild × Bool) : Prop :=
  result.2 = true ∧
    ∀ f, result.1.list f =
      (replied conf (replyLeases child) (replyItems child) param f).reverse ++ before.list f

/-- the attributes that are built can be read, if the lengths fit in their fields -/
theorem createConfigReply_read {conf : CfgConf} {child : Option CfgReplyChild} {param : CfgParam}
    {as : List CfgAttr} (h : createConfigReply conf child param = some as)
    (hplen : ∀ item ∈ replyItems child, item.PrefixOk) (hfit : ∀ a ∈ as, a.value.length < 65536)
    (allow : Option Bytes) (before : CfgChild) :
    RoundTrip conf child param before (processCfgReplyAttribs allow before (as.flatMap CfgAttr.encode)) := by
  obtain ⟨dns, nbns, dhcp, rest, hparts, rfl⟩ := createConfigReply_parts h
  obtain ⟨hend, hlists⟩ := processCfgReplyAttribs_kept allow before _
    (fun a ha => ⟨(hparts.readable a ha).2, hfit a ha⟩) (fun a ha => (hparts.readable a ha).1)
  refine ⟨hend, fun f => ?_⟩
  rw [hlists f, hparts.filterMap_kept hplen f]

theorem encode_length_le {as : List CfgAttr} {a : CfgAttr} (h : a ∈ as) :
    4 + a.value.length ≤ (as.flatMap CfgAttr.encode).length := by
  obtain ⟨front, back, rfl⟩ := List.append_of_mem h
  rw [List.flatMap_append, List.flatMap_cons, List.length_append, List.length_append, a.encode_length]
  omega

/-- a payload that is sent is read as its body -/
theorem processConfigReply_payload {next : UInt8} {as : List CfgAttr} {payload : Bytes}
    (h : cfgPayload next (cfgReplyBody as) = some payload) (allow : Option Bytes) (before : CfgChild) :
    processConfigReply allow before payload =
        processCfgReplyAttribs allow before (as.flatMap CfgAttr.encode) ∧
      ∀ a ∈ as, a.value.length < 65536 := by
  have hbody : (cfgReplyBody as).length = 4 + (as.flatMap CfgAttr.encode).length := by
    unfold cfgReplyBody
    rw [List.length_append]
    rfl
  unfold cfgPayload at h
  split_ifs at h with hlong
  rw [hbody] at hlong h
  rw [← Option.some.inj h]
  constructor
  · have hsize : 4 + (4 + (as.flatMap CfgAttr.encode).length) < 65536 := by omega
    have hlen : be16 ([next, 0] ++ enc16 (4 + (4 + (as.flatMap CfgAttr.encode).length)) ++ cfgReplyBody as) 2
        = 4 + (4 + (as.flatMap CfgAttr.encode).length) := by
      rw [List.append_assoc]
      exact (be16_append_right [next, 0] _ 0).trans (be16_enc16 hsize _)
    have hoctets : slice ([next, 0] ++ enc16 (4 + (4 + (as.flatMap CfgAttr.encode).length))
        ++ cfgReplyBody as) 8 (as.flatMap CfgAttr.encode).length = as.flatMap CfgAttr.encode :=
      slice_whole (as.flatMap CfgAttr.encode) _ rfl
    unfold processConfigReply
    rw [hlen, if_pos (show byteAt _ 4 = 2 from rfl)]
    have hminus : 4 + (4 + (as.flatMap CfgAttr.encode).length) - 8 =
        (as.flatMap CfgAttr.encode).length := by omega
    rw [hminus, hoctets]
  · intro a ha
    have hle := encode_length_le ha
    omega

/-- what the responder has is what the initiator ends with: of the attributes themselves, and of every
payload that is sent -/
theorem config_reply_round_trip (conf : CfgConf) (child : Option CfgReplyChild) (param : CfgParam)
    (as : List CfgAttr) (hreply : createConfigReply conf child param = some as)
    (hplen : ∀ item ∈ replyItems child, item.PrefixOk) (allow : Option Bytes) (before : CfgChild) :
    ((∀ a ∈ as, a.value.length < 65536) →
      RoundTrip conf child param before
        (processCfgReplyAttribs allow before (as.flatMap CfgAttr.encode))) ∧
    ∀ (next : UInt8) (payload : Bytes), cfgPayload next (cfgReplyBody as) = some payload →
      RoundTrip conf child param before (processConfigReply allow before payload) := by
  constructor
  · intro hfit
    exact createConfigReply_read hreply hplen hfit allow before
  · intro next payload hpayload
    obtain ⟨hread, hfit⟩ := processConfigReply_payload hpayload allow before
    rw [hread]
    exact createConfigReply_read hreply hplen hfit allow before

def sampleConf : CfgConf :=
  ⟨none, some (some [⟨some (.v4 ⟨[192, 0, 2, 53], rfl⟩), 32⟩]), none, none, none, false, none, none⟩

def sampleParam : CfgParam := ⟨0, 1, 0, 0, 0, 0, 1, 0, 0, 0, 0, 0⟩

def sampleReplyChild : CfgReplyChild :=
  ⟨[⟨.v4 ⟨[10, 9, 0, 5], rfl⟩, 32⟩], [[⟨some (.v4 ⟨[10, 1, 0, 0], rfl⟩), 16⟩]]⟩

def sampleReply : List CfgAttr :=
  [⟨1, [10, 9, 0, 5]⟩, ⟨3, [192, 0, 2, 53]⟩, ⟨13, [10, 1, 0, 0, 255, 255, 0, 0]⟩, ⟨2, [255, 255, 0, 0]⟩]

theorem config_reply_round_trip_sample :
    createConfigReply sampleConf (some sampleReplyChild) sampleParam = some sampleReply ∧
      RoundTrip sampleConf (some sampleReplyChild) sampleParam CfgChild.fresh
        (processCfgReplyAttribs none CfgChild.fresh (sampleReply.flatMap CfgAttr.encode)) ∧
      RoundTrip sampleConf (some sampleReplyChild) sampleParam CfgChild.fresh
        (processConfigReply none CfgChild.fresh
          ([33, 0] ++ enc16 (4 + (cfgReplyBody sampleReply).length) ++ cfgReplyBody sampleReply)) := by
  have hreply : createConfigReply sampleConf (some sampleReplyChild) sampleParam = some sampleReply := by
    decide
  have hplen : ∀ item ∈ replyItems (some sampleReplyChild), item.PrefixOk := by
    intro item hitem
    rw [List.mem_singleton.mp hitem]
    exact ⟨by decide, by decide⟩
  have hround := config_reply_round_trip sampleConf (some sampleReplyChild) sampleParam sampleReply
    hreply hplen none CfgChild.fresh
  exact ⟨hreply, hround.1 (by decide), hround.2 33 _ rfl⟩

end Ikev2
