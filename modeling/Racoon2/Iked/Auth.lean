import Racoon2.Iked.Sa

/-!
# Identities, certificates and the AUTH payload

`ike_compare_id`, `fqdn_id_match` and `ikev2_wire_cert_id_ok` of `ike_conf.c`, and
`ikev2_auth_verify` of `ikev2_auth.c` with the key it picks by the method in the peer's AUTH
payload.  Verification returns the key it succeeded with, which the source forgets.

Signatures, certificate chains and the prf are OpenSSL's and stay functions (`Crypto`).  Resumed
SAs (RFC 5723) are left out.
-/

set_option linter.unusedVariables false

namespace Ikev2
open Bytes

/-! ## identities -/

/-- `RCT_IDT_*` -/
inductive IdType where
  | ipaddr
  | fqdn
  | userFqdn
  | keyid
  | x509Subject
  deriving DecidableEq, Repr

/-- the body of an ID payload -/
structure Ident where
  idType : UInt8
  reserved : Bytes
  data : Bytes
  deriving DecidableEq, Repr

def Ident.octets (id : Ident) : Bytes := [id.idType] ++ id.reserved ++ id.data

/-- `ikev2_id_to_rc`, for the types `ikev2_id2rct_id` supports -/
def idToRc (type : UInt8) : Option IdType :=
  if type = 1 ∨ type = 5 then some .ipaddr
  else if type = 2 then some .fqdn
  else if type = 3 then some .userFqdn
  else if type = 9 then some .x509Subject
  else if type = 11 then some .keyid
  else none

/-- an entry of `peers_id` or `my_id`, its file or certificate already read -/
inductive IdValue where
  /-- `IP_ANY` or `IP_RW` -/
  | anyAddress
  | unreadable
  | octets (data : Bytes)
  deriving DecidableEq, Repr

structure IdEntry where
  idtype : IdType
  value : IdValue
  deriving DecidableEq, Repr

/-- OpenSSL and the prf of the SA -/
structure Crypto where
  /-- `eay_cmp_asn1dn(...) == 0` -/
  dnEqual : Bytes → Bytes → Bool
  /-- `eay_check_x509cert_strict(leaf, extra, ca_file) == 0` -/
  chainValid : Option Bytes → Bytes → List Bytes → Bool
  /-- `eay_get_x509_pubkey` -/
  x509Pubkey : Bytes → Option Bytes
  /-- the subjectAltNames of a certificate, those of type DNS marked -/
  altNames : Bytes → List (Bool × Bytes)
  /-- the iPAddress entries, as text -/
  ipAddrs : Bytes → List Bytes
  subjectCn : Bytes → Option Bytes
  /-- `inet_ntop` -/
  ntop : Bytes → Option Bytes
  keyedHash : Bytes → Bytes → Option Bytes
  /-- the key length of a prf that takes only one -/
  prfFixedKeylen : Option Nat
  /-- `eay_rsassa_pkcs1_v1_5_verify_auth_hash(octets, sig, key)`; the hash, 1 for SHA-1 -/
  rsaVerify : Bytes → Bytes → Bytes → Option Nat
  /-- `eay_rfc7427_verify(octets, algorithm, sig, key) == 0` -/
  rfc7427Verify : Bytes → Bytes → Bytes → Bytes → Bool
  dssVerify : Bytes → Bytes → Bytes → Bool
  ecdsaVerify : UInt8 → Bytes → Bytes → Bytes → Bool

section
variable (c : Crypto)

/-- `ike_compare_id(...) == 0` -/
def compareId (type : IdType) (value : Bytes) (entry : IdEntry) : Bool :=
  if type ≠ entry.idtype then false
  else match entry.value with
    | .anyAddress => type == .ipaddr && (value.length == 4 || value.length == 16)
    | .unreadable => false
    | .octets data => if type = .x509Subject then c.dnEqual data value else data == value

/-- the asserted identity matches an entry of the list (`ikev2_peer_id_ok`) -/
def peerIdOk (entries : List IdEntry) (id : Ident) : Bool :=
  match idToRc id.idType with
  | none => false
  | some type => entries.any (compareId c type id.data)

/-! ## names in certificates -/

def star : UInt8 := 42
def dot : UInt8 := 46

/-- `tolower` in the C locale -/
def toLower (b : UInt8) : UInt8 := if 65 ≤ b ∧ b ≤ 90 then b + 32 else b

/-- `strncasecmp` on names of one length -/
def caseEq (a b : Bytes) : Bool := a.map toLower == b.map toLower

def fqdnIdMatch (cert asserted : Bytes) (allow_wildcard : Bool) : Bool :=
  if asserted.isEmpty || asserted.contains star || asserted.contains 0 then false
  else match cert with
    | 42 :: 46 :: suffix =>
      allow_wildcard && !suffix.isEmpty && !suffix.contains star && suffix.contains dot
        && match asserted.dropWhile (· != dot) with
          | [] => false
          | _ :: rest =>
            asserted.head? != some dot && rest.length == suffix.length && caseEq rest suffix
    | _ => !cert.contains star && cert.length == asserted.length && caseEq cert asserted

/-! ## configuration -/

/-- `RCT_ALG_*` of `kmp_auth_method` -/
inductive AuthAlg where
  | psk
  | dss
  | rsasig
  | ecdsa
  | eddsa
  | eap
  deriving DecidableEq, Repr

/-- the ikev2 section of a `remote` -/
structure Remote where
  /-- `rm_index == 0`, the default clause -/
  isDefault : Bool
  kmpAuthMethod : List AuthAlg
  preSharedKey : Option Bytes
  /-- the pinned key of a peer -/
  peersPubkey : Option Bytes
  peersId : List IdEntry
  myId : List IdEntry
  verifyId : Bool
  multipleAuth : Bool
  multiAuthSecondId : Option Ident
  certValidate : Bool
  caFile : Option Bytes
  certTrustSystem : Bool
  certIntermediates : Bool
  allowWildcardCert : Bool
  certCnFallback : Bool
  /-- `ikev2_depr_refused` for a SHA-1 signature and for DSS -/
  refusesSha1 : Bool
  refusesDss : Bool
  configRequired : Bool
  ppkId : Option Bytes

/-- `ikev2_multi_auth_second_id` is set and `multiple_auth` is on -/
def Remote.requiresSecondRound (conf : Remote) : Bool :=
  conf.multipleAuth && conf.multiAuthSecondId.isSome

/-! ## the key of the peer -/

/-- what AUTH was verified with -/
inductive KeySource where
  | preShared (key : Bytes)
  | eapMsk (msk : Bytes)
  | pinned (key : Bytes)
  | certificate (leaf key : Bytes)
  deriving DecidableEq, Repr

def KeySource.key : KeySource → Bytes
  | .preShared key => key
  | .eapMsk msk => msk
  | .pinned key => key
  | .certificate _ key => key

/-- what `ikev2_auth_verify` reads of an SA -/
structure AuthInput where
  conf : Remote
  idI : Option Ident
  idR : Option Ident
  peerCert : Option Bytes
  peerCertExtra : List Bytes
  eapMsk : Option Bytes
  /-- RealMessage1 and RealMessage2 -/
  firstMessageI : Bytes
  firstMessageR : Bytes
  nI : Bytes
  nR : Bytes
  skPI : Bytes
  skPR : Bytes
  /-- IntAuth_i | IntAuth_r | IKE_AUTH_MID, empty without IKE_INTERMEDIATE -/
  intAuth : Bytes

def certX509Sign : UInt8 := 4
def peerCertExtraMax : Nat := 4

/-- the first X.509 certificate is the leaf, up to four more are kept -/
def AuthInput.captureCert (sa : AuthInput) (encoding : UInt8) (data : Bytes) : AuthInput :=
  if encoding ≠ certX509Sign ∨ data = [] then sa
  else match sa.peerCert with
    | none => { sa with peerCert := some data }
    | some _ =>
      if sa.peerCertExtra.length < peerCertExtraMax then
        { sa with peerCertExtra := sa.peerCertExtra ++ [data] }
      else sa

/-- an AUTH payload -/
structure AuthPayload where
  method : UInt8
  data : Bytes
  deriving DecidableEq, Repr

variable (sa : AuthInput)

/-- `ikev2_auth_shared_secret` -/
def authSharedSecret : Option KeySource :=
  match sa.eapMsk with
  | some msk => if msk.length = 64 then some (.eapMsk msk) else none
  | none => sa.conf.preSharedKey.map .preShared

/-- the certificates a chain may be built from -/
def chainPool : List Bytes := if sa.conf.certIntermediates then sa.peerCertExtra else []

/-- `ikev2_public_key_from_wire` -/
def publicKeyFromWire : Option KeySource :=
  match sa.peerCert with
  | none => none
  | some leaf =>
    if sa.conf.caFile.isNone && !sa.conf.certTrustSystem then none
    else if !c.chainValid sa.conf.caFile leaf (chainPool sa) then none
    else (c.x509Pubkey leaf).map (.certificate leaf)

/-- `ikev2_peer_public_key` -/
def peerPublicKey : Option KeySource :=
  if sa.conf.certValidate then publicKeyFromWire c sa else sa.conf.peersPubkey.map .pinned

/-! ## the binding of a certificate to the asserted identity -/

/-- the identity the peer asserts -/
def AuthInput.assertedId (i_to_r : Bool) : Option Ident := if i_to_r then sa.idI else sa.idR

/-- the certificate names this identity -/
def certNames (conf : Remote) (leaf : Bytes) (id : Ident) : Bool :=
  if id.data.isEmpty then false
  else match idToRc id.idType with
    | some .fqdn =>
      let names := c.altNames leaf
      !id.data.contains star
        && (names.any (fun n => n.1 && fqdnIdMatch n.2 id.data conf.allowWildcardCert)
          || (names.isEmpty && conf.certCnFallback
            && (c.subjectCn leaf).any (fqdnIdMatch · id.data conf.allowWildcardCert)))
    | some .ipaddr =>
      (id.data.length == 4 || id.data.length == 16)
        && (c.ntop id.data).any fun text => (c.ipAddrs leaf).contains text
    | _ => false

/-- `ikev2_wire_cert_id_ok(...) == 0` -/
def wireCertIdOk (i_to_r : Bool) : Bool :=
  if !sa.conf.certValidate then true
  else match sa.peerCert with
    | none => true
    | some leaf =>
      match sa.assertedId i_to_r with
      | none => false
      | some id => certNames c sa.conf leaf id

/-! ## `ikev2_auth_verify` -/

def authRsasig : UInt8 := 1
def authSharedKey : UInt8 := 2
def authDss : UInt8 := 3
def authDs : UInt8 := 14

def isEcdsaMethod (method : UInt8) : Bool := method == 9 || method == 10 || method == 11

/-- "Key Pad for IKEv2" -/
def keypad : Bytes := [75, 101, 121, 32, 80, 97, 100, 32, 102, 111, 114, 32, 73, 75, 69, 118, 50]

/-- `ikev2_auth_input` -/
def authInput (i_to_r : Bool) : Option Bytes :=
  match sa.assertedId i_to_r with
  | none => none
  | some id =>
    (c.keyedHash (if i_to_r then sa.skPI else sa.skPR) id.octets).map fun maced =>
      (if i_to_r then sa.firstMessageI else sa.firstMessageR)
        ++ (if i_to_r then sa.nR else sa.nI) ++ maced ++ sa.intAuth

/-- a shared key: `AUTH = prf(prf(key, keypad), octets)` -/
def sharedKeyVerify (octets data : Bytes) (key : KeySource) : Bool :=
  if c.prfFixedKeylen.any (· != key.key.length) then false
  else match (c.keyedHash key.key keypad).bind (c.keyedHash · octets) with
    | none => false
    | some out => out == data

/-- a digital signature (RFC 7427): a length octet, the algorithm and the signature -/
def dsVerify (octets data : Bytes) (key : KeySource) : Bool :=
  match data with
  | [] => false
  | len :: rest =>
    if len = 0 ∨ rest.length < len.toNat + 1 then false
    else c.rfc7427Verify octets (rest.take len.toNat) (rest.drop len.toNat) key.key

/-- the `switch` on the method of the peer -/
def methodVerify (octets : Bytes) (auth : AuthPayload) : Option KeySource :=
  if auth.method = authRsasig then
    (peerPublicKey c sa).filter fun key =>
      match c.rsaVerify octets auth.data key.key with
      | none => false
      | some hid => !(hid == 1 && sa.conf.refusesSha1)
  else if auth.method = authDs then
    (peerPublicKey c sa).filter fun key => dsVerify c octets auth.data key
  else if auth.method = authDss then
    if sa.conf.refusesDss then none
    else (peerPublicKey c sa).filter fun key => c.dssVerify octets auth.data key.key
  else if isEcdsaMethod auth.method then
    (peerPublicKey c sa).filter fun key => c.ecdsaVerify auth.method octets auth.data key.key
  else if auth.method = authSharedKey then
    (authSharedSecret sa).filter fun key => sharedKeyVerify c octets auth.data key
  else none

/-- `ikev2_auth_verify`: the key that verified AUTH, or nothing -/
def authVerify (i_to_r : Bool) (auth : AuthPayload) : Option KeySource :=
  match authInput c sa i_to_r with
  | none => none
  | some octets =>
    match methodVerify c sa octets auth with
    | none => none
    | some key => if wireCertIdOk c sa i_to_r then some key else none

end

/-! ## what a verified AUTH says -/

section
variable {c : Crypto} {sa : AuthInput} {i_to_r : Bool} {auth : AuthPayload} {key : KeySource}

theorem authVerify_some (h : authVerify c sa i_to_r auth = some key) :
    (∃ octets, methodVerify c sa octets auth = some key) ∧ wireCertIdOk c sa i_to_r = true := by
  unfold authVerify at h
  split at h
  · exact absurd h (by simp)
  · rename_i octets _
    split at h
    · exact absurd h (by simp)
    · rename_i key' hm
      split at h
      · rename_i hw
        rw [Option.some.inj h] at hm
        exact ⟨⟨octets, hm⟩, hw⟩
      · exact absurd h (by simp)

/-- a shared key is the MSK if there is one; every other method uses the peer's public key -/
theorem methodVerify_key {octets : Bytes} (h : methodVerify c sa octets auth = some key) :
    auth.method = authSharedKey ∧ authSharedSecret sa = some key
      ∨ auth.method ≠ authSharedKey ∧ peerPublicKey c sa = some key := by
  unfold methodVerify at h
  split at h
  · rename_i hm
    exact .inr ⟨by rw [hm]; decide, (Option.filter_eq_some_iff.mp h).1⟩
  · split at h
    · rename_i hm
      exact .inr ⟨by rw [hm]; decide, (Option.filter_eq_some_iff.mp h).1⟩
    · split at h
      · rename_i hm
        split at h
        · exact absurd h (by simp)
        · exact .inr ⟨by rw [hm]; decide, (Option.filter_eq_some_iff.mp h).1⟩
      · split at h
        · rename_i hm
          refine .inr ⟨?_, (Option.filter_eq_some_iff.mp h).1⟩
          intro hs
          rw [hs] at hm
          exact absurd hm (by decide)
        · split at h
          · rename_i hm
            exact .inl ⟨hm, (Option.filter_eq_some_iff.mp h).1⟩
          · exact absurd h (by simp)

theorem authSharedSecret_some (h : authSharedSecret sa = some key) :
    (∃ msk, sa.eapMsk = some msk ∧ key = .eapMsk msk)
      ∨ (∃ psk, sa.eapMsk = none ∧ sa.conf.preSharedKey = some psk ∧ key = .preShared psk) := by
  unfold authSharedSecret at h
  split at h
  · rename_i msk hmsk
    split at h
    · exact .inl ⟨msk, hmsk, (Option.some.inj h).symm⟩
    · exact absurd h (by simp)
  · rename_i hnone
    obtain ⟨psk, hpsk, rfl⟩ := Option.map_eq_some_iff.mp h
    exact .inr ⟨psk, hnone, hpsk, rfl⟩

theorem captureCert_frame (sa : AuthInput) (encoding : UInt8) (data : Bytes) :
    ∃ cert extra, sa.captureCert encoding data
      = { sa with peerCert := cert, peerCertExtra := extra } := by
  unfold AuthInput.captureCert
  split
  · exact ⟨sa.peerCert, sa.peerCertExtra, rfl⟩
  · split
    · exact ⟨some data, sa.peerCertExtra, rfl⟩
    · split
      · exact ⟨sa.peerCert, sa.peerCertExtra ++ [data], rfl⟩
      · exact ⟨sa.peerCert, sa.peerCertExtra, rfl⟩

theorem publicKeyFromWire_some (h : publicKeyFromWire c sa = some key) :
    ∃ leaf pub, sa.peerCert = some leaf ∧ key = .certificate leaf pub
      ∧ c.x509Pubkey leaf = some pub
      ∧ c.chainValid sa.conf.caFile leaf (chainPool sa) = true := by
  unfold publicKeyFromWire at h
  split at h
  · exact absurd h (by simp)
  · rename_i leaf hleaf
    split at h
    · exact absurd h (by simp)
    · split at h
      · exact absurd h (by simp)
      · rename_i hchain
        obtain ⟨pub, hpub, rfl⟩ := Option.map_eq_some_iff.mp h
        exact ⟨leaf, pub, hleaf, rfl, hpub, by simpa using hchain⟩

end

end Ikev2
