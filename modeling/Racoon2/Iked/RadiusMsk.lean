import Racoon2.Lib.Feedback
import Racoon2.Iked.RadiusVerify

/-!
# The MSK of an Access-Accept

`radius_decrypt_mppe` and `ikev2_radius_msk`: two keys in attributes of Microsoft, wrapped with the
secret and the Request Authenticator.

* `mppeWrap`                the construction that the server uses (not part of the source);
* `decryptMppe`, `msk`      the key of an attribute, and the MSK of a response;
* `takeKeys_iff`            the loops find one key of each type, or fail;
* `mppe_keys_recovered`     a wrapped key comes back, and the MSK is the two keys.
-/

set_option linter.unusedVariables false

open Bytes

namespace Radius

def attrVendorSpecific : UInt8 := 26
def vsaMicrosoft : Nat := 311
def vsaMsMppeSendKey : UInt8 := 16
def vsaMsMppeRecvKey : UInt8 := 17

section
variable (md5 : Bytes → Octets 16) (mem : Bool) (reqAuth : Octets 16) (secret : Bytes)

/-- MD5(S||R||A) -/
def firstMask (salt : Bytes) : Bytes := (md5 (secret ++ reqAuth.1 ++ salt)).1

/-- MD5(S||c(i)) -/
def nextMask (c : Bytes) : Bytes := (md5 (secret ++ c)).1

/-- `radius_decrypt_mppe` -/
def decryptMppe (val : Bytes) : Option Bytes :=
  -- Salt is 2 octets, MSB of first set
  if val.length < 3 ∨ byteAt val 0 &&& 0x80 = 0 then none
  else
    let c := val.drop 2
    if c.length = 0 ∨ c.length % 16 ≠ 0 then none
    else if !mem then none
    else
      let out := Feedback.unwrap 16 (nextMask md5 secret) (c.length / 16)
        (firstMask md5 reqAuth secret (val.take 2)) c
      let keylen := (byteAt out 0).toNat
      if c.length < 1 + keylen then none
      else if keylen = 0 then none
      else some (slice out 1 keylen)

/-- RFC 2548: the length of a key, the key and padding, up to whole blocks -/
def mppeWrap (salt : Octets 2) (key pad : Bytes) : Bytes :=
  salt.1 ++ Feedback.wrap 16 (nextMask md5 secret) ((1 + key.length + pad.length) / 16)
    (firstMask md5 reqAuth secret salt.1) (UInt8.ofNat key.length :: (key ++ pad))

/-- a Vendor-Specific attribute of Microsoft, with room for an item -/
def isMicrosoft (a : Tlv) : Bool :=
  a.type == attrVendorSpecific && decide (8 ≤ a.value.length) && be32 a.value 0 == vsaMicrosoft

/-- the items that `ikev2_radius_msk` comes to in an attribute -/
def vsaItems (a : Tlv) : List Tlv :=
  if isMicrosoft a then Tlv.readWhile a.value.length (a.value.drop 4) else []

/-- `recv` and `send` -/
structure Keys where
  recv : Option Bytes
  send : Option Bytes
  deriving DecidableEq, Repr

/-- one item; `none` if the loop is left for `done` -/
def takeKey (keys : Keys) (item : Tlv) : Option Keys :=
  if item.type = vsaMsMppeRecvKey ∨ item.type = vsaMsMppeSendKey then
    match decryptMppe md5 mem reqAuth secret item.value with
    | none => none
    | some k =>
      if item.type = vsaMsMppeRecvKey then
        if keys.recv.isSome then none else some { keys with recv := some k }
      else if keys.send.isSome then none
      else some { keys with send := some k }
  else some keys

/-- the loop over the attributes, and in each of them over its items -/
def takeKeys (attrs : List Tlv) (keys : Keys) : Option Keys :=
  attrs.foldlM (fun keys a => (vsaItems a).foldlM (takeKey md5 mem reqAuth secret) keys) keys

/-- `ikev2_radius_msk` -/
def msk (resp : Response) : Option Bytes :=
  if resp.code ≠ codeAccessAccept then none
  else
    match takeKeys md5 mem reqAuth secret resp.attrs ⟨none, none⟩ with
    | some ⟨some recv, some send⟩ =>
      if recv.length ≠ 16 ∧ recv.length ≠ 32 then none
      else if send.length ≠ 16 ∧ send.length ≠ 32 then none
      else if recv.length ≠ send.length then none
      else if !mem then none
      else some (recv ++ send ++ List.replicate (64 - recv.length - send.length) 0)
    | _ => none

end

/-! ## a wrapped key -/

section
variable {md5 : Bytes → Octets 16} {mem : Bool} {reqAuth : Octets 16} {secret : Bytes}

theorem nextMask_length (c : Bytes) : (nextMask md5 secret c).length = 16 := (md5 _).2

theorem firstMask_length (salt : Bytes) : (firstMask md5 reqAuth secret salt).length = 16 := (md5 _).2

theorem byteAt_mppeWrap (salt : Octets 2) (key pad : Bytes) :
    byteAt (mppeWrap md5 reqAuth secret salt key pad) 0 = byteAt salt.1 0 :=
  byteAt_append_left _ _ _ (by rw [salt.2]; decide)

/-- a key that is wrapped comes back, unless it is empty -/
theorem decryptMppe_mppeWrap {salt : Octets 2} {key pad : Bytes} (hsalt : byteAt salt.1 0 &&& 0x80 ≠ 0)
    (hkey : key.length ≤ 239) (hpad : (1 + key.length + pad.length) % 16 = 0) :
    decryptMppe md5 true reqAuth secret (mppeWrap md5 reqAuth secret salt key pad)
      = if key.length = 0 then none else some key := by
  have hblocks : (1 + key.length + pad.length) / 16 * 16 = 1 + key.length + pad.length := by omega
  have hplain : (UInt8.ofNat key.length :: (key ++ pad)).length =
      (1 + key.length + pad.length) / 16 * 16 := by
    rw [hblocks, List.length_cons, List.length_append]
    omega
  have hlen : (Feedback.wrap 16 (nextMask md5 secret) ((1 + key.length + pad.length) / 16)
      (firstMask md5 reqAuth secret salt.1) (UInt8.ofNat key.length :: (key ++ pad))).length =
      1 + key.length + pad.length :=
    (Feedback.wrap_length nextMask_length (firstMask_length _) hplain).trans hblocks
  have hunwrap : Feedback.unwrap 16 (nextMask md5 secret) ((1 + key.length + pad.length) / 16)
      (firstMask md5 reqAuth secret salt.1) (Feedback.wrap 16 (nextMask md5 secret)
        ((1 + key.length + pad.length) / 16) (firstMask md5 reqAuth secret salt.1)
        (UInt8.ofNat key.length :: (key ++ pad))) = UInt8.ofNat key.length :: (key ++ pad) :=
    Feedback.unwrap_wrap nextMask_length (firstMask_length _) hplain
  have hdrop : (mppeWrap md5 reqAuth secret salt key pad).drop 2 = Feedback.wrap 16
      (nextMask md5 secret) ((1 + key.length + pad.length) / 16) (firstMask md5 reqAuth secret salt.1)
      (UInt8.ofNat key.length :: (key ++ pad)) := List.drop_left' salt.2
  have htake : (mppeWrap md5 reqAuth secret salt key pad).take 2 = salt.1 := List.take_left' salt.2
  have hsize : (mppeWrap md5 reqAuth secret salt key pad).length = 2 + (1 + key.length + pad.length) := by
    unfold mppeWrap
    rw [List.length_append, salt.2, hlen]
  have hkeylen : (UInt8.ofNat key.length).toNat = key.length := octet_value (by omega)
  unfold decryptMppe
  rw [byteAt_mppeWrap, hsize, if_neg (by rw [not_or]; exact ⟨by omega, hsalt⟩)]
  dsimp only
  rw [hdrop, hlen, htake, if_neg (by omega), if_neg (by decide), hunwrap]
  show (if _ < 1 + (UInt8.ofNat key.length).toNat then none
    else if (UInt8.ofNat key.length).toNat = 0 then none
    else some (slice (UInt8.ofNat key.length :: (key ++ pad)) 1 (UInt8.ofNat key.length).toNat)) = _
  rw [hkeylen, if_neg (by omega)]
  exact congrArg (fun k => if key.length = 0 then none else some k) (slice_zero_append key pad _ rfl)

/-- a salt whose first bit is clear is refused, whatever follows -/
theorem decryptMppe_salt {salt : Octets 2} {key pad : Bytes} (hsalt : byteAt salt.1 0 &&& 0x80 = 0) :
    decryptMppe md5 mem reqAuth secret (mppeWrap md5 reqAuth secret salt key pad) = none := by
  unfold decryptMppe
  rw [byteAt_mppeWrap]
  exact if_pos (.inr hsalt)

/-- an empty key is refused, whatever the salt and the memory -/
theorem decryptMppe_empty {salt : Octets 2} {pad : Bytes} (hpad : (1 + pad.length) % 16 = 0) :
    decryptMppe md5 mem reqAuth secret (mppeWrap md5 reqAuth secret salt [] pad) = none := by
  by_cases hsalt : byteAt salt.1 0 &&& 0x80 = 0
  · exact decryptMppe_salt hsalt
  · cases mem with
    | true => exact @decryptMppe_mppeWrap md5 reqAuth secret salt [] pad hsalt (Nat.zero_le _) hpad
    | false =>
      unfold decryptMppe
      dsimp only
      split
      · rfl
      · split <;> rfl

/-! ## the loops -/

/-- the keys of the items of one type -/
def keysOf (md5 : Bytes → Octets 16) (mem : Bool) (reqAuth : Octets 16) (secret : Bytes)
    (type : UInt8) (items : List Tlv) : List (Option Bytes) :=
  (items.filter fun item => item.type == type).map fun item =>
    decryptMppe md5 mem reqAuth secret item.value

/-- a key that was found, as a list of keys -/
def found (key : Option Bytes) : List (Option Bytes) := key.toList.map some

theorem keysOf_cons (type : UInt8) (item : Tlv) (items : List Tlv) :
    keysOf md5 mem reqAuth secret type (item :: items) =
      if item.type = type then
        decryptMppe md5 mem reqAuth secret item.value :: keysOf md5 mem reqAuth secret type items
      else keysOf md5 mem reqAuth secret type items := by
  unfold keysOf
  rw [List.filter_cons]
  by_cases h : item.type = type
  · rw [if_pos (beq_iff_eq.mpr h), if_pos h, List.map_cons]
  · rw [if_neg (by rw [beq_iff_eq]; exact h), if_neg h]

/-- there is at most one key, and it can be decrypted -/
theorem found_append_cons {key key' : Option Bytes} {k : Option Bytes} {ks : List (Option Bytes)} :
    found key ++ k :: ks = found key' ↔ key = none ∧ ∃ x, k = some x ∧ found (some x) ++ ks = found key' := by
  unfold found
  cases key with
  | some y =>
    refine ⟨fun h => ?_, fun h => (nomatch h.1)⟩
    cases key' with
    | none => cases h
    | some z => cases (List.cons.inj h).2
  | none =>
    constructor
    · intro h
      cases key' with
      | none => cases h
      | some z =>
        obtain ⟨rfl, hks⟩ := List.cons.inj h
        exact ⟨rfl, z, rfl, h⟩
    · rintro ⟨-, x, rfl, h⟩
      exact h

theorem found_inj {key key' : Option Bytes} : found key = found key' ↔ key = key' := by
  refine ⟨fun h => ?_, fun h => h ▸ rfl⟩
  cases key with
  | none =>
    cases key' with
    | none => rfl
    | some y => cases h
  | some x =>
    cases key' with
    | none => cases h
    | some y => exact (List.cons.inj h).1

/-- what an item does to the keys -/
theorem takeKey_eq_some {keys keys' : Keys} {item : Tlv} :
    takeKey md5 mem reqAuth secret keys item = some keys' ↔
      (item.type = vsaMsMppeRecvKey ∧ keys.recv = none ∧ ∃ k,
        decryptMppe md5 mem reqAuth secret item.value = some k ∧ keys' = ⟨some k, keys.send⟩)
      ∨ (item.type = vsaMsMppeSendKey ∧ keys.send = none ∧ ∃ k,
        decryptMppe md5 mem reqAuth secret item.value = some k ∧ keys' = ⟨keys.recv, some k⟩)
      ∨ (item.type ≠ vsaMsMppeRecvKey ∧ item.type ≠ vsaMsMppeSendKey ∧ keys' = keys) := by
  have hne : vsaMsMppeRecvKey ≠ vsaMsMppeSendKey := by decide
  unfold takeKey
  constructor
  · intro h
    split at h
    · next htype =>
      split at h
      · cases h
      next k hk =>
      split at h
      · next hrecv =>
        split at h
        · cases h
        · next hnone => exact .inl ⟨hrecv, Option.not_isSome_iff_eq_none.mp hnone, k, hk,
            (Option.some.inj h).symm⟩
      · next hrecv =>
        split at h
        · cases h
        · next hnone => exact .inr (.inl ⟨htype.resolve_left hrecv,
            Option.not_isSome_iff_eq_none.mp hnone, k, hk, (Option.some.inj h).symm⟩)
    · next htype =>
      rw [not_or] at htype
      exact .inr (.inr ⟨htype.1, htype.2, (Option.some.inj h).symm⟩)
  · rintro (⟨htype, hnone, k, hk, rfl⟩ | ⟨htype, hnone, k, hk, rfl⟩ | ⟨hrecv, hsend, rfl⟩)
    · rw [if_pos (.inl htype), hk]
      dsimp only
      rw [if_pos htype, hnone]
      rfl
    · rw [if_pos (.inr htype), hk]
      dsimp only
      rw [if_neg (by rw [htype]; exact hne.symm), hnone]
      rfl
    · rw [if_neg (not_or.mpr ⟨hrecv, hsend⟩)]

/-- the items, one after the other -/
theorem takeKey_foldlM {items : List Tlv} {keys keys' : Keys} :
    items.foldlM (takeKey md5 mem reqAuth secret) keys = some keys' ↔
      found keys.recv ++ keysOf md5 mem reqAuth secret vsaMsMppeRecvKey items = found keys'.recv
      ∧ found keys.send ++ keysOf md5 mem reqAuth secret vsaMsMppeSendKey items =
        found keys'.send := by
  induction items generalizing keys with
  | nil =>
    show some keys = some keys' ↔ found keys.recv ++ [] = _ ∧ found keys.send ++ [] = _
    rw [List.append_nil, List.append_nil, found_inj, found_inj, Option.some.injEq]
    cases keys
    cases keys'
    exact Keys.mk.injEq _ _ _ _ ▸ Iff.rfl
  | cons item items ih =>
    rw [List.foldlM_cons]
    show (takeKey md5 mem reqAuth secret keys item).bind _ = _ ↔ _
    rw [Option.bind_eq_some_iff, keysOf_cons, keysOf_cons]
    have hne : vsaMsMppeRecvKey ≠ vsaMsMppeSendKey := by decide
    by_cases hrecv : item.type = vsaMsMppeRecvKey
    · rw [if_pos hrecv, if_neg (by rw [hrecv]; exact hne), found_append_cons]
      constructor
      · rintro ⟨keys₁, htake, hrest⟩
        rcases takeKey_eq_some.mp htake with ⟨-, hnone, k, hk, rfl⟩ | ⟨hsend, -⟩ | ⟨hnot, -⟩
        · obtain ⟨h1, h2⟩ := ih.mp hrest
          exact ⟨⟨hnone, k, hk, h1⟩, h2⟩
        · exact absurd (hrecv.symm.trans hsend) hne
        · exact absurd hrecv hnot
      · rintro ⟨⟨hnone, k, hk, h1⟩, h2⟩
        exact ⟨⟨some k, keys.send⟩, takeKey_eq_some.mpr (.inl ⟨hrecv, hnone, k, hk, rfl⟩),
          ih.mpr ⟨h1, h2⟩⟩
    rw [if_neg hrecv]
    by_cases hsend : item.type = vsaMsMppeSendKey
    · rw [if_pos hsend, found_append_cons]
      constructor
      · rintro ⟨keys₁, htake, hrest⟩
        rcases takeKey_eq_some.mp htake with ⟨h, -⟩ | ⟨-, hnone, k, hk, rfl⟩ | ⟨-, hnot, -⟩
        · exact absurd h hrecv
        · obtain ⟨h1, h2⟩ := ih.mp hrest
          exact ⟨h1, hnone, k, hk, h2⟩
        · exact absurd hsend hnot
      · rintro ⟨h1, hnone, k, hk, h2⟩
        exact ⟨⟨keys.recv, some k⟩, takeKey_eq_some.mpr (.inr (.inl ⟨hsend, hnone, k, hk, rfl⟩)),
          ih.mpr ⟨h1, h2⟩⟩
    · rw [if_neg hsend, ← ih]
      constructor
      · rintro ⟨keys₁, htake, hrest⟩
        rcases takeKey_eq_some.mp htake with ⟨h, -⟩ | ⟨h, -⟩ | ⟨-, -, rfl⟩
        · exact absurd h hrecv
        · exact absurd h hsend
        · exact hrest
      · intro h
        exact ⟨keys, takeKey_eq_some.mpr (.inr (.inr ⟨hrecv, hsend, rfl⟩)), h⟩

/-- the nested loops are one loop over all items -/
theorem takeKeys_eq (attrs : List Tlv) (keys : Keys) : takeKeys md5 mem reqAuth secret attrs keys =
    (attrs.flatMap vsaItems).foldlM (takeKey md5 mem reqAuth secret) keys := by
  unfold takeKeys
  induction attrs generalizing keys with
  | nil => rfl
  | cons a attrs ih =>
    rw [List.foldlM_cons, List.flatMap_cons, List.foldlM_append]
    congr 1
    funext keys'
    exact ih keys'

/-! ## the MSK -/

/-- one Recv-Key and one Send-Key, both of 16 or both of 32 octets; the MSK is padded to 64 -/
def MskOf (md5 : Bytes → Octets 16) (mem : Bool) (reqAuth : Octets 16) (secret : Bytes)
    (resp : Response) (m : Bytes) : Prop :=
  mem = true ∧ resp.code = codeAccessAccept ∧ ∃ recv send,
    keysOf md5 mem reqAuth secret vsaMsMppeRecvKey (resp.attrs.flatMap vsaItems) = [some recv]
    ∧ keysOf md5 mem reqAuth secret vsaMsMppeSendKey (resp.attrs.flatMap vsaItems) = [some send]
    ∧ (recv.length = 16 ∨ recv.length = 32) ∧ send.length = recv.length
    ∧ m = recv ++ send ++ List.replicate (64 - 2 * recv.length) 0

theorem msk_eq_some {resp : Response} {m : Bytes} :
    msk md5 mem reqAuth secret resp = some m ↔ MskOf md5 mem reqAuth secret resp m := by
  unfold msk MskOf
  constructor
  · intro h
    split at h
    · cases h
    next hcode =>
    split at h
    · next recv send hkeys =>
      rw [takeKeys_eq, takeKey_foldlM] at hkeys
      split at h
      · cases h
      split at h
      · cases h
      split at h
      · cases h
      next hsame =>
      split at h
      · cases h
      next hmem =>
      rw [Bool.not_eq_true', Bool.not_eq_false] at hmem
      refine ⟨hmem, not_not.mp hcode, recv, send, hkeys.1, hkeys.2, by omega, by omega, ?_⟩
      rw [← Option.some.inj h, not_not.mp hsame, Nat.sub_sub, Nat.two_mul]
    · cases h
  · rintro ⟨rfl, hcode, recv, send, hrecv, hsend, hlen, hsame, rfl⟩
    have hkeys : takeKeys md5 true reqAuth secret resp.attrs ⟨none, none⟩ =
        some ⟨some recv, some send⟩ := by
      rw [takeKeys_eq]
      exact takeKey_foldlM.mpr ⟨hrecv, hsend⟩
    rw [if_neg (not_not_intro hcode), hkeys]
    dsimp only
    rw [if_neg (by omega), if_neg (by omega), if_neg (by omega), if_neg (by decide), Nat.sub_sub,
      hsame, Nat.two_mul]

/-- only the attributes of Microsoft have items -/
theorem flatMap_vsaItems (attrs : List Tlv) :
    attrs.flatMap vsaItems = (attrs.filter isMicrosoft).flatMap vsaItems := by
  induction attrs with
  | nil => rfl
  | cons a attrs ih =>
    rw [List.flatMap_cons, ih, List.filter_cons]
    by_cases h : isMicrosoft a = true
    · rw [if_pos h, List.flatMap_cons]
    · rw [if_neg h, vsaItems, if_neg h, List.nil_append]

theorem keysOf_perm {type : UInt8} {attrs attrs' : List Tlv}
    (h : (attrs.filter isMicrosoft).Perm (attrs'.filter isMicrosoft)) :
    (keysOf md5 mem reqAuth secret type (attrs.flatMap vsaItems)).Perm
      (keysOf md5 mem reqAuth secret type (attrs'.flatMap vsaItems)) := by
  rw [flatMap_vsaItems attrs, flatMap_vsaItems attrs']
  exact ((h.flatMap_right vsaItems).filter _).map _

/-- the order of the attributes does not matter, nor those of others -/
theorem mskOf_perm {resp resp' : Response} {m : Bytes} (hcode : resp.code = resp'.code)
    (h : (resp.attrs.filter isMicrosoft).Perm (resp'.attrs.filter isMicrosoft))
    (hm : MskOf md5 mem reqAuth secret resp m) : MskOf md5 mem reqAuth secret resp' m := by
  obtain ⟨hmem, hcode', recv, send, hrecv, hsend, hrest⟩ := hm
  refine ⟨hmem, hcode.symm.trans hcode', recv, send, ?_, ?_, hrest⟩
  · exact List.singleton_perm.mp (hrecv ▸ keysOf_perm h) |>.symm
  · exact List.singleton_perm.mp (hsend ▸ keysOf_perm h) |>.symm

end

/-- a wrapped key comes back, an empty one and a salt whose first bit is clear are refused, and the MSK
is the receive key and the send key, if there is one of each, whatever else stands between them and in
which order they come -/
theorem mppe_keys_recovered (md5 : Bytes → Octets 16) (mem : Bool) (reqAuth : Octets 16)
    (secret : Bytes) :
    (∀ (salt : Octets 2) (key pad : Bytes), byteAt salt.1 0 &&& 0x80 ≠ 0 → 1 ≤ key.length →
      key.length ≤ 239 → (1 + key.length + pad.length) % 16 = 0 →
      decryptMppe md5 true reqAuth secret (mppeWrap md5 reqAuth secret salt key pad) = some key) ∧
    (∀ (salt : Octets 2) (pad : Bytes), (1 + pad.length) % 16 = 0 →
      decryptMppe md5 mem reqAuth secret (mppeWrap md5 reqAuth secret salt [] pad) = none) ∧
    (∀ (salt : Octets 2) (key pad : Bytes), byteAt salt.1 0 &&& 0x80 = 0 →
      decryptMppe md5 mem reqAuth secret (mppeWrap md5 reqAuth secret salt key pad) = none) ∧
    (∀ resp m, msk md5 mem reqAuth secret resp = some m ↔ MskOf md5 mem reqAuth secret resp m) ∧
    (∀ resp resp' : Response, resp.code = resp'.code →
      (resp.attrs.filter isMicrosoft).Perm (resp'.attrs.filter isMicrosoft) →
      msk md5 mem reqAuth secret resp = msk md5 mem reqAuth secret resp') := by
  refine ⟨fun salt key pad hsalt hmin hmax hpad => ?_, fun salt pad hpad => decryptMppe_empty hpad,
    fun salt key pad hsalt => decryptMppe_salt hsalt, fun resp m => msk_eq_some,
    fun resp resp' hcode h => ?_⟩
  · rw [decryptMppe_mppeWrap hsalt hmax hpad, if_neg (Nat.ne_of_gt hmin)]
  · apply Option.ext
    intro m
    rw [msk_eq_some, msk_eq_some]
    exact ⟨mskOf_perm hcode h, mskOf_perm hcode.symm h.symm⟩

/-- the number of octets, as a digest -/
def lengthDigest (b : Bytes) : Octets 16 := ⟨List.replicate 16 (UInt8.ofNat b.length), rfl⟩

theorem mppeSalt_length : ([0x80, 1] : Bytes).length = 2 := rfl

def mppeSalt : Octets 2 := ⟨[0x80, 1], mppeSalt_length⟩

/-- a Vendor-Specific attribute of Microsoft with a key of 16 octets -/
def mppeAttr (type : UInt8) : Tlv :=
  ⟨26, [0, 0, 1, 55, type, 36] ++ mppeWrap lengthDigest zeros [115] mppeSalt (List.replicate 16 type)
    (List.replicate 15 0)⟩

/-- a key of 16 octets behind a salt whose first bit is set, and two attributes of Microsoft in both
orders with another attribute between them -/
theorem mppe_keys_recovered_short :
    decryptMppe lengthDigest true zeros [115] (mppeWrap lengthDigest zeros [115]
      mppeSalt (List.replicate 16 9) (List.replicate 15 0)) = some (List.replicate 16 9) ∧
    msk lengthDigest true zeros [115] ⟨2, 9, [], [], [mppeAttr 17, ⟨79, [3]⟩, mppeAttr 16]⟩ =
        msk lengthDigest true zeros [115] ⟨2, 9, [], [], [mppeAttr 16, mppeAttr 17]⟩ ∧
      (msk lengthDigest true zeros [115] ⟨2, 9, [], [], [mppeAttr 16, mppeAttr 17]⟩).isSome = true :=
  ⟨(mppe_keys_recovered lengthDigest true zeros [115]).1 mppeSalt (List.replicate 16 9)
      (List.replicate 15 0) (by decide) (by decide) (by decide) (by decide),
    (mppe_keys_recovered lengthDigest true zeros [115]).2.2.2.2 _ _ rfl (List.Perm.swap _ _ []),
    by decide⟩

/-- an empty key and a salt whose first bit is clear are refused -/
theorem mppe_refused :
    decryptMppe lengthDigest true zeros [115] (mppeWrap lengthDigest zeros [115]
      mppeSalt [] (List.replicate 15 0)) = none ∧
    decryptMppe lengthDigest true zeros [115] (mppeWrap lengthDigest zeros [115]
      ⟨[0x7F, 1], rfl⟩ (List.replicate 16 9) (List.replicate 15 0)) = none := by
  decide

end Radius
