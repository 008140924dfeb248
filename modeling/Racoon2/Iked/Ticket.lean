import Racoon2.Iked.TicketReplay
import Racoon2.Lib.Codec

/-!
# Tickets by value

`r2tick_pack` and `r2tick_unpack`, the plaintext of a ticket, and `r2ticket_create` and
`r2ticket_parse`, which seal it with AES-256-GCM below a header in the clear.

* `ticketCodec`        the fields in their order;
* `unpack_iff`         what is accepted is what would be packed;
* `IdealAead`          nothing opens but what was sealed;
* `ticketParse_iff`    the tickets that are accepted;
* `ticket_codec`       both.

SK_d has a length of one octet, and a field without octets is one that is absent.
-/

set_option linter.unusedVariables false

namespace Ikev2
open Bytes

/-! ## the plaintext -/

/-- `struct r2ticket_state` -/
structure TicketState where
  expiresAt : UInt32
  authMethod : UInt8
  spiI : UInt64
  spiR : UInt64
  sa : Option Bytes
  idi : Option Bytes
  idr : Option Bytes
  skD : Option Bytes
  certDue : UInt32
  deriving DecidableEq, Repr

/-- the layout: `expires_at`, `auth_method`, both SPIs, `sa`, `idi`, `idr`, `sk_d`, `cert_due` -/
def ticketCodec : Codec (Nat × Nat × Nat × Nat × Option Bytes × Option Bytes × Option Bytes
    × Option Bytes × Nat) :=
  .both (.number 4) (.both (.number 1) (.both (.number 8) (.both (.number 8) (.both (.field 2)
    (.both (.field 2) (.both (.field 2) (.both (.field 1) (.number 4))))))))

def TicketState.fields (s : TicketState) : Nat × Nat × Nat × Nat × Option Bytes × Option Bytes
    × Option Bytes × Option Bytes × Nat :=
  (s.expiresAt.toNat, s.authMethod.toNat, s.spiI.toNat, s.spiR.toNat, s.sa, s.idi, s.idr, s.skD,
    s.certDue.toNat)

def TicketState.ofFields (x : Nat × Nat × Nat × Nat × Option Bytes × Option Bytes
    × Option Bytes × Option Bytes × Nat) : TicketState :=
  match x with
  | (expiresAt, authMethod, spiI, spiR, sa, idi, idr, skD, certDue) =>
    ⟨.ofNat expiresAt, .ofNat authMethod, .ofNat spiI, .ofNat spiR, sa, idi, idr, skD,
      .ofNat certDue⟩

/-- the lengths that `r2tick_pack` accepts -/
def TicketState.Fits (s : TicketState) : Prop :=
  ((s.sa.getD []).length ≤ 65535 ∧ (s.idi.getD []).length ≤ 65535 ∧ (s.idr.getD []).length ≤ 65535)
    ∧ (s.skD.getD []).length ≤ 255

instance TicketState.Fits.decidable (s : TicketState) : Decidable s.Fits :=
  inferInstanceAs (Decidable (_ ∧ _))

/-- `r2tick_pack` -/
def r2tickPack (s : TicketState) : Option Bytes :=
  if s.Fits then some (ticketCodec.write s.fields) else none

/-- `r2tick_unpack` -/
def r2tickUnpack (b : Bytes) : Option TicketState := (ticketCodec.readAll b).map .ofFields

/-- a field of no octets is absent -/
def present (f : Option Bytes) : Option Bytes := if f = some [] then none else f

def TicketState.normal (s : TicketState) : TicketState :=
  { s with sa := present s.sa, idi := present s.idi, idr := present s.idr, skD := present s.skD }

/-- no field is there without octets -/
def TicketState.Canonical (s : TicketState) : Prop :=
  s.sa ≠ some [] ∧ s.idi ≠ some [] ∧ s.idr ≠ some [] ∧ s.skD ≠ some []

section
variable {s : TicketState} {b : Bytes}

theorem ofFields_fields (s : TicketState) : TicketState.ofFields s.fields = s := by
  unfold TicketState.ofFields TicketState.fields
  simp only [UInt32.ofNat_toNat, UInt8.ofNat_toNat, UInt64.ofNat_toNat]

/-- the fields of a valid input survive their types -/
theorem fields_ofFields {x : Nat × Nat × Nat × Nat × Option Bytes × Option Bytes
    × Option Bytes × Option Bytes × Nat} (h : ticketCodec.Valid x) :
    (TicketState.ofFields x).fields = x := by
  obtain ⟨expiresAt, authMethod, spiI, spiR, sa, idi, idr, skD, certDue⟩ := x
  obtain ⟨h1, h2, h3, h4, _, _, _, _, h9⟩ := h
  have e1 : (UInt32.ofNat expiresAt).toNat = expiresAt := UInt32.toNat_ofNat_of_lt' h1
  have e2 : (UInt8.ofNat authMethod).toNat = authMethod := UInt8.toNat_ofNat_of_lt' h2
  have e3 : (UInt64.ofNat spiI).toNat = spiI := UInt64.toNat_ofNat_of_lt' h3
  have e4 : (UInt64.ofNat spiR).toNat = spiR := UInt64.toNat_ofNat_of_lt' h4
  have e9 : (UInt32.ofNat certDue).toNat = certDue := UInt32.toNat_ofNat_of_lt' h9
  show (_, _, _, _, sa, idi, idr, skD, _) = _
  simp only [TicketState.ofFields, e1, e2, e3, e4, e9]

theorem valid_fields : ticketCodec.Valid s.fields ↔ s.Canonical ∧ s.Fits := by
  have h1 : s.expiresAt.toNat < 256 ^ 4 := s.expiresAt.toNat_lt
  have h2 : s.authMethod.toNat < 256 ^ 1 := s.authMethod.toNat_lt
  have h3 : s.spiI.toNat < 256 ^ 8 := s.spiI.toNat_lt
  have h4 : s.spiR.toNat < 256 ^ 8 := s.spiR.toNat_lt
  have h9 : s.certDue.toNat < 256 ^ 4 := s.certDue.toNat_lt
  unfold TicketState.Canonical TicketState.Fits
  constructor
  · rintro ⟨_, _, _, _, ⟨hsa, lsa⟩, ⟨hidi, lidi⟩, ⟨hidr, lidr⟩, ⟨hskd, lskd⟩, _⟩
    exact ⟨⟨hsa, hidi, hidr, hskd⟩,
      ⟨Nat.le_of_lt_succ lsa, Nat.le_of_lt_succ lidi, Nat.le_of_lt_succ lidr⟩,
      Nat.le_of_lt_succ lskd⟩
  · rintro ⟨⟨hsa, hidi, hidr, hskd⟩, ⟨lsa, lidi, lidr⟩, lskd⟩
    exact ⟨h1, h2, h3, h4, ⟨hsa, Nat.lt_succ_of_le lsa⟩, ⟨hidi, Nat.lt_succ_of_le lidi⟩,
      ⟨hidr, Nat.lt_succ_of_le lidr⟩, ⟨hskd, Nat.lt_succ_of_le lskd⟩, h9⟩

/-- what is accepted is what would be packed, no field empty -/
theorem unpack_iff : r2tickUnpack b = some s ↔ s.Canonical ∧ r2tickPack s = some b := by
  have hpack : r2tickPack s = some b ↔ s.Fits ∧ b = ticketCodec.write s.fields := by
    unfold r2tickPack
    split
    · rename_i hfits
      rw [Option.some.injEq]
      exact ⟨fun h => ⟨hfits, h.symm⟩, fun h => h.2.symm⟩
    · rename_i hfits
      exact ⟨fun h => (nomatch h), fun h => absurd h.1 hfits⟩
  rw [hpack, ← and_assoc, ← valid_fields]
  unfold r2tickUnpack
  rw [Option.map_eq_some_iff]
  constructor
  · rintro ⟨x, hread, rfl⟩
    obtain ⟨hvalid, hb⟩ := ticketCodec.readAll_iff.mp hread
    rw [fields_ofFields hvalid]
    exact ⟨hvalid, hb⟩
  · rintro ⟨hvalid, hb⟩
    exact ⟨s.fields, ticketCodec.readAll_iff.mpr ⟨hvalid, hb⟩, ofFields_fields s⟩

theorem present_ne (f : Option Bytes) : present f ≠ some [] := by
  unfold present
  split
  · intro h
    cases h
  · assumption

theorem present_getD (f : Option Bytes) : (present f).getD [] = f.getD [] := by
  unfold present
  split
  · rename_i hf
    rw [hf]
    rfl
  · rfl

/-- absent or without octets makes no difference for the plaintext -/
theorem pack_normal (s : TicketState) : r2tickPack s.normal = r2tickPack s := by
  have hfits : s.normal.Fits ↔ s.Fits := by
    unfold TicketState.Fits
    simp only [TicketState.normal, present_getD]
  have hwrite : ticketCodec.write s.normal.fields = ticketCodec.write s.fields := by
    simp only [TicketState.fields, TicketState.normal, ticketCodec, Codec.both, Codec.field,
      present_getD]
  unfold r2tickPack
  simp only [hfits, hwrite]

/-- a ticket state comes back, with its empty fields absent -/
theorem unpack_pack (h : r2tickPack s = some b) : r2tickUnpack b = some s.normal := by
  rw [unpack_iff, pack_normal]
  exact ⟨⟨present_ne _, present_ne _, present_ne _, present_ne _⟩, h⟩

end

/-! ## the ticket -/

def r2tickVersion : UInt8 := 1
def r2tickHdrLen : Nat := 24
def r2tickTagLen : Nat := 16

/-- HMAC-SHA-256 for the subkey, and AES-256-GCM with its key, IV, header and plaintext -/
structure TicketAead where
  hmac : Bytes → Bytes → Bytes
  encrypt : Bytes → Bytes → Bytes → Bytes → Bytes × Bytes
  decrypt : Bytes → Bytes → Bytes → Bytes → Bytes → Option Bytes

/-- a call of `r2ticket_create`, with the IV it draws -/
structure Mint where
  tkey : Bytes
  keyId : Bytes
  iv : Bytes
  state : TicketState
  keyId_length : keyId.length = 8
  iv_length : iv.length = 12

/-- the header in the clear, which the tag covers -/
def ticketHeader (keyId : Bytes) : Bytes := [r2tickVersion, 0, 0, 0] ++ keyId

/-- `r2ticket_create` -/
def ticketCreate (a : TicketAead) (m : Mint) : Option Bytes :=
  if m.tkey.length ≠ 32 then none
  else match r2tickPack m.state with
    | none => none
    | some plain =>
      let sealed := a.encrypt (a.hmac m.tkey m.keyId) m.iv (ticketHeader m.keyId) plain
      some (ticketHeader m.keyId ++ m.iv ++ sealed.1 ++ sealed.2)

/-- `r2ticket_parse` -/
def ticketParse (a : TicketAead) (tkey ticket : Bytes) (now : UInt32) : Option TicketState :=
  if tkey.length ≠ 32 ∨ ticket.length < r2tickHdrLen + r2tickTagLen then none
  else if byteAt ticket 0 ≠ r2tickVersion then none
  else
    let bodylen := ticket.length - r2tickHdrLen - r2tickTagLen
    match a.decrypt (a.hmac tkey (slice ticket 4 8)) (slice ticket 12 12) (slice ticket 0 12)
        (slice ticket r2tickHdrLen bodylen) (slice ticket (r2tickHdrLen + bodylen) r2tickTagLen) with
    | none => none
    | some plain =>
      match r2tickUnpack plain with
      | none => none
      | some st => if ticketExpired st.expiresAt.toNat now.toNat then none else some st

/-- the ideal of both: nothing opens but what a call of `r2ticket_create` sealed, and two ticket
keys have different subkeys -/
structure IdealAead (a : TicketAead) (mints : List Mint) : Prop where
  tag_length : ∀ key iv header plain, (a.encrypt key iv header plain).2.length = r2tickTagLen
  decrypt_iff : ∀ key iv header body tag plain, a.decrypt key iv header body tag = some plain ↔
    ∃ m ∈ mints, m.tkey.length = 32 ∧ a.hmac m.tkey m.keyId = key ∧ m.iv = iv
      ∧ ticketHeader m.keyId = header ∧ r2tickPack m.state = some plain
      ∧ a.encrypt key iv header plain = (body, tag)
  subkey_inj : ∀ m ∈ mints, ∀ tkey, m.tkey.length = 32 → tkey.length = 32 →
    a.hmac tkey m.keyId = a.hmac m.tkey m.keyId → tkey = m.tkey

section
variable {a : TicketAead} {mints : List Mint} {tkey ticket : Bytes} {now : UInt32}

/-- the lengths cut a ticket where they were put together -/
theorem ticket_slices {header iv body tag : Bytes} (hheader : header.length = 12)
    (hiv : iv.length = 12) (htag : tag.length = r2tickTagLen)
    (h : ticket = header ++ iv ++ body ++ tag) :
    ticket.length = r2tickHdrLen + body.length + r2tickTagLen
    ∧ slice ticket 0 12 = header ∧ slice ticket 12 12 = iv
    ∧ slice ticket r2tickHdrLen body.length = body
    ∧ slice ticket (r2tickHdrLen + body.length) r2tickTagLen = tag := by
  have hlen : ticket.length = r2tickHdrLen + body.length + r2tickTagLen := by
    rw [h, List.length_append, List.length_append, List.length_append, hheader, hiv, htag]
    rfl
  have hfirst : (header ++ iv).length = r2tickHdrLen := by
    rw [List.length_append, hheader, hiv]
    rfl
  refine ⟨hlen, ?_, ?_, ?_, ?_⟩
  · rw [h, List.append_assoc, List.append_assoc]
    exact slice_zero_append _ _ _ hheader
  · have hright := slice_append_right header (iv ++ (body ++ tag)) 0 12
    rw [hheader] at hright
    rw [h, List.append_assoc, List.append_assoc]
    exact hright.trans (slice_zero_append _ _ _ hiv)
  · have hright := slice_append_right (header ++ iv) (body ++ tag) 0 body.length
    rw [hfirst] at hright
    rw [h, List.append_assoc]
    exact hright.trans (slice_zero_append _ _ _ rfl)
  · have hright := slice_append_right (header ++ iv ++ body) tag 0 r2tickTagLen
    rw [List.length_append, hfirst] at hright
    have hall := slice_zero_append tag [] r2tickTagLen htag
    rw [List.append_nil] at hall
    rw [h]
    exact hright.trans hall

/-- a ticket is what its slices are -/
theorem ticket_of_slices (hlen : r2tickHdrLen + r2tickTagLen ≤ ticket.length) :
    ticket = slice ticket 0 12 ++ slice ticket 12 12
      ++ slice ticket r2tickHdrLen (ticket.length - r2tickHdrLen - r2tickTagLen)
      ++ slice ticket (r2tickHdrLen + (ticket.length - r2tickHdrLen - r2tickTagLen))
        r2tickTagLen := by
  have hwhole : 24 + (ticket.length - r2tickHdrLen - r2tickTagLen) + r2tickTagLen = ticket.length := by
    unfold r2tickHdrLen r2tickTagLen at *
    omega
  have h1 := slice_add ticket 0 12 12
  have h2 := slice_add ticket 0 24 (ticket.length - r2tickHdrLen - r2tickTagLen)
  have h3 := slice_add ticket 0 (24 + (ticket.length - r2tickHdrLen - r2tickTagLen)) r2tickTagLen
  rw [Nat.zero_add] at h1 h2 h3
  rw [h1]
  show ticket = slice ticket 0 24 ++ slice ticket 24 _ ++ slice ticket (24 + _) _
  rw [h2, h3, hwhole]
  unfold slice
  rw [List.drop_zero, List.take_length]

theorem ticketHeader_keyId {keyId : Bytes} (h : keyId.length = 8) :
    slice (ticketHeader keyId) 4 8 = keyId := by
  have hright := slice_append_right [r2tickVersion, 0, 0, 0] keyId 0 8
  have hall := slice_zero_append keyId [] 8 h
  rw [List.append_nil] at hall
  exact hright.trans hall

/-- the header of a ticket decides its version and its key ID -/
theorem header_parts {m : Mint} (h : slice ticket 0 12 = ticketHeader m.keyId) :
    byteAt ticket 0 = r2tickVersion ∧ slice ticket 4 8 = m.keyId := by
  have htake : slice ticket 0 12 = ticket.take 12 := by
    unfold slice
    rw [List.drop_zero]
  rw [htake] at h
  constructor
  · rw [← byteAt_take ticket 12 0 (by decide), h]
    rfl
  · rw [← slice_take ticket 4 8 12 (by decide), h]
    exact ticketHeader_keyId m.keyId_length

theorem ticketCreate_eq_some {m : Mint} : ticketCreate a m = some ticket ↔
    m.tkey.length = 32 ∧ ∃ plain body tag, r2tickPack m.state = some plain
      ∧ a.encrypt (a.hmac m.tkey m.keyId) m.iv (ticketHeader m.keyId) plain = (body, tag)
      ∧ ticket = ticketHeader m.keyId ++ m.iv ++ body ++ tag := by
  unfold ticketCreate
  by_cases hkey : m.tkey.length = 32
  · rw [if_neg (not_not.mpr hkey)]
    cases r2tickPack m.state with
    | none => simp
    | some plain =>
      simp only [Option.some.injEq, hkey, true_and]
      constructor
      · rintro rfl
        exact ⟨plain, _, _, rfl, rfl, rfl⟩
      · rintro ⟨_, body, tag, rfl, hsealed, rfl⟩
        rw [hsealed]
  · rw [if_pos hkey]
    simp [hkey]

/-- what `r2ticket_parse` opens, and asks of it -/
theorem ticketParse_eq_some {st : TicketState} : ticketParse a tkey ticket now = some st ↔
    (tkey.length = 32 ∧ r2tickHdrLen + r2tickTagLen ≤ ticket.length)
    ∧ byteAt ticket 0 = r2tickVersion
    ∧ (∃ plain, a.decrypt (a.hmac tkey (slice ticket 4 8)) (slice ticket 12 12) (slice ticket 0 12)
          (slice ticket r2tickHdrLen (ticket.length - r2tickHdrLen - r2tickTagLen))
          (slice ticket (r2tickHdrLen + (ticket.length - r2tickHdrLen - r2tickTagLen)) r2tickTagLen)
            = some plain
        ∧ r2tickUnpack plain = some st)
    ∧ ticketExpired st.expiresAt.toNat now.toNat = false := by
  unfold ticketParse
  by_cases hlen : tkey.length ≠ 32 ∨ ticket.length < r2tickHdrLen + r2tickTagLen
  · rw [if_pos hlen]
    refine ⟨fun h => absurd h.symm (Option.some_ne_none _), fun h => ?_⟩
    rcases hlen with hkey | hshort
    · exact absurd h.1.1 hkey
    · exact absurd h.1.2 (Nat.not_le.mpr hshort)
  rw [not_or, not_not, Nat.not_lt] at hlen
  rw [if_neg (by rw [not_or, not_not, Nat.not_lt]; exact hlen)]
  by_cases hversion : byteAt ticket 0 = r2tickVersion
  · rw [if_neg (not_not.mpr hversion)]
    dsimp only
    cases a.decrypt _ _ _ _ _ with
    | none => simp
    | some plain =>
      cases hunpack : r2tickUnpack plain with
      | none => simp [hunpack]
      | some st' =>
        simp only [hunpack]
        constructor
        · intro h
          split at h
          · cases h
          · next hexpired =>
            cases h
            exact ⟨hlen, hversion, ⟨plain, rfl, hunpack⟩, Bool.not_eq_true _ ▸ hexpired⟩
        · rintro ⟨_, _, ⟨_, hplain, hst⟩, hexpired⟩
          rw [← Option.some.inj hplain, hunpack] at hst
          obtain rfl := Option.some.inj hst
          exact if_neg (by rw [hexpired]; simp)
  · rw [if_pos hversion]
    exact ⟨fun h => absurd h.symm (Option.some_ne_none _), fun h => absurd h.2.1 hversion⟩

/-- the tickets that are accepted: those that were made under the same key, until they expire -/
theorem ticketParse_iff (hideal : IdealAead a mints) {st : TicketState} :
    ticketParse a tkey ticket now = some st ↔
      ∃ m ∈ mints, m.tkey = tkey ∧ ticketCreate a m = some ticket ∧ m.state.normal = st
        ∧ ticketExpired m.state.expiresAt.toNat now.toNat = false := by
  rw [ticketParse_eq_some]
  constructor
  · rintro ⟨⟨hlen, hsize⟩, _, ⟨plain, hopen, hunpack⟩, hexpired⟩
    obtain ⟨m, hm, hkey, hsub, hiv, hheader, hpack, hsealed⟩ :=
      (hideal.decrypt_iff _ _ _ _ _ _).mp hopen
    rw [(header_parts hheader.symm).2] at hsub
    have htkey := hideal.subkey_inj m hm tkey hkey hlen hsub.symm
    have hstate : m.state.normal = st := by
      rw [unpack_pack hpack] at hunpack
      exact Option.some.inj hunpack
    refine ⟨m, hm, htkey.symm, ?_, hstate, ?_⟩
    · have hparts := ticket_of_slices hsize
      rw [(header_parts hheader.symm).2, htkey, ← hiv, ← hheader] at hsealed
      rw [← hheader, ← hiv] at hparts
      exact ticketCreate_eq_some.mpr ⟨hkey, plain, _, _, hpack, hsealed, hparts⟩
    · rw [← hstate] at hexpired
      exact hexpired
  · rintro ⟨m, hm, rfl, hcreate, rfl, hexpired⟩
    obtain ⟨hkey, plain, body, tag, hpack, hsealed, hticket⟩ := ticketCreate_eq_some.mp hcreate
    have htag : tag.length = r2tickTagLen := by
      have h := hideal.tag_length (a.hmac m.tkey m.keyId) m.iv (ticketHeader m.keyId) plain
      rw [hsealed] at h
      exact h
    have hheader : (ticketHeader m.keyId).length = 12 := by
      unfold ticketHeader
      rw [List.length_append, m.keyId_length]
      rfl
    obtain ⟨hlen, hh, hi, hb, ht⟩ := ticket_slices hheader m.iv_length htag hticket
    have hbody : ticket.length - r2tickHdrLen - r2tickTagLen = body.length := by omega
    have hopen : a.decrypt (a.hmac m.tkey m.keyId) m.iv (ticketHeader m.keyId) body tag
        = some plain :=
      (hideal.decrypt_iff _ _ _ _ _ _).mpr ⟨m, hm, hkey, rfl, rfl, rfl, hpack, hsealed⟩
    refine ⟨⟨hkey, by omega⟩, (header_parts hh).1, ⟨plain, ?_, unpack_pack hpack⟩, hexpired⟩
    rw [hbody, (header_parts hh).2, hh, hi, hb, ht]
    exact hopen

end

/-- a state that fits comes back with its empty fields absent, only what would be packed is
accepted, and a ticket is accepted when it was made under the same key and is not expired -/
theorem ticket_codec :
    (∀ s : TicketState, s.Fits → ∃ b, r2tickPack s = some b ∧ r2tickUnpack b = some s.normal)
    ∧ (∀ s : TicketState, s.Canonical → s.normal = s)
    ∧ (∀ b s, r2tickUnpack b = some s → r2tickPack s = some b)
    ∧ ∀ a mints, IdealAead a mints → ∀ tkey ticket now st,
      ticketParse a tkey ticket now = some st ↔
        ∃ m ∈ mints, m.tkey = tkey ∧ ticketCreate a m = some ticket ∧ m.state.normal = st
          ∧ ticketExpired m.state.expiresAt.toNat now.toNat = false := by
  refine ⟨fun s hfits => ?_, fun s hcanonical => ?_, fun b s h => (unpack_iff.mp h).2,
    fun a mints hideal tkey ticket now st => ticketParse_iff hideal⟩
  · have hpack : r2tickPack s = some (ticketCodec.write s.fields) := if_pos hfits
    exact ⟨_, hpack, unpack_pack hpack⟩
  · obtain ⟨hsa, hidi, hidr, hskd⟩ := hcanonical
    unfold TicketState.normal present
    rw [if_neg hsa, if_neg hidi, if_neg hidr, if_neg hskd]

def sampleState : TicketState := ⟨2000, 2, 5, 6, none, some [9], none, some [7], 0⟩

def sampleMint : Mint where
  tkey := List.replicate 32 0
  keyId := [1, 2, 3, 4, 5, 6, 7, 8]
  iv := List.replicate 12 0
  state := sampleState
  keyId_length := rfl
  iv_length := rfl

def samplePlain : Bytes :=
  [0, 0, 7, 208, 2, 0, 0, 0, 0, 0, 0, 0, 5, 0, 0, 0, 0, 0, 0, 0, 6, 0, 0, 0, 1, 9, 0, 0, 1, 7, 0, 0,
    0, 0]

/-- HMAC-SHA-256 of the key ID under the ticket key -/
def sampleSubkey : Bytes :=
  [197, 154, 6, 60, 205, 120, 248, 239, 125, 162, 227, 97, 245, 2, 113, 69, 196, 149, 240, 114, 143,
    5, 117, 254, 95, 229, 88, 64, 218, 174, 250, 81]

/-- AES-256-GCM of the plaintext -/
def sampleBody : Bytes :=
  [52, 227, 175, 166, 103, 233, 235, 237, 123, 67, 150, 24, 254, 177, 180, 47, 146, 245, 139, 245,
    43, 126, 67, 136, 231, 46, 51, 103, 82, 97, 72, 29, 222, 32]

def sampleTag : Bytes := [131, 64, 4, 26, 121, 156, 200, 251, 168, 216, 28, 135, 253, 184, 190, 34]

/-- the AEAD after one ticket -/
def sampleAead : TicketAead where
  hmac := fun key keyId =>
    if key = sampleMint.tkey ∧ keyId = sampleMint.keyId then sampleSubkey else []
  encrypt := fun key iv header plain =>
    if key = sampleSubkey ∧ iv = sampleMint.iv ∧ header = ticketHeader sampleMint.keyId
      ∧ plain = samplePlain then (sampleBody, sampleTag)
    else ([], List.replicate 16 0)
  decrypt := fun key iv header body tag =>
    if key = sampleSubkey ∧ iv = sampleMint.iv ∧ header = ticketHeader sampleMint.keyId
      ∧ body = sampleBody ∧ tag = sampleTag then some samplePlain
    else none

theorem samplePlain_eq : r2tickPack sampleMint.state = some samplePlain := by
  decide

theorem sampleAead_hmac : sampleAead.hmac sampleMint.tkey sampleMint.keyId = sampleSubkey := by
  decide

theorem sampleAead_encrypt : sampleAead.encrypt sampleSubkey sampleMint.iv
    (ticketHeader sampleMint.keyId) samplePlain = (sampleBody, sampleTag) := by
  decide

theorem sampleAead_ideal : IdealAead sampleAead [sampleMint] where
  tag_length := by
    intro key iv header plain
    unfold sampleAead
    simp only
    split <;> rfl
  decrypt_iff := by
    intro key iv header body tag plain
    constructor
    · intro h
      unfold sampleAead at h
      simp only at h
      split at h
      · rename_i hparts
        obtain ⟨rfl, rfl, rfl, rfl, rfl⟩ := hparts
        rw [← Option.some.inj h]
        exact ⟨sampleMint, List.mem_singleton_self _, rfl, sampleAead_hmac, rfl, rfl,
          samplePlain_eq, sampleAead_encrypt⟩
      · cases h
    · rintro ⟨m, hm, _, hkey, rfl, rfl, hplain, henc⟩
      rw [List.mem_singleton.mp hm] at hkey hplain henc ⊢
      rw [sampleAead_hmac] at hkey
      rw [samplePlain_eq, Option.some.injEq] at hplain
      rw [← hkey, ← hplain, sampleAead_encrypt, Prod.mk.injEq] at henc
      rw [← hkey, ← hplain, ← henc.1, ← henc.2]
      decide
  subkey_inj := by
    intro m hm tkey _ _ h
    rw [List.mem_singleton.mp hm] at h ⊢
    by_contra hne
    have hother : sampleAead.hmac tkey sampleMint.keyId = [] := if_neg fun hand => hne hand.1
    rw [hother, sampleAead_hmac] at h
    cases h

theorem ticket_codec_sample :
    ∃ ticket, ticketCreate sampleAead sampleMint = some ticket
      ∧ ticketParse sampleAead sampleMint.tkey ticket 1999 = some sampleState := by
  obtain ⟨_, hcanonical, _, hparse⟩ := ticket_codec
  have hcreate : ticketCreate sampleAead sampleMint
      = some (ticketHeader sampleMint.keyId ++ sampleMint.iv ++ sampleBody ++ sampleTag) := by
    decide
  refine ⟨_, hcreate, ?_⟩
  rw [hparse sampleAead [sampleMint] sampleAead_ideal]
  refine ⟨sampleMint, List.mem_singleton_self _, rfl, hcreate, ?_, by decide⟩
  apply hcanonical
  exact ⟨by decide, by decide, by decide, by decide⟩

/-- an SK_d of 256 octets fits in 16 bits, and there is no ticket for it -/
theorem long_skd_no_ticket :
    ¬ ∀ s : TicketState, (s.sa.getD []).length ≤ 65535 → (s.idi.getD []).length ≤ 65535 →
      (s.idr.getD []).length ≤ 65535 → (s.skD.getD []).length ≤ 65535 →
      (r2tickPack s).bind r2tickUnpack = some s := by
  intro h
  have hlong := h { sampleState with skD := some (List.replicate 256 0) } (by decide) (by decide)
    (by decide) (by decide +kernel)
  have hnone : r2tickPack { sampleState with skD := some (List.replicate 256 0) } = none := by
    decide +kernel
  rw [hnone] at hlong
  cases hlong

end Ikev2
