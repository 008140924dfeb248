import Mathlib.Data.List.DropRight
import Racoon2.Lib.Prefix

/-!
# The redirect notifies

A gateway that is drained answers IKE_SA_INIT with N(REDIRECT), which names another gateway and
echoes the nonce of the request (RFC 5685).  The client then names the first gateway to the second
in N(REDIRECTED_FROM).

* `GwIdent`                     type and octets of a gateway identity;
* `buildRedirectNotifyData`, `parseRedirectNotifyData`, `buildRedirectedFromData`    the data;
* `poolSelect`                  the member of a pool of gateways for a client;
* `redirect_wire_format`        the parser takes exactly what the writers write;
* `pool_select_member`          the loops of the pool pick one member of the list.
-/

set_option linter.unusedVariables false

namespace Redirect
open Bytes

/-! ## addresses -/

/-- the address of a `struct sockaddr`; the other families have a number only -/
inductive Address where
  | inet (a : Octets 4)
  | inet6 (a : Octets 16)
  | other (family : UInt16)
  deriving DecidableEq

structure Sockaddr where
  addr : Address
  port : UInt16
  deriving DecidableEq

def Address.family : Address → UInt16
  | .inet _ => 2
  | .inet6 _ => 10
  | .other family => family

/-- the octets of the address -/
def Address.octets : Address → Bytes
  | .inet a => a.1
  | .inet6 a => a.1
  | .other _ => []

/-- `inet_pton` of the two families -/
structure InetPton where
  inet : Bytes → Option (Octets 4)
  inet6 : Bytes → Option (Octets 16)

/-- the octets of a buffer that are its C string -/
def cString (b : Bytes) : Bytes := b.takeWhile (· != 0)

/-! ## the data of the notifies -/

/-- GW Ident Type and identity -/
structure GwIdent where
  type : UInt8
  ident : Bytes
  deriving DecidableEq, Repr

def GwIdent.encode (g : GwIdent) : Bytes := g.type :: UInt8.ofNat g.ident.length :: g.ident

/-- the type of an identity in the configuration -/
def classify (pton : InetPton) (gw : Bytes) : Option GwIdent :=
  match pton.inet (cString gw) with
  | some a => some ⟨1, a.1⟩
  | none =>
    match pton.inet6 (cString gw) with
    | some a => some ⟨2, a.1⟩
    | none => if 255 < gw.length then none else some ⟨3, gw⟩

/-- `ikev2_build_redirect_notify_data` -/
def buildRedirectNotifyData (pton : InetPton) (gw ni : Bytes) : Option Bytes :=
  if gw.length = 0 ∨ 4096 < gw.length then none
  else (classify pton gw).map fun g => g.encode ++ ni

/-- the length that a type has; `none` for an unknown type -/
def identLength (type : UInt8) : Option (Nat → Bool) :=
  if type = 1 then some fun n => n == 4
  else if type = 2 then some fun n => n == 16
  else if type = 3 then some fun _ => true
  else none

/-- `ikev2_parse_redirect_notify_data` -/
def parseRedirectNotifyData : Bytes → Option (GwIdent × Bytes)
  | type :: idlen :: rest =>
    if idlen = 0 ∨ rest.length < idlen.toNat then none
    else
      match identLength type with
      | none => none
      | some fits =>
        if fits idlen.toNat then some (⟨type, rest.take idlen.toNat⟩, rest.drop idlen.toNat) else none
  | _ => none

/-- `ikev2_build_redirected_from_data` -/
def buildRedirectedFromData (g : GwIdent) : Option Bytes :=
  if g.ident.length = 0 then none
  else if g.type = 1 then if g.ident.length ≠ 4 then none else some g.encode
  else if g.type = 2 then if g.ident.length ≠ 16 then none else some g.encode
  else if g.type = 3 then if 255 < g.ident.length then none else some g.encode
  else none

/-- an identity that can be sent -/
def GwIdent.Fits (g : GwIdent) : Prop :=
  (g.type = 1 ∧ g.ident.length = 4) ∨ (g.type = 2 ∧ g.ident.length = 16)
    ∨ (g.type = 3 ∧ 0 < g.ident.length ∧ g.ident.length ≤ 255)

/-! ## the parser and the writers -/

section
variable {g : GwIdent} {gw ni data : Bytes} {pton : InetPton}

theorem GwIdent.Fits.length (h : g.Fits) : 0 < g.ident.length ∧ g.ident.length ≤ 255 := by
  rcases h with ⟨-, h⟩ | ⟨-, h⟩ | ⟨-, h⟩
  · omega
  · omega
  · exact h

theorem toNat_ofNat_length (h : g.Fits) : (UInt8.ofNat g.ident.length).toNat = g.ident.length := by
  have hle := h.length.2
  rw [UInt8.toNat_ofNat']
  omega

theorem fits_iff_identLength : g.Fits ↔ 0 < g.ident.length ∧ g.ident.length ≤ 255
    ∧ ∃ fits, identLength g.type = some fits ∧ fits g.ident.length = true := by
  unfold identLength
  constructor
  · intro h
    refine ⟨h.length.1, h.length.2, ?_⟩
    rcases h with ⟨ht, hl⟩ | ⟨ht, hl⟩ | ⟨ht, -⟩
    · exact ⟨_, if_pos ht, beq_iff_eq.mpr hl⟩
    · rw [ht]
      exact ⟨_, rfl, beq_iff_eq.mpr hl⟩
    · rw [ht]
      exact ⟨_, rfl, rfl⟩
  · rintro ⟨hpos, hle, fits, htype, hfits⟩
    split at htype
    · next ht =>
      obtain rfl := Option.some.inj htype
      exact .inl ⟨ht, beq_iff_eq.mp hfits⟩
    split at htype
    · next ht =>
      obtain rfl := Option.some.inj htype
      exact .inr (.inl ⟨ht, beq_iff_eq.mp hfits⟩)
    split at htype
    · next ht => exact .inr (.inr ⟨ht, hpos, hle⟩)
    · cases htype

/-- an identity is read back with what is behind it -/
theorem parse_encode (h : g.Fits) (ni : Bytes) : parseRedirectNotifyData (g.encode ++ ni) = some (g, ni) := by
  have hnat := toNat_ofNat_length h
  obtain ⟨hpos, hle, fits, htype, hfits⟩ := fits_iff_identLength.mp h
  have hno : ¬(UInt8.ofNat g.ident.length = 0
      ∨ (g.ident ++ ni).length < (UInt8.ofNat g.ident.length).toNat) := by
    rw [hnat, List.length_append]
    rintro (hzero | hlt)
    · rw [hzero] at hnat
      have : (0 : UInt8).toNat = 0 := rfl
      omega
    · omega
  show parseRedirectNotifyData (g.type :: UInt8.ofNat g.ident.length :: (g.ident ++ ni)) = _
  rw [parseRedirectNotifyData, if_neg hno, htype, hnat]
  show (if fits g.ident.length = true then _ else none) = _
  rw [if_pos hfits, List.take_left, List.drop_left]

theorem parse_eq_some_iff :
    parseRedirectNotifyData data = some (g, ni) ↔ g.Fits ∧ data = g.encode ++ ni := by
  constructor
  · intro h
    unfold parseRedirectNotifyData at h
    split at h
    · next type idlen rest =>
      split at h
      · cases h
      next hno =>
      rw [not_or, Nat.not_lt] at hno
      split at h
      · cases h
      next fits htype =>
      split at h
      · next hfits =>
        obtain ⟨rfl, rfl⟩ := Prod.mk.inj (Option.some.inj h)
        have hlen : (rest.take idlen.toNat).length = idlen.toNat := by
          rw [List.length_take, Nat.min_eq_left hno.2]
        have hpos : 0 < idlen.toNat := by
          rcases Nat.eq_zero_or_pos idlen.toNat with hzero | hpos
          · exact absurd (UInt8.toNat_inj.mp hzero) hno.1
          · exact hpos
        have hlt := idlen.toNat_lt
        refine ⟨fits_iff_identLength.mpr ⟨?_, ?_, fits, htype, ?_⟩, ?_⟩
        · rw [hlen]
          exact hpos
        · rw [hlen]
          omega
        · rw [hlen]
          exact hfits
        · show type :: idlen :: rest = type :: UInt8.ofNat (rest.take idlen.toNat).length
            :: (rest.take idlen.toNat ++ rest.drop idlen.toNat)
          rw [hlen, UInt8.ofNat_toNat, List.take_append_drop]
      · cases h
    · cases h
  · rintro ⟨hfits, rfl⟩
    exact parse_encode hfits ni

theorem classify_fits (hgw : gw.length ≠ 0) (h : classify pton gw = some g) : g.Fits := by
  unfold classify at h
  split at h
  · next a _ =>
    obtain rfl := Option.some.inj h
    exact .inl ⟨rfl, a.2⟩
  split at h
  · next a _ =>
    obtain rfl := Option.some.inj h
    exact .inr (.inl ⟨rfl, a.2⟩)
  split at h
  · cases h
  · next hle =>
    obtain rfl := Option.some.inj h
    exact .inr (.inr ⟨rfl, Nat.pos_of_ne_zero hgw, Nat.not_lt.mp hle⟩)

/-- what a REDIRECT says to the client that gets it -/
theorem parse_build (h : buildRedirectNotifyData pton gw ni = some data) :
    ∃ g, classify pton gw = some g ∧ g.Fits ∧ parseRedirectNotifyData data = some (g, ni) := by
  unfold buildRedirectNotifyData at h
  split at h
  · cases h
  next hno =>
  obtain ⟨g, hg, rfl⟩ := Option.map_eq_some_iff.mp h
  have hfits := classify_fits (not_or.mp hno).1 hg
  exact ⟨g, hg, hfits, parse_encode hfits ni⟩

theorem buildRedirectedFromData_iff :
    buildRedirectedFromData g = some data ↔ g.Fits ∧ data = g.encode := by
  unfold buildRedirectedFromData GwIdent.Fits
  split
  · next hzero =>
    refine ⟨fun h => (by cases h), fun ⟨h, _⟩ => ?_⟩
    rcases h with ⟨-, h⟩ | ⟨-, h⟩ | ⟨-, h, -⟩
    · omega
    · omega
    · omega
  next hpos =>
  split
  · next ht =>
    rw [ht]
    split
    · next hlen =>
      refine ⟨fun h => (by cases h), fun ⟨h, _⟩ => ?_⟩
      rcases h with ⟨-, h⟩ | ⟨h, -⟩ | ⟨h, -⟩
      · exact absurd h hlen
      · exact absurd h (by decide)
      · exact absurd h (by decide)
    · next hlen =>
      exact ⟨fun h => ⟨.inl ⟨rfl, not_not.mp hlen⟩, (Option.some.inj h).symm⟩, fun h => by rw [h.2]⟩
  split
  · next ht =>
    rw [ht]
    split
    · next hlen =>
      refine ⟨fun h => (by cases h), fun ⟨h, _⟩ => ?_⟩
      rcases h with ⟨h, -⟩ | ⟨-, h⟩ | ⟨h, -⟩
      · exact absurd h (by decide)
      · exact absurd h hlen
      · exact absurd h (by decide)
    · next hlen =>
      exact ⟨fun h => ⟨.inr (.inl ⟨rfl, not_not.mp hlen⟩), (Option.some.inj h).symm⟩,
        fun h => by rw [h.2]⟩
  split
  · next ht =>
    rw [ht]
    split
    · next hlen =>
      refine ⟨fun h => (by cases h), fun ⟨h, _⟩ => ?_⟩
      rcases h with ⟨h, -⟩ | ⟨h, -⟩ | ⟨-, -, h⟩
      · exact absurd h (by decide)
      · exact absurd h (by decide)
      · omega
    · next hlen =>
      exact ⟨fun h => ⟨.inr (.inr ⟨rfl, Nat.pos_of_ne_zero hpos, Nat.not_lt.mp hlen⟩),
        (Option.some.inj h).symm⟩, fun h => by rw [h.2]⟩
  · next h1 h2 h3 =>
    refine ⟨fun h => (by cases h), fun ⟨h, _⟩ => ?_⟩
    rcases h with ⟨h, -⟩ | ⟨h, -⟩ | ⟨h, -⟩
    · exact absurd h h1
    · exact absurd h h2
    · exact absurd h h3

end

/-- the data of the two notifies: the parser takes an identity of a length that its type allows and
whatever is behind it, and nothing else; what is built for a gateway of the configuration is read
back as its identity and the nonce, and what is built for REDIRECTED_FROM as the identity alone; a
REDIRECT is not built when the text is empty or over 4096 octets, or is no address and over 255 -/
theorem redirect_wire_format (pton : InetPton) :
    (∀ data g ni, parseRedirectNotifyData data = some (g, ni) ↔ g.Fits ∧ data = g.encode ++ ni)
      ∧ (∀ gw ni data, buildRedirectNotifyData pton gw ni = some data →
        ∃ g, classify pton gw = some g ∧ parseRedirectNotifyData data = some (g, ni))
      ∧ (∀ gw ni, buildRedirectNotifyData pton gw ni = none ↔ gw.length = 0 ∨ 4096 < gw.length
        ∨ (pton.inet (cString gw) = none ∧ pton.inet6 (cString gw) = none ∧ 255 < gw.length))
      ∧ ∀ g data, buildRedirectedFromData g = some data →
        parseRedirectNotifyData data = some (g, []) := by
  refine ⟨fun data g ni => parse_eq_some_iff, ?_, ?_, ?_⟩
  · intro gw ni data h
    obtain ⟨g, hg, -, hparse⟩ := parse_build h
    exact ⟨g, hg, hparse⟩
  · intro gw ni
    unfold buildRedirectNotifyData classify
    split
    · next hout => exact ⟨fun _ => hout.imp_right .inl, fun _ => rfl⟩
    next hin =>
    rw [Option.map_eq_none_iff]
    have hin := not_or.mp hin
    cases h4 : pton.inet (cString gw) with
    | some a =>
      refine ⟨fun h => (by cases h), fun h => ?_⟩
      rcases h with h | h | ⟨h, -⟩
      · exact absurd h hin.1
      · exact absurd h hin.2
      · cases h
    | none =>
      cases h6 : pton.inet6 (cString gw) with
      | some a =>
        refine ⟨fun h => (by cases h), fun h => ?_⟩
        rcases h with h | h | ⟨-, h, -⟩
        · exact absurd h hin.1
        · exact absurd h hin.2
        · cases h
      | none =>
        show (if 255 < gw.length then none else some (GwIdent.mk 3 gw)) = none ↔ _
        by_cases hlong : 255 < gw.length
        · rw [if_pos hlong]
          exact ⟨fun _ => .inr (.inr ⟨rfl, rfl, hlong⟩), fun _ => rfl⟩
        · rw [if_neg hlong]
          refine ⟨fun h => (by cases h), fun h => ?_⟩
          rcases h with h | h | ⟨-, -, h⟩
          · exact absurd h hin.1
          · exact absurd h hin.2
          · exact absurd h hlong
  · intro g data h
    obtain ⟨hfits, rfl⟩ := buildRedirectedFromData_iff.mp h
    have hparse := parse_encode hfits []
    rw [List.append_nil] at hparse
    exact hparse

/-! ## the pool -/

def isBlank (b : UInt8) : Bool := b == 32 || b == 9

/-- without the blanks at both ends -/
def trim (b : Bytes) : Bytes := (b.dropWhile isBlank).rdropWhile isBlank

/-- a comma or NUL -/
def isMemberEnd (b : UInt8) : Bool := b == 44 || b == 0

/-- the loop over the members of `ikev2_redirect_pool_select` -/
def memberAt : Nat → Bytes → Bytes
  | 0, b => b.takeWhile fun c => !isMemberEnd c
  | sel + 1, b => memberAt sel ((b.dropWhile fun c => !isMemberEnd c).drop 1)

def fnv1a (h : UInt64) (b : UInt8) : UInt64 := (h ^^^ b.toUInt64) * 1099511628211

/-- family and address of a client; not the port -/
def poolHash (a : Address) : UInt64 :=
  a.octets.foldl fnv1a (fnv1a 1469598103934665603 a.family.toUInt8)

/-- `ikev2_redirect_pool_select` -/
def poolSelect (pool : Bytes) (remote : Sockaddr) : Option Bytes :=
  if pool.length = 0 then none
  else
    let n := pool.count 44 + 1
    let member := if n = 1 then trim pool else trim (memberAt ((poolHash remote.addr).toNat % n) pool)
    if member = [] then none else some member

/-- a member of the list, if it is not blank -/
def nonBlank (member : Bytes) : Option Bytes := if trim member = [] then none else some (trim member)

theorem memberAt_eq (sel : Nat) : ∀ b : Bytes,
    memberAt sel b = (b.splitOnP isMemberEnd)[sel]?.getD [] := by
  have hpre : ∀ b : Bytes, ∀ x ∈ b.takeWhile (fun c => !isMemberEnd c), isMemberEnd x = false := by
    intro b x hx
    have hnot := List.mem_takeWhile_imp hx
    exact Bool.eq_false_of_not_eq_true fun h => (by rw [h] at hnot; cases hnot)
  -- the members are the first one, and those behind its comma
  have hsplit : ∀ b : Bytes, ∀ c rest, b.dropWhile (fun c => !isMemberEnd c) = c :: rest →
      b.splitOnP isMemberEnd = b.takeWhile (fun c => !isMemberEnd c) :: rest.splitOnP isMemberEnd := by
    intro b c rest hdrop
    have hc : isMemberEnd c = true := by
      have hne : b.dropWhile (fun c => !isMemberEnd c) ≠ [] := by
        rw [hdrop]
        exact List.cons_ne_nil c rest
      have hhead := List.head_dropWhile_not (fun c => !isMemberEnd c) hne
      simp only [hdrop, List.head_cons, Bool.not_eq_false'] at hhead
      exact hhead
    conv_lhs => rw [← List.takeWhile_append_dropWhile (p := fun c => !isMemberEnd c) (l := b), hdrop]
    exact List.splitOnP_append_cons_of_forall_mem (hpre b) c hc rest
  have hsingle : ∀ b : Bytes, b.dropWhile (fun c => !isMemberEnd c) = [] →
      b.splitOnP isMemberEnd = [b.takeWhile fun c => !isMemberEnd c] := by
    intro b hdrop
    have hb : b.takeWhile (fun c => !isMemberEnd c) = b := by
      have happ := List.takeWhile_append_dropWhile (p := fun c => !isMemberEnd c) (l := b)
      rw [hdrop, List.append_nil] at happ
      exact happ
    have hno := hpre b
    rw [hb] at hno ⊢
    exact List.splitOnP_eq_singleton hno
  induction sel with
  | zero =>
    intro b
    rw [memberAt]
    cases hdrop : b.dropWhile fun c => !isMemberEnd c with
    | nil =>
      rw [hsingle b hdrop]
      rfl
    | cons c rest =>
      rw [hsplit b c rest hdrop]
      rfl
  | succ sel ih =>
    intro b
    rw [memberAt]
    cases hdrop : b.dropWhile fun c => !isMemberEnd c with
    | nil =>
      rw [hsingle b hdrop, ih]
      show ([[]] : List Bytes)[sel]?.getD [] = []
      cases sel with
      | zero => rfl
      | succ sel => rfl
    | cons c rest =>
      rw [hsplit b c rest hdrop, ih]
      rfl

theorem length_splitOn (pool : Bytes) : (pool.splitOn 44).length = pool.count 44 + 1 := by
  induction pool with
  | nil => rfl
  | cons b pool ih =>
    rw [List.splitOn_cons_eq_if_modifyHead, List.count_cons]
    split
    · rw [List.length_cons, ih]
    · rw [List.length_modifyHead, ih, Nat.add_zero]

/-- a text without NUL ends its members at the commas -/
theorem splitOnP_isMemberEnd {pool : Bytes} (h : 0 ∉ pool) :
    pool.splitOnP isMemberEnd = pool.splitOn 44 := by
  induction pool with
  | nil => rfl
  | cons b pool ih =>
    have hb : isMemberEnd b = (b == 44) := by
      unfold isMemberEnd
      rw [beq_eq_false_iff_ne.mpr fun hz => h (List.mem_cons.mpr (.inl hz.symm)), Bool.or_false]
    rw [List.splitOnP_cons_eq_if_modifyHead, List.splitOn_cons_eq_if_modifyHead, hb,
      ih fun hmem => h (List.mem_cons_of_mem b hmem)]

/-- the loops over a pool, that count its commas, skip and trim members, pick one member of the
comma-separated list by the hash of the address of the client, so that the same client is sent to the
same gateway from every port, and none if this member is blank -/
theorem pool_select_member (pool : Bytes) (remote : Sockaddr) (h : 0 ∉ pool) :
    poolSelect pool remote
      = (pool.splitOn 44)[(poolHash remote.addr).toNat % (pool.splitOn 44).length]?.bind nonBlank := by
  rw [length_splitOn]
  have hlt : (poolHash remote.addr).toNat % (pool.count 44 + 1) < (pool.splitOn 44).length := by
    rw [length_splitOn]
    exact Nat.mod_lt _ (Nat.succ_pos _)
  unfold poolSelect
  split
  · next hempty =>
    rw [List.length_eq_zero_iff.mp hempty, List.count_nil, Nat.zero_add, Nat.mod_one]
    rfl
  by_cases hone : pool.count 44 + 1 = 1
  · have hlist : pool.splitOn 44 = [pool] := by
      refine List.splitOnP_eq_singleton fun b hb => beq_eq_false_iff_ne.mpr fun heq => ?_
      rw [heq] at hb
      have hpos := List.count_pos_iff.mpr hb
      omega
    simp only [hone, if_pos, Nat.mod_one, hlist]
    rfl
  · simp only [if_neg hone]
    rw [memberAt_eq, splitOnP_isMemberEnd h, List.getElem?_eq_getElem hlt]
    rfl

/-- two gateways, and a client of the address 192.0.2.1 -/
theorem pool_select_member_two :
    poolSelect [49, 44, 32, 50] ⟨.inet ⟨[192, 0, 2, 1], rfl⟩, 500⟩ = some [49] := by
  rw [pool_select_member _ _ (by decide)]
  decide +kernel

end Redirect
