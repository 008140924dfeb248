import Racoon2.Iked.Header

/-!
# Payload chains: the syntax check and the walks of the handlers

`checkPayloads` is `ikev2_check_payloads`, the only test between the wire and the loops of the
handlers; `walk` is the loop every handler runs, with `POINT_NEXT_PAYLOAD` at its end.  The two
loops stop at different places: the check, when it runs before decryption, breaks at the first
Encrypted payload without looking at the next-payload octet of that payload.

* `checkLoop_walk_inside`    the two loops, turn by turn;
* `checkPayloads_walk_iff`   a checked message is safe for a handler unless the check stopped at
                             an Encrypted payload that names a successor and the handler goes on.
-/

set_option linter.unusedVariables false

namespace Ikev2
open Bytes

/-! ## payload bodies -/

/-- the minimum lengths of `ikev2_payload_types[]`, for the types 33 to 53 -/
def payloadMinimumLengths : List Nat :=
  [4, 8, 8, 8, 5, 5, 8, 4, 8, 8, 4, 8, 8, 4, 8, 4, 0, 0, 0, 0, 8]

/-- `IKEV2_PAYLOAD_TYPE_DEFINED` -/
def payloadTypeDefined (type : UInt8) : Bool := payloadSa ≤ type && type ≤ payloadSkf

/-- `IKEV2_PAYLOAD_TYPES(type).minimum_length` -/
def minimumLength (type : UInt8) : Nat :=
  payloadMinimumLengths.getD (type.toNat - payloadSa.toNat) 0

/-- `ikev2_ts_addr_size` -/
def tsAddrSize (tsType : UInt8) : Nat :=
  if tsType = 7 then 4 else if tsType = 8 then 16 else 0

/-- the loop of `ikev2_check_ts_payload` over `num` selectors -/
def checkTsLoop : Nat → Bytes → Bool
  | 0, ts => ts.length == 0
  | num+1, ts =>
    if ts.length < 8 then false
    else if tsAddrSize (byteAt ts 0) = 0 then false
    else if be16 ts 2 < 8 + 2 * tsAddrSize (byteAt ts 0) then false
    else if ts.length < be16 ts 2 then false
    else checkTsLoop num (ts.drop (be16 ts 2))

/-- `ikev2_check_ts_payload` -/
def checkTsPayload (payload : Bytes) : Bool :=
  if payloadLength payload < 8 then false
  else checkTsLoop (byteAt payload 4).toNat (slice payload 8 (payloadLength payload - 8))

/-- `ikev2_check_config_syntax`; every turn takes at least the four octets of an attribute -/
def checkConfigSyntax : Nat → Bytes → Bool
  | 0, attrib => attrib.length == 0
  | n+1, attrib =>
    if attrib.length = 0 then true
    else if attrib.length < 4 then false
    else if attrib.length < 4 + be16 attrib 2 then false
    else checkConfigSyntax n (attrib.drop (4 + be16 attrib 2))

/-- the `switch` of `ikev2_check_payloads` over one payload `p` of type `type` -/
def checkBody (type : UInt8) (p : Bytes) : Bool :=
  if type = payloadNonce then
    16 ≤ payloadDataLength p && payloadDataLength p ≤ 256
  else if type = payloadNotify then
    8 + (byteAt p 5).toNat ≤ payloadLength p
  else if type = payloadDelete then
    8 + (byteAt p 5).toNat * be16 p 6 ≤ payloadLength p
  else if type = payloadTsI || type = payloadTsR then
    checkTsPayload p
  else if type = payloadConfig then
    checkConfigSyntax (payloadLength p) (slice p 8 (payloadLength p - 8))
  else true

/-- the tests of `ikev2_check_payloads` on the payload at `p`, `p` being all that is left -/
def checkOne (type : UInt8) (p : Bytes) : Bool :=
  payloadHeaderSize ≤ p.length && payloadLength p ≤ p.length
    && payloadHeaderSize ≤ payloadLength p
    && !(payloadTypeDefined type && decide (payloadLength p < minimumLength type))
    && checkBody type p

/-! ## the check of a whole message -/

/-- the loop of `ikev2_check_payloads`; `p` is the rest of the packet, so `bytes` is its length -/
def checkLoop (before_decrypt : Bool) : Nat → UInt8 → Bytes → Bool
  | 0, _, _ => false
  | n+1, type, p =>
    if type = noNextPayload then p.length == 0
    else if !checkOne type p then false
    else if before_decrypt && type == payloadEncrypted then (pointNext p).length == 0
    else checkLoop before_decrypt n (payloadNext p) (pointNext p)

/-- `ikev2_check_payloads(packet, before_decrypt) == 0` -/
def checkPayloads (packet : Bytes) (before_decrypt : Bool) : Bool :=
  if packet.length < headerSize then false
  else if packet.length ≠ headerLength packet then false
  else checkLoop before_decrypt (packet.length + 1) (nextPayload packet) (firstPayload packet)

/-! ## the walk of a handler -/

/-- how a walk over a payload chain ends -/
inductive WalkEnd (σ : Type) where
  /-- the type became `IKEV2_NO_NEXT_PAYLOAD` -/
  | reached (s : σ)
  /-- the handler left the loop -/
  | left (s : σ)
  /-- the header or the body of the payload at hand is not in the buffer -/
  | outside
  | diverges
  deriving DecidableEq

/-- every header and every body the walk visited was inside the buffer -/
def WalkEnd.inside {σ : Type} : WalkEnd σ → Bool
  | .reached _ => true
  | .left _ => true
  | .outside => false
  | .diverges => false

/-- The body of a handler's loop: what it keeps, and whether it goes on (`inl`) or jumps out
(`inr`) after the payload at hand. -/
abbrev Visit (σ : Type) := σ → UInt8 → Bytes → σ ⊕ σ

section
variable {σ : Type} (visit : Visit σ)

def walkLoop : Nat → σ → UInt8 → Bytes → WalkEnd σ
  | 0, _, _, _ => .diverges
  | n+1, s, type, p =>
    if type = noNextPayload then .reached s
    else if p.length < payloadHeaderSize then .outside
    else if p.length < payloadLength p then .outside
    else match visit s type (payloadOctets p) with
      | .inr s' => .left s'
      | .inl s' => walkLoop n s' (payloadNext p) (pointNext p)

/-- `for (type = ikehdr->next_payload; type != 0; POINT_NEXT_PAYLOAD(p, type))` -/
def walk (s : σ) (packet : Bytes) : WalkEnd σ :=
  walkLoop visit (packet.length + 1) s (nextPayload packet) (firstPayload packet)

end

/-- the handler's loop goes past the first Encrypted payload -/
def passesLoop {σ : Type} (visit : Visit σ) : Nat → σ → UInt8 → Bytes → Bool
  | 0, _, _, _ => false
  | n+1, s, type, p =>
    if type = noNextPayload then false
    else match visit s type (payloadOctets p) with
      | .inr _ => false
      | .inl s' =>
        if type = payloadEncrypted then true
        else passesLoop visit n s' (payloadNext p) (pointNext p)

def passesEncrypted {σ : Type} (visit : Visit σ) (s : σ) (packet : Bytes) : Bool :=
  passesLoop visit (packet.length + 1) s (nextPayload packet) (firstPayload packet)

/-- the next-payload octet of the first Encrypted payload of a chain -/
def encryptedNextLoop : Nat → UInt8 → Bytes → Option UInt8
  | 0, _, _ => none
  | n+1, type, p =>
    if type = noNextPayload then none
    else if type = payloadEncrypted then some (payloadNext p)
    else encryptedNextLoop n (payloadNext p) (pointNext p)

def encryptedNext (packet : Bytes) : Option UInt8 :=
  encryptedNextLoop (packet.length + 1) (nextPayload packet) (firstPayload packet)

/-- the octet names a payload -/
def namesPayload : Option UInt8 → Bool
  | none => false
  | some t => t != noNextPayload

/-- the chain has an Encrypted payload, and that payload names a successor -/
def hasOpenEncrypted (packet : Bytes) : Bool := namesPayload (encryptedNext packet)

/-! ## the check against the walk -/

theorem checkOne_spec {type : UInt8} {p : Bytes} (h : checkOne type p = true) :
    payloadHeaderSize ≤ p.length ∧ payloadLength p ≤ p.length
      ∧ payloadHeaderSize ≤ payloadLength p ∧ checkBody type p = true := by
  simp only [checkOne, Bool.and_eq_true, decide_eq_true_eq] at h
  exact ⟨h.1.1.1.1, h.1.1.1.2, h.1.1.2, h.2⟩

/-- a payload that passed its tests leaves at least four octets less -/
theorem checkOne_pointNext {type : UInt8} {p : Bytes} (h : checkOne type p = true) :
    (pointNext p).length + payloadHeaderSize ≤ p.length := by
  obtain ⟨_, h2, h3, _⟩ := checkOne_spec h
  unfold pointNext
  rw [List.length_drop]
  omega

/-- one turn of the loop of `ikev2_check_payloads` on a payload, read backwards -/
theorem checkLoop_succ {b : Bool} {n : Nat} {type : UInt8} {p : Bytes}
    (ht : type ≠ noNextPayload) (h : checkLoop b (n+1) type p = true) :
    checkOne type p = true ∧
      if b && type == payloadEncrypted then (pointNext p).length = 0
      else checkLoop b n (payloadNext p) (pointNext p) = true := by
  rw [checkLoop, if_neg ht] at h
  cases ho : checkOne type p with
  | false => simp [ho] at h
  | true =>
    refine ⟨rfl, ?_⟩
    rw [ho] at h
    simp only [Bool.not_true, Bool.false_eq_true, if_false] at h
    split <;> rename_i hb <;> simp only [hb, if_true, Bool.false_eq_true, if_false] at h
    · simpa using h
    · exact h

section
variable {σ : Type} (visit : Visit σ)

theorem walkLoop_reached (n : Nat) (s : σ) (p : Bytes) :
    walkLoop visit (n+1) s noNextPayload p = .reached s := by
  rw [walkLoop, if_pos rfl]

/-- one turn of a handler's loop on a payload that passed the check -/
theorem walkLoop_step (n : Nat) (s : σ) {type : UInt8} {p : Bytes} (ht : type ≠ noNextPayload)
    (ho : checkOne type p = true) :
    walkLoop visit (n+1) s type p =
      match visit s type (payloadOctets p) with
      | .inr s' => .left s'
      | .inl s' => walkLoop visit n s' (payloadNext p) (pointNext p) := by
  obtain ⟨h1, h2, _, _⟩ := checkOne_spec ho
  rw [walkLoop, if_neg ht, if_neg (by omega), if_neg (by omega)]

theorem walkLoop_empty (n : Nat) (s : σ) {type : UInt8} (ht : type ≠ noNextPayload) :
    walkLoop visit (n+1) s type [] = .outside := by
  rw [walkLoop, if_neg ht, if_pos (by simp [payloadHeaderSize])]

/-- A chain that passed the check is safe for a handler, unless the check stopped at an Encrypted
payload that names a successor and the handler goes on to it.  Induction on the turns of the
check. -/
theorem checkLoop_walk_inside (b : Bool) (n : Nat) :
    ∀ (m k j : Nat) (s : σ) (type : UInt8) (p : Bytes), checkLoop b n type p = true →
      p.length < m → p.length < k → p.length < j →
      (walkLoop visit m s type p).inside
        = !(b && namesPayload (encryptedNextLoop k type p) && passesLoop visit j s type p) := by
  induction n with
  | zero => intro m k j s type p h; exact absurd h (by simp [checkLoop])
  | succ n ih =>
    intro m k j s type p h hm hk hj
    obtain ⟨m, rfl⟩ : ∃ m', m = m' + 1 := ⟨m - 1, by omega⟩
    obtain ⟨k, rfl⟩ : ∃ k', k = k' + 1 := ⟨k - 1, by omega⟩
    obtain ⟨j, rfl⟩ : ∃ j', j = j' + 1 := ⟨j - 1, by omega⟩
    by_cases ht : type = noNextPayload
    · rw [ht, walkLoop_reached, passesLoop, if_pos rfl, Bool.and_false]; rfl
    · obtain ⟨ho, hrest⟩ := checkLoop_succ ht h
      have hlen := checkOne_pointNext ho
      have hsz : payloadHeaderSize = 4 := rfl
      rw [walkLoop_step visit m s ht ho, encryptedNextLoop, if_neg ht, passesLoop, if_neg ht]
      cases visit s type (payloadOctets p) with
      | inr s' => simp [WalkEnd.inside]
      | inl s' =>
        show (walkLoop visit m s' (payloadNext p) (pointNext p)).inside
          = !(b && namesPayload (if type = payloadEncrypted then some (payloadNext p)
              else encryptedNextLoop k (payloadNext p) (pointNext p))
            && (if type = payloadEncrypted then true
              else passesLoop visit j s' (payloadNext p) (pointNext p)))
        by_cases he : type = payloadEncrypted
        · rw [if_pos he, if_pos he, Bool.and_true]
          cases b with
          | false =>
            simp only [Bool.false_and, Bool.false_eq_true, if_false] at hrest
            rw [ih m k j s' _ _ hrest (by omega) (by omega) (by omega)]
            rfl
          | true =>
            -- the check stopped here: the walk goes on at the end of the buffer
            rw [if_pos (by rw [he]; rfl)] at hrest
            obtain ⟨m, rfl⟩ : ∃ m', m = m' + 1 := ⟨m - 1, by omega⟩
            rw [List.length_eq_zero_iff.mp hrest]
            by_cases hnext : payloadNext p = noNextPayload
            · rw [hnext, walkLoop_reached]; rfl
            · rw [walkLoop_empty visit m s' hnext]
              simp [WalkEnd.inside, namesPayload, hnext]
        · rw [if_neg he, if_neg he]
          rw [if_neg (by simp [he])] at hrest
          exact ih m k j s' _ _ hrest (by omega) (by omega) (by omega)

end

theorem firstPayload_length (packet : Bytes) : (firstPayload packet).length < packet.length + 1 := by
  unfold firstPayload
  rw [List.length_drop]
  omega

theorem checkPayloads_loop {packet : Bytes} {b : Bool} (h : checkPayloads packet b = true) :
    headerSize ≤ packet.length ∧ headerLength packet = packet.length ∧
      checkLoop b (packet.length + 1) (nextPayload packet) (firstPayload packet) = true := by
  unfold checkPayloads at h
  by_cases h1 : packet.length < headerSize
  · rw [if_pos h1] at h; exact absurd h (by simp)
  · rw [if_neg h1] at h
    by_cases h2 : packet.length ≠ headerLength packet
    · rw [if_pos h2] at h; exact absurd h (by simp)
    · rw [if_neg h2] at h
      exact ⟨by omega, by omega, h⟩

/-- A message that passed `ikev2_check_payloads` is safe for the loop of a handler exactly if the
check ran to the end of the chain, or stopped at an Encrypted payload without successor, or the
handler left its loop by then. -/
theorem checkPayloads_walk_iff {σ : Type} (visit : Visit σ) (s : σ) {packet : Bytes} {b : Bool}
    (h : checkPayloads packet b = true) :
    (walk visit s packet).inside = true ↔
      ¬ (b = true ∧ hasOpenEncrypted packet = true ∧ passesEncrypted visit s packet = true) := by
  obtain ⟨_, _, hl⟩ := checkPayloads_loop h
  have hlen := firstPayload_length packet
  have hw := checkLoop_walk_inside visit b _ _ _ _ s _ _ hl hlen hlen hlen
  unfold walk
  rw [hw]
  show (!(b && hasOpenEncrypted packet && passesEncrypted visit s packet)) = true ↔ _
  cases b <;> cases hasOpenEncrypted packet <;> cases passesEncrypted visit s packet <;> simp

end Ikev2
