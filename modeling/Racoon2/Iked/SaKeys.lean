import Racoon2.Lib.Calls
import Racoon2.Iked.PrfPlus

/-!
# The seven keys of an IKE SA

`ikev2_compute_keys` cuts SK_d | SK_ai | SK_ar | SK_ei | SK_er | SK_pi | SK_pr from prf+, and mixes
a PPK into three of them at once or leaves that to `ikev2_ppk_apply`. Every allocation, every call
of the prf and the load of the PPK can fail.

* `prfPlusCalls`: `ikev2_prf_plus` call by call;
* `ikev2ComputeKeys`, `ppkApply`: the two functions, with the keys of the SA before and after;
* `Layout`: the keys as slices of prf+.
-/

set_option linter.unusedVariables false

namespace Ikev2
open Bytes

/-! ## the functions -/

/-- the prf, and which calls fail -/
structure KeyEnv where
  prf : KeyedFn
  fails : Nat → Bool
  /-- what `ikev2_ppk_load` reads -/
  ppk : Nat → Option Bytes

section
variable (env : KeyEnv)

/-- `rc_vnew` -/
def KeyEnv.vnew (octets : Bytes) : Calls Bytes :=
  .call fun n => if env.fails n then none else some octets

/-- `rc_vmalloc` of a buffer that is filled later -/
def KeyEnv.vmalloc : Calls Unit := .call fun n => if env.fails n then none else some ()

/-- one use of the keyed hash -/
def KeyEnv.hash (key msg : Bytes) : Calls Bytes :=
  .call fun n => if env.fails n then none else some (env.prf.apply key msg)

def KeyEnv.ppkLoad : Calls Bytes := .call env.ppk

/-- the loop of `ikev2_prf_plus` -/
def prfPlusCallsLoop (key seed : Bytes) : Nat → Bytes → UInt8 → Nat → Calls Bytes
  | 0, _, _, need => if need = 0 then pure [] else .fail
  | fuel + 1, t, byte, need =>
    if need = 0 then pure []
    else do
      let out ← env.hash key (t ++ seed ++ [byte])
      let rest ← prfPlusCallsLoop key seed fuel out (byte + 1) (need - env.prf.len)
      pure (out.take need ++ rest)

/-- `ikev2_prf_plus` -/
def prfPlusCalls (key seed : Bytes) (need : Nat) : Calls Bytes :=
  if env.prf.len * 255 < need then .fail
  else do
    env.vmalloc
    prfPlusCallsLoop env key seed 255 [] 1 need

/-- the key pointers of `struct ikev2_sa` -/
structure SaKeys where
  skD : Option Bytes
  skAi : Option Bytes
  skAr : Option Bytes
  skEi : Option Bytes
  skEr : Option Bytes
  skPi : Option Bytes
  skPr : Option Bytes
  deriving DecidableEq, Repr

/-- what `ikev2_compute_keys` reads and writes of an SA -/
structure KeySa where
  preferredKeyLen : Nat
  authKeyLen : Nat
  encrKeyLen : Nat
  nI : Bytes
  nR : Bytes
  /-- SPIi | SPIr -/
  index : Bytes
  skeyseed : Bytes
  ppkActive : Bool
  ppkDeferred : Bool
  keys : SaKeys
  deriving DecidableEq, Repr

def KeySa.requiredLen (sa : KeySa) : Nat :=
  sa.preferredKeyLen + 2 * sa.authKeyLen + 2 * sa.encrKeyLen + 2 * sa.preferredKeyLen

def KeySa.seed (sa : KeySa) : Bytes := sa.nI ++ sa.nR ++ sa.index

/-- prf+(PPK, key) of the three keys that the PPK protects; all three are computed before any
failure is looked at -/
def ppkMix (dLen pLen : Nat) (skD skPi skPr : Bytes) : Calls (Bytes × Bytes × Bytes) := do
  let ppk ← env.ppkLoad
  let skD2 ← (prfPlusCalls env ppk skD dLen).outcome
  let skPi2 ← (prfPlusCalls env ppk skPi pLen).outcome
  let skPr2 ← (prfPlusCalls env ppk skPr pLen).outcome
  match skD2, skPi2, skPr2 with
  | some skD2, some skPi2, some skPr2 => pure (skD2, skPi2, skPr2)
  | _, _, _ => .fail

/-- the new generation of `ikev2_compute_keys` -/
def deriveKeys (sa : KeySa) : Calls SaKeys := do
  let prfinput ← env.vnew sa.seed
  let keys ← prfPlusCalls env sa.skeyseed prfinput sa.requiredLen
  let d := sa.preferredKeyLen
  let a := sa.authKeyLen
  let e := sa.encrKeyLen
  let skD ← env.vnew (slice keys 0 d)
  let skAi ← env.vnew (slice keys d a)
  let skAr ← env.vnew (slice keys (d + a) a)
  let skEi ← env.vnew (slice keys (d + a + a) e)
  let skEr ← env.vnew (slice keys (d + a + a + e) e)
  let skPi ← env.vnew (slice keys (d + a + a + e + e) d)
  let skPr ← env.vnew (slice keys (d + a + a + e + e + d) d)
  if sa.ppkActive && !sa.ppkDeferred then do
    let (skD, skPi, skPr) ← ppkMix env d d skD skPi skPr
    pure ⟨some skD, some skAi, some skAr, some skEi, some skEr, some skPi, some skPr⟩
  else pure ⟨some skD, some skAi, some skAr, some skEi, some skEr, some skPi, some skPr⟩

/-- the SA after a function that may have failed, its return value, and the next call -/
structure KeyResult where
  sa : KeySa
  ok : Bool
  next : Nat
  deriving DecidableEq, Repr

/-- `ikev2_compute_keys` -/
def ikev2ComputeKeys (sa : KeySa) (n : Nat) : KeyResult :=
  match deriveKeys env sa n with
  | (some keys, n) => ⟨{ sa with keys := keys }, true, n⟩
  | (none, n) => ⟨sa, false, n⟩

/-- `ikev2_ppk_apply` -/
def ppkApply (sa : KeySa) (n : Nat) : KeyResult :=
  if sa.ppkActive then
    match sa.keys.skD, sa.keys.skPi, sa.keys.skPr with
    | some skD, some skPi, some skPr =>
      match ppkMix env skD.length skPi.length skD skPi skPr n with
      | (some (skD2, skPi2, skPr2), n) =>
        ⟨{ sa with keys := { sa.keys with skD := some skD2, skPi := some skPi2, skPr := some skPr2 } },
          true, n⟩
      | (none, n) => ⟨sa, false, n⟩
    | _, _, _ => ⟨sa, false, n⟩
  else ⟨sa, true, n⟩

/-- the PPK is mixed in by `ikev2_compute_keys` -/
def keysAtOnce (sa : KeySa) (n : Nat) : KeyResult :=
  ikev2ComputeKeys env { sa with ppkDeferred := false } n

/-- `ikev2_compute_keys` leaves the PPK for later -/
def keysDeferred (sa : KeySa) (n : Nat) : KeyResult :=
  ikev2ComputeKeys env { sa with ppkDeferred := true } n

/-- and `ikev2_ppk_apply` mixes it in -/
def ppkLater (sa : KeySa) (n : Nat) : KeyResult :=
  ppkApply env { (keysDeferred env sa n).sa with ppkDeferred := false } (keysDeferred env sa n).next

end

/-! ## prf+ -/

section
variable (env : KeyEnv)

theorem vnew_eq_some {octets b : Bytes} {n n' : Nat} (h : env.vnew octets n = (some b, n')) :
    b = octets := by
  have htable := (Calls.call_eq_some.mp h).1
  split at htable
  · cases htable
  · exact (Option.some.inj htable).symm

theorem prfPlusCallsLoop_eq_some {key seed : Bytes} (fuel : Nat) : ∀ (t : Bytes) (byte : UInt8)
    (need n n' : Nat) (out : Bytes),
    prfPlusCallsLoop env key seed fuel t byte need n = (some out, n') →
      prfPlusLoop env.prf.prf key seed fuel t byte need = some out := by
  induction fuel with
  | zero =>
    intro t byte need n n' out h
    unfold prfPlusCallsLoop at h
    unfold prfPlusLoop
    split at h
    · next hneed =>
      rw [if_pos hneed]
      exact congrArg Prod.fst h
    · cases h
  | succ fuel ih =>
    intro t byte need n n' out h
    unfold prfPlusCallsLoop at h
    unfold prfPlusLoop
    split at h
    · next hneed =>
      rw [if_pos hneed]
      exact congrArg Prod.fst h
    · next hneed =>
      obtain ⟨block, m, hblock, h⟩ := Calls.bind_eq_some.mp h
      obtain ⟨rest, m', hrest, h⟩ := Calls.bind_eq_some.mp h
      have hhash : block = env.prf.apply key (t ++ seed ++ [byte]) := by
        have htable := (Calls.call_eq_some.mp hblock).1
        split at htable
        · cases htable
        · exact (Option.some.inj htable).symm
      subst hhash
      rw [if_neg hneed]
      show (prfPlusLoop env.prf.prf key seed fuel (env.prf.apply key (t ++ seed ++ [byte])) (byte + 1)
        (need - env.prf.len)).map _ = _
      rw [ih _ _ _ _ _ _ hrest]
      exact congrArg Prod.fst h

/-- whatever calls fail, prf+ gives its octets or nothing -/
theorem prfPlusCalls_eq_some {key seed out : Bytes} {need n n' : Nat}
    (h : prfPlusCalls env key seed need n = (some out, n')) :
    out = firstOctets env.prf key seed need ∧ out.length = need := by
  unfold prfPlusCalls at h
  split at h
  · cases h
  · next hbound =>
    obtain ⟨_, m, _, h⟩ := Calls.bind_eq_some.mp h
    have hloop := prfPlusCallsLoop_eq_some env 255 _ _ _ _ _ _ h
    refine ⟨?_, prfPlusLoop_length env.prf.prf key seed 255 _ _ _ _ hloop⟩
    rcases Nat.eq_zero_or_pos need with rfl | hneed
    · exact (Option.some.inj hloop).symm
    · have hlen : 0 < env.prf.len := by
        rcases Nat.eq_zero_or_pos env.prf.len with hzero | hpos
        · rw [hzero] at hbound
          omega
        · exact hpos
      obtain ⟨k, hfits, hless, hcount⟩ := block_count env.prf hlen need
      have hrun := prfPlusRun_eq key seed hlen hfits hless (hcount.mpr (by omega))
      have hresult : prfPlus env.prf.prf key seed need = some (firstOctets env.prf key seed need) := by
        rw [← prfPlusRun_result, hrun]
      unfold prfPlus at hresult
      rw [if_neg (show ¬ env.prf.prf.resultLen * 255 < need from hbound), hloop] at hresult
      exact Option.some.inj hresult

end

/-! ## the new generation -/

/-- the seven keys -/
structure SevenKeys where
  d : Bytes
  ai : Bytes
  ar : Bytes
  ei : Bytes
  er : Bytes
  pi : Bytes
  pr : Bytes

def SevenKeys.toKeys (k : SevenKeys) : SaKeys :=
  ⟨some k.d, some k.ai, some k.ar, some k.ei, some k.er, some k.pi, some k.pr⟩

/-- the keys are slices of prf+ that follow each other -/
structure SevenKeys.Layout (k : SevenKeys) (env : KeyEnv) (sa : KeySa) : Prop where
  octets : k.d ++ k.ai ++ k.ar ++ k.ei ++ k.er ++ k.pi ++ k.pr
    = firstOctets env.prf sa.skeyseed sa.seed sa.requiredLen
  d_length : k.d.length = sa.preferredKeyLen
  a_length : k.ai.length = sa.authKeyLen ∧ k.ar.length = sa.authKeyLen
  e_length : k.ei.length = sa.encrKeyLen ∧ k.er.length = sa.encrKeyLen
  p_length : k.pi.length = sa.preferredKeyLen ∧ k.pr.length = sa.preferredKeyLen

section
variable (env : KeyEnv)

/-- the keys before a PPK -/
def sliceKeys (sa : KeySa) : Calls SevenKeys := do
  let prfinput ← env.vnew sa.seed
  let keys ← prfPlusCalls env sa.skeyseed prfinput sa.requiredLen
  let d := sa.preferredKeyLen
  let a := sa.authKeyLen
  let e := sa.encrKeyLen
  let skD ← env.vnew (slice keys 0 d)
  let skAi ← env.vnew (slice keys d a)
  let skAr ← env.vnew (slice keys (d + a) a)
  let skEi ← env.vnew (slice keys (d + a + a) e)
  let skEr ← env.vnew (slice keys (d + a + a + e) e)
  let skPi ← env.vnew (slice keys (d + a + a + e + e) d)
  let skPr ← env.vnew (slice keys (d + a + a + e + e + d) d)
  pure ⟨skD, skAi, skAr, skEi, skEr, skPi, skPr⟩

/-- three of the keys are replaced -/
def SevenKeys.mixed (k : SevenKeys) (dLen pLen : Nat) : Calls SevenKeys := do
  let (skD, skPi, skPr) ← ppkMix env dLen pLen k.d k.pi k.pr
  pure { k with d := skD, pi := skPi, pr := skPr }

theorem deriveKeys_eq (sa : KeySa) : deriveKeys env sa = sliceKeys env sa >>= fun k =>
    if sa.ppkActive && !sa.ppkDeferred then
      k.mixed env sa.preferredKeyLen sa.preferredKeyLen >>= fun k => pure k.toKeys
    else pure k.toKeys := by
  unfold deriveKeys sliceKeys SevenKeys.mixed
  simp only [Calls.bind_assoc, Calls.pure_bind]
  rfl

/-- a slice at the end of the first octets -/
theorem slice_zero_add (b : Bytes) (m n : Nat) : slice b 0 m ++ slice b m n = slice b 0 (m + n) := by
  have h := slice_add b 0 m n
  rwa [Nat.zero_add] at h

theorem sliceKeys_layout {sa : KeySa} {k : SevenKeys} {n n' : Nat}
    (h : sliceKeys env sa n = (some k, n')) : k.Layout env sa := by
  unfold sliceKeys at h
  simp only [Calls.bind_eq_some] at h
  obtain ⟨prfinput, _, hinput, keys, _, hkeys, d, _, hd, ai, _, hai, ar, _, har, ei, _, hei, er, _,
    her, pi, _, hpi, pr, _, hpr, hk⟩ := h
  rw [Calls.pure_apply, Prod.mk.injEq, Option.some.injEq] at hk
  obtain ⟨rfl, -⟩ := hk
  obtain rfl := vnew_eq_some env hinput
  obtain ⟨hoctets, hlength⟩ := prfPlusCalls_eq_some env hkeys
  unfold KeySa.requiredLen at hlength
  obtain rfl := vnew_eq_some env hd
  obtain rfl := vnew_eq_some env hai
  obtain rfl := vnew_eq_some env har
  obtain rfl := vnew_eq_some env hei
  obtain rfl := vnew_eq_some env her
  obtain rfl := vnew_eq_some env hpi
  obtain rfl := vnew_eq_some env hpr
  have hall : slice keys 0 (sa.preferredKeyLen + sa.authKeyLen + sa.authKeyLen + sa.encrKeyLen
      + sa.encrKeyLen + sa.preferredKeyLen + sa.preferredKeyLen) = keys := by
    unfold slice
    rw [List.drop_zero, List.take_of_length_le (by omega)]
  refine ⟨?_, ?_, ⟨?_, ?_⟩, ⟨?_, ?_⟩, ?_, ?_⟩
  · simp only [slice_zero_add]
    rw [hall, hoctets]
  all_goals exact slice_length _ _ _ (by omega)

/-- a mix takes the lengths of the keys from the SA or from the keys: they are the same -/
theorem SevenKeys.Layout.mixed {k : SevenKeys} {sa : KeySa} (h : k.Layout env sa) :
    k.mixed env sa.preferredKeyLen sa.preferredKeyLen = k.mixed env k.d.length k.pi.length := by
  rw [h.d_length, h.p_length.1]

end

/-! ## the two orders -/

section
variable (env : KeyEnv) (sa : KeySa) (n : Nat)

/-- a function that fails leaves the keys as they were -/
theorem computeKeys_fails (h : (ikev2ComputeKeys env sa n).ok = false) :
    (ikev2ComputeKeys env sa n).sa.keys = sa.keys := by
  unfold ikev2ComputeKeys at h ⊢
  split at h
  · cases h
  · rfl

theorem ppkApply_fails (h : (ppkApply env sa n).ok = false) :
    (ppkApply env sa n).sa.keys = sa.keys := by
  unfold ppkApply at h ⊢
  split at h
  · next hactive =>
    rw [if_pos hactive]
    split at h
    · split at h
      · cases h
      · rfl
    · rfl
  · cases h

/-- `ikev2_compute_keys` from the keys before the PPK -/
theorem computeKeys_slices {k : SevenKeys} {m : Nat} (h : sliceKeys env sa n = (some k, m)) :
    ikev2ComputeKeys env sa n =
      if sa.ppkActive && !sa.ppkDeferred then
        match k.mixed env sa.preferredKeyLen sa.preferredKeyLen m with
        | (some k, m) => ⟨{ sa with keys := k.toKeys }, true, m⟩
        | (none, m) => ⟨sa, false, m⟩
      else ⟨{ sa with keys := k.toKeys }, true, m⟩ := by
  unfold ikev2ComputeKeys
  rw [deriveKeys_eq, Calls.bind_some h]
  by_cases hppk : (sa.ppkActive && !sa.ppkDeferred) = true
  · rw [if_pos hppk, if_pos hppk]
    rcases hmix : k.mixed env sa.preferredKeyLen sa.preferredKeyLen m with ⟨_ | k', m'⟩
    · rw [Calls.bind_none hmix]
    · rw [Calls.bind_some hmix]
      rfl
  · rw [if_neg hppk, if_neg hppk]
    rfl

/-- without the keys before the PPK there is no new generation -/
theorem computeKeys_none {m : Nat} (h : sliceKeys env sa n = (none, m)) :
    ikev2ComputeKeys env sa n = ⟨sa, false, m⟩ := by
  unfold ikev2ComputeKeys
  rw [deriveKeys_eq, Calls.bind_none h]

/-- `ikev2_ppk_apply` on the keys that `ikev2_compute_keys` left -/
theorem ppkApply_slices {k : SevenKeys} (hkeys : sa.keys = k.toKeys) (hactive : sa.ppkActive = true) :
    ppkApply env sa n =
      match k.mixed env k.d.length k.pi.length n with
      | (some k, m) => ⟨{ sa with keys := k.toKeys }, true, m⟩
      | (none, m) => ⟨sa, false, m⟩ := by
  unfold ppkApply
  rw [if_pos hactive, hkeys]
  unfold SevenKeys.toKeys
  dsimp only
  unfold SevenKeys.mixed
  rcases hmix : ppkMix env k.d.length k.pi.length k.d k.pi k.pr n with ⟨_ | ⟨d, pi, pr⟩, m⟩
  · rw [Calls.bind_none hmix]
  · rw [Calls.bind_some hmix]
    rfl

/-- the PPK mixed in at once or later: both ways succeed under the same outcomes and leave the same
keys, the keys before it are slices of prf+, and a function that fails leaves the keys it found -/
theorem ppk_at_once_or_later :
    ((keysAtOnce env sa n).ok = true ↔ (keysDeferred env sa n).ok = true ∧ (ppkLater env sa n).ok = true)
    ∧ ((keysAtOnce env sa n).ok = true → (keysAtOnce env sa n).sa = (ppkLater env sa n).sa)
    ∧ ((keysDeferred env sa n).ok = true →
        ∃ k : SevenKeys, (keysDeferred env sa n).sa.keys = k.toKeys ∧ k.Layout env sa)
    ∧ ((keysAtOnce env sa n).ok = false → (keysAtOnce env sa n).sa.keys = sa.keys)
    ∧ ((keysDeferred env sa n).ok = false → (keysDeferred env sa n).sa.keys = sa.keys)
    ∧ ((ppkLater env sa n).ok = false →
        (ppkLater env sa n).sa.keys = (keysDeferred env sa n).sa.keys) := by
  have hkeep : ((keysAtOnce env sa n).ok = false → (keysAtOnce env sa n).sa.keys = sa.keys)
      ∧ ((keysDeferred env sa n).ok = false → (keysDeferred env sa n).sa.keys = sa.keys)
      ∧ ((ppkLater env sa n).ok = false →
        (ppkLater env sa n).sa.keys = (keysDeferred env sa n).sa.keys) :=
    ⟨computeKeys_fails env _ n, computeKeys_fails env _ n, ppkApply_fails env _ _⟩
  refine and_assoc.mp (and_assoc.mp ⟨?_, hkeep⟩)
  rcases hslice : sliceKeys env sa n with ⟨_ | k, m⟩
  · have hnow : keysAtOnce env sa n = ⟨{ sa with ppkDeferred := false }, false, m⟩ :=
      computeKeys_none env _ n hslice
    have hfirst : keysDeferred env sa n = ⟨{ sa with ppkDeferred := true }, false, m⟩ :=
      computeKeys_none env _ n hslice
    rw [hnow, hfirst]
    simp
  · have hlayout := sliceKeys_layout env hslice
    have hfirst : keysDeferred env sa n =
        ⟨{ sa with ppkDeferred := true, keys := k.toKeys }, true, m⟩ := by
      have h := computeKeys_slices env { sa with ppkDeferred := true } n hslice
      rwa [Bool.not_true, Bool.and_false, if_neg (by simp)] at h
    have hnow := computeKeys_slices env { sa with ppkDeferred := false } n hslice
    rw [Bool.not_false, Bool.and_true] at hnow
    have hlater : ppkLater env sa n =
        ppkApply env { sa with ppkDeferred := false, keys := k.toKeys } m := by
      rw [ppkLater, hfirst]
    -- the mix starts at the same call with the same keys; a failure leaves different generations
    have hsame : (keysAtOnce env sa n).ok = (ppkLater env sa n).ok ∧
        ((keysAtOnce env sa n).ok = true → (keysAtOnce env sa n).sa = (ppkLater env sa n).sa) := by
      rw [hlater, show keysAtOnce env sa n = _ from hnow]
      cases hactive : sa.ppkActive with
      | false => simp [ppkApply]
      | true =>
        rw [if_pos rfl, ppkApply_slices env _ m rfl rfl, ← hlayout.mixed]
        rcases k.mixed env sa.preferredKeyLen sa.preferredKeyLen m with ⟨_ | k', m'⟩
        · exact ⟨rfl, fun h => by cases h⟩
        · exact ⟨rfl, fun _ => rfl⟩
    rw [hsame.1, hfirst]
    refine ⟨⟨⟨fun h => ⟨rfl, h⟩, fun h => h.2⟩, fun h => hsame.2 (hsame.1.trans h)⟩,
      fun _ => ⟨k, rfl, hlayout⟩⟩

end

/-- an SA that holds a generation of one octet keys -/
def oldSa : KeySa where
  preferredKeyLen := 1
  authKeyLen := 1
  encrKeyLen := 1
  nI := [1]
  nR := [2]
  index := [3]
  skeyseed := [4]
  ppkActive := true
  ppkDeferred := false
  keys := ⟨some [0], some [0], some [0], some [0], some [0], some [0], some [0]⟩

/-- the prf works, the PPK cannot be read -/
def noPpk : KeyEnv := ⟨lengthFn, fun _ => false, fun _ => none⟩

/-- without the PPK the old keys stay, or the keys before the PPK -/
theorem ppk_lost :
    (keysAtOnce noPpk oldSa 0).ok = false ∧ (ppkLater noPpk oldSa 0).ok = false ∧
      (keysAtOnce noPpk oldSa 0).sa.keys.skEi = some [0] ∧
      (ppkLater noPpk oldSa 0).sa.keys.skEi ≠ (keysAtOnce noPpk oldSa 0).sa.keys.skEi ∧
      (ppkLater noPpk oldSa 0).sa.keys.skEi ≠ oldSa.keys.skEi := by
  decide

end Ikev2
