import Racoon2.Iked.Matcher

/-!
# The negotiated IKE SA

`ikev2_proppair_to_isakmpsa`, which turns a selected proposal into a `struct ikev2_isakmpsa`, and
`ikev2_find_match_ikesa`, which selects one of the peer's proposals for the IKE SA and records the
ADDKE rounds of it a second time.

* `Recorded`          the ADDKE fields, in terms of the selected transforms;
* `recorded_again`    the second recording changes nothing;
* `recorded_addke`    what is recorded is what the matcher selected, and that is the peer's.
-/

set_option linter.unusedVariables false

namespace Ikev2
open Bytes

/-! ## `struct ikev2_isakmpsa` -/

def transformPrf : Nat := 2
def proposalIke : Nat := 1

/-- a group of `dhdef` is given by its transform id -/
structure IsakmpSa where
  propNo : Nat
  encr : Nat := 0
  encrklen : Nat := 0
  prf : Nat := 0
  integr : Nat := 0
  dhdef : Option Nat := none
  addke : Nat := 0
  addkeMethods : List Nat := List.replicate 8 0
  addkeNrounds : Nat := 0
  deriving DecidableEq, Repr

/-- a transform of the type ADDKE + r -/
def IsakmpSa.recordAddke (sa : IsakmpSa) (type id : Nat) : IsakmpSa :=
  { sa with
    addke := if type = transformAddke then id else sa.addke
    addkeMethods := sa.addkeMethods.set (type - transformAddke) id
    addkeNrounds := max sa.addkeNrounds (type - transformAddke + 1) }

/-- `ikev2_dhinfo`, over the transform ids of `ikev2_transf_dh[]` -/
def dhinfo (groups : List Nat) (id : Nat) : Option Nat := groups.find? (· == id)

/-- the `switch` over the transform types -/
def IsakmpSa.recordType (groups : List Nat) (sa : IsakmpSa) (s : Selected) : Option IsakmpSa :=
  let id := s.transform.id
  if s.type = transformEncr then some { sa with encr := id }
  else if s.type = transformPrf then some { sa with prf := id }
  else if s.type = transformIntegr then some { sa with integr := id }
  else if s.type = transformDh then some { sa with dhdef := dhinfo groups id }
  else if isAddke s.type then some (sa.recordAddke s.type id)
  else none

/-- the last key length among the attributes, 0 without one -/
def keyLength (attrs : List Attr) : Nat :=
  attrs.foldl (fun keylen a =>
    match a with
    | .short type value => if type = attrKeyLength then value else keylen
    | .long _ _ => keylen) 0

/-- the ciphers with a key length -/
def encrHasKeylen (id : Nat) : Bool := [4, 6, 7, 12, 13, 18, 19, 20, 14, 15, 16, 21].contains id

/-- the attributes of a transform whose type has been recorded -/
def IsakmpSa.recordAttrs (sa : IsakmpSa) (s : Selected) : Option IsakmpSa :=
  if keyLength s.transform.attrs = 0 then some sa
  else if s.type = transformEncr then
    some (if encrHasKeylen sa.encr then { sa with encrklen := keyLength s.transform.attrs } else sa)
  else none

/-- the loop of `ikev2_proppair_to_isakmpsa` -/
def IsakmpSa.record (groups : List Nat) : IsakmpSa → List Selected → Option IsakmpSa
  | sa, [] => some sa
  | sa, s :: ss =>
    match (sa.recordType groups s).bind fun sa => sa.recordAttrs s with
    | none => none
    | some sa => sa.record groups ss

/-- `ikev2_proppair_to_isakmpsa` -/
def proppairToIsakmpsa (groups : List Nat) (number : Nat) (ts : List Selected) : Option IsakmpSa :=
  IsakmpSa.record groups { propNo := number } ts

/-! ## the recorded rounds -/

/-- the method of a type, NONE where the type is not selected -/
def methodOf (ts : List Selected) (type : Nat) : Nat := ((selectedOf type ts).map Transform.id).getD 0

/-- the round of an ADDKE type, counted from one -/
def roundOf (type : Nat) : Nat := if isAddke type then type - transformAddke + 1 else 0

/-- the highest round among the selected types -/
def highestRound (ts : List Selected) : Nat := (ts.map fun s => roundOf s.type).foldr max 0

def IsakmpSa.method (sa : IsakmpSa) (r : Nat) : Nat := sa.addkeMethods.getD r 0

/-- the ADDKE fields hold the methods of the selected types -/
structure Recorded (sa : IsakmpSa) (ts : List Selected) : Prop where
  slots : sa.addkeMethods.length = 8
  methods : ∀ r, r < 7 → sa.method r = methodOf ts (transformAddke + r)
  unused : sa.method 7 = 0
  nrounds : sa.addkeNrounds = highestRound ts
  addke : sa.addke = methodOf ts transformAddke

theorem isAddke_iff {type : Nat} :
    isAddke type = true ↔ transformAddke ≤ type ∧ type ≤ transformAddke + 6 := by
  unfold isAddke
  rw [Bool.and_eq_true, decide_eq_true_eq, decide_eq_true_eq]

theorem selectedOf_cons (type : Nat) (s : Selected) (ss : List Selected) :
    selectedOf type (s :: ss) = if s.type = type then some s.transform else selectedOf type ss := by
  unfold selectedOf
  rw [List.find?_cons]
  by_cases heq : s.type = type
  · rw [if_pos heq, beq_iff_eq.mpr heq]
    rfl
  · rw [if_neg heq, beq_eq_false_iff_ne.mpr heq]

theorem selectedOf_none {type : Nat} {ts : List Selected} :
    selectedOf type ts = none ↔ type ∉ ts.map Selected.type := by
  unfold selectedOf
  rw [Option.map_eq_none_iff, List.find?_eq_none]
  simp

theorem selectedOf_mem {s : Selected} {ts : List Selected} (hs : s ∈ ts)
    (hdistinct : (ts.map Selected.type).Nodup) : selectedOf s.type ts = some s.transform := by
  induction ts with
  | nil => exact absurd hs List.not_mem_nil
  | cons t ts ih =>
    rw [List.map_cons, List.nodup_cons] at hdistinct
    rw [selectedOf_cons]
    rcases List.mem_cons.mp hs with rfl | hs'
    · rw [if_pos rfl]
    · have hne : t.type ≠ s.type := by
        intro heq
        exact hdistinct.1 (heq ▸ List.mem_map_of_mem hs')
      rw [if_neg hne]
      exact ih hs' hdistinct.2

theorem le_highestRound {s : Selected} {ts : List Selected} (hs : s ∈ ts) :
    roundOf s.type ≤ highestRound ts := by
  unfold highestRound
  induction ts with
  | nil => exact absurd hs List.not_mem_nil
  | cons t ts ih =>
    rw [List.map_cons, List.foldr_cons]
    rcases List.mem_cons.mp hs with rfl | hs'
    · exact Nat.le_max_left _ _
    · exact (ih hs').trans (Nat.le_max_right _ _)

section
variable {groups : List Nat} {sa sa' : IsakmpSa} {s : Selected} {ts : List Selected}

theorem recordAttrs_cases (h : sa.recordAttrs s = some sa') :
    sa' = sa ∨ sa' = { sa with encrklen := keyLength s.transform.attrs } := by
  unfold IsakmpSa.recordAttrs at h
  split at h
  · exact .inl (Option.some.inj h).symm
  · split at h
    · have heq := Option.some.inj h
      split at heq
      · exact .inr heq.symm
      · exact .inl heq.symm
    · exact absurd h (by simp)

theorem recordType_cases (h : sa.recordType groups s = some sa') :
    (s.type = transformEncr ∧ sa' = { sa with encr := s.transform.id })
    ∨ (s.type = transformPrf ∧ sa' = { sa with prf := s.transform.id })
    ∨ (s.type = transformIntegr ∧ sa' = { sa with integr := s.transform.id })
    ∨ (s.type = transformDh ∧ sa' = { sa with dhdef := dhinfo groups s.transform.id })
    ∨ (isAddke s.type = true ∧ sa' = sa.recordAddke s.type s.transform.id) := by
  unfold IsakmpSa.recordType at h
  simp only at h
  split at h
  · rename_i htype
    exact .inl ⟨htype, (Option.some.inj h).symm⟩
  · split at h
    · rename_i htype
      exact .inr (.inl ⟨htype, (Option.some.inj h).symm⟩)
    · split at h
      · rename_i htype
        exact .inr (.inr (.inl ⟨htype, (Option.some.inj h).symm⟩))
      · split at h
        · rename_i htype
          exact .inr (.inr (.inr (.inl ⟨htype, (Option.some.inj h).symm⟩)))
        · split at h
          · rename_i htype
            exact .inr (.inr (.inr (.inr ⟨htype, (Option.some.inj h).symm⟩)))
          · exact absurd h (by simp)

/-- the id of a type among `ts`, or the one before -/
def idOr (ts : List Selected) (type d : Nat) : Nat := ((selectedOf type ts).map Transform.id).getD d

/-- the fields after the transforms `ts`, in terms of those before -/
structure RecordedFrom (groups : List Nat) (sa sa' : IsakmpSa) (ts : List Selected) : Prop where
  number : sa'.propNo = sa.propNo
  encr : sa'.encr = idOr ts transformEncr sa.encr
  encrklen : sa'.encrklen = sa.encrklen ∨ ∃ s ∈ ts, sa'.encrklen = keyLength s.transform.attrs
  prf : sa'.prf = idOr ts transformPrf sa.prf
  integr : sa'.integr = idOr ts transformIntegr sa.integr
  dhdef : sa'.dhdef
    = ((selectedOf transformDh ts).map fun t => dhinfo groups t.id).getD sa.dhdef
  slots : sa'.addkeMethods.length = sa.addkeMethods.length
  methods : ∀ r, r < 7 → sa'.method r = idOr ts (transformAddke + r) (sa.method r)
  unused : sa'.method 7 = sa.method 7
  nrounds : sa'.addkeNrounds = max sa.addkeNrounds (highestRound ts)
  addke : sa'.addke = idOr ts transformAddke sa.addke

theorem method_recordAddke (sa : IsakmpSa) (type id r : Nat) (hslots : sa.addkeMethods.length = 8)
    (haddke : isAddke type = true) : (sa.recordAddke type id).method r
      = if r = type - transformAddke then id else sa.method r := by
  have hbound := isAddke_iff.mp haddke
  have h6 : transformAddke = 6 := rfl
  unfold IsakmpSa.recordAddke IsakmpSa.method
  simp only [List.getD_eq_getElem?_getD]
  by_cases heq : r = type - transformAddke
  · rw [if_pos heq, heq, List.getElem?_set_self (by omega)]
    rfl
  · rw [if_neg heq, List.getElem?_set_ne (by omega)]

theorem idOr_single (s : Selected) (type d : Nat) :
    idOr [s] type d = if s.type = type then s.transform.id else d := by
  unfold idOr
  rw [selectedOf_cons]
  split <;> rfl

theorem recordType_from (hslots : sa.addkeMethods.length = 8)
    (h : sa.recordType groups s = some sa') : RecordedFrom groups sa sa' [s] := by
  have hlast : highestRound [s] = roundOf s.type := Nat.max_zero _
  have hdh : ∀ d, ((selectedOf transformDh [s]).map fun t => dhinfo groups t.id).getD d
      = if s.type = transformDh then dhinfo groups s.transform.id else d := by
    intro d
    rw [selectedOf_cons]
    split <;> rfl
  obtain ⟨htype, rfl⟩ | ⟨htype, rfl⟩ | ⟨htype, rfl⟩ | ⟨htype, rfl⟩ | ⟨haddke, rfl⟩ :=
    recordType_cases h
  case inr.inr.inr.inr =>
    have hbound := isAddke_iff.mp haddke
    have h6 : transformAddke = 6 := rfl
    have hother : ∀ type d, type < transformAddke → idOr [s] type d = d := by
      intro type d hlow
      rw [idOr_single, if_neg (by omega)]
    refine ⟨rfl, (hother _ _ (by decide)).symm, .inl rfl, (hother _ _ (by decide)).symm,
      (hother _ _ (by decide)).symm, ?_, List.length_set, ?_, ?_, ?_, ?_⟩
    · rw [hdh, if_neg (by unfold transformDh; omega)]
      rfl
    · intro r hr
      rw [method_recordAddke sa _ _ r hslots haddke, idOr_single]
      by_cases heq : r = s.type - transformAddke
      · rw [if_pos heq, if_pos (by omega)]
      · rw [if_neg heq, if_neg (by omega)]
    · rw [method_recordAddke sa _ _ 7 hslots haddke, if_neg (by omega)]
    · rw [hlast]
      unfold roundOf
      rw [if_pos haddke]
      rfl
    · rw [idOr_single]
      rfl
  -- the four classic types: one field of its own, and none of the others
  all_goals
    have hround : roundOf s.type = 0 := by
      rw [htype]
      decide
    have hlow : s.type < transformAddke := by
      rw [htype]
      decide
    have hmethod : ∀ r d, idOr [s] (transformAddke + r) d = d := by
      intro r d
      rw [idOr_single, if_neg (by omega)]
    refine ⟨rfl, ?_, .inl rfl, ?_, ?_, ?_, rfl, fun r _ => (hmethod r _).symm, rfl, ?_,
      (hmethod 0 _).symm⟩
  all_goals first
    | rw [hlast, hround, Nat.max_zero]
    | rw [idOr_single, htype]; rfl
    | rw [hdh, htype]; rfl

theorem recordOne_from (hslots : sa.addkeMethods.length = 8)
    (h : ((sa.recordType groups s).bind fun sa => sa.recordAttrs s) = some sa') :
    RecordedFrom groups sa sa' [s] := by
  obtain ⟨mid, htype, hattrs⟩ := Option.bind_eq_some_iff.mp h
  have hfrom := recordType_from hslots htype
  rcases recordAttrs_cases hattrs with rfl | rfl
  · exact hfrom
  · exact ⟨hfrom.number, hfrom.encr, .inr ⟨s, List.mem_cons_self, rfl⟩, hfrom.prf, hfrom.integr,
      hfrom.dhdef, hfrom.slots, hfrom.methods, hfrom.unused, hfrom.nrounds, hfrom.addke⟩

/-- Induction on the transforms: a type that comes later does not come again. -/
theorem record_from (ts : List Selected) : ∀ (sa : IsakmpSa), sa.addkeMethods.length = 8 →
    (ts.map Selected.type).Nodup → sa.record groups ts = some sa' →
      RecordedFrom groups sa sa' ts := by
  induction ts with
  | nil =>
    intro sa _ _ h
    rw [← Option.some.inj h]
    exact ⟨rfl, rfl, .inl rfl, rfl, rfl, rfl, rfl, fun r _ => rfl, rfl, (Nat.max_zero _).symm, rfl⟩
  | cons s ss ih =>
    intro sa hslots hdistinct h
    rw [List.map_cons, List.nodup_cons] at hdistinct
    unfold IsakmpSa.record at h
    split at h
    · exact absurd h (by simp)
    · rename_i mid hmid
      have hone := recordOne_from hslots hmid
      have hrest := ih mid (hone.slots.trans hslots) hdistinct.2 h
      have hchain : ∀ {β : Type} (f : Transform → β) type (d : β),
          ((selectedOf type ss).map f).getD (((selectedOf type [s]).map f).getD d)
            = ((selectedOf type (s :: ss)).map f).getD d := by
        intro β f type d
        rw [selectedOf_cons, selectedOf_cons]
        by_cases heq : s.type = type
        · have hnone : selectedOf type ss = none := by
            rw [selectedOf_none, ← heq]
            exact hdistinct.1
          rw [if_pos heq, if_pos heq, hnone]
          rfl
        · rw [if_neg heq, if_neg heq]
          rfl
      refine ⟨hrest.number.trans hone.number, ?_, ?_, ?_, ?_, ?_, hrest.slots.trans hone.slots, ?_,
        hrest.unused.trans hone.unused, ?_, ?_⟩
      · rw [hrest.encr, hone.encr]
        exact hchain _ _ _
      · rcases hrest.encrklen with hkept | ⟨x, hx, heq⟩
        · rcases hone.encrklen with hkept' | ⟨x, hx, heq⟩
          · exact .inl (hkept.trans hkept')
          · rw [List.mem_singleton.mp hx] at heq
            exact .inr ⟨s, List.mem_cons_self, hkept.trans heq⟩
        · exact .inr ⟨x, List.mem_cons_of_mem _ hx, heq⟩
      · rw [hrest.prf, hone.prf]
        exact hchain _ _ _
      · rw [hrest.integr, hone.integr]
        exact hchain _ _ _
      · rw [hrest.dhdef, hone.dhdef]
        exact hchain _ _ _
      · intro r hr
        rw [hrest.methods r hr, hone.methods r hr]
        exact hchain _ _ _
      · rw [hrest.nrounds, hone.nrounds, Nat.max_assoc]
        show max sa.addkeNrounds (max (max (roundOf s.type) 0) (highestRound ss)) = _
        rw [Nat.max_zero]
        rfl
      · rw [hrest.addke, hone.addke]
        exact hchain _ _ _

/-- a transform of another type makes the loop fail -/
theorem record_types (ts : List Selected) : ∀ (sa : IsakmpSa), sa.record groups ts = some sa' →
    ∀ s ∈ ts, s.type = transformEncr ∨ s.type = transformPrf ∨ s.type = transformIntegr
      ∨ s.type = transformDh ∨ isAddke s.type = true := by
  induction ts with
  | nil =>
    intro sa _ s hs
    exact absurd hs List.not_mem_nil
  | cons t ts ih =>
    intro sa h s hs
    unfold IsakmpSa.record at h
    split at h
    · exact absurd h (by simp)
    · rename_i mid hmid
      rcases List.mem_cons.mp hs with rfl | hs'
      · obtain ⟨typed, htype, -⟩ := Option.bind_eq_some_iff.mp hmid
        rcases recordType_cases htype with h1 | h1 | h1 | h1 | h1
        · exact .inl h1.1
        · exact .inr (.inl h1.1)
        · exact .inr (.inr (.inl h1.1))
        · exact .inr (.inr (.inr (.inl h1.1)))
        · exact .inr (.inr (.inr (.inr h1.1)))
      · exact ih mid h s hs'

/-- the types are known and the only key length is the cipher's: the loop succeeds -/
theorem record_isSome (ts : List Selected) : ∀ (sa : IsakmpSa),
    (∀ s ∈ ts, s.type = transformEncr ∨ (s.transform.attrs = [] ∧ (s.type = transformPrf
      ∨ s.type = transformIntegr ∨ s.type = transformDh ∨ isAddke s.type = true))) →
      (sa.record groups ts).isSome = true := by
  induction ts with
  | nil =>
    intro sa _
    rfl
  | cons s ss ih =>
    intro sa h
    have hrest := fun sa' => ih sa' fun x hx => h x (List.mem_cons_of_mem _ hx)
    have htype : ∃ mid, sa.recordType groups s = some mid := by
      unfold IsakmpSa.recordType
      simp only
      split
      · exact ⟨_, rfl⟩
      · rename_i hencr
        rcases h s List.mem_cons_self with habs | ⟨-, hother⟩
        · exact absurd habs hencr
        · split
          · exact ⟨_, rfl⟩
          · split
            · exact ⟨_, rfl⟩
            · split
              · exact ⟨_, rfl⟩
              · rename_i hprf hinteg hdh
                have haddke : isAddke s.type = true := by
                  rcases hother with h1 | h1 | h1 | h1
                  · exact absurd h1 hprf
                  · exact absurd h1 hinteg
                  · exact absurd h1 hdh
                  · exact h1
                rw [if_pos haddke]
                exact ⟨_, rfl⟩
    obtain ⟨mid, hmid⟩ := htype
    have hattrs : ∃ mid', mid.recordAttrs s = some mid' := by
      unfold IsakmpSa.recordAttrs
      rcases h s List.mem_cons_self with hencr | ⟨hnone, -⟩
      · rw [if_pos hencr]
        split
        · exact ⟨_, rfl⟩
        · exact ⟨_, rfl⟩
      · rw [hnone]
        exact ⟨_, rfl⟩
    obtain ⟨mid', hmid'⟩ := hattrs
    unfold IsakmpSa.record
    rw [hmid, Option.bind_some, hmid']
    exact hrest mid'

/-- the fields that `ikev2_proppair_to_isakmpsa` sets -/
theorem proppairToIsakmpsa_from {number : Nat} (hdistinct : (ts.map Selected.type).Nodup)
    (h : proppairToIsakmpsa groups number ts = some sa') :
    RecordedFrom groups { propNo := number } sa' ts :=
  record_from ts _ rfl hdistinct h

theorem proppairToIsakmpsa_recorded {number : Nat} (hdistinct : (ts.map Selected.type).Nodup)
    (h : proppairToIsakmpsa groups number ts = some sa') :
    sa'.propNo = number ∧ Recorded sa' ts := by
  have hfrom := proppairToIsakmpsa_from hdistinct h
  refine ⟨hfrom.number, hfrom.slots, ?_, hfrom.unused, ?_, hfrom.addke⟩
  · intro r hr
    have hblank : ∀ r, r < 7 → (List.replicate 8 0).getD r 0 = 0 := by decide
    rw [hfrom.methods r hr]
    show idOr ts (transformAddke + r) ((List.replicate 8 0).getD r 0)
      = methodOf ts (transformAddke + r)
    rw [hblank r hr]
    rfl
  · rw [hfrom.nrounds]
    exact Nat.zero_max _

/-- recording a selected method again changes nothing -/
theorem recordAddke_again (h : Recorded sa ts) (hdistinct : (ts.map Selected.type).Nodup)
    (hs : s ∈ ts) (haddke : isAddke s.type = true) :
    sa.recordAddke s.type s.transform.id = sa := by
  have hbound := isAddke_iff.mp haddke
  have h6 : transformAddke = 6 := rfl
  have hsel := selectedOf_mem hs hdistinct
  have hr : transformAddke + (s.type - transformAddke) = s.type := by omega
  have hmethod := h.methods (s.type - transformAddke) (by omega)
  rw [hr] at hmethod
  unfold methodOf at hmethod
  rw [hsel] at hmethod
  have hset : sa.addkeMethods.set (s.type - transformAddke) s.transform.id = sa.addkeMethods := by
    have hlt : s.type - transformAddke < sa.addkeMethods.length := by
      rw [h.slots]
      omega
    unfold IsakmpSa.method at hmethod
    rw [List.getD_eq_getElem?_getD, List.getElem?_eq_getElem hlt, Option.getD_some] at hmethod
    show sa.addkeMethods.set (s.type - transformAddke) ((some s.transform).map Transform.id |>.getD 0)
      = sa.addkeMethods
    rw [← hmethod]
    exact List.set_getElem_self hlt
  have hrounds : max sa.addkeNrounds (s.type - transformAddke + 1) = sa.addkeNrounds := by
    apply Nat.max_eq_left
    rw [h.nrounds]
    have hle := le_highestRound hs
    unfold roundOf at hle
    rw [if_pos haddke] at hle
    exact hle
  have haddke' : (if s.type = transformAddke then s.transform.id else sa.addke) = sa.addke := by
    by_cases heq : s.type = transformAddke
    · rw [if_pos heq, h.addke, ← heq]
      unfold methodOf
      rw [hsel]
      rfl
    · rw [if_neg heq]
  unfold IsakmpSa.recordAddke
  rw [hset, hrounds, haddke']

end

/-! ## `ikev2_find_match_ikesa` -/

/-- the alternatives of a remote's `kmp_enc_alg`, `kmp_prf_alg`, `kmp_hash_alg` and `kmp_dh_group` -/
structure IkeConf where
  encr : List Transform
  prf : List Transform
  integr : List Transform
  dh : List Transform

def IkeConf.groups (c : IkeConf) : List Group :=
  [⟨transformEncr, c.encr⟩, ⟨transformPrf, c.prf⟩, ⟨transformIntegr, c.integr⟩,
    ⟨transformDh, c.dh⟩].filter fun g => !g.alternatives.isEmpty

theorem IkeConf.groups_types (c : IkeConf) : (c.groups.map Group.type).Sublist [1, 2, 3, 4] := by
  unfold IkeConf.groups
  exact (List.filter_sublist).map Group.type

/-- `ikev2_conf_to_proplist`: one proposal, without an SPI -/
def confToProplist (c : IkeConf) : List (List OwnProto) :=
  [[⟨⟨proposalIke, [], c.groups⟩, c.groups_types.nodup (by decide)⟩]]

/-- the array of proposals that `ikev2_parse_sa` fills, by their numbers -/
structure PeerList where
  proposals : List PeerProposal
  ascending : (proposals.map PeerProposal.number).Pairwise (· < ·)

/-- `peer_proposal[number]` -/
def PeerList.at (l : PeerList) (number : Nat) : Option PeerProposal :=
  l.proposals.find? (·.number == number)

/-- the alternatives that `ikev2_depr_refused` leaves -/
def Group.allowed (refused : Nat → Nat → Bool) (g : Group) : Group :=
  { g with alternatives := g.alternatives.filter fun t => !refused g.type t.id }

/-- a type that loses all its alternatives takes the proposal with it -/
def PeerProto.allowed (refused : Nat → Nat → Nat → Bool) (p : PeerProto) : Option PeerProto :=
  if h : ∀ g ∈ p.groups.map (Group.allowed (refused p.protocol)), g.alternatives ≠ [] then
    some
      { protocol := p.protocol
        spi := p.spi
        groups := p.groups.map (Group.allowed (refused p.protocol))
        some_group := by simpa using p.some_group
        distinct := by
          rw [List.map_map]
          exact p.distinct
        some_alternative := h }
  else none

def PeerProposal.allowed (refused : Nat → Nat → Nat → Bool) (p : PeerProposal) :
    Option PeerProposal :=
  (p.protos.mapM (PeerProto.allowed refused)).map fun protos => ⟨p.number, protos⟩

theorem PeerProposal.allowed_number {refused : Nat → Nat → Nat → Bool} {p q : PeerProposal}
    (h : p.allowed refused = some q) : q.number = p.number := by
  unfold PeerProposal.allowed at h
  obtain ⟨protos, -, rfl⟩ := Option.map_eq_some_iff.mp h
  rfl

/-- what a `filterMap` keeps, seen through a projection -/
theorem filterMap_map_sublist {α β γ : Type} {f : α → Option β} {g : β → γ} {h : α → γ}
    (hf : ∀ a b, f a = some b → g b = h a) (l : List α) :
    ((l.filterMap f).map g).Sublist (l.map h) := by
  induction l with
  | nil => exact List.Sublist.refl _
  | cons a as ih =>
    cases ha : f a with
    | none =>
      rw [List.filterMap_cons_none ha, List.map_cons]
      exact ih.cons _
    | some b =>
      rw [List.filterMap_cons_some ha, List.map_cons, List.map_cons, hf a b ha]
      exact ih.cons_cons _

/-- `ikev2_proplist_filter_deprecated` -/
def PeerList.filterDeprecated (refused : Nat → Nat → Nat → Bool) (l : PeerList) : PeerList where
  proposals := l.proposals.filterMap (PeerProposal.allowed refused)
  ascending := l.ascending.sublist
    (filterMap_map_sublist (fun _ _ => PeerProposal.allowed_number) l.proposals)

/-- a transform other than ADDKE1: without IKE_INTERMEDIATE only such proposals are matched -/
def hasClassic (p : PeerProposal) : Bool :=
  match p.protos with
  | [] => false
  | q :: _ => q.groups.any (·.type != transformAddke)

/-- the loop that records the ADDKE transforms of `peer_proposal[p_no]` -/
def IsakmpSa.recordOffered : IsakmpSa → List Group → IsakmpSa
  | sa, [] => sa
  | sa, g :: gs =>
    match g.alternatives with
    | [] => sa.recordOffered gs
    | t :: _ =>
      if isAddke g.type then (sa.recordAddke g.type t.id).recordOffered gs
      else sa.recordOffered gs

/-- the proposals of the peer that `ikev2_find_match_ikesa` hands to the matcher -/
def matchable (peers : PeerList) (rekey allowInitAddke : Bool) : List PeerProposal :=
  if !rekey && !allowInitAddke then peers.proposals.filter hasClassic else peers.proposals

/-- the record of a matched proposal, with the second recording behind its conditions -/
def matchedToIsakmpsa (groups : List Nat) (peers : PeerList) (rekey allowInitAddke : Bool)
    (number : Nat) (ts : List Selected) : Option IsakmpSa :=
  match proppairToIsakmpsa groups number ts with
  | none => none
  | some sa =>
    if !(rekey || allowInitAddke) then some sa
    -- on the initial SA the rounds need an AEAD
    else if !rekey && !encrIsAead sa.encr then some sa
    else if number < 1 || 256 ≤ number then some sa
    else match peers.at number with
      | none => some sa
      | some p =>
        match p.protos with
        | [] => some sa
        | q :: _ => some (sa.recordOffered q.groups)

/-- `ikev2_find_match_ikesa`: the SA and the SPI; `rekey` is `spi != NULL` -/
def findMatchIkesa (groups : List Nat) (refused : Nat → Nat → Nat → Bool) (conf : Option IkeConf)
    (peers : PeerList) (rekey allowInitAddke : Bool) : Option IsakmpSa × Option Bytes :=
  match conf with
  | none => (none, none)
  | some c =>
    let peers := peers.filterDeprecated refused
    match findMatchNumbered (confToProplist c) (matchable peers rekey allowInitAddke) .peer with
    | none => (none, none)
    | some matched =>
      match matched.protos with
      | [] => (none, none)
      | proto :: _ =>
        if rekey && proto.spi.length != 8 then (none, none)
        else
          (matchedToIsakmpsa groups peers rekey allowInitAddke matched.number proto.transforms,
            if rekey then some proto.spi else none)

/-! ## what is recorded -/

theorem IkeConf.not_addke {c : IkeConf} {g : Group} (hg : g ∈ c.groups) :
    isAddke g.type = false := by
  have hmem := c.groups_types.subset (List.mem_map_of_mem hg)
  have hall : ∀ type ∈ [1, 2, 3, 4], isAddke type = false := by decide
  exact hall g.type hmem

section
variable {mine peers : List Group} {ts : List Selected}

/-- an ADDKE type of the peer's is selected with the peer's first alternative -/
theorem Selection.addke_head (h : Selection mine peers ts)
    (hmine : ∀ g ∈ mine, isAddke g.type = false) (hdistinct : (peers.map Group.type).Nodup)
    {p : Group} (hp : p ∈ peers) (haddke : isAddke p.type = true) :
    ∃ s ∈ ts, s.type = p.type ∧ p.alternatives.head? = some s.transform := by
  obtain ⟨s, hs, htype⟩ := h.all_offered p hp
  rcases h.origin s hs with ⟨g, hg, q, hq, hgt, hqt, -⟩ | ⟨-, -, q, hq, hqt, hhead⟩
  · have hno := hmine g hg
    rw [hgt, htype, haddke] at hno
    exact absurd hno (by simp)
  · obtain rfl : q = p := List.inj_on_of_nodup_map hdistinct hq hp (hqt.trans htype)
    exact ⟨s, hs, htype, hhead⟩

theorem Selection.addke_selectedOf (h : Selection mine peers ts)
    (hmine : ∀ g ∈ mine, isAddke g.type = false) (hdistinct : (peers.map Group.type).Nodup)
    {type : Nat} (haddke : isAddke type = true) :
    selectedOf type ts = (groupOf type peers).bind fun g => g.alternatives.head? := by
  cases hgroup : groupOf type peers with
  | none =>
    rw [Option.bind_none, selectedOf_none]
    intro hmem
    obtain ⟨s, hs, rfl⟩ := List.mem_map.mp hmem
    have hno := groupOf_none.mp hgroup
    rcases h.origin s hs with ⟨_, _, q, hq, _, hqt, _⟩ | ⟨_, _, q, hq, hqt, _⟩
    · exact hno q hq hqt
    · exact hno q hq hqt
  | some p =>
    obtain ⟨hp, hpt⟩ := groupOf_some hgroup
    rw [← hpt] at haddke
    obtain ⟨s, hs, htype, hhead⟩ := h.addke_head hmine hdistinct hp haddke
    rw [Option.bind_some, hhead, ← hpt, ← htype]
    exact selectedOf_mem hs h.one_per_type

/-- recording the peer's offer after the selection changes nothing -/
theorem recorded_again {sa : IsakmpSa} (h : Selection mine peers ts)
    (hmine : ∀ g ∈ mine, isAddke g.type = false) (hdistinct : (peers.map Group.type).Nodup)
    (hsa : Recorded sa ts) : ∀ gs, (∀ g ∈ gs, g ∈ peers) → sa.recordOffered gs = sa := by
  intro gs
  induction gs with
  | nil =>
    intro _
    rfl
  | cons g gs ih =>
    intro hsub
    have hrest := ih fun x hx => hsub x (List.mem_cons_of_mem _ hx)
    unfold IsakmpSa.recordOffered
    split
    · exact hrest
    · rename_i t rest halts
      split
      · rename_i haddke
        obtain ⟨s, hs, htype, hhead⟩ := h.addke_head hmine hdistinct
          (hsub g List.mem_cons_self) haddke
        rw [halts, List.head?_cons] at hhead
        have hsame := recordAddke_again hsa h.one_per_type hs (htype ▸ haddke)
        rw [Option.some.inj hhead, ← htype, hsame]
        exact hrest
      · exact hrest

end

section
variable {groups : List Nat} {peers : PeerList} {rekey allowInitAddke : Bool}

theorem PeerList.at_of_mem {l : PeerList} {p : PeerProposal} (hp : p ∈ l.proposals) :
    l.at p.number = some p := by
  have hdistinct : (l.proposals.map PeerProposal.number).Nodup := l.ascending.imp Nat.ne_of_lt
  unfold PeerList.at
  cases hfind : l.proposals.find? (·.number == p.number) with
  | none =>
    have hno := List.find?_eq_none.mp hfind p hp
    exact absurd (beq_self_eq_true _) hno
  | some q =>
    have hq : q.number = p.number := by simpa using List.find?_some hfind
    rw [List.inj_on_of_nodup_map hdistinct (List.mem_of_find?_eq_some hfind) hp hq]

theorem mem_matchable {p : PeerProposal} (h : p ∈ matchable peers rekey allowInitAddke) :
    p ∈ peers.proposals := by
  unfold matchable at h
  split at h
  · exact List.mem_of_mem_filter h
  · exact h

/-- the proposals behind a match: both have the one protocol -/
theorem matched_ike {c : IkeConf} {offered : List PeerProposal} {matched : MatchedProposal}
    (h : findMatchNumbered (confToProplist c) offered .peer = some matched) :
    ∃ p ∈ offered, ∃ q, p.protos = [q] ∧ q.protocol = proposalIke
      ∧ compareTransforms c.groups q.groups = true
      ∧ matched = ⟨p.number, [⟨q.protocol, q.spi, matchTransforms c.groups q.groups⟩]⟩ := by
  obtain ⟨m, p, hpair, -, rfl⟩ := findMatchNumbered_some h
  obtain ⟨hm, hp, hmatch⟩ := firstPair_some hpair
  rw [List.mem_singleton.mp hm] at hmatch ⊢
  obtain ⟨hlen, hprotos⟩ := protosMatch_zip hmatch
  have hlen' : p.protos.length = 1 := by
    unfold PeerProposal.plain at hlen
    rw [List.length_map] at hlen
    exact hlen.symm
  obtain ⟨q, hq⟩ := List.length_eq_one_iff.mp hlen'
  have hplain : p.plain = [q.toProto] := by
    unfold PeerProposal.plain
    rw [hq]
    rfl
  rw [hplain] at hprotos ⊢
  obtain ⟨hprotocol, hcompare⟩ := hprotos _ List.mem_cons_self
  exact ⟨p, hp, q, hq, hprotocol.symm, hcompare, rfl⟩

/-- the second recording changes nothing -/
theorem matchedToIsakmpsa_once {c : IkeConf} {p : PeerProposal} {q : PeerProto}
    {sa : IsakmpSa} (hp : p ∈ peers.proposals) (hq : p.protos = [q])
    (hsel : Selection c.groups q.groups (matchTransforms c.groups q.groups))
    (h : matchedToIsakmpsa groups peers rekey allowInitAddke p.number
      (matchTransforms c.groups q.groups) = some sa) :
    proppairToIsakmpsa groups p.number (matchTransforms c.groups q.groups) = some sa := by
  unfold matchedToIsakmpsa at h
  split at h
  · exact absurd h (by simp)
  · rename_i sa' hsa
    have hrec := proppairToIsakmpsa_recorded hsel.one_per_type hsa
    have hagain : sa'.recordOffered q.groups = sa' :=
      recorded_again hsel (fun g => IkeConf.not_addke) q.distinct hrec.2 q.groups fun g hg => hg
    rw [PeerList.at_of_mem hp] at h
    simp only [hq, hagain] at h
    have hsame : sa' = sa := by
      split at h
      · exact Option.some.inj h
      · split at h
        · exact Option.some.inj h
        · split at h <;> exact Option.some.inj h
    rw [← hsame]
    exact hsa

/-- the match behind an SA that `ikev2_find_match_ikesa` returns -/
theorem findMatchIkesa_matched {refused : Nat → Nat → Nat → Bool} {conf : Option IkeConf}
    {sa : IsakmpSa}
    (h : (findMatchIkesa groups refused conf peers rekey allowInitAddke).1 = some sa) :
    ∃ c, conf = some c ∧ ∃ p ∈ (peers.filterDeprecated refused).proposals, ∃ q, p.protos = [q]
      ∧ q.protocol = proposalIke
      ∧ findMatchNumbered (confToProplist c)
          (matchable (peers.filterDeprecated refused) rekey allowInitAddke) .peer
        = some ⟨p.number, [⟨q.protocol, q.spi, matchTransforms c.groups q.groups⟩]⟩
      ∧ Selection c.groups q.groups (matchTransforms c.groups q.groups)
      ∧ proppairToIsakmpsa groups p.number (matchTransforms c.groups q.groups) = some sa := by
  unfold findMatchIkesa at h
  cases conf with
  | none => exact absurd h (by simp)
  | some c =>
    refine ⟨c, rfl, ?_⟩
    simp only at h
    split at h
    · exact absurd h (by simp)
    · rename_i matched hmatched
      obtain ⟨p, hp, q, hq, hprotocol, hcompare, rfl⟩ := matched_ike hmatched
      have hp' := mem_matchable hp
      simp only at h
      split at h
      · exact absurd h (by simp)
      · have hsel : Selection c.groups q.groups (matchTransforms c.groups q.groups) :=
          match_of_compare hcompare (c.groups_types.nodup (by decide)) q.some_group
            q.some_alternative
        exact ⟨p, hp', q, hq, hprotocol, hmatched, hsel, matchedToIsakmpsa_once hp' hq hsel h⟩

theorem confToProplist_not_addke (c : IkeConf) :
    ∀ m ∈ confToProplist c, ∀ o ∈ m, ∀ g ∈ o.groups, isAddke g.type = false := by
  intro m hm o ho g hg
  rw [List.mem_singleton.mp hm] at ho
  rw [List.mem_singleton.mp ho] at hg
  exact IkeConf.not_addke hg

/-- The ADDKE methods of the SA that `ikev2_find_match_ikesa` returns are those of the proposal that
the matcher selected, type by type; the matcher selected the first alternative of each ADDKE type of
the peer's proposal with that number; and our own proposal has no ADDKE type. -/
theorem recorded_addke {refused : Nat → Nat → Nat → Bool} {conf : Option IkeConf} {sa : IsakmpSa}
    (h : (findMatchIkesa groups refused conf peers rekey allowInitAddke).1 = some sa) :
    ∃ c, conf = some c
      ∧ (∀ m ∈ confToProplist c, ∀ o ∈ m, ∀ g ∈ o.groups, isAddke g.type = false)
      ∧ ∃ matched proto,
      findMatchNumbered (confToProplist c)
        (matchable (peers.filterDeprecated refused) rekey allowInitAddke) .peer = some matched
      ∧ matched.protos = [proto] ∧ sa.propNo = matched.number ∧ Recorded sa proto.transforms
      ∧ ∃ p ∈ (peers.filterDeprecated refused).proposals, p.number = matched.number
        ∧ ∃ q, p.protos = [q] ∧ ∀ type, isAddke type = true →
          selectedOf type proto.transforms
            = (groupOf type q.groups).bind fun g => g.alternatives.head? := by
  obtain ⟨c, hc, p, hp, q, hq, -, hmatched, hsel, hsa⟩ := findMatchIkesa_matched h
  obtain ⟨hnumber, hrec⟩ := proppairToIsakmpsa_recorded hsel.one_per_type hsa
  refine ⟨c, hc, confToProplist_not_addke c, _, _, hmatched, rfl, hnumber, hrec, p, hp, rfl, q, hq, ?_⟩
  intro type haddke
  exact hsel.addke_selectedOf (fun g => IkeConf.not_addke) q.distinct haddke

end

/-- a remote with AES-GCM, SHA-2 and MODP 2048 -/
def gcmConf : IkeConf := ⟨[⟨20, [.short 14 256]⟩], [⟨5, []⟩], [⟨12, []⟩], [⟨14, []⟩]⟩

/-- a peer with two alternatives for ADDKE1 -/
def twoMlkemProto : PeerProto where
  protocol := 1
  spi := []
  groups := [⟨1, [⟨20, [.short 14 256]⟩]⟩, ⟨2, [⟨5, []⟩]⟩, ⟨4, [⟨14, []⟩]⟩,
    ⟨6, [⟨37, []⟩, ⟨36, []⟩]⟩]
  some_group := by decide
  distinct := by decide
  some_alternative := by decide

def twoMlkemPeer : PeerList where
  proposals := [⟨1, [twoMlkemProto]⟩]
  ascending := by decide

def twoMlkemSa : IsakmpSa where
  propNo := 1
  encr := 20
  encrklen := 256
  prf := 5
  dhdef := some 14
  addke := 37
  addkeMethods := [37, 0, 0, 0, 0, 0, 0, 0]
  addkeNrounds := 1

/-- a method is recorded although our own proposal has no ADDKE type -/
theorem recorded_addke_peer_only :
    (findMatchIkesa [14] (fun _ _ _ => false) (some gcmConf) twoMlkemPeer false true).1
      = some twoMlkemSa
    ∧ twoMlkemSa.method 0 = 37
    ∧ ∀ m ∈ confToProplist gcmConf, ∀ o ∈ m, ∀ g ∈ o.groups, isAddke g.type = false :=
  ⟨by decide +kernel, by decide, confToProplist_not_addke gcmConf⟩

theorem recorded_addke_two_alternatives :
    ∃ matched proto,
      findMatchNumbered (confToProplist gcmConf)
        (matchable (twoMlkemPeer.filterDeprecated fun _ _ _ => false) false true) .peer = some matched
      ∧ matched.protos = [proto] ∧ Recorded twoMlkemSa proto.transforms := by
  have h : (findMatchIkesa [14] (fun _ _ _ => false) (some gcmConf) twoMlkemPeer false true).1
      = some twoMlkemSa := by decide +kernel
  obtain ⟨c, hc, -, matched, proto, hmatched, hprotos, -, hrec, -⟩ := recorded_addke h
  rw [← Option.some.inj hc] at hmatched
  exact ⟨matched, proto, hmatched, hprotos, hrec⟩

end Ikev2
