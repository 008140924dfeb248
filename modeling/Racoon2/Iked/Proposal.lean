import Racoon2.Lib.Bytes

/-!
# Proposals and their matching

`ikev2_compare_transforms`, `ikev2_match_transforms` and `isakmp_find_match`: which transforms of
our own proposals a peer's SA payload selects.  A parsed proposal is a list of groups, one for each
transform type with its alternatives (`next` and `tnext` of `struct prop_pair`).

The proposals stored on both sides of a match have the transforms of `matchTransforms` and differ
only in the SPI, and the transforms an initiator selects from the responder's answer have the ids and
attributes of the responder's (`answer_selected`).
-/

set_option linter.unusedVariables false

namespace Ikev2
open Bytes

/-! ## transforms -/

def transformEncr : Nat := 1
def transformIntegr : Nat := 3
def transformDh : Nat := 4
def transformAddke : Nat := 6

/-- ADDKE1 to ADDKE7 -/
def isAddke (type : Nat) : Bool := transformAddke ≤ type && type ≤ transformAddke + 6

def isDh (type : Nat) : Bool := type == transformDh

/-- an attribute of a transform, in the short (TV) or the long (TLV) form -/
inductive Attr where
  | short (type value : Nat)
  | long (type : Nat) (value : Bytes)
  deriving DecidableEq, Repr

def attrKeyLength : Nat := 14

def Attr.size : Attr → Nat
  | .short _ _ => 4
  | .long _ value => 4 + value.length

structure Transform where
  id : Nat
  attrs : List Attr
  deriving DecidableEq, Repr

/-- the alternatives for one transform type -/
structure Group where
  type : Nat
  alternatives : List Transform
  deriving DecidableEq, Repr

/-- a transform that was singled out -/
structure Selected where
  type : Nat
  transform : Transform
  deriving DecidableEq, Repr

/-! ## attributes -/

/-- ENCR_RC5, ENCR_CAST and ENCR_BLOWFISH have a default key length -/
def hasDefaultKeylen (id : Nat) : Bool := id == 4 || id == 6 || id == 7

/-- the only attribute is a key length -/
def soleKeylen : List Attr → Option Nat
  | [.short type value] => if type = attrKeyLength then some value else none
  | _ => none

/-- `ikev2_compare_attributes(...) == 0` -/
def compareAttributes (type : Nat) (my peer : Transform) : Bool :=
  match my.attrs, peer.attrs with
  | [], [] => true
  | [], attrs => type == transformEncr && hasDefaultKeylen my.id && soleKeylen attrs == some 128
  | attrs, [] => type == transformEncr && hasDefaultKeylen my.id && soleKeylen attrs == some 128
  | mine, peers =>
    match soleKeylen mine, soleKeylen peers with
    | some a, some b => a == b
    | _, _ => false

/-! ## one protocol -/

/-- `ikev2_encr_is_aead` -/
def encrIsAead (id : Nat) : Bool := [20, 19, 18, 14, 15, 16, 28, 21].contains id

/-- the first ENCR transform of a peer is an AEAD -/
def peerUsesAeadEncr (peers : List Group) : Bool :=
  peers.any fun g => g.type == transformEncr && g.alternatives.head?.any (encrIsAead ·.id)

/-- the first of our alternatives that the peer has too -/
def pick (mine peers : Group) : Option Transform :=
  mine.alternatives.find? fun m =>
    peers.alternatives.any fun p => m.id == p.id && compareAttributes mine.type m p

def groupOf (type : Nat) (groups : List Group) : Option Group := groups.find? (·.type == type)

/-- a type that the peer may leave out -/
def mayLack (peers : List Group) (type : Nat) : Bool :=
  isAddke type || (type == transformIntegr && peerUsesAeadEncr peers)

/-- `ikev2_compare_transforms(...) == 0` -/
def compareTransforms (mine peers : List Group) : Bool :=
  (mine.all fun g =>
    match groupOf g.type peers with
    | none => mayLack peers g.type
    | some p => (pick g p).isSome)
  && peers.all fun p => mine.any (·.type == p.type) || isAddke p.type

/-- the loop of `ikev2_match_transforms` over our types; `none`: it fails -/
def matchLoop (peers : List Group) : List Group → Option (List Selected)
  | [] => some []
  | g :: gs =>
    match groupOf g.type peers with
    | none => if mayLack peers g.type then matchLoop peers gs else none
    | some p =>
      match pick g p with
      | none => none
      | some t => (matchLoop peers gs).map (⟨g.type, t⟩ :: ·)

/-- the peer's types that ours does not have are carried along -/
def carry (want : Nat → Bool) : List Group → List Selected → List Selected
  | [], acc => acc
  | p :: ps, acc =>
    match p.alternatives with
    | [] => carry want ps acc
    | t :: _ =>
      if want p.type && !acc.any (·.type == p.type) then carry want ps (acc ++ [⟨p.type, t⟩])
      else carry want ps acc

/-- `ikev2_match_transforms` -/
def matchTransforms (mine peers : List Group) : List Selected :=
  match matchLoop peers mine with
  | none => []
  | some matched => carry isDh peers (carry isAddke peers matched)

/-! ## whole proposals -/

/-- one protocol of a proposal -/
structure Proto where
  protocol : Nat
  spi : Bytes
  groups : List Group
  deriving DecidableEq, Repr

/-- our own proposals have one group for each transform type (`ikev2_ipsec_sa_to_proplist`) -/
structure OwnProto extends Proto where
  distinct : (groups.map Group.type).Nodup

/-- one protocol of a matched proposal -/
structure Matched where
  protocol : Nat
  spi : Bytes
  transforms : List Selected
  deriving DecidableEq, Repr

/-- the protocols match one by one -/
def protosMatch : List OwnProto → List Proto → Bool
  | [], [] => true
  | m :: ms, p :: ps =>
    m.protocol == p.protocol && compareTransforms m.groups p.groups && protosMatch ms ps
  | _, _ => false

/-- the first of our proposals, and the first of the peer's, that match -/
def firstMatch (mine : List (List OwnProto)) (peers : List (List Proto)) :
    Option (List OwnProto × List Proto) :=
  mine.findSome? fun m => (peers.find? (protosMatch m)).map fun p => (m, p)

inductive PeerMine where
  | mine
  | peer
  deriving DecidableEq, Repr

/-- `isakmp_find_match` -/
def findMatch (mine : List (List OwnProto)) (peers : List (List Proto)) (which : PeerMine) :
    Option (List Matched) :=
  match firstMatch mine peers with
  | none => none
  | some (m, p) =>
    match which with
    | .mine =>
      if (m.zip p).all fun x => x.1.spi.length == x.2.spi.length then
        some ((m.zip p).map fun x =>
          ⟨x.1.protocol, x.1.spi, matchTransforms x.1.groups x.2.groups⟩)
      else none
    | .peer =>
      some ((m.zip p).map fun x => ⟨x.2.protocol, x.2.spi, matchTransforms x.1.groups x.2.groups⟩)

/-! ## what a match selects -/

/-- the transform of a type -/
def selectedOf (type : Nat) (ts : List Selected) : Option Transform :=
  (ts.find? (·.type == type)).map Selected.transform

section
variable {mine peers : List Group} {type : Nat}

theorem groupOf_some {g : Group} (h : groupOf type peers = some g) :
    g ∈ peers ∧ g.type = type := by
  refine ⟨List.mem_of_find?_eq_some h, ?_⟩
  have hb := List.find?_some h
  simpa using hb

theorem groupOf_none : groupOf type peers = none ↔ ∀ g ∈ peers, g.type ≠ type := by
  unfold groupOf
  rw [List.find?_eq_none]
  simp

/-- after `ikev2_compare_transforms` the match does not fail -/
theorem matchLoop_isSome (h : ∀ g ∈ mine, match groupOf g.type peers with
      | none => mayLack peers g.type = true
      | some p => (pick g p).isSome = true) :
    (matchLoop peers mine).isSome = true := by
  induction mine with
  | nil => rfl
  | cons g gs ih =>
    have hg := h g List.mem_cons_self
    have hrest := ih fun x hx => h x (List.mem_cons_of_mem _ hx)
    unfold matchLoop
    split
    · rename_i hnone
      rw [hnone] at hg
      rw [if_pos hg]
      exact hrest
    · rename_i p hsome
      rw [hsome] at hg
      split
      · rename_i hpick
        simp [hpick] at hg
      · rw [Option.isSome_map]
        exact hrest

/-- the selected types are ours, each at most once -/
theorem matchLoop_sublist {ts : List Selected} (h : matchLoop peers mine = some ts) :
    (ts.map Selected.type).Sublist (mine.map Group.type) := by
  induction mine generalizing ts with
  | nil =>
    rw [← Option.some.inj h]
    exact List.Sublist.refl _
  | cons g gs ih =>
    unfold matchLoop at h
    split at h
    · split at h
      · exact (ih h).cons _
      · exact absurd h (by simp)
    · split at h
      · exact absurd h (by simp)
      · obtain ⟨ts', hts', rfl⟩ := Option.map_eq_some_iff.mp h
        exact (ih hts').cons_cons _

/-- the transform selected for one of our types -/
theorem matchLoop_selectedOf {ts : List Selected} (h : matchLoop peers mine = some ts)
    (hdistinct : (mine.map Group.type).Nodup) :
    selectedOf type ts
      = (groupOf type mine).bind fun g => (groupOf type peers).bind fun p => pick g p := by
  induction mine generalizing ts with
  | nil =>
    rw [← Option.some.inj h]
    rfl
  | cons g gs ih =>
    rw [List.map_cons, List.nodup_cons] at hdistinct
    have hsub : ∀ {ts' : List Selected}, matchLoop peers gs = some ts' → g.type = type →
        selectedOf type ts' = none := by
      intro ts' hts' htype
      unfold selectedOf
      rw [Option.map_eq_none_iff, List.find?_eq_none]
      intro x hx heq
      apply hdistinct.1
      have hmem := (matchLoop_sublist hts').subset (List.mem_map_of_mem hx)
      rw [htype]
      rw [beq_iff_eq.mp heq] at hmem
      exact hmem
    have hgroup : groupOf type (g :: gs) = if g.type = type then some g else groupOf type gs := by
      unfold groupOf
      rw [List.find?_cons]
      by_cases heq : g.type = type
      · rw [if_pos heq, beq_iff_eq.mpr heq]
      · rw [if_neg heq, beq_eq_false_iff_ne.mpr heq]
    rw [hgroup]
    unfold matchLoop at h
    by_cases htype : g.type = type
    · rw [if_pos htype, Option.bind_some]
      rw [htype] at h
      split at h
      · rename_i hnone
        rw [hnone, Option.bind_none]
        split at h
        · exact hsub h htype
        · exact absurd h (by simp)
      · rename_i p hsome
        rw [hsome, Option.bind_some]
        split at h
        · exact absurd h (by simp)
        · rename_i t hpick
          obtain ⟨ts', hts', rfl⟩ := Option.map_eq_some_iff.mp h
          rw [hpick]
          simp [selectedOf]
    · rw [if_neg htype]
      split at h
      · split at h
        · exact ih h hdistinct.2
        · exact absurd h (by simp)
      · split at h
        · exact absurd h (by simp)
        · obtain ⟨ts', hts', rfl⟩ := Option.map_eq_some_iff.mp h
          rw [← ih hts' hdistinct.2]
          simp [selectedOf, htype]

theorem carry_selectedOf {want : Nat → Bool} (hwant : want type = false) (ps : List Group)
    (acc : List Selected) : selectedOf type (carry want ps acc) = selectedOf type acc := by
  induction ps generalizing acc with
  | nil => rfl
  | cons p ps ih =>
    unfold carry
    split
    · exact ih acc
    · rename_i t rest _
      split
      · rename_i hadd
        have hne : p.type ≠ type := by
          rintro rfl
          rw [hwant] at hadd
          simp at hadd
        rw [ih]
        simp [selectedOf, List.find?_append, hne]
      · exact ih acc

theorem carry_nodup (want : Nat → Bool) (ps : List Group) (acc : List Selected)
    (h : (acc.map Selected.type).Nodup) :
    ((carry want ps acc).map Selected.type).Nodup := by
  induction ps generalizing acc with
  | nil => exact h
  | cons p ps ih =>
    unfold carry
    split
    · exact ih acc h
    · rename_i t rest _
      split
      · rename_i hadd
        apply ih
        rw [List.map_append, List.nodup_append]
        refine ⟨h, by simp, ?_⟩
        intro a ha b hb heq
        rw [List.map_singleton, List.mem_singleton] at hb
        obtain ⟨x, hx, rfl⟩ := List.mem_map.mp ha
        have hnew : acc.any (fun y => y.type == p.type) = false := by
          simpa using (Bool.and_eq_true_iff.mp hadd).2
        have hcontra := List.any_eq_false.mp hnew x hx
        exact hcontra (beq_iff_eq.mpr (heq.trans hb))
      · exact ih acc h

/-- the types of a match are distinct -/
theorem matchTransforms_nodup (hdistinct : (mine.map Group.type).Nodup) :
    ((matchTransforms mine peers).map Selected.type).Nodup := by
  unfold matchTransforms
  split
  · exact List.nodup_nil
  · rename_i ts hts
    apply carry_nodup
    apply carry_nodup
    exact (matchLoop_sublist hts).nodup hdistinct

theorem compareTransforms_mine (h : compareTransforms mine peers = true) {g : Group}
    (hg : g ∈ mine) : match groupOf g.type peers with
      | none => mayLack peers g.type = true
      | some p => (pick g p).isSome = true := by
  have hall := List.all_eq_true.mp (Bool.and_eq_true_iff.mp h).1 g hg
  split at hall <;> simp_all

/-- a type of the peer that is not ADDKE is one of ours -/
theorem compareTransforms_peer (h : compareTransforms mine peers = true) {p : Group}
    (hp : p ∈ peers) (haddke : isAddke p.type = false) : ∃ g, groupOf p.type mine = some g := by
  have hany := List.all_eq_true.mp (Bool.and_eq_true_iff.mp h).2 p hp
  rw [haddke, Bool.or_false] at hany
  obtain ⟨g, hg, htype⟩ := List.any_eq_true.mp hany
  rw [← Option.isSome_iff_exists, groupOf, List.find?_isSome]
  exact ⟨g, hg, htype⟩

/-- what a match selects for a type that is not carried along -/
theorem matchTransforms_selectedOf (h : compareTransforms mine peers = true)
    (hdistinct : (mine.map Group.type).Nodup) (haddke : isAddke type = false)
    (hdh : isDh type = false) :
    selectedOf type (matchTransforms mine peers)
      = (groupOf type mine).bind fun g => (groupOf type peers).bind fun p => pick g p := by
  obtain ⟨ts, hts⟩ := Option.isSome_iff_exists.mp
    (matchLoop_isSome fun g hg => compareTransforms_mine h hg)
  unfold matchTransforms
  rw [hts]
  simp only
  rw [carry_selectedOf hdh, carry_selectedOf haddke]
  exact matchLoop_selectedOf hts hdistinct

theorem pick_some {g p : Group} {t : Transform} (h : pick g p = some t) :
    ∃ q ∈ p.alternatives, t.id = q.id ∧ compareAttributes g.type t q = true := by
  have hany := List.find?_some h
  obtain ⟨q, hq, hboth⟩ := List.any_eq_true.mp hany
  rw [Bool.and_eq_true, beq_iff_eq] at hboth
  exact ⟨q, hq, hboth⟩

end

/-! ## the answer of a responder -/

/-- the types that give keys -/
def keyType (type : Nat) : Bool := type == transformEncr || type == transformIntegr

/-- the selected transforms as the initiator parses them, with what the responder adds -/
def answerGroups (ts : List Selected) (extra : List Group) : List Group :=
  (ts.map fun s => ⟨s.type, [s.transform]⟩) ++ extra

section
variable {type : Nat} {ts : List Selected} {extra : List Group}

theorem groupOf_answer (ts : List Selected) (hextra : ∀ g ∈ extra, g.type ≠ type) :
    groupOf type (answerGroups ts extra)
      = (selectedOf type ts).map fun t => ⟨type, [t]⟩ := by
  unfold answerGroups selectedOf
  induction ts with
  | nil =>
    show groupOf type extra = none
    exact groupOf_none.mpr hextra
  | cons s ts ih =>
    unfold groupOf at ih ⊢
    rw [List.map_cons, List.cons_append, List.find?_cons, List.find?_cons]
    by_cases heq : s.type = type
    · rw [beq_iff_eq.mpr heq]
      simp [heq]
    · rw [beq_eq_false_iff_ne.mpr heq]
      exact ih

/-- For a type that gives keys the initiator selects a transform with the id of the responder's and
matching attributes, or nothing where the responder has nothing. -/
theorem answer_selected {own : List Group} (hdistinct : (own.map Group.type).Nodup)
    (h : compareTransforms own (answerGroups ts extra) = true) (htype : keyType type = true)
    (hextra : ∀ g ∈ extra, g.type ≠ type) :
    match selectedOf type ts with
    | none => selectedOf type (matchTransforms own (answerGroups ts extra)) = none
    | some t => ∃ m, selectedOf type (matchTransforms own (answerGroups ts extra)) = some m
        ∧ m.id = t.id ∧ compareAttributes type m t = true := by
  have hcarried : isAddke type = false ∧ isDh type = false := by
    unfold keyType at htype
    rw [Bool.or_eq_true, beq_iff_eq, beq_iff_eq] at htype
    rcases htype with rfl | rfl <;> decide
  rw [matchTransforms_selectedOf h hdistinct hcarried.1 hcarried.2, groupOf_answer ts hextra]
  split
  · rename_i hnone
    rw [hnone]
    simp
  · rename_i t hsome
    have hmem : (⟨type, [t]⟩ : Group) ∈ answerGroups ts extra := by
      have hg := groupOf_answer ts hextra
      rw [hsome] at hg
      exact (groupOf_some hg).1
    obtain ⟨g, hg⟩ := compareTransforms_peer h hmem hcarried.1
    have hg' : groupOf type own = some g := hg
    have hours := compareTransforms_mine h (groupOf_some hg').1
    rw [(groupOf_some hg').2, groupOf_answer ts hextra, hsome] at hours
    obtain ⟨m, hm⟩ := Option.isSome_iff_exists.mp hours
    rw [hsome, hg', Option.bind_some, Option.map_some, Option.bind_some]
    obtain ⟨q, hq, hid, hattrs⟩ := pick_some hm
    rw [List.mem_singleton] at hq
    rw [hq] at hid hattrs
    rw [(groupOf_some hg').2] at hattrs
    exact ⟨m, hm, hid, hattrs⟩

end

end Ikev2
