import Racoon2.Iked.Proposal

/-!
# What a negotiation selects

`isakmp_find_match` with the number of the proposal it answers, and what it promises.  Two loops
written apart decide about a pair of proposals: `ikev2_compare_transforms` accepts it and
`ikev2_match_transforms` builds the answer.

* `Selection`            the answer for one protocol, in terms of the two proposals alone;
* `find_match_selects`   the matcher returns such an answer, and never fails on an accepted pair;
* `integrity_kept_iff`   when the answer protects the integrity of the messages.
-/

set_option linter.unusedVariables false

namespace Ikev2
open Bytes

theorem mem_zip_map_self {α β : Type} {f : α → β} {l : List α} {x : α × β}
    (h : x ∈ l.zip (l.map f)) : ∃ y ∈ l, x = (y, f y) := by
  induction l with
  | nil => exact absurd h List.not_mem_nil
  | cons a as ih =>
    rw [List.map_cons, List.zip_cons_cons] at h
    rcases List.mem_cons.mp h with rfl | h
    · exact ⟨a, List.mem_cons_self, rfl⟩
    · obtain ⟨y, hy, heq⟩ := ih h
      exact ⟨y, List.mem_cons_of_mem _ hy, heq⟩

/-! ## numbered proposals -/

/-- a protocol of a peer's proposal, as `ikev2_get_transforms` builds it: there is a transform, and
a group for each type that occurs -/
structure PeerProto extends Proto where
  some_group : groups ≠ []
  distinct : (groups.map Group.type).Nodup
  some_alternative : ∀ g ∈ groups, g.alternatives ≠ []

/-- a proposal of an SA payload, with its number -/
structure PeerProposal where
  number : Nat
  protos : List PeerProto

/-- the proposal without what is known about its lists -/
def PeerProposal.plain (p : PeerProposal) : List Proto := p.protos.map PeerProto.toProto

structure MatchedProposal where
  number : Nat
  protos : List Matched
  deriving DecidableEq, Repr

/-- the proposals at which the loops of `isakmp_find_match` stop -/
def firstPair (mine : List (List OwnProto)) (peers : List PeerProposal) :
    Option (List OwnProto × PeerProposal) :=
  mine.findSome? fun m => (peers.find? fun p => protosMatch m p.plain).map fun p => (m, p)

/-- SPIs of one size: `isakmp_find_match` asks for them where it copies ours -/
def spiSizesAgree (m : List OwnProto) (p : List Proto) : Bool :=
  (m.zip p).all fun x => x.1.spi.length == x.2.spi.length

/-- one protocol of the answer -/
def matchedProto (which : PeerMine) (x : OwnProto × Proto) : Matched :=
  match which with
  | .mine => ⟨x.1.protocol, x.1.spi, matchTransforms x.1.groups x.2.groups⟩
  | .peer => ⟨x.2.protocol, x.2.spi, matchTransforms x.1.groups x.2.groups⟩

/-- `isakmp_find_match`; the number is the peer's in both cases -/
def findMatchNumbered (mine : List (List OwnProto)) (peers : List PeerProposal)
    (which : PeerMine) : Option MatchedProposal :=
  match firstPair mine peers with
  | none => none
  | some (m, p) =>
    if which = .peer ∨ spiSizesAgree m p.plain = true then
      some ⟨p.number, (m.zip p.plain).map (matchedProto which)⟩
    else none

section
variable {mine : List (List OwnProto)} {peers : List PeerProposal} {which : PeerMine}

theorem firstPair_some {m : List OwnProto} {p : PeerProposal}
    (h : firstPair mine peers = some (m, p)) :
    m ∈ mine ∧ p ∈ peers ∧ protosMatch m p.plain = true := by
  obtain ⟨m', hm, hfind⟩ := List.exists_of_findSome?_eq_some h
  obtain ⟨p', hp, heq⟩ := Option.map_eq_some_iff.mp hfind
  obtain ⟨rfl, rfl⟩ := Prod.mk.inj heq
  have hmatch : protosMatch m' p'.plain = true := by simpa using List.find?_some hp
  exact ⟨hm, List.mem_of_find?_eq_some hp, hmatch⟩

theorem findMatchNumbered_some {r : MatchedProposal}
    (h : findMatchNumbered mine peers which = some r) : ∃ m p,
      firstPair mine peers = some (m, p)
      ∧ (which = .peer ∨ spiSizesAgree m p.plain = true)
      ∧ r = ⟨p.number, (m.zip p.plain).map (matchedProto which)⟩ := by
  unfold findMatchNumbered at h
  split at h
  · exact absurd h (by simp)
  · rename_i m p hpair
    split at h
    · rename_i hspi
      exact ⟨m, p, hpair, hspi, (Option.some.inj h).symm⟩
    · exact absurd h (by simp)

end

/-- the protocols of two proposals that match, pair by pair -/
theorem protosMatch_zip {m : List OwnProto} {p : List Proto} (h : protosMatch m p = true) :
    m.length = p.length ∧ ∀ x ∈ m.zip p, x.1.protocol = x.2.protocol
      ∧ compareTransforms x.1.groups x.2.groups = true := by
  induction m generalizing p with
  | nil =>
    cases p with
    | nil => exact ⟨rfl, fun x hx => absurd hx List.not_mem_nil⟩
    | cons q qs => exact absurd h (by simp [protosMatch])
  | cons o os ih =>
    cases p with
    | nil => exact absurd h (by simp [protosMatch])
    | cons q qs =>
      unfold protosMatch at h
      rw [Bool.and_eq_true, Bool.and_eq_true, beq_iff_eq] at h
      obtain ⟨hlen, hrest⟩ := ih h.2
      refine ⟨by rw [List.length_cons, List.length_cons, hlen], ?_⟩
      intro x hx
      rw [List.zip_cons_cons] at hx
      rcases List.mem_cons.mp hx with rfl | hx
      · exact h.1
      · exact hrest x hx

/-! ## the answer in terms of the two proposals -/

/-- the attributes of two transforms with one id agree: both have none, both have one key length, or
one has the default key length of its cipher written out -/
def AttrsAgree (type : Nat) (t q : Transform) : Prop :=
  (t.attrs = q.attrs ∧ (t.attrs = [] ∨ ∃ n, t.attrs = [.short attrKeyLength n]))
  ∨ (type = transformEncr ∧ hasDefaultKeylen t.id = true
    ∧ ((t.attrs = [] ∧ q.attrs = [.short attrKeyLength 128])
      ∨ (t.attrs = [.short attrKeyLength 128] ∧ q.attrs = [])))

/-- the peer's group has the transform -/
def Offers (type : Nat) (p : Group) (t : Transform) : Prop :=
  ∃ q ∈ p.alternatives, t.id = q.id ∧ AttrsAgree type t q

/-- the first of our alternatives that the peer offers -/
def FirstShared (g p : Group) (t : Transform) : Prop :=
  ∃ before after, g.alternatives = before ++ t :: after ∧ Offers g.type p t
    ∧ ∀ u ∈ before, ¬ Offers g.type p u

/-- the peer leaves INTEG out and its first cipher is an AEAD -/
def IntegWaived (peers : List Group) : Prop :=
  (∀ p ∈ peers, p.type ≠ transformIntegr) ∧ peerUsesAeadEncr peers = true

/-- the transforms that answer one protocol -/
structure Selection (mine peers : List Group) (ts : List Selected) : Prop where
  some_transform : ts ≠ []
  one_per_type : (ts.map Selected.type).Nodup
  all_types : ∀ g ∈ mine, isAddke g.type = false →
    (∃ s ∈ ts, s.type = g.type)
    ∨ (g.type = transformIntegr ∧ IntegWaived peers ∧ ∀ s ∈ ts, s.type ≠ transformIntegr)
  all_offered : ∀ p ∈ peers, ∃ s ∈ ts, s.type = p.type
  origin : ∀ s ∈ ts,
    (∃ g ∈ mine, ∃ p ∈ peers, g.type = s.type ∧ p.type = s.type
      ∧ FirstShared g p s.transform)
    ∨ (isAddke s.type = true ∧ (∀ g ∈ mine, g.type ≠ s.type)
      ∧ ∃ p ∈ peers, p.type = s.type ∧ p.alternatives.head? = some s.transform)

theorem soleKeylen_some {attrs : List Attr} {n : Nat} :
    soleKeylen attrs = some n ↔ attrs = [.short attrKeyLength n] := by
  constructor
  · intro h
    unfold soleKeylen at h
    split at h
    · rename_i type value
      split at h
      · rename_i htype
        rw [htype, Option.some.inj h]
      · exact absurd h (by simp)
    · exact absurd h (by simp)
  · rintro rfl
    rfl

theorem compareAttributes_iff {type : Nat} {t q : Transform} :
    compareAttributes type t q = true ↔ AttrsAgree type t q := by
  obtain ⟨id, ta⟩ := t
  obtain ⟨id', qa⟩ := q
  unfold compareAttributes AttrsAgree
  cases ta with
  | nil =>
    cases qa with
    | nil => simp
    | cons a as => simp [soleKeylen_some, and_assoc]
  | cons b bs =>
    cases qa with
    | nil => simp [soleKeylen_some, and_assoc]
    | cons a as =>
      simp only [reduceCtorEq, false_or, and_false, false_and, or_false]
      cases hb : soleKeylen (b :: bs) with
      | none =>
        simp only [Bool.false_eq_true, false_iff]
        rintro ⟨-, n, hn⟩
        rw [soleKeylen_some.mpr hn] at hb
        exact absurd hb (by simp)
      | some n =>
        have hb' := soleKeylen_some.mp hb
        rw [hb']
        cases ha : soleKeylen (a :: as) with
        | none =>
          simp only [Bool.false_eq_true, false_iff]
          rintro ⟨heq, -⟩
          rw [soleKeylen_some.mpr heq.symm] at ha
          exact absurd ha (by simp)
        | some k =>
          rw [soleKeylen_some.mp ha]
          simp

theorem any_offers {type : Nat} {p : Group} {t : Transform} :
    (p.alternatives.any fun q => t.id == q.id && compareAttributes type t q) = true
      ↔ Offers type p t := by
  unfold Offers
  simp only [List.any_eq_true, Bool.and_eq_true, beq_iff_eq, compareAttributes_iff]

theorem pick_iff {g p : Group} {t : Transform} : pick g p = some t ↔ FirstShared g p t := by
  unfold pick FirstShared
  rw [List.find?_eq_some_iff_append]
  constructor
  · rintro ⟨hany, before, after, hsplit, hbefore⟩
    refine ⟨before, after, hsplit, any_offers.mp hany, ?_⟩
    intro u hu hoffers
    have hno := hbefore u hu
    rw [any_offers.mpr hoffers] at hno
    exact absurd hno (by decide)
  · rintro ⟨before, after, hsplit, hoffers, hbefore⟩
    refine ⟨any_offers.mpr hoffers, before, after, hsplit, ?_⟩
    intro u hu
    rw [Bool.not_eq_true', ← Bool.not_eq_true]
    intro hany
    exact hbefore u hu (any_offers.mp hany)

section
variable {mine peers : List Group} {ts : List Selected} {s : Selected}

theorem mem_matchLoop (h : matchLoop peers mine = some ts) (hs : s ∈ ts) :
    ∃ g ∈ mine, g.type = s.type
      ∧ ∃ p, groupOf g.type peers = some p ∧ pick g p = some s.transform := by
  induction mine generalizing ts with
  | nil =>
    rw [← Option.some.inj h] at hs
    exact absurd hs List.not_mem_nil
  | cons g gs ih =>
    have hlater : ∀ {ts' : List Selected}, matchLoop peers gs = some ts' → s ∈ ts' →
        ∃ g' ∈ g :: gs, g'.type = s.type
          ∧ ∃ p, groupOf g'.type peers = some p ∧ pick g' p = some s.transform := by
      intro ts' hts' hs'
      obtain ⟨g', hg', hrest⟩ := ih hts' hs'
      exact ⟨g', List.mem_cons_of_mem _ hg', hrest⟩
    unfold matchLoop at h
    split at h
    · split at h
      · exact hlater h hs
      · exact absurd h (by simp)
    · rename_i p hgroup
      split at h
      · exact absurd h (by simp)
      · rename_i t hpick
        obtain ⟨ts', hts', rfl⟩ := Option.map_eq_some_iff.mp h
        rcases List.mem_cons.mp hs with rfl | hs'
        · exact ⟨g, List.mem_cons_self, rfl, p, hgroup, hpick⟩
        · exact hlater hts' hs'

/-- a type that both have is selected -/
theorem matchLoop_both (h : matchLoop peers mine = some ts) {g : Group} (hg : g ∈ mine)
    (hpeer : groupOf g.type peers ≠ none) : ∃ s ∈ ts, s.type = g.type := by
  induction mine generalizing ts with
  | nil => exact absurd hg List.not_mem_nil
  | cons g' gs ih =>
    unfold matchLoop at h
    split at h
    · rename_i hnone
      split at h
      · rcases List.mem_cons.mp hg with rfl | hg'
        · exact absurd hnone hpeer
        · exact ih h hg'
      · exact absurd h (by simp)
    · split at h
      · exact absurd h (by simp)
      · obtain ⟨ts', hts', rfl⟩ := Option.map_eq_some_iff.mp h
        rcases List.mem_cons.mp hg with rfl | hg'
        · exact ⟨_, List.mem_cons_self, rfl⟩
        · obtain ⟨s, hs, htype⟩ := ih hts' hg'
          exact ⟨s, List.mem_cons_of_mem _ hs, htype⟩

theorem mem_carry_of_mem {want : Nat → Bool} (ps : List Group) {acc : List Selected}
    (hs : s ∈ acc) : s ∈ carry want ps acc := by
  induction ps generalizing acc with
  | nil => exact hs
  | cons p ps ih =>
    unfold carry
    split
    · exact ih hs
    · split
      · exact ih (List.mem_append_left _ hs)
      · exact ih hs

theorem mem_carry {want : Nat → Bool} (ps : List Group) {acc : List Selected}
    (hs : s ∈ carry want ps acc) : s ∈ acc ∨ (want s.type = true ∧ (∀ a ∈ acc, a.type ≠ s.type)
      ∧ ∃ p ∈ ps, p.type = s.type ∧ p.alternatives.head? = some s.transform) := by
  induction ps generalizing acc with
  | nil => exact .inl hs
  | cons p ps ih =>
    unfold carry at hs
    -- a transform that a later group adds, seen from the accumulator of this one
    have hlater : (want s.type = true ∧ (∀ a ∈ acc, a.type ≠ s.type)
        ∧ ∃ q ∈ ps, q.type = s.type ∧ q.alternatives.head? = some s.transform) →
        want s.type = true ∧ (∀ a ∈ acc, a.type ≠ s.type)
          ∧ ∃ q ∈ p :: ps, q.type = s.type ∧ q.alternatives.head? = some s.transform := by
      rintro ⟨hwant, hnew, q, hq, hrest⟩
      exact ⟨hwant, hnew, q, List.mem_cons_of_mem _ hq, hrest⟩
    split at hs
    · exact (ih hs).imp_right hlater
    · rename_i t rest halts
      split at hs
      · rename_i hadd
        obtain ⟨hwant, hnew⟩ := Bool.and_eq_true_iff.mp hadd
        rw [Bool.not_eq_true', List.any_eq_false] at hnew
        rcases ih hs with hmem | ⟨hwant', hnew', q, hq, hrest⟩
        · rcases List.mem_append.mp hmem with hacc | hlast
          · exact .inl hacc
          · rw [List.mem_singleton] at hlast
            subst hlast
            refine .inr ⟨hwant, ?_, p, List.mem_cons_self, rfl, by rw [halts]; rfl⟩
            intro a ha heq
            exact hnew a ha (beq_iff_eq.mpr heq)
        · refine .inr (hlater ⟨hwant', ?_, q, hq, hrest⟩)
          intro a ha
          exact hnew' a (List.mem_append_left _ ha)
      · exact (ih hs).imp_right hlater

/-- a wanted type of the peer is in the list afterwards -/
theorem carry_wanted {want : Nat → Bool} {ps : List Group} {p : Group} (acc : List Selected)
    (hp : p ∈ ps) (hwant : want p.type = true) (halts : p.alternatives ≠ []) :
    ∃ s ∈ carry want ps acc, s.type = p.type := by
  induction ps generalizing acc with
  | nil => exact absurd hp List.not_mem_nil
  | cons q qs ih =>
    rcases List.mem_cons.mp hp with rfl | hp'
    · unfold carry
      split
      · rename_i hnil
        exact absurd hnil halts
      · rename_i t rest _
        split
        · exact ⟨⟨p.type, t⟩, mem_carry_of_mem qs (by simp), rfl⟩
        · rename_i hskip
          rw [hwant, Bool.true_and, Bool.not_eq_true, Bool.not_eq_false'] at hskip
          obtain ⟨a, ha, htype⟩ := List.any_eq_true.mp hskip
          exact ⟨a, mem_carry_of_mem qs ha, beq_iff_eq.mp htype⟩
    · unfold carry
      split
      · exact ih acc hp'
      · split
        · exact ih _ hp'
        · exact ih acc hp'

/-- a type that our loop and the peer both have is in the result of the loop -/
theorem matchLoop_offered (hloop : matchLoop peers mine = some ts) {g p : Group} (hg : g ∈ mine)
    (hp : p ∈ peers) (htype : g.type = p.type) : ∃ s ∈ ts, s.type = p.type := by
  have hpeer : groupOf g.type peers ≠ none := by
    intro hnone
    exact groupOf_none.mp hnone p hp htype.symm
  obtain ⟨s, hs, hst⟩ := matchLoop_both hloop hg hpeer
  exact ⟨s, hs, hst.trans htype⟩

/-- no DH group is carried along after `ikev2_compare_transforms`: it has asked for ours -/
theorem carry_dh_nothing (h : compareTransforms mine peers = true)
    (hloop : matchLoop peers mine = some ts) {acc : List Selected} (hacc : ∀ a ∈ ts, a ∈ acc)
    (hs : s ∈ carry isDh peers acc) : s ∈ acc := by
  rcases mem_carry peers hs with hmem | ⟨hdh, hnew, p, hp, htype, -⟩
  · exact hmem
  · have hdh' : s.type = transformDh := beq_iff_eq.mp hdh
    have haddke : isAddke p.type = false := by
      rw [htype, hdh']
      decide
    obtain ⟨g, hg⟩ := compareTransforms_peer h hp haddke
    obtain ⟨hgm, hgt⟩ := groupOf_some hg
    obtain ⟨a, ha, hat⟩ := matchLoop_offered hloop hgm hp hgt
    exact absurd (hat.trans htype) (hnew a (hacc a ha))

theorem matchTransforms_loop (hloop : matchLoop peers mine = some ts) :
    matchTransforms mine peers = carry isDh peers (carry isAddke peers ts) := by
  unfold matchTransforms
  rw [hloop]

theorem mem_matchTransforms_of_loop (hloop : matchLoop peers mine = some ts) (hs : s ∈ ts) :
    s ∈ matchTransforms mine peers := by
  rw [matchTransforms_loop hloop]
  exact mem_carry_of_mem peers (mem_carry_of_mem peers hs)

/-- where a transform of the answer comes from -/
theorem mem_matchTransforms (h : compareTransforms mine peers = true)
    (hloop : matchLoop peers mine = some ts) (hs : s ∈ matchTransforms mine peers) :
    s ∈ ts ∨ (isAddke s.type = true ∧ (∀ a ∈ ts, a.type ≠ s.type)
      ∧ ∃ p ∈ peers, p.type = s.type ∧ p.alternatives.head? = some s.transform) := by
  rw [matchTransforms_loop hloop] at hs
  exact mem_carry peers (carry_dh_nothing h hloop (fun a => mem_carry_of_mem peers) hs)

/-- every type of the peer is answered -/
theorem matchTransforms_offered (h : compareTransforms mine peers = true)
    (hloop : matchLoop peers mine = some ts) {p : Group} (hp : p ∈ peers)
    (halts : p.alternatives ≠ []) : ∃ s ∈ matchTransforms mine peers, s.type = p.type := by
  by_cases haddke : isAddke p.type = true
  · rw [matchTransforms_loop hloop]
    obtain ⟨s, hs, htype⟩ := carry_wanted ts hp haddke halts
    exact ⟨s, mem_carry_of_mem peers hs, htype⟩
  · rw [Bool.not_eq_true] at haddke
    obtain ⟨g, hg⟩ := compareTransforms_peer h hp haddke
    obtain ⟨hgm, hgt⟩ := groupOf_some hg
    obtain ⟨s, hs, htype⟩ := matchLoop_offered hloop hgm hp hgt
    exact ⟨s, mem_matchTransforms_of_loop hloop hs, htype⟩

/-- a type of ours that the peer lacks is INTEG, waived, and the answer has none -/
theorem lacking_waived (h : compareTransforms mine peers = true)
    (hloop : matchLoop peers mine = some ts) {g : Group} (hg : g ∈ mine)
    (haddke : isAddke g.type = false) (hpeer : groupOf g.type peers = none) :
    g.type = transformIntegr ∧ IntegWaived peers
      ∧ ∀ s ∈ matchTransforms mine peers, s.type ≠ transformIntegr := by
  have hlack := compareTransforms_mine h hg
  rw [hpeer] at hlack
  have hinteg : g.type = transformIntegr ∧ peerUsesAeadEncr peers = true := by
    simpa [mayLack, haddke] using hlack
  have hnone := groupOf_none.mp hpeer
  rw [hinteg.1] at hnone
  refine ⟨hinteg.1, ⟨hnone, hinteg.2⟩, ?_⟩
  intro s hs htype
  rcases mem_matchTransforms h hloop hs with hloopmem | ⟨haddke', -⟩
  · obtain ⟨g', -, hgt, p, hp, -⟩ := mem_matchLoop hloop hloopmem
    obtain ⟨hpm, hpt⟩ := groupOf_some hp
    exact hnone p hpm (hpt.trans (hgt.trans htype))
  · rw [htype] at haddke'
    exact absurd haddke' (by decide)

/-- `ikev2_match_transforms` on a pair that `ikev2_compare_transforms` accepts -/
theorem match_of_compare (h : compareTransforms mine peers = true)
    (hdistinct : (mine.map Group.type).Nodup) (hgroup : peers ≠ [])
    (halts : ∀ p ∈ peers, p.alternatives ≠ []) :
    Selection mine peers (matchTransforms mine peers) := by
  obtain ⟨ts, hloop⟩ := Option.isSome_iff_exists.mp
    (matchLoop_isSome fun g hg => compareTransforms_mine h hg)
  have hoffered : ∀ p ∈ peers, ∃ s ∈ matchTransforms mine peers, s.type = p.type :=
    fun p hp => matchTransforms_offered h hloop hp (halts p hp)
  refine ⟨?_, matchTransforms_nodup hdistinct, ?_, hoffered, ?_⟩
  · -- any group of the peer leaves a transform behind
    obtain ⟨p, hp⟩ := List.exists_mem_of_ne_nil peers hgroup
    obtain ⟨s, hs, -⟩ := hoffered p hp
    exact List.ne_nil_of_mem hs
  · intro g hg haddke
    by_cases hpeer : groupOf g.type peers = none
    · exact .inr (lacking_waived h hloop hg haddke hpeer)
    · left
      obtain ⟨s, hs, htype⟩ := matchLoop_both hloop hg hpeer
      exact ⟨s, mem_matchTransforms_of_loop hloop hs, htype⟩
  · intro s hs
    rcases mem_matchTransforms h hloop hs with hloopmem | ⟨haddke, hnew, p, hp, htype, hhead⟩
    · left
      obtain ⟨g, hg, hgt, p, hp, hpick⟩ := mem_matchLoop hloop hloopmem
      obtain ⟨hpm, hpt⟩ := groupOf_some hp
      exact ⟨g, hg, p, hpm, hgt, hpt.trans hgt, pick_iff.mp hpick⟩
    · right
      refine ⟨haddke, ?_, p, hp, htype, hhead⟩
      intro g hg hgt
      obtain ⟨a, ha, hat⟩ := matchLoop_offered hloop hg hp (hgt.trans htype.symm)
      exact hnew a ha (hat.trans htype)

end

/-! ## the selected proposal -/

section
variable {mine : List (List OwnProto)} {peers : List PeerProposal} {which : PeerMine}

theorem selection_of_match {m : OwnProto} {p : PeerProto}
    (h : compareTransforms m.groups p.groups = true) :
    Selection m.groups p.groups (matchTransforms m.groups p.groups) :=
  match_of_compare h m.distinct p.some_group p.some_alternative

theorem mem_zip_plain {m : List OwnProto} {p : PeerProposal} {x : OwnProto × PeerProto}
    (h : x ∈ m.zip p.protos) : (x.1, x.2.toProto) ∈ m.zip p.plain := by
  unfold PeerProposal.plain
  rw [List.zip_map_right]
  exact List.mem_map_of_mem h

theorem zip_plain (m : List OwnProto) (p : PeerProposal) :
    m.zip p.plain = (m.zip p.protos).map fun x => (x.1, x.2.toProto) := by
  unfold PeerProposal.plain
  rw [List.zip_map_right]
  rfl

/-- The proposal that `isakmp_find_match` returns has the number of one of the peer's proposals, and
the transforms of each protocol are a `Selection` from it and from one of ours; where
`ikev2_compare_transforms` accepts, `ikev2_match_transforms` finds such a selection. -/
theorem find_match_selects (mine : List (List OwnProto)) (peers : List PeerProposal)
    (which : PeerMine) :
    (∀ r, findMatchNumbered mine peers which = some r →
      ∃ m ∈ mine, ∃ p ∈ peers, r.number = p.number ∧ p.protos.length = m.length
        ∧ r.protos.length = m.length
        ∧ ∀ x ∈ (m.zip p.protos).zip r.protos,
            x.2.protocol = x.1.1.protocol ∧ x.2.protocol = x.1.2.protocol
            ∧ Selection x.1.1.groups x.1.2.groups x.2.transforms)
    ∧ ∀ (m : OwnProto) (p : PeerProto), compareTransforms m.groups p.groups = true →
        Selection m.groups p.groups (matchTransforms m.groups p.groups) := by
  refine ⟨?_, fun m p => selection_of_match⟩
  intro r h
  obtain ⟨m, p, hpair, -, rfl⟩ := findMatchNumbered_some h
  obtain ⟨hm, hp, hmatch⟩ := firstPair_some hpair
  obtain ⟨hlen, hprotos⟩ := protosMatch_zip hmatch
  have hlen' : p.protos.length = m.length := by
    rw [hlen]
    unfold PeerProposal.plain
    rw [List.length_map]
  refine ⟨m, hm, p, hp, rfl, hlen', ?_, ?_⟩
  · show ((m.zip p.plain).map (matchedProto which)).length = m.length
    rw [List.length_map, List.length_zip, ← hlen, Nat.min_self]
  · intro x hx
    rw [zip_plain, List.map_map] at hx
    obtain ⟨y, hy, rfl⟩ := mem_zip_map_self hx
    obtain ⟨hproto, hcompare⟩ := hprotos _ (mem_zip_plain hy)
    have hsel := selection_of_match hcompare
    cases which with
    | mine => exact ⟨rfl, hproto, hsel⟩
    | peer => exact ⟨hproto.symm, rfl, hsel⟩

end

/-- our side of a negotiation with AES-GCM -/
def gcmProto : OwnProto where
  protocol := 1
  spi := []
  groups := [⟨1, [⟨20, [.short 14 256]⟩]⟩, ⟨2, [⟨5, []⟩]⟩, ⟨3, [⟨12, []⟩]⟩, ⟨4, [⟨14, []⟩]⟩]
  distinct := by decide

/-- a peer that adds an ADDKE1 transform -/
def gcmAddkeProto : PeerProto where
  protocol := 1
  spi := []
  groups := [⟨1, [⟨20, [.short 14 256]⟩]⟩, ⟨2, [⟨5, []⟩]⟩, ⟨4, [⟨14, []⟩]⟩, ⟨6, [⟨36, []⟩]⟩]
  some_group := by decide
  distinct := by decide
  some_alternative := by decide

/-- the peer's ADDKE1 transform is selected although it is not one of ours -/
theorem find_match_carries_addke :
    ∃ r, findMatchNumbered [[gcmProto]] [⟨1, [gcmAddkeProto]⟩] .peer = some r
      ∧ ∃ s ∈ r.protos.flatMap Matched.transforms,
        ∀ g ∈ gcmProto.groups, ¬ (g.type = s.type ∧ s.transform ∈ g.alternatives) :=
  ⟨⟨1, [⟨1, [], [⟨1, ⟨20, [.short 14 256]⟩⟩, ⟨2, ⟨5, []⟩⟩, ⟨4, ⟨14, []⟩⟩, ⟨6, ⟨36, []⟩⟩]⟩]⟩,
    by decide, ⟨6, ⟨36, []⟩⟩, by decide, by decide⟩

/-! ## integrity protection -/

/-- AUTH_NONE -/
def integrNone : Nat := 0

/-- an AEAD cipher, or an integrity transform that is not NONE -/
def Protects (s : Selected) : Prop :=
  (s.type = transformEncr ∧ encrIsAead s.transform.id = true)
  ∨ (s.type = transformIntegr ∧ s.transform.id ≠ integrNone)

/-- the first pair of proposals that `ikev2_compare_transforms` accepts -/
def FirstAccepted (mine : List (List OwnProto)) (peers : List PeerProposal) (m : List OwnProto)
    (p : PeerProposal) : Prop :=
  (∃ before after, mine = before ++ m :: after
    ∧ ∀ m' ∈ before, ∀ p' ∈ peers, protosMatch m' p'.plain = false)
  ∧ ∃ before after, peers = before ++ p :: after ∧ protosMatch m p.plain = true
    ∧ ∀ p' ∈ before, protosMatch m p'.plain = false

/-- among our alternatives the first that the peer offers too is an AEAD cipher, or the peer has an
INTEG group and the first shared alternative there is not NONE -/
def SharedProtects (mine peers : List Group) : Prop :=
  ∃ g ∈ mine, ∃ p ∈ peers, ∃ t, p.type = g.type ∧ FirstShared g p t ∧ Protects ⟨g.type, t⟩

section
variable {mine : List (List OwnProto)} {peers : List PeerProposal} {which : PeerMine}

theorem firstPair_iff {m : List OwnProto} {p : PeerProposal} :
    firstPair mine peers = some (m, p) ↔ FirstAccepted mine peers m p := by
  unfold firstPair FirstAccepted
  rw [List.findSome?_eq_some_iff]
  constructor
  · rintro ⟨before, m', after, rfl, hmap, hbefore⟩
    obtain ⟨p', hfind, heq⟩ := Option.map_eq_some_iff.mp hmap
    obtain ⟨rfl, rfl⟩ := Prod.mk.inj heq
    obtain ⟨hmatch, pre, post, hsplit, hpre⟩ := List.find?_eq_some_iff_append.mp hfind
    refine ⟨⟨before, after, rfl, ?_⟩, pre, post, hsplit, hmatch, ?_⟩
    · intro m'' hm'' p'' hp''
      have hnone := hbefore m'' hm''
      rw [Option.map_eq_none_iff, List.find?_eq_none] at hnone
      exact Bool.not_eq_true _ ▸ hnone p'' hp''
    · intro p'' hp''
      have hno := hpre p'' hp''
      rwa [Bool.not_eq_true'] at hno
  · rintro ⟨⟨before, after, rfl, hbefore⟩, pre, post, hsplit, hmatch, hpre⟩
    refine ⟨before, m, after, rfl, ?_, ?_⟩
    · rw [Option.map_eq_some_iff]
      refine ⟨p, List.find?_eq_some_iff_append.mpr ⟨hmatch, pre, post, hsplit, ?_⟩, rfl⟩
      intro p'' hp''
      rw [hpre p'' hp'']
      rfl
    · intro m'' hm''
      rw [Option.map_eq_none_iff, List.find?_eq_none]
      intro p'' hp''
      rw [hbefore m'' hm'' p'' hp'']
      decide

/-- one protocol of an accepted pair -/
theorem protects_iff {m : OwnProto} {p : PeerProto}
    (h : compareTransforms m.groups p.groups = true) :
    (∃ s ∈ matchTransforms m.groups p.groups, Protects s) ↔ SharedProtects m.groups p.groups := by
  have hsel := selection_of_match h
  constructor
  · rintro ⟨s, hs, hprot⟩
    rcases hsel.origin s hs with ⟨g, hg, q, hq, hgt, hqt, hshared⟩ | ⟨haddke, -⟩
    · refine ⟨g, hg, q, hq, s.transform, hqt.trans hgt.symm, hshared, ?_⟩
      rw [hgt]
      exact hprot
    · -- neither ENCR nor INTEG is an ADDKE type
      rcases hprot with ⟨htype, -⟩ | ⟨htype, -⟩ <;>
      · rw [htype] at haddke
        exact absurd haddke (by decide)
  · rintro ⟨g, hg, q, hq, t, htypes, hshared, hprot⟩
    have haddke : isAddke g.type = false := by
      rcases hprot with ⟨htype, -⟩ | ⟨htype, -⟩ <;>
      · rw [show g.type = _ from htype]
        decide
    rcases hsel.all_types g hg haddke with ⟨s, hs, hst⟩ | ⟨hinteg, ⟨hlack, -⟩, -⟩
    · rcases hsel.origin s hs with ⟨g', hg', q', hq', hgt, hqt, hshared'⟩ | ⟨haddke', -⟩
      · -- the groups of both sides are those of this type
        obtain rfl : g' = g := List.inj_on_of_nodup_map m.distinct hg' hg (hgt.trans hst)
        obtain rfl : q' = q :=
          List.inj_on_of_nodup_map p.distinct hq' hq (hqt.trans (hst.trans htypes.symm))
        have heq : some s.transform = some t :=
          (pick_iff.mpr hshared').symm.trans (pick_iff.mpr hshared)
        refine ⟨s, hs, ?_⟩
        rw [← Option.some.inj heq, hgt] at hprot
        exact hprot
      · rw [hst, haddke] at haddke'
        exact absurd haddke' (by simp)
    · exact absurd (htypes.trans hinteg) (hlack q hq)

/-- The selected proposal has an AEAD cipher or an integrity transform exactly when, in the first
pair of proposals that is accepted, the shared alternatives give one. -/
theorem integrity_kept_iff (mine : List (List OwnProto)) (peers : List PeerProposal)
    (which : PeerMine) :
    (∀ r, findMatchNumbered mine peers which = some r →
      ∃ s ∈ r.protos.flatMap Matched.transforms, Protects s)
    ↔ ∀ m p, FirstAccepted mine peers m p →
        (which = .peer ∨ spiSizesAgree m p.plain = true) →
        ∃ x ∈ m.zip p.protos, SharedProtects x.1.groups x.2.groups := by
  have htransforms : ∀ x : OwnProto × PeerProto, (matchedProto which (x.1, x.2.toProto)).transforms
      = matchTransforms x.1.groups x.2.groups := by
    intro x
    cases which <;> rfl
  constructor
  · intro hkept m p haccepted hspi
    have hpair := firstPair_iff.mpr haccepted
    obtain ⟨-, hprotos⟩ := protosMatch_zip (firstPair_some hpair).2.2
    obtain ⟨s, hs, hprot⟩ := hkept ⟨p.number, (m.zip p.plain).map (matchedProto which)⟩ (by
      unfold findMatchNumbered
      rw [hpair]
      exact if_pos hspi)
    obtain ⟨r, hr, hs'⟩ := List.mem_flatMap.mp hs
    rw [zip_plain, List.map_map] at hr
    obtain ⟨x, hx, rfl⟩ := List.mem_map.mp hr
    rw [Function.comp_apply, htransforms] at hs'
    exact ⟨x, hx, (protects_iff (hprotos _ (mem_zip_plain hx)).2).mp ⟨s, hs', hprot⟩⟩
  · intro hcond r hr
    obtain ⟨m, p, hpair, hspi, rfl⟩ := findMatchNumbered_some hr
    obtain ⟨-, hprotos⟩ := protosMatch_zip (firstPair_some hpair).2.2
    obtain ⟨x, hx, hshared⟩ := hcond m p (firstPair_iff.mp hpair) hspi
    obtain ⟨s, hs, hprot⟩ := (protects_iff (hprotos _ (mem_zip_plain hx)).2).mpr hshared
    refine ⟨s, List.mem_flatMap.mpr ⟨matchedProto which (x.1, x.2.toProto), ?_, ?_⟩, hprot⟩
    · exact List.mem_map_of_mem (mem_zip_plain hx)
    · rw [htransforms]
      exact hs

end

/-- AES-CBC before AES-GCM, with an integrity transform -/
def cbcGcmProto : OwnProto where
  protocol := 1
  spi := []
  groups := [⟨1, [⟨12, [.short 14 256]⟩, ⟨20, [.short 14 256]⟩]⟩, ⟨2, [⟨5, []⟩]⟩, ⟨3, [⟨12, []⟩]⟩,
    ⟨4, [⟨14, []⟩]⟩]
  distinct := by decide

/-- AES-GCM before AES-CBC, and no integrity transform -/
def gcmCbcProto : PeerProto where
  protocol := 1
  spi := []
  groups := [⟨1, [⟨20, [.short 14 256]⟩, ⟨12, [.short 14 256]⟩]⟩, ⟨2, [⟨5, []⟩]⟩, ⟨4, [⟨14, []⟩]⟩]
  some_group := by decide
  distinct := by decide
  some_alternative := by decide

instance (s : Selected) : Decidable (Protects s) := inferInstanceAs (Decidable (_ ∨ _))

/-- INTEG is waived for the peer's AES-GCM, and AES-CBC is selected -/
theorem integrity_lost :
    (∃ g ∈ cbcGcmProto.groups, g.type = transformIntegr
      ∧ ∃ t ∈ g.alternatives, t.id ≠ integrNone)
    ∧ ∃ r, findMatchNumbered [[cbcGcmProto]] [⟨1, [gcmCbcProto]⟩] .peer = some r
      ∧ ¬ ∃ s ∈ r.protos.flatMap Matched.transforms, Protects s :=
  ⟨by decide, ⟨1, [⟨1, [], [⟨1, ⟨12, [.short 14 256]⟩⟩, ⟨2, ⟨5, []⟩⟩, ⟨4, ⟨14, []⟩⟩]⟩]⟩,
    by decide, by decide⟩

end Ikev2
