import Racoon2.Iked.IkeSaProposal

/-!
# Deprecated transforms

`ike_depr_classify` names the transforms that NSA or the RFCs deprecate, `ikev2_depr_refused` refuses
them unless `allow_nsa_deprecated` or `allow_rfc_deprecated` is on, and
`ikev2_proplist_filter_deprecated` takes them out of a received SA payload before it is matched: out
of two levels of linked lists, in place, and a type that loses all its alternatives takes its
proposal along.

* `deprTable`             the table;
* `deprRefused`           the switches of a remote, of the default clause, and the default;
* `filterProplist`        the loops over proposals, protocols, types and alternatives;
* `filterProplist_eq`     what they compute: `PeerList.filterDeprecated`;
* `deprecated_filtered`   nothing refused is left, nothing else is lost.
-/

set_option linter.unusedVariables false

namespace Ikev2

/-! ## the classes -/

inductive DeprCtx where
  | ike
  | esp
  | ah
  | ikev1
  deriving DecidableEq, Repr

/-- `IKE_DEPR_NSA` and `IKE_DEPR_RFC` -/
structure DeprClasses where
  nsa : Bool
  rfc : Bool
  deriving DecidableEq, Repr

def DeprClasses.any (c : DeprClasses) : Bool := c.nsa || c.rfc

structure DeprEntry where
  ctxs : List DeprCtx
  type : Nat
  id : Nat
  classes : DeprClasses

def deprEncr : Nat := 1
def deprPrf : Nat := 2
def deprInteg : Nat := 3
def deprKe : Nat := 4
def deprAuthMethod : Nat := 0x100
def deprSigHash : Nat := 0x101
def deprSigLegacy : Nat := 0x102
def deprCombo : Nat := 0x103
def deprV1Enc : Nat := 0x200
def deprV1Hash : Nat := 0x201
def deprV1Auth : Nat := 0x202
def deprV1P2auth : Nat := 0x203
def deprV1Proto : Nat := 0x204

def ctxChild : List DeprCtx := [.esp, .ah]
def ctxAll : List DeprCtx := [.ike, .esp, .ah]

def classN : DeprClasses := ⟨true, false⟩
def classR : DeprClasses := ⟨false, true⟩
def classNR : DeprClasses := ⟨true, true⟩

/-- `depr_table[]` -/
def deprTable : List DeprEntry := [
  -- Transform Type 1 - Encryption
  ⟨[.ike], deprEncr, 1, classNR⟩, ⟨[.esp], deprEncr, 1, classNR⟩,
  ⟨[.ike], deprEncr, 2, classNR⟩, ⟨[.esp], deprEncr, 2, classNR⟩,
  ⟨[.ike], deprEncr, 3, classN⟩, ⟨[.esp], deprEncr, 3, classNR⟩,
  ⟨[.ike, .esp], deprEncr, 4, classR⟩,
  ⟨[.ike, .esp], deprEncr, 5, classR⟩,
  ⟨[.ike, .esp], deprEncr, 6, classR⟩,
  ⟨[.ike], deprEncr, 7, classR⟩, ⟨[.esp], deprEncr, 7, classR⟩,
  ⟨[.ike], deprEncr, 8, classR⟩, ⟨[.esp], deprEncr, 8, classR⟩,
  ⟨[.ike], deprEncr, 9, classNR⟩, ⟨[.esp], deprEncr, 9, classNR⟩,
  ⟨[.ike], deprEncr, 11, classR⟩,
  -- Transform Type 2 - PRF
  ⟨[.ike], deprPrf, 1, classNR⟩, ⟨[.ike], deprPrf, 2, classN⟩, ⟨[.ike], deprPrf, 3, classR⟩,
  -- Transform Type 3 - Integrity
  ⟨[.ike], deprInteg, 1, classNR⟩, ⟨ctxChild, deprInteg, 1, classNR⟩,
  ⟨ctxAll, deprInteg, 2, classN⟩,
  ⟨[.ike], deprInteg, 3, classNR⟩, ⟨ctxChild, deprInteg, 3, classNR⟩,
  ⟨[.ike], deprInteg, 4, classNR⟩, ⟨ctxChild, deprInteg, 4, classNR⟩,
  ⟨ctxAll, deprInteg, 6, classNR⟩,
  ⟨ctxAll, deprInteg, 7, classNR⟩,
  -- Transform Type 4 - Key Exchange Method
  ⟨ctxAll, deprKe, 1, classNR⟩, ⟨ctxAll, deprKe, 2, classNR⟩, ⟨ctxAll, deprKe, 5, classNR⟩,
  ⟨ctxAll, deprKe, 22, classR⟩, ⟨ctxAll, deprKe, 23, classR⟩, ⟨ctxAll, deprKe, 24, classR⟩,
  -- authentication
  ⟨[.ike], deprAuthMethod, 3, classNR⟩, ⟨[.ike], deprSigHash, 1, classNR⟩,
  ⟨[.ike], deprSigLegacy, 1, classN⟩,
  -- AUTH_NONE with a cipher that is no AEAD
  ⟨ctxChild, deprCombo, 1, classR⟩,
  -- IKEv1
  ⟨[.ikev1], deprV1Proto, 1, classR⟩,
  ⟨[.ikev1], deprV1Enc, 1, classNR⟩, ⟨[.ikev1], deprV1Enc, 2, classR⟩,
  ⟨[.ikev1], deprV1Enc, 3, classR⟩, ⟨[.ikev1], deprV1Enc, 4, classR⟩,
  ⟨[.ikev1], deprV1Enc, 5, classNR⟩, ⟨[.ikev1], deprV1Enc, 6, classR⟩,
  ⟨[.ikev1], deprV1Hash, 1, classNR⟩, ⟨[.ikev1], deprV1Hash, 2, classN⟩,
  ⟨[.ikev1], deprV1Hash, 3, classR⟩, ⟨[.ikev1], deprV1Auth, 2, classNR⟩,
  ⟨[.ikev1], deprKe, 1, classNR⟩, ⟨[.ikev1], deprKe, 2, classNR⟩, ⟨[.ikev1], deprKe, 5, classNR⟩,
  ⟨[.ikev1], deprKe, 22, classR⟩, ⟨[.ikev1], deprKe, 23, classR⟩, ⟨[.ikev1], deprKe, 24, classR⟩,
  ⟨ctxChild, deprV1P2auth, 1, classNR⟩, ⟨ctxChild, deprV1P2auth, 2, classN⟩,
  ⟨ctxChild, deprV1P2auth, 3, classNR⟩, ⟨ctxChild, deprV1P2auth, 4, classNR⟩]

/-- ADDKE1 to ADDKE7 use the registry of type 4 -/
def deprType (type : Nat) : Nat := if 6 ≤ type ∧ type ≤ 12 then deprKe else type

/-- `ike_depr_classify` -/
def deprClassify (ctx : DeprCtx) (type id : Nat) : DeprClasses :=
  deprTable.foldl (fun classes e =>
    if e.type = deprType type ∧ e.id = id ∧ ctx ∈ e.ctxs then
      ⟨classes.nsa || e.classes.nsa, classes.rfc || e.classes.rfc⟩
    else classes) ⟨false, false⟩

/-! ## the switches -/

/-- the switches of an `ikev2` clause; `none` is one that is not set -/
structure Kmp where
  allowNsaDeprecated : Option Bool
  allowRfcDeprecated : Option Bool
  deriving DecidableEq, Repr

/-- `IKEV2_CONF`: the clause of the remote, the default clause, the built-in value -/
def ikev2Conf (field : Kmp → Option Bool) (dflt rm : Option Kmp) (defval : Bool) : Bool :=
  match rm.bind field with
  | some v => v
  | none =>
    match dflt.bind field with
    | some v => v
    | none => defval

section
variable (dflt rm : Option Kmp)

def ikev2AllowNsaDeprecated : Bool := ikev2Conf Kmp.allowNsaDeprecated dflt rm false

def ikev2AllowRfcDeprecated : Bool := ikev2Conf Kmp.allowRfcDeprecated dflt rm false

/-- `ikev2_depr_refused`; `rm` is NULL, or has no `ikev2` clause, as `none` -/
def deprRefused (ctx : DeprCtx) (type id : Nat) : DeprClasses :=
  ⟨(deprClassify ctx type id).nsa && !ikev2AllowNsaDeprecated dflt rm,
    (deprClassify ctx type id).rfc && !ikev2AllowRfcDeprecated dflt rm⟩

/-- `depr_proto_ctx` -/
def deprProtoCtx (protocol : Nat) : DeprCtx :=
  if protocol = 2 then .ah else if protocol = 3 then .esp else .ike

/-- a transform of a protocol is refused -/
def transformRefused (protocol type id : Nat) : Bool :=
  (deprRefused dflt rm (deprProtoCtx protocol) type id).any

end

/-! ## the loops -/

/-- the alternatives of one type: those that are kept, and how many were removed -/
def filterAlternatives (refused : Nat → Bool) :
    List Transform → List Transform → Nat → List Transform × Nat
  | [], keep, removed => (keep, removed)
  | a :: an, keep, removed =>
    if refused a.id then filterAlternatives refused an keep (removed + 1)
    else filterAlternatives refused an (keep ++ [a]) removed

/-- what a loop has done: the list as it is linked again, and the two variables -/
structure Filtered (α : Type) where
  kept : List α
  removed : Nat
  drop : Bool

/-- the types of one protocol; one without alternatives is unlinked, and sets `drop` -/
def filterTypes (refused : Nat → Nat → Bool) : List Group → Filtered Group → Filtered Group
  | [], s => s
  | g :: gs, s =>
    let r := filterAlternatives (refused g.type) g.alternatives [] s.removed
    if r.1.isEmpty then filterTypes refused gs ⟨s.kept, r.2, true⟩
    else filterTypes refused gs ⟨s.kept ++ [⟨g.type, r.1⟩], r.2, s.drop⟩

/-- the protocols of one proposal -/
def filterProtos (refused : Nat → Nat → Nat → Bool) : List Proto → Filtered Proto → Filtered Proto
  | [], s => s
  | p :: ps, s =>
    let r := filterTypes (refused p.protocol) p.groups ⟨[], s.removed, s.drop⟩
    filterProtos refused ps ⟨s.kept ++ [{ p with groups := r.kept }], r.removed, r.drop⟩

/-- the proposals that are there, with their numbers, and the count it returns -/
def filterProplist (refused : Nat → Nat → Nat → Bool) :
    List (Nat × List Proto) → List (Nat × List Proto) → Nat → List (Nat × List Proto) × Nat
  | [], done, removed => (done, removed)
  | (pno, protos) :: rest, done, removed =>
    let r := filterProtos refused protos ⟨[], removed, false⟩
    if r.drop then filterProplist refused rest done r.removed
    else filterProplist refused rest (done ++ [(pno, r.kept)]) r.removed

/-- `ikev2_proplist_filter_deprecated` -/
def proplistFilterDeprecated (dflt rm : Option Kmp) (proplist : List (Nat × List Proto)) :
    List (Nat × List Proto) × Nat :=
  filterProplist (transformRefused dflt rm) proplist [] 0

/-! ## what the loops compute -/

/-- a protocol without its refused transforms -/
def Proto.allowed (refused : Nat → Nat → Nat → Bool) (p : Proto) : Proto :=
  { p with groups := p.groups.map (Group.allowed (refused p.protocol)) }

/-- a type of the protocol has no alternative left -/
def Proto.loses (refused : Nat → Nat → Nat → Bool) (p : Proto) : Bool :=
  p.groups.any fun g => (g.allowed (refused p.protocol)).alternatives.isEmpty

/-- how many transforms of a protocol are refused -/
def Proto.refusals (refused : Nat → Nat → Nat → Bool) (p : Proto) : Nat :=
  (p.groups.map fun g => g.alternatives.countP fun t => refused p.protocol g.type t.id).sum

theorem filterAlternatives_eq (refused : Nat → Bool) (as : List Transform) : ∀ keep removed,
    filterAlternatives refused as keep removed
      = (keep ++ as.filter (fun t => !refused t.id), removed + as.countP fun t => refused t.id) := by
  induction as with
  | nil =>
    intro keep removed
    rw [filterAlternatives, List.filter_nil, List.append_nil]
    rfl
  | cons a an ih =>
    intro keep removed
    rw [filterAlternatives]
    cases hrefused : refused a.id with
    | true =>
      rw [if_pos rfl, ih, List.filter_cons_of_neg (by simp [hrefused]),
        List.countP_cons_of_pos (by simp [hrefused]), Nat.add_right_comm]
      rfl
    | false =>
      rw [if_neg Bool.false_ne_true, ih, List.filter_cons_of_pos (by simp [hrefused]),
        List.countP_cons_of_neg (by simp [hrefused]), List.append_assoc]
      rfl

/-- the loop over the types; induction over them -/
theorem filterTypes_eq (refused : Nat → Nat → Bool) (gs : List Group) : ∀ s : Filtered Group,
    filterTypes refused gs s
      = ⟨s.kept ++ (gs.map (Group.allowed refused)).filter (fun g => !g.alternatives.isEmpty),
        s.removed + (gs.map fun g => g.alternatives.countP fun t => refused g.type t.id).sum,
        s.drop || gs.any fun g => (g.allowed refused).alternatives.isEmpty⟩ := by
  induction gs with
  | nil =>
    intro s
    rw [filterTypes, List.map_nil, List.filter_nil, List.append_nil, List.any_nil, Bool.or_false]
    rfl
  | cons g gs ih =>
    intro s
    rw [filterTypes, filterAlternatives_eq, List.nil_append, List.map_cons, List.map_cons,
      List.sum_cons, List.any_cons, ← Nat.add_assoc]
    have hgroup : (⟨g.type, g.alternatives.filter fun t => !refused g.type t.id⟩ : Group)
        = g.allowed refused := rfl
    have halts : (g.alternatives.filter fun t => !refused g.type t.id)
        = (g.allowed refused).alternatives := rfl
    dsimp only
    rw [hgroup, halts]
    cases hempty : (g.allowed refused).alternatives.isEmpty with
    | true =>
      rw [if_pos rfl, ih, List.filter_cons_of_neg (by simp [hempty]), Bool.true_or, Bool.or_true]
    | false =>
      rw [if_neg Bool.false_ne_true, ih, List.filter_cons_of_pos (by simp [hempty]),
        List.append_assoc, Bool.false_or]
      rfl

/-- the loop over the protocols: what it keeps is only looked at if nothing was lost -/
theorem filterProtos_eq (refused : Nat → Nat → Nat → Bool) (ps : List Proto) :
    ∀ s : Filtered Proto,
      (filterProtos refused ps s).removed = s.removed + (ps.map (Proto.refusals refused)).sum
      ∧ (filterProtos refused ps s).drop = (s.drop || ps.any (Proto.loses refused))
      ∧ (ps.any (Proto.loses refused) = false →
          (filterProtos refused ps s).kept = s.kept ++ ps.map (Proto.allowed refused)) := by
  induction ps with
  | nil =>
    intro s
    exact ⟨rfl, (Bool.or_false _).symm, fun _ => (List.append_nil _).symm⟩
  | cons p ps ih =>
    intro s
    rw [filterProtos, filterTypes_eq]
    obtain ⟨hremoved, hdrop, hkept⟩ := ih _
    refine ⟨?_, ?_, ?_⟩
    · rw [hremoved, List.map_cons, List.sum_cons, ← Nat.add_assoc]
      rfl
    · rw [hdrop, List.any_cons, ← Bool.or_assoc]
      rfl
    · intro hnone
      rw [List.any_cons, Bool.or_eq_false_iff] at hnone
      have hall : ((p.groups.map (Group.allowed (refused p.protocol))).filter
          fun g => !g.alternatives.isEmpty) = p.groups.map (Group.allowed (refused p.protocol)) := by
        rw [List.filter_eq_self]
        intro g hg
        obtain ⟨g', hg', rfl⟩ := List.mem_map.mp hg
        have hsome := List.any_eq_false.mp hnone.1 g' hg'
        rw [Bool.not_eq_true] at hsome
        rw [hsome]
        rfl
      rw [hkept hnone.2, hall, List.map_cons, List.append_assoc]
      rfl

/-- the loop over the proposals -/
theorem filterProplist_eq (refused : Nat → Nat → Nat → Bool) (l : List (Nat × List Proto)) :
    ∀ done removed, filterProplist refused l done removed
      = (done ++ (l.filter fun x => !x.2.any (Proto.loses refused)).map
          (fun x => (x.1, x.2.map (Proto.allowed refused))),
        removed + (l.map fun x => (x.2.map (Proto.refusals refused)).sum).sum) := by
  induction l with
  | nil =>
    intro done removed
    rw [filterProplist, List.filter_nil, List.map_nil, List.append_nil]
    rfl
  | cons x rest ih =>
    intro done removed
    obtain ⟨pno, protos⟩ := x
    obtain ⟨hremoved, hdrop, hkept⟩ := filterProtos_eq refused protos ⟨[], removed, false⟩
    rw [Bool.false_or] at hdrop
    rw [filterProplist, hdrop, hremoved, List.map_cons, List.sum_cons, ← Nat.add_assoc]
    cases hloses : protos.any (Proto.loses refused) with
    | true =>
      rw [if_pos rfl, ih, List.filter_cons_of_neg (by simp [hloses])]
    | false =>
      rw [if_neg Bool.false_ne_true, hkept hloses, ih, List.filter_cons_of_pos (by simp [hloses]),
        List.append_assoc]
      rfl

/-! ## the proposals of a peer -/

/-- the array of proposals, without what is known about its lists -/
def PeerList.plain (l : PeerList) : List (Nat × List Proto) :=
  l.proposals.map fun p => (p.number, p.plain)

section
variable {refused : Nat → Nat → Nat → Bool}

theorem PeerProto.allowed_cases (q : PeerProto) :
    (q.toProto.loses refused = true ∧ q.allowed refused = none)
    ∨ (q.toProto.loses refused = false
      ∧ ∃ q', q.allowed refused = some q' ∧ q'.toProto = q.toProto.allowed refused) := by
  unfold PeerProto.allowed
  cases hloses : q.toProto.loses refused with
  | true =>
    obtain ⟨g, hg, hempty⟩ := List.any_eq_true.mp hloses
    refine .inl ⟨rfl, dif_neg ?_⟩
    intro hall
    exact hall _ (List.mem_map_of_mem hg) (List.isEmpty_iff.mp hempty)
  | false =>
    have hall : ∀ g ∈ q.groups.map (Group.allowed (refused q.protocol)), g.alternatives ≠ [] := by
      intro g hg
      obtain ⟨g', hg', rfl⟩ := List.mem_map.mp hg
      have hsome := List.any_eq_false.mp hloses g' hg'
      exact fun hnil => hsome (List.isEmpty_iff.mpr hnil)
    exact .inr ⟨rfl, _, dif_pos hall, rfl⟩

theorem allowed_mapM (qs : List PeerProto) :
    (qs.any (fun q => q.toProto.loses refused) = true ∧ qs.mapM (PeerProto.allowed refused) = none)
    ∨ (qs.any (fun q => q.toProto.loses refused) = false
      ∧ ∃ qs', qs.mapM (PeerProto.allowed refused) = some qs'
        ∧ qs'.map PeerProto.toProto = (qs.map PeerProto.toProto).map (Proto.allowed refused)) := by
  induction qs with
  | nil => exact .inr ⟨rfl, [], rfl, rfl⟩
  | cons q qs ih =>
    rw [List.any_cons, List.mapM_cons]
    rcases @PeerProto.allowed_cases refused q with ⟨hloses, hnone⟩ | ⟨hloses, q', hsome, hq'⟩
    · rw [hloses, hnone]
      exact .inl ⟨rfl, rfl⟩
    · rw [hloses, hsome, Bool.false_or]
      rcases ih with ⟨hloses', hnone⟩ | ⟨hloses', qs', hsome', hqs'⟩
      · rw [hloses', hnone]
        exact .inl ⟨rfl, rfl⟩
      · rw [hloses', hsome']
        refine .inr ⟨rfl, q' :: qs', rfl, ?_⟩
        rw [List.map_cons, List.map_cons, List.map_cons, hq', hqs']

theorem PeerProposal.plain_any (p : PeerProposal) : p.plain.any (Proto.loses refused)
    = p.protos.any fun q => q.toProto.loses refused := by
  unfold PeerProposal.plain
  exact List.any_map

/-- the loops compute the filter of the matcher -/
theorem PeerList.filterDeprecated_plain (refused : Nat → Nat → Nat → Bool) (l : PeerList) :
    (filterProplist refused l.plain [] 0).1 = (l.filterDeprecated refused).plain := by
  rw [filterProplist_eq, List.nil_append]
  unfold PeerList.plain PeerList.filterDeprecated
  dsimp only
  induction l.proposals with
  | nil => rfl
  | cons p ps ih =>
    have hplain := @PeerProposal.plain_any refused p
    rw [List.map_cons, List.filterMap_cons]
    unfold PeerProposal.allowed at ih ⊢
    rcases @allowed_mapM refused p.protos with ⟨hloses, hnone⟩ | ⟨hloses, qs, hsome, hqs⟩
    · rw [hnone, List.filter_cons_of_neg (by simp [hplain, hloses])]
      exact ih
    · rw [hsome, List.filter_cons_of_pos (by simp [hplain, hloses]), List.map_cons, ih]
      show (p.number, p.plain.map (Proto.allowed refused)) :: _
        = (p.number, qs.map PeerProto.toProto) :: _
      rw [hqs]
      rfl

/-- a transform that a protocol offers for a type -/
def Proto.Offers (p : Proto) (type : Nat) (t : Transform) : Prop :=
  ∃ g ∈ p.groups, g.type = type ∧ t ∈ g.alternatives

/-- some type that the proposal offers has lost all its alternatives -/
def PeerProposal.LosesType (refused : Nat → Nat → Nat → Bool) (p : PeerProposal) : Prop :=
  ∃ q ∈ p.protos, ∃ type, (∃ t, q.toProto.Offers type t)
    ∧ ∀ t, q.toProto.Offers type t → refused q.protocol type t.id = true

theorem Group.allowed_isEmpty {refused : Nat → Nat → Bool} {g : Group} :
    (g.allowed refused).alternatives.isEmpty = true
      ↔ ∀ t ∈ g.alternatives, refused g.type t.id = true := by
  unfold Group.allowed
  rw [List.isEmpty_iff, List.filter_eq_nil_iff]
  simp

theorem PeerProto.loses_iff (q : PeerProto) : q.toProto.loses refused = true
    ↔ ∃ type, (∃ t, q.toProto.Offers type t)
      ∧ ∀ t, q.toProto.Offers type t → refused q.protocol type t.id = true := by
  unfold Proto.loses
  rw [List.any_eq_true]
  constructor
  · rintro ⟨g, hg, hempty⟩
    obtain ⟨t, ht⟩ := List.exists_mem_of_ne_nil _ (q.some_alternative g hg)
    refine ⟨g.type, ⟨t, g, hg, rfl, ht⟩, ?_⟩
    rintro u ⟨g', hg', htype, hu⟩
    obtain rfl : g' = g := List.inj_on_of_nodup_map q.distinct hg' hg htype
    exact Group.allowed_isEmpty.mp hempty u hu
  · rintro ⟨type, ⟨t, g, hg, htype, -⟩, hall⟩
    refine ⟨g, hg, Group.allowed_isEmpty.mpr ?_⟩
    intro t ht
    rw [htype]
    exact hall t ⟨g, hg, htype, ht⟩

theorem PeerProposal.losesType_iff (p : PeerProposal) :
    p.LosesType refused ↔ p.plain.any (Proto.loses refused) = true := by
  rw [p.plain_any, List.any_eq_true]
  constructor
  · rintro ⟨q, hq, hloses⟩
    exact ⟨q, hq, q.loses_iff.mpr hloses⟩
  · rintro ⟨q, hq, hloses⟩
    exact ⟨q, hq, q.loses_iff.mp hloses⟩

/-- what is left of a protocol is not refused -/
theorem Proto.allowed_not_refused (p : Proto) : ∀ g ∈ (p.allowed refused).groups,
    ∀ t ∈ g.alternatives, refused p.protocol g.type t.id = false := by
  intro g hg t ht
  obtain ⟨g', -, rfl⟩ := List.mem_map.mp hg
  have hkept := (List.mem_filter.mp ht).2
  rw [Bool.not_eq_true'] at hkept
  exact hkept

theorem Group.allowed_twice {refused : Nat → Nat → Bool} (g : Group) :
    (g.allowed refused).allowed refused = g.allowed refused := by
  unfold Group.allowed
  rw [List.filter_filter]
  simp

theorem Proto.allowed_twice (p : Proto) :
    (p.allowed refused).allowed refused = p.allowed refused := by
  unfold Proto.allowed
  dsimp only
  rw [List.map_map]
  congr 1
  exact List.map_congr_left fun g _ => g.allowed_twice

theorem Proto.allowed_loses (p : Proto) :
    (p.allowed refused).loses refused = p.loses refused := by
  unfold Proto.loses Proto.allowed
  rw [List.any_map]
  congr 1
  funext g
  exact congrArg (fun g' : Group => g'.alternatives.isEmpty) g.allowed_twice

theorem Proto.allowed_refusals (p : Proto) : (p.allowed refused).refusals refused = 0 := by
  unfold Proto.refusals
  rw [List.sum_eq_zero_iff]
  intro n hn
  obtain ⟨g, hg, rfl⟩ := List.mem_map.mp hn
  rw [List.countP_eq_zero]
  intro t ht
  rw [Bool.not_eq_true]
  exact p.allowed_not_refused g hg t ht

/-- a proposal that is left -/
theorem mem_filterProplist {l : PeerList} {number : Nat} {protos : List Proto} :
    (number, protos) ∈ (filterProplist refused l.plain [] 0).1
      ↔ ∃ p ∈ l.proposals, p.number = number ∧ ¬ p.LosesType refused
        ∧ protos = p.plain.map (Proto.allowed refused) := by
  rw [filterProplist_eq, List.nil_append, List.mem_map]
  unfold PeerList.plain
  constructor
  · rintro ⟨x, hx, heq⟩
    obtain ⟨hmem, hkept⟩ := List.mem_filter.mp hx
    obtain ⟨p, hp, rfl⟩ := List.mem_map.mp hmem
    cases heq
    refine ⟨p, hp, rfl, ?_, rfl⟩
    rw [p.losesType_iff]
    simpa using hkept
  · rintro ⟨p, hp, rfl, hkept, rfl⟩
    refine ⟨(p.number, p.plain), List.mem_filter.mpr ⟨List.mem_map_of_mem hp, ?_⟩, rfl⟩
    rw [p.losesType_iff] at hkept
    simpa using hkept

/-- filtering what was filtered -/
theorem filterProplist_twice (l : List (Nat × List Proto)) :
    filterProplist refused (filterProplist refused l [] 0).1 [] 0
      = ((filterProplist refused l [] 0).1, 0) := by
  have hkept : ∀ x ∈ (filterProplist refused l [] 0).1,
      ∃ ps : List Proto, ps.any (Proto.loses refused) = false
        ∧ x.2 = ps.map (Proto.allowed refused) := by
    intro x hx
    rw [filterProplist_eq, List.nil_append] at hx
    obtain ⟨y, hy, rfl⟩ := List.mem_map.mp hx
    have hloses := (List.mem_filter.mp hy).2
    rw [Bool.not_eq_true'] at hloses
    exact ⟨y.2, hloses, rfl⟩
  generalize (filterProplist refused l [] 0).1 = out at hkept
  have hfilter : out.filter (fun x => !x.2.any (Proto.loses refused)) = out := by
    rw [List.filter_eq_self]
    intro x hx
    obtain ⟨ps, hloses, hps⟩ := hkept x hx
    rw [hps, List.any_map, Bool.not_eq_true']
    exact hloses ▸ congrArg (List.any ps) (funext fun p => p.allowed_loses)
  have hmap : out.map (fun x => (x.1, x.2.map (Proto.allowed refused))) = out := by
    nth_rewrite 2 [← List.map_id out]
    apply List.map_congr_left
    intro x hx
    obtain ⟨ps, -, hps⟩ := hkept x hx
    have htwice : x.2.map (Proto.allowed refused) = x.2 := by
      rw [hps, List.map_map]
      exact List.map_congr_left fun p _ => p.allowed_twice
    rw [htwice]
    rfl
  have hremoved : (out.map fun x => (x.2.map (Proto.refusals refused)).sum).sum = 0 := by
    rw [List.sum_eq_zero_iff]
    intro n hn
    obtain ⟨x, hx, rfl⟩ := List.mem_map.mp hn
    obtain ⟨ps, -, hps⟩ := hkept x hx
    rw [List.sum_eq_zero_iff]
    intro m hm
    rw [hps, List.map_map] at hm
    obtain ⟨p, -, rfl⟩ := List.mem_map.mp hm
    exact p.allowed_refusals
  rw [filterProplist_eq, hfilter, hmap, hremoved, List.nil_append]

end

/-- After `ikev2_proplist_filter_deprecated` no transform that is left is refused; the proposals that
are left are those of which no type has lost all its alternatives, in their order, each with all its
transforms that are not refused in their order; and filtering again changes nothing. -/
theorem deprecated_filtered (dflt rm : Option Kmp) (l : PeerList) :
    (∀ x ∈ (proplistFilterDeprecated dflt rm l.plain).1, ∀ p ∈ x.2, ∀ g ∈ p.groups,
      ∀ t ∈ g.alternatives,
        (deprRefused dflt rm (deprProtoCtx p.protocol) g.type t.id).any = false)
    ∧ (∀ number protos, (number, protos) ∈ (proplistFilterDeprecated dflt rm l.plain).1
        ↔ ∃ p ∈ l.proposals, p.number = number ∧ ¬ p.LosesType (transformRefused dflt rm)
          ∧ protos = p.plain.map (Proto.allowed (transformRefused dflt rm)))
    ∧ ((proplistFilterDeprecated dflt rm l.plain).1.map Prod.fst).Sublist
        (l.proposals.map PeerProposal.number)
    ∧ proplistFilterDeprecated dflt rm (proplistFilterDeprecated dflt rm l.plain).1
        = ((proplistFilterDeprecated dflt rm l.plain).1, 0) := by
  unfold proplistFilterDeprecated
  refine ⟨?_, fun number protos => mem_filterProplist, ?_, filterProplist_twice l.plain⟩
  · rintro ⟨number, protos⟩ hx p hp g hg t ht
    obtain ⟨p', -, -, -, rfl⟩ := mem_filterProplist.mp hx
    obtain ⟨q, -, rfl⟩ := List.mem_map.mp hp
    exact q.allowed_not_refused g hg t ht
  · rw [PeerList.filterDeprecated_plain]
    unfold PeerList.plain
    rw [List.map_map]
    exact filterMap_map_sublist (fun _ _ => PeerProposal.allowed_number) l.proposals

/-- MODP 1024 is taken out of the first proposal; the second has nothing else -/
example : proplistFilterDeprecated none none
      [(1, [⟨1, [], [⟨4, [⟨2, []⟩, ⟨14, []⟩]⟩]⟩]), (2, [⟨1, [], [⟨4, [⟨2, []⟩]⟩]⟩])]
    = ([(1, [⟨1, [], [⟨4, [⟨14, []⟩]⟩]⟩])], 2) := by decide

end Ikev2
