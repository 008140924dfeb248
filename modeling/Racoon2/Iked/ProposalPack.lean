import Racoon2.Iked.ProposalGrammar

/-!
# Packing a list of proposals

`ikev2_pack_proposal` writes an array of proposals, which it holds under 256 indices; a proposal is
a list of protocols, each with the number it is sent under.  The mark of the last proposal of an
index looks at the next index only.

* `packProposal`          the packer;
* `packProposal_wire`     without a hole in the array it writes `wireProposals`;
* `byType`                the transforms as the parser returns them, by ascending types;
* `packed_proposals`      what is packed is parsed, under the numbers it was sent under.
-/

set_option linter.unusedVariables false

namespace Ikev2
open Bytes

/-! ## the packer -/

/-- a protocol of a proposal, with the number in its header -/
structure StoredProto extends Proto where
  number : Nat
  deriving DecidableEq

def maxProppairlen : Nat := 256

/-- the alternatives of one type; `next`: there is another type -/
def packAlternatives (next : Bool) (type : Nat) : List Transform → Bytes
  | [] => []
  | t :: ts =>
    encodeTransform (if !ts.isEmpty || next then transformMore else transformLast) ⟨type, t⟩
      ++ packAlternatives next type ts

def packTransforms : List Group → Bytes
  | [] => []
  | g :: gs => packAlternatives (!gs.isEmpty) g.type g.alternatives ++ packTransforms gs

def numTransforms (groups : List Group) : Nat := (groups.map (·.alternatives.length)).sum

/-- one protocol, `np` in front -/
def packProto (np : UInt8) (s : StoredProto) : Bytes :=
  [np, 0] ++ enc16 (8 + s.spi.length + (packTransforms s.groups).length)
    ++ [UInt8.ofNat s.number, UInt8.ofNat s.protocol, UInt8.ofNat s.spi.length,
      UInt8.ofNat (numTransforms s.groups)]
    ++ s.spi ++ packTransforms s.groups

/-- the protocols of one index; `next`: there is something at the next one -/
def packProtos (next : Bool) : List StoredProto → Option Bytes
  | [] => some []
  | s :: ss =>
    if 255 < numTransforms s.groups then none
    else (packProtos next ss).map
      (packProto (if !ss.isEmpty || next then proposalMore else 0) s ++ ·)

/-- `ikev2_pack_proposal_sub`, from index `i` on for `n` turns; `none` is its 0 for too many
transforms -/
def packProposalSub (proposal : Nat → List StoredProto) : Nat → Nat → Option Bytes
  | 0, _ => some []
  | n+1, i =>
    match packProtos (decide (i < maxProppairlen - 1) && !(proposal (i + 1)).isEmpty)
        (proposal i) with
    | none => none
    | some octets => (packProposalSub proposal n (i + 1)).map (octets ++ ·)

/-- `ikev2_pack_proposal` -/
def packProposal (proposal : Nat → List StoredProto) : Option Bytes :=
  match packProposalSub proposal maxProppairlen 0 with
  | none => none
  | some payload =>
    if payload.length = 0 then none
    else if 0xFFFF < payload.length then none
    else some payload

/-! ## what is in the array -/

/-- the protocols from index `i` on, of `n` indices -/
def entriesFrom (proposal : Nat → List StoredProto) (i n : Nat) : List StoredProto :=
  (List.range' i n).flatMap proposal

/-- all protocols, in the order of the array -/
def entries (proposal : Nat → List StoredProto) : List StoredProto :=
  entriesFrom proposal 0 maxProppairlen

/-- the indices in use follow each other -/
def NoHole (proposal : Nat → List StoredProto) : Prop :=
  ∀ i j, i < j → j < maxProppairlen → proposal i ≠ [] → proposal j ≠ [] → proposal (i + 1) ≠ []

/-- the transforms of a protocol, type by type -/
def selections (groups : List Group) : List Selected :=
  groups.flatMap fun g => g.alternatives.map fun t => ⟨g.type, t⟩

def StoredProto.wire (s : StoredProto) : WireProposal where
  reserved := 0
  number := s.number
  protocol := s.protocol
  count := numTransforms s.groups
  spi := s.spi
  transforms := (selections s.groups).map plainTransform

/-- the fields of a protocol fit their octets, it has a transform, and its SPI is of the right
size -/
structure StoredProto.Wf (ikeSpiSize : Nat) (s : StoredProto) : Prop where
  number : s.number < 256
  protocol : s.protocol < 256
  spi : s.spi.length < 256
  spiSize : checkSpiSize ikeSpiSize s.protocol s.spi.length = true
  some : s.groups ≠ []
  alternatives : ∀ g ∈ s.groups, g.alternatives ≠ []
  types : ∀ g ∈ s.groups, g.type < 256
  transforms : ∀ g ∈ s.groups, ∀ t ∈ g.alternatives, t.id < 65536 ∧ ∀ a ∈ t.attrs, a.Wf

/-- the transforms by their types, each type with its alternatives in the order of the list -/
def byType (groups : List Group) : List Group :=
  (List.range 256).filterMap fun type =>
    match (groups.filter (·.type == type)).flatMap Group.alternatives with
    | [] => none
    | t :: ts => some ⟨type, t :: ts⟩

/-- a protocol as the parser returns it -/
def StoredProto.parsed (s : StoredProto) : Proto := ⟨s.protocol, s.spi, byType s.groups⟩

/-! ## the octets -/

theorem packAlternatives_wire (type : Nat) {ts : List Transform} (hne : ts ≠ [])
    (rest : List WireTransform) :
    packAlternatives (!rest.isEmpty) type ts ++ wireTransforms rest
      = wireTransforms ((ts.map fun t => plainTransform ⟨type, t⟩) ++ rest) := by
  induction ts with
  | nil => exact absurd rfl hne
  | cons t ts ih =>
    rw [List.map_cons, List.cons_append, wireTransforms_cons, packAlternatives, List.append_assoc]
    cases ts with
    | nil =>
      rw [List.map_nil, List.nil_append]
      cases rest <;> rfl
    | cons t' ts' =>
      rw [ih (List.cons_ne_nil _ _)]
      rfl

theorem selections_cons (g : Group) (gs : List Group) :
    selections (g :: gs) = (g.alternatives.map fun t => ⟨g.type, t⟩) ++ selections gs :=
  List.flatMap_cons

theorem selections_ne_nil {groups : List Group} (hne : groups ≠ [])
    (h : ∀ g ∈ groups, g.alternatives ≠ []) : selections groups ≠ [] := by
  cases groups with
  | nil => exact absurd rfl hne
  | cons g gs =>
    rw [selections_cons]
    intro hnil
    exact h g List.mem_cons_self (List.map_eq_nil_iff.mp (List.append_eq_nil_iff.mp hnil).1)

theorem packTransforms_wire {groups : List Group} (h : ∀ g ∈ groups, g.alternatives ≠ []) :
    packTransforms groups = wireTransforms ((selections groups).map plainTransform) := by
  induction groups with
  | nil => rfl
  | cons g gs ih =>
    have hgs : ∀ g' ∈ gs, g'.alternatives ≠ [] := fun g' hg => h g' (List.mem_cons_of_mem _ hg)
    have hflag : gs.isEmpty = ((selections gs).map plainTransform).isEmpty := by
      cases gs with
      | nil => rfl
      | cons g' gs' =>
        have hne := selections_ne_nil (List.cons_ne_nil g' gs') hgs
        rw [List.isEmpty_map, List.isEmpty_eq_false_iff.mpr hne]
        rfl
    rw [packTransforms, ih hgs, hflag, packAlternatives_wire g.type (h g List.mem_cons_self),
      selections_cons, List.map_append, List.map_map]
    rfl

theorem numTransforms_selections (groups : List Group) :
    (selections groups).length = numTransforms groups := by
  unfold selections numTransforms
  rw [List.length_flatMap]
  congr 1
  apply List.map_congr_left
  intro g _
  exact List.length_map _

theorem packProto_wire {s : StoredProto} (h : ∀ g ∈ s.groups, g.alternatives ≠ []) (np : UInt8) :
    packProto np s = wireProposal np s.wire := by
  unfold packProto
  rw [packTransforms_wire h]
  rfl

/-- the protocols of one index in front of others -/
theorem packProtos_wire {ss : List StoredProto} (rest : List WireProposal)
    (h : ∀ s ∈ ss, ∀ g ∈ s.groups, g.alternatives ≠ []) :
    ∀ {octets}, packProtos (!rest.isEmpty) ss = some octets →
      octets ++ wireProposals rest = wireProposals (ss.map StoredProto.wire ++ rest)
      ∧ ∀ s ∈ ss, numTransforms s.groups ≤ 255 := by
  induction ss with
  | nil =>
    intro octets hpack
    cases hpack
    exact ⟨rfl, fun s hs => (nomatch hs)⟩
  | cons s ss ih =>
    intro octets hpack
    rw [packProtos] at hpack
    split at hpack
    · cases hpack
    rename_i hcount
    obtain ⟨behind, hbehind, rfl⟩ := Option.map_eq_some_iff.mp hpack
    obtain ⟨hoctets, hcounts⟩ := ih (fun s' hs => h s' (List.mem_cons_of_mem _ hs)) hbehind
    refine ⟨?_, List.forall_mem_cons.mpr ⟨Nat.not_lt.mp hcount, hcounts⟩⟩
    rw [List.append_assoc, hoctets, packProto_wire (h s List.mem_cons_self), List.map_cons,
      List.cons_append, wireProposals_cons]
    cases ss with
    | nil => cases rest <;> rfl
    | cons s' ss' => rfl

section
variable {proposal : Nat → List StoredProto}

theorem entriesFrom_succ (proposal : Nat → List StoredProto) (i n : Nat) :
    entriesFrom proposal i (n + 1) = proposal i ++ entriesFrom proposal (i + 1) n := by
  unfold entriesFrom
  rw [List.range'_succ, List.flatMap_cons]

theorem mem_entries {s : StoredProto} :
    s ∈ entries proposal ↔ ∃ i < maxProppairlen, s ∈ proposal i := by
  unfold entries entriesFrom
  rw [List.mem_flatMap]
  constructor
  · rintro ⟨i, hi, hs⟩
    exact ⟨i, by have := (List.mem_range'_1.mp hi).2; omega, hs⟩
  · rintro ⟨i, hi, hs⟩
    exact ⟨i, List.mem_range'_1.mpr ⟨Nat.zero_le _, by omega⟩, hs⟩

/-- with no hole the next index tells whether anything follows -/
theorem NoHole.next (h : NoHole proposal) {i n : Nat} (hn : i + (n + 1) = maxProppairlen)
    (hne : proposal i ≠ []) :
    (decide (i < maxProppairlen - 1) && !(proposal (i + 1)).isEmpty)
      = !(entriesFrom proposal (i + 1) n).isEmpty := by
  cases n with
  | zero =>
    rw [decide_eq_false (by omega), Bool.false_and]
    rfl
  | succ n =>
    rw [decide_eq_true (by omega), Bool.true_and]
    cases hnext : (proposal (i + 1)).isEmpty with
    | true =>
      have hall : entriesFrom proposal (i + 1) (n + 1) = [] := by
        apply List.flatMap_eq_nil_iff.mpr
        intro j hj
        have hrange := List.mem_range'_1.mp hj
        by_contra hfilled
        exact h i j (by omega) (by omega) hne hfilled (List.isEmpty_iff.mp hnext)
      rw [hall]
      rfl
    | false =>
      have hfilled : entriesFrom proposal (i + 1) (n + 1) ≠ [] := by
        rw [entriesFrom_succ]
        intro hnil
        exact List.isEmpty_eq_false_iff.mp hnext (List.append_eq_nil_iff.mp hnil).1
      rw [List.isEmpty_eq_false_iff.mpr hfilled]

/-- the whole loop; induction over the indices that are left -/
theorem packProposalSub_wire (h : NoHole proposal)
    (hne : ∀ s ∈ entries proposal, ∀ g ∈ s.groups, g.alternatives ≠ []) :
    ∀ n i, i + n = maxProppairlen → ∀ {octets}, packProposalSub proposal n i = some octets →
      octets = wireProposals ((entriesFrom proposal i n).map StoredProto.wire)
      ∧ ∀ s ∈ entriesFrom proposal i n, numTransforms s.groups ≤ 255 := by
  intro n
  induction n with
  | zero =>
    intro i _ octets hpack
    cases hpack
    exact ⟨rfl, fun s hs => (nomatch hs)⟩
  | succ n ih =>
    intro i hi octets hpack
    rw [packProposalSub] at hpack
    rw [entriesFrom_succ, List.map_append]
    cases hprotos : packProtos (decide (i < maxProppairlen - 1) && !(proposal (i + 1)).isEmpty)
        (proposal i) with
    | none =>
      rw [hprotos] at hpack
      cases hpack
    | some front =>
      rw [hprotos] at hpack
      obtain ⟨behind, hbehind, rfl⟩ := Option.map_eq_some_iff.mp hpack
      obtain ⟨rfl, hcounts⟩ := ih (i + 1) (by omega) hbehind
      cases hfilled : proposal i with
      | nil =>
        rw [hfilled] at hprotos
        cases hprotos
        exact ⟨rfl, hcounts⟩
      | cons s ss =>
        have hflag := h.next hi (by rw [hfilled]; exact List.cons_ne_nil _ _)
        rw [hflag, ← List.isEmpty_map, hfilled] at hprotos
        have hstored : ∀ x ∈ s :: ss, ∀ g ∈ x.groups, g.alternatives ≠ [] :=
          fun x hx => hne x (mem_entries.mpr ⟨i, by omega, hfilled ▸ hx⟩)
        obtain ⟨hoctets, hfront⟩ := packProtos_wire _ hstored hprotos
        exact ⟨hoctets, fun x hx => (List.mem_append.mp hx).elim (hfront x) (hcounts x)⟩

/-- without a hole the packer writes the protocols one behind the other -/
theorem packProposal_wire (h : NoHole proposal)
    (hne : ∀ s ∈ entries proposal, ∀ g ∈ s.groups, g.alternatives ≠ []) {payload : Bytes}
    (hpack : packProposal proposal = some payload) :
    payload = wireProposals ((entries proposal).map StoredProto.wire)
      ∧ (∀ s ∈ entries proposal, numTransforms s.groups ≤ 255)
      ∧ 0 < payload.length ∧ payload.length < 65536 := by
  unfold packProposal at hpack
  cases hsub : packProposalSub proposal maxProppairlen 0 with
  | none =>
    rw [hsub] at hpack
    cases hpack
  | some octets =>
    rw [hsub] at hpack
    dsimp only at hpack
    split at hpack
    · cases hpack
    rename_i hempty
    split at hpack
    · cases hpack
    rename_i hlarge
    cases hpack
    obtain ⟨hoctets, hcounts⟩ := packProposalSub_wire h hne maxProppairlen 0 rfl hsub
    exact ⟨hoctets, hcounts, Nat.pos_of_ne_zero hempty, by omega⟩

end

/-! ## the parser on them -/

theorem len_le_wireProposals {ps : List WireProposal} {p : WireProposal} (hp : p ∈ ps) :
    p.len ≤ (wireProposals ps).length := by
  induction ps with
  | nil => cases hp
  | cons q ps ih =>
    rw [wireProposals_cons, List.length_append, wireProposal_length]
    rcases List.mem_cons.mp hp with rfl | hp
    · exact Nat.le_add_right _ _
    · have hle := ih hp
      omega

theorem len_le_wireTransforms {ws : List WireTransform} {w : WireTransform} (hw : w ∈ ws) :
    8 + (attrOctets w.sel).length ≤ (wireTransforms ws).length := by
  induction ws with
  | nil => cases hw
  | cons v ws ih =>
    rw [wireTransforms_cons, List.length_append, wireTransform_length]
    rcases List.mem_cons.mp hw with rfl | hw
    · exact Nat.le_add_right _ _
    · have hle := ih hw
      omega

/-- a protocol that was packed passes the check -/
theorem StoredProto.Wf.accepted {ikeSpiSize : Nat} {s : StoredProto} (h : s.Wf ikeSpiSize)
    (hcount : numTransforms s.groups ≤ 255) (hlen : s.wire.len < 65536) :
    s.wire.Accepted ikeSpiSize := by
  have hne := selections_ne_nil h.some h.alternatives
  have hwf : s.wire.Wf := by
    refine ⟨h.number, h.protocol, Nat.lt_succ_of_le hcount, h.spi, ?_, ?_, hlen⟩
    · intro hnil
      exact hne (List.map_eq_nil_iff.mp hnil)
    · intro w hw
      have hsize := len_le_wireTransforms hw
      obtain ⟨sel, hsel, rfl⟩ := List.mem_map.mp hw
      obtain ⟨g, hg, hsel⟩ := List.mem_flatMap.mp hsel
      obtain ⟨t, ht, rfl⟩ := List.mem_map.mp hsel
      obtain ⟨hid, hattrs⟩ := h.transforms g hg t ht
      unfold WireProposal.len at hlen
      exact ⟨h.types g hg, hid, hattrs, by omega⟩
  refine ⟨hwf, ?_, h.spiSize⟩
  intro hzero
  apply hne
  rw [← List.length_eq_zero_iff, numTransforms_selections]
  exact hzero

/-- the transforms of one type, in the order of the list -/
theorem selections_filter (groups : List Group) (type : Nat) :
    ((selections groups).filter (·.type == type)).map Selected.transform
      = (groups.filter (·.type == type)).flatMap Group.alternatives := by
  induction groups with
  | nil => rfl
  | cons g gs ih =>
    rw [selections_cons, List.filter_append, List.map_append, ih, List.filter_map, List.map_map]
    cases htype : g.type == type with
    | true =>
      have hall : g.alternatives.filter ((fun s : Selected => s.type == type)
          ∘ fun t => (⟨g.type, t⟩ : Selected)) = g.alternatives :=
        List.filter_eq_self.mpr fun t _ => htype
      have hkeep : (g :: gs).filter (fun g' : Group => g'.type == type)
          = g :: gs.filter (fun g' : Group => g'.type == type) :=
        List.filter_cons_of_pos htype
      rw [hall, hkeep, List.flatMap_cons]
      congr 1
      exact List.map_id _
    | false =>
      have hnone : g.alternatives.filter ((fun s : Selected => s.type == type)
          ∘ fun t => (⟨g.type, t⟩ : Selected)) = [] :=
        List.filter_eq_nil_iff.mpr fun t _ => by
          show ¬ (g.type == type) = true
          rw [htype]
          exact Bool.false_ne_true
      have hdrop : (g :: gs).filter (fun g' : Group => g'.type == type)
          = gs.filter (fun g' : Group => g'.type == type) :=
        List.filter_cons_of_neg (by rw [htype]; exact Bool.false_ne_true)
      rw [hnone, hdrop]
      rfl

theorem groupTransforms_selections (groups : List Group) :
    groupTransforms (selections groups) = byType groups := by
  unfold groupTransforms byType
  congr 1
  funext type
  rw [← selections_filter]
  cases (selections groups).filter (·.type == type) <;> rfl

theorem StoredProto.wire_proto (s : StoredProto) : s.wire.proto = s.parsed := by
  unfold WireProposal.proto StoredProto.parsed StoredProto.wire
  dsimp only
  rw [List.map_map, ← groupTransforms_selections]
  congr 2
  exact List.map_id _

theorem filter_type_toList {groups : List Group} (h : (groups.map Group.type).Nodup) (type : Nat) :
    groups.filter (·.type == type) = (groups.find? (·.type == type)).toList := by
  induction groups with
  | nil => rfl
  | cons g gs ih =>
    rw [List.map_cons, List.nodup_cons] at h
    rw [List.filter_cons, List.find?_cons]
    cases htype : g.type == type with
    | true =>
      have hnone : gs.filter (·.type == type) = [] := by
        rw [List.filter_eq_nil_iff]
        intro g' hg hsame
        apply h.1
        rw [beq_iff_eq.mp htype, ← beq_iff_eq.mp hsame]
        exact List.mem_map_of_mem hg
      rw [hnone]
      rfl
    | false => exact ih h.2

/-- types that ascend are left where they are -/
theorem byType_ascending {groups : List Group} (hasc : (groups.map Group.type).Pairwise (· < ·))
    (hne : ∀ g ∈ groups, g.alternatives ≠ []) (htypes : ∀ g ∈ groups, g.type < 256) :
    byType groups = groups := by
  have hnodup : (groups.map Group.type).Nodup := hasc.imp fun hlt => Nat.ne_of_lt hlt
  unfold byType
  have hfun : ∀ type ∈ List.range 256,
      (match (groups.filter (fun g : Group => g.type == type)).flatMap Group.alternatives with
        | [] => none
        | t :: ts => some (⟨type, t :: ts⟩ : Group)) = groups.find? (·.type == type) := by
    intro type _
    rw [filter_type_toList hnodup]
    cases hfind : groups.find? (·.type == type) with
    | none => rfl
    | some g =>
      have hsome := List.find?_some hfind
      have htype : g.type = type := beq_iff_eq.mp hsome
      have halts := hne g (List.mem_of_find?_eq_some hfind)
      rw [Option.toList_some, List.flatMap_singleton, ← htype]
      obtain ⟨gtype, alternatives⟩ := g
      cases alternatives with
      | nil => exact absurd rfl halts
      | cons t ts => rfl
  rw [List.filterMap_congr hfun, List.range_eq_range']
  apply filterMap_find_ascending Group.type 256 0 groups hasc
  intro g hg
  exact ⟨Nat.zero_le _, by rw [Nat.zero_add]; exact htypes g hg⟩

/-- protocols under the number of their index -/
theorem entriesFrom_filter {proposal : Nat → List StoredProto}
    (h : ∀ i, ∀ s ∈ proposal i, s.number = i) (number : Nat) : ∀ n i,
      (entriesFrom proposal i n).filter (·.number == number)
        = if i ≤ number ∧ number < i + n then proposal number else [] := by
  intro n
  induction n with
  | zero =>
    intro i
    rw [if_neg (by omega)]
    rfl
  | succ n ih =>
    intro i
    rw [entriesFrom_succ, List.filter_append, ih]
    by_cases hi : i = number
    · have hall : (proposal i).filter (·.number == number) = proposal i :=
        List.filter_eq_self.mpr fun s hs => beq_iff_eq.mpr ((h i s hs).trans hi)
      rw [hall, if_neg (by omega), if_pos (by omega), List.append_nil, hi]
    · have hnone : (proposal i).filter (·.number == number) = [] :=
        List.filter_eq_nil_iff.mpr fun s hs hsame =>
          hi ((h i s hs).symm.trans (beq_iff_eq.mp hsame))
      rw [hnone, List.nil_append]
      congr 1
      exact propext ⟨fun hin => by omega, fun hin => by omega⟩

/-- What the packer produces from an array without a hole is accepted by the syntax check and parsed:
the protocols come back under the numbers they carry and in their order, each with its transforms by
ascending types and every type with its alternatives in their order.  Types that ascend already
come back as they were, and protocols that carry the number of their index come back there. -/
theorem packed_proposals (ikeSpiSize : Nat) (proposal : Nat → List StoredProto) (payload : Bytes)
    (hwf : ∀ s ∈ entries proposal, s.Wf ikeSpiSize) (hhole : NoHole proposal)
    (hnumbers : ((entries proposal).map StoredProto.number).Pairwise (· ≤ ·))
    (hpack : packProposal proposal = some payload) :
    payload = wireProposals ((entries proposal).map StoredProto.wire)
    ∧ checkProposalSyntax ikeSpiSize payload = true
    ∧ parseSa ikeSpiSize payload = some (fun number =>
        ((entries proposal).filter (·.number == number)).map StoredProto.parsed)
    ∧ (∀ s ∈ entries proposal, (s.groups.map Group.type).Pairwise (· < ·) →
        s.parsed = s.toProto)
    ∧ ((∀ i, ∀ s ∈ proposal i, s.number = i) → ∀ number < maxProppairlen,
        (entries proposal).filter (·.number == number) = proposal number) := by
  obtain ⟨hoctets, hcounts, hpos, hsize⟩ := packProposal_wire hhole
    (fun s hs => (hwf s hs).alternatives) hpack
  have hsa : SaProposals ikeSpiSize ((entries proposal).map StoredProto.wire) := by
    refine ⟨?_, ?_, ?_⟩
    · intro hnil
      rw [hnil] at hoctets
      rw [hoctets] at hpos
      exact absurd hpos (Nat.lt_irrefl 0)
    · intro p hp
      have hlen := len_le_wireProposals hp
      rw [← hoctets] at hlen
      obtain ⟨s, hs, rfl⟩ := List.mem_map.mp hp
      exact (hwf s hs).accepted (hcounts s hs) (by omega)
    · rw [List.map_map]
      exact hnumbers
  have hparse := parseSa_wireProposals hsa
  rw [← hoctets] at hparse
  refine ⟨hoctets, ?_, ?_, ?_, ?_⟩
  · by_contra hcheck
    unfold parseSa at hparse
    rw [if_neg hcheck] at hparse
    cases hparse
  · rw [hparse]
    congr 1
    funext number
    unfold protosOf
    rw [List.filter_map, List.map_map]
    exact List.map_congr_left fun s _ => s.wire_proto
  · intro s hs hasc
    unfold StoredProto.parsed
    rw [byType_ascending hasc (hwf s hs).alternatives (hwf s hs).types]
  · intro hindex number hnumber
    unfold entries
    rw [entriesFrom_filter hindex, if_pos ⟨Nat.zero_le _, by omega⟩]

def esnGroup : Group := ⟨5, [⟨0, []⟩]⟩

def gcmGroup : Group := ⟨1, [⟨20, [.short 14 256]⟩, ⟨20, [.short 14 128]⟩]⟩

/-- two proposals for ESP -/
def twoEsp : Nat → List StoredProto
  | 1 => [⟨⟨3, [0, 0, 0, 1], [gcmGroup, esnGroup]⟩, 1⟩]
  | 2 => [⟨⟨3, [0, 0, 0, 1], [esnGroup]⟩, 2⟩]
  | _ => []

def twoEspOctets : Bytes :=
  [2, 0, 0, 44, 1, 3, 4, 3, 0, 0, 0, 1,
    3, 0, 0, 12, 1, 0, 0, 20, 0x80, 14, 1, 0, 3, 0, 0, 12, 1, 0, 0, 20, 0x80, 14, 0, 128,
    0, 0, 0, 8, 5, 0, 0, 0,
    0, 0, 0, 20, 2, 3, 4, 1, 0, 0, 0, 1, 0, 0, 0, 8, 5, 0, 0, 0]

theorem packed_proposals_two : parseSa 0 twoEspOctets = some (fun number =>
      ((entries twoEsp).filter (·.number == number)).map StoredProto.parsed)
    ∧ ∀ s ∈ entries twoEsp, s.parsed = s.toProto := by
  have hentries : entries twoEsp = [⟨⟨3, [0, 0, 0, 1], [gcmGroup, esnGroup]⟩, 1⟩,
      ⟨⟨3, [0, 0, 0, 1], [esnGroup]⟩, 2⟩] := by decide +kernel
  have hpack : packProposal twoEsp = some twoEspOctets := by decide +kernel
  have hhole : NoHole twoEsp := by
    intro i j hlt hj hi hjne
    match i, j, hlt with
    | 1, _, _ => exact List.cons_ne_nil _ _
    | 2, j + 3, _ => exact absurd rfl hjne
    | 0, _, _ => exact absurd rfl hi
    | i + 3, _, _ => exact absurd rfl hi
  have hwf : ∀ s ∈ entries twoEsp, s.Wf 0 := by
    rw [hentries]
    have hesn : ∀ t ∈ esnGroup.alternatives, t.id < 65536 ∧ ∀ a ∈ t.attrs, a.Wf := by
      simp [esnGroup]
    have hgcm : ∀ t ∈ gcmGroup.alternatives, t.id < 65536 ∧ ∀ a ∈ t.attrs, a.Wf := by
      simp [gcmGroup, Attr.Wf]
    refine List.forall_mem_cons.mpr ⟨?_, List.forall_mem_singleton.mpr ?_⟩
    · exact ⟨by decide, by decide, by decide, by decide, List.cons_ne_nil _ _, by decide, by decide,
        List.forall_mem_cons.mpr ⟨hgcm, List.forall_mem_singleton.mpr hesn⟩⟩
    · exact ⟨by decide, by decide, by decide, by decide, List.cons_ne_nil _ _, by decide, by decide,
        List.forall_mem_singleton.mpr hesn⟩
  obtain ⟨-, -, hparse, hsame, -⟩ := packed_proposals 0 twoEsp twoEspOctets hwf hhole
    (by rw [hentries]; decide) hpack
  refine ⟨hparse, fun s hs => hsame s hs ?_⟩
  rw [hentries] at hs
  fin_cases hs <;> decide

/-- our own proposal for ESP with a key exchange, which `ikev2_ipsec_sa_to_proplist` puts before the
extended sequence numbers -/
def addkeFirst : Nat → List StoredProto
  | 1 => [⟨⟨3, [0, 0, 0, 1], [gcmGroup, ⟨6, [⟨36, []⟩]⟩, esnGroup]⟩, 1⟩]
  | _ => []

/-- it is parsed, and its transforms come back in another order -/
theorem addke_comes_back_last : ∃ payload array, packProposal addkeFirst = some payload
    ∧ parseSa 0 payload = some array
    ∧ array 1 = [⟨3, [0, 0, 0, 1], [gcmGroup, esnGroup, ⟨6, [⟨36, []⟩]⟩]⟩]
    ∧ array 1 ≠ (addkeFirst 1).map StoredProto.toProto := by
  have hone : ((packProposal addkeFirst).bind (parseSa 0)).map (· 1)
      = some [⟨3, [0, 0, 0, 1], [gcmGroup, esnGroup, ⟨6, [⟨36, []⟩]⟩]⟩] := by decide +kernel
  obtain ⟨array, hbind, harray⟩ := Option.map_eq_some_iff.mp hone
  obtain ⟨payload, hpack, hparse⟩ := Option.bind_eq_some_iff.mp hbind
  refine ⟨payload, array, hpack, hparse, harray, ?_⟩
  rw [harray]
  decide

end Ikev2
