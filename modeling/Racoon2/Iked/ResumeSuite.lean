import Racoon2.Iked.Keymat
import Racoon2.Iked.ResumeRecord

/-!
# The suite of a Child SA over a restart

`ikev2_match_transforms` links the selected types along `next`, `suite_from_prop` reads them along
`tnext`, and `prop_add_trns` links them along `tnext` again.  `ikev2_prop_find`, which looks along
both, tells the suite of a proposal on either side of the restart.

* `EspProto`              our own ESP proposals, ENCR first;
* `suiteFromProp_link`    what a dump keeps of a match: its ENCR transform;
* `restoreProposal_suite` the suite that comes back;
* `resume_suite`          the children whose suite survives are those without INTEG and without ESN.
-/

set_option linter.unusedVariables false

namespace Ikev2
open Bytes

/-! ## our own proposals -/

/-- an ESP proposal of ours: ENCR is the first type, and no transform of the table has the id 0 -/
structure EspProto extends OwnProto where
  encr : List Transform
  others : List Group
  groups_eq : groups = ⟨transformEncr, encr⟩ :: others
  encr_ids : ∀ t ∈ encr, t.id ≠ 0

/-- `transform_new` -/
def transformNew (id keylen : Nat) : Transform :=
  ⟨id, if keylen = 0 then [] else [.short attrKeyLength keylen]⟩

/-- what `ikev2_ipsec_sa_to_proplist` reads -/
structure EspConf where
  spi : Bytes
  encAlg : List (Nat × Nat)
  authAlg : List Nat
  addkeAlg : Option Nat
  dhGroup : List Nat
  extSequence : Bool
  encAlg_some : encAlg ≠ []
  encAlg_ids : ∀ e ∈ encAlg, e.1 ≠ 0

/-- a type that is left out when nothing is configured for it -/
def confGroup (type : Nat) (ids : List Nat) : List Group :=
  if ids = [] then [] else [⟨type, ids.map (transformNew · 0)⟩]

/-- the types behind ENCR, in their order; of several ADDKE rounds the first one stays -/
def EspConf.others (c : EspConf) : List Group :=
  confGroup transformIntegr c.authAlg ++ confGroup transformAddke c.addkeAlg.toList
    ++ confGroup transformDh c.dhGroup
    ++ [⟨transformEsn, (if c.extSequence then [1, 0] else [0]).map (transformNew · 0)⟩]

/-- `ikev2_ipsec_sa_to_proplist` for ESP -/
def ipsecSaToProplist (c : EspConf) : EspProto where
  protocol := proposalEsp
  spi := c.spi
  encr := c.encAlg.map fun e => transformNew e.1 e.2
  others := c.others
  groups := ⟨transformEncr, c.encAlg.map fun e => transformNew e.1 e.2⟩ :: c.others
  groups_eq := rfl
  distinct := by
    unfold EspConf.others confGroup
    by_cases hauth : c.authAlg = [] <;> by_cases haddke : c.addkeAlg.toList = []
      <;> by_cases hdh : c.dhGroup = [] <;> simp [hauth, haddke, hdh] <;> decide
  encr_ids := by
    intro t ht
    obtain ⟨e, he, rfl⟩ := List.mem_map.mp ht
    exact c.encAlg_ids e he

/-! ## what a match links -/

/-- the list that `ikev2_match_transforms` returns: the types along `next` -/
def linkMatched : List Selected → TrnsLinks
  | [] => .null
  | t :: ts => .node (some t) (linkMatched ts) .null

/-- a protocol as `isakmp_find_match` returns it -/
def Matched.link (m : Matched) : PropPair := ⟨m.protocol, m.spi, linkMatched m.transforms⟩

/-- the innermost loop of `ikev2_prop_find`, along `tnext` -/
def findAlternative (type : Nat) : TrnsLinks → Option Transform
  | .null => none
  | .node (some t) _ tnext =>
    if t.type = type then some t.transform else findAlternative type tnext
  | .node none _ tnext => findAlternative type tnext

/-- the loop of `ikev2_prop_find` along `next` -/
def findType (type : Nat) : TrnsLinks → Option Transform
  | .null => none
  | .node trns next tnext =>
    match findAlternative type (.node trns next tnext) with
    | some t => some t
    | none => findType type next

/-- `ikev2_prop_find` -/
def propFind (proposal : List PropPair) (type : Nat) : Option Transform :=
  proposal.findSome? fun p => findType type p.tnext

/-- encryption id, key length, integrity id and ESN choice -/
structure ChildSuite where
  encrId : Option Nat
  keylen : Nat
  integrId : Option Nat
  esn : Option Nat
  deriving DecidableEq, Repr

/-- the suite of a proposal -/
def propSuite (proposal : List PropPair) : ChildSuite where
  encrId := (propFind proposal transformEncr).map Transform.id
  keylen := ((propFind proposal transformEncr).map fun t => attrKeylen t.attrs).getD 0
  integrId := (propFind proposal transformIntegr).map Transform.id
  esn := (propFind proposal transformEsn).map Transform.id

/-- a child whose proposal is a match with one of our ESP proposals -/
def ResumeChild.Negotiated (c : ResumeChild) : Prop :=
  ∃ (mine : List (List EspProto)) (peers : List (List Proto)) (m : Matched),
    findMatch (mine.map (·.map EspProto.toOwnProto)) peers .mine = some [m]
    ∧ c.myProposal = [m.link]

/-! ## a match begins with ENCR -/

theorem carry_extends (want : Nat → Bool) (ps : List Group) (acc : List Selected) :
    acc <+: carry want ps acc := by
  induction ps generalizing acc with
  | nil => exact List.prefix_rfl
  | cons p ps ih =>
    unfold carry
    split
    · exact ih acc
    · split
      · exact (List.prefix_append _ _).trans (ih _)
      · exact ih acc

/-- a transform of ours that a peer's equals has no attribute but a key length -/
theorem pick_attrs {mine peer : Group} {t : Transform} (h : pick mine peer = some t) :
    t ∈ mine.alternatives ∧ (firstKeylen t.attrs).getD 0 = attrKeylen t.attrs := by
  refine ⟨List.mem_of_find?_eq_some h, ?_⟩
  have hsole : ∀ {k : Nat}, soleKeylen t.attrs = some k →
      (firstKeylen t.attrs).getD 0 = attrKeylen t.attrs := by
    intro k hk
    rw [soleKeylen_attrKeylen hk]
    unfold soleKeylen at hk
    split at hk
    · rename_i type value hattrs
      rw [hattrs]
      split at hk
      · rename_i htype
        simp [firstKeylen, htype, Option.some.inj hk]
      · cases hk
    · cases hk
  obtain ⟨q, _, _, hcompare⟩ := pick_some h
  unfold compareAttributes at hcompare
  split at hcompare
  · rename_i hnil _
    rw [hnil]
    rfl
  · rename_i hnil _
    rw [hnil]
    rfl
  · simp only [Bool.and_eq_true, beq_iff_eq] at hcompare
    exact hsole hcompare.2
  · split at hcompare
    · rename_i a b ha hb
      exact hsole ha
    · cases hcompare

/-- the peer may not leave out ENCR, so it is matched, and first -/
theorem matchTransforms_head {e : EspProto} {peers : List Group}
    (h : compareTransforms e.groups peers = true) :
    ∃ t ts, matchTransforms e.groups peers = ⟨transformEncr, t⟩ :: ts ∧ t ∈ e.encr
      ∧ (firstKeylen t.attrs).getD 0 = attrKeylen t.attrs := by
  obtain ⟨ts, hts⟩ := Option.isSome_iff_exists.mp
    (matchLoop_isSome fun g hg => compareTransforms_mine h hg)
  obtain ⟨t, rest, rfl, hmem, hkeylen⟩ : ∃ t rest, ts = ⟨transformEncr, t⟩ :: rest ∧ t ∈ e.encr
      ∧ (firstKeylen t.attrs).getD 0 = attrKeylen t.attrs := by
    rw [e.groups_eq] at hts
    unfold matchLoop at hts
    split at hts
    · have hlack : mayLack peers transformEncr = false := rfl
      rw [if_neg (by simp [hlack])] at hts
      cases hts
    · split at hts
      · cases hts
      · rename_i p _ t hpick
        obtain ⟨rest, _, rfl⟩ := Option.map_eq_some_iff.mp hts
        exact ⟨t, rest, rfl, pick_attrs hpick⟩
  obtain ⟨tail, htail⟩ := (carry_extends isAddke peers (⟨transformEncr, t⟩ :: rest)).trans
    (carry_extends isDh peers _)
  refine ⟨t, rest ++ tail, ?_, hmem, hkeylen⟩
  unfold matchTransforms
  rw [hts]
  exact htail.symm

theorem firstMatch_mem {own : List (List OwnProto)} {peers : List (List Proto)}
    {m : List OwnProto} {p : List Proto} (h : firstMatch own peers = some (m, p)) : m ∈ own := by
  unfold firstMatch at h
  obtain ⟨m', hm', heq⟩ := List.exists_of_findSome?_eq_some h
  obtain ⟨p', _, hpair⟩ := Option.map_eq_some_iff.mp heq
  rw [Prod.mk.injEq] at hpair
  rw [← hpair.1]
  exact hm'

/-- the proposal of a negotiated child: ENCR, then the other types along `next` -/
theorem negotiated_proposal {c : ResumeChild} (h : c.Negotiated) :
    ∃ protocol spi t ts, c.myProposal = [⟨protocol, spi, linkMatched (⟨transformEncr, t⟩ :: ts)⟩]
      ∧ t.id ≠ 0 ∧ (firstKeylen t.attrs).getD 0 = attrKeylen t.attrs := by
  obtain ⟨mine, peers, m, hmatch, hproposal⟩ := h
  obtain ⟨own, theirs, hfirst, _, hlist⟩ := findMatch_mine hmatch
  obtain ⟨_, hprotos⟩ := firstMatch_protosMatch hfirst
  obtain ⟨protos, _, rfl⟩ := List.mem_map.mp (firstMatch_mem hfirst)
  cases protos with
  | nil => cases hlist
  | cons e es =>
    cases theirs with
    | nil => cases hprotos
    | cons p ps =>
      unfold protosMatch at hprotos
      simp only [List.map_cons, Bool.and_eq_true] at hprotos
      obtain ⟨t, ts, htransforms, hmem, hkeylen⟩ := matchTransforms_head hprotos.1.2
      rw [List.map_cons, List.zip_cons_cons, List.map_cons, List.cons.injEq] at hlist
      refine ⟨e.protocol, e.spi, t, ts, ?_, e.encr_ids t hmem, hkeylen⟩
      rw [hproposal, hlist.1]
      show [(⟨e.protocol, e.spi, linkMatched (matchTransforms e.groups p.groups)⟩ : PropPair)] = _
      rw [htransforms]

/-! ## what the walks find -/

theorem findType_linkMatched (type : Nat) (ts : List Selected) :
    findType type (linkMatched ts) = selectedOf type ts := by
  induction ts with
  | nil => rfl
  | cons t ts ih =>
    unfold linkMatched findType findAlternative
    unfold selectedOf at ih ⊢
    rw [List.find?_cons]
    by_cases htype : t.type = type
    · rw [if_pos htype, beq_iff_eq.mpr htype]
      rfl
    · rw [if_neg htype, beq_eq_false_iff_ne.mpr htype]
      exact ih

/-- a dump keeps the ENCR transform of a match, and nothing else -/
theorem suiteFromProp_link (protocol : Nat) (spi : Bytes) (t : Transform) (ts : List Selected) :
    suiteFromProp ⟨protocol, spi, linkMatched (⟨transformEncr, t⟩ :: ts)⟩
      = ⟨t.id, 0, (firstKeylen t.attrs).getD 0, 0⟩ := by
  show Suite.empty.add ⟨transformEncr, t⟩ = _
  unfold Suite.add
  rw [if_pos rfl]
  cases firstKeylen t.attrs with
  | none => rfl
  | some klen => rfl

/-- the suite that comes back: what the record has, with an ESN choice in any case -/
theorem restoreProposal_suite {c : R2rsChild} {encrId klen : Nat}
    (hsuite : c.suite = ⟨encrId, 0, klen, 0⟩) (hid : encrId ≠ 0) :
    propSuite [restoreProposal c] = ⟨some encrId, klen, none, some 0⟩ := by
  have hencr : c.suite.encrId = encrId := by rw [hsuite]
  have hklen : c.suite.encrKlen = klen := by rw [hsuite]
  have hintegr : c.suite.integrId = 0 := by rw [hsuite]
  have hesn : c.suite.esn = 0 := by rw [hsuite]
  unfold restoreProposal
  simp only [hencr, hklen, hintegr, hesn, if_neg hid, if_true]
  by_cases hzero : klen = 0
  · rw [hzero]
    rfl
  · unfold propAddTrns
    simp only [if_neg hzero]
    rfl

/-! ## over a restart -/

/-- the suite of a negotiated child and the one that is rebuilt from its dump -/
theorem restored_suite {c : ResumeChild} (h : c.Negotiated) (now : Nat) :
    propSuite [restoreProposal (saveChild now c)] = propSuite c.myProposal ↔
      (propSuite c.myProposal).integrId = none ∧ (propSuite c.myProposal).esn = some 0 := by
  obtain ⟨protocol, spi, t, ts, hproposal, hid, hkeylen⟩ := negotiated_proposal h
  have hsuite : (saveChild now c).suite = ⟨t.id, 0, (firstKeylen t.attrs).getD 0, 0⟩ := by
    unfold saveChild
    rw [hproposal]
    exact suiteFromProp_link protocol spi t ts
  have hfind : ∀ type, propFind c.myProposal type = selectedOf type (⟨transformEncr, t⟩ :: ts) := by
    intro type
    rw [hproposal]
    unfold propFind
    rw [List.findSome?_cons, findType_linkMatched]
    cases selectedOf type (⟨transformEncr, t⟩ :: ts) <;> rfl
  have hencr : propFind c.myProposal transformEncr = some t := by
    rw [hfind]
    rfl
  rw [restoreProposal_suite hsuite hid]
  unfold propSuite
  rw [hencr, hkeylen]
  simp only [Option.map_some, Option.getD_some, ChildSuite.mk.injEq, true_and]
  exact and_congr eq_comm eq_comm

/-- the children come back in their order, those that wait for a followup left out -/
theorem restoreChildren_forall₂ {env : ResumeEnv} {rmIndex : Bytes} {here : Endpoint}
    {cs : List R2rsChild} {chs : List ResumeChild}
    (h : restoreChildren env rmIndex here cs = some chs) :
    List.Forall₂ (fun c ch => ch.myProposal = [restoreProposal c])
      (cs.filter fun c => c.addkePending == 0) chs := by
  induction cs generalizing chs with
  | nil =>
    rw [← Option.some.inj h]
    exact List.Forall₂.nil
  | cons c cs ih =>
    unfold restoreChildren at h
    by_cases hpending : c.addkePending = 0
    · rw [if_neg (not_not.mpr hpending)] at h
      rw [List.filter_cons_of_pos (by simp [hpending])]
      cases hchild : restoreChild env rmIndex here c with
      | none =>
        rw [hchild] at h
        cases h
      | some ch =>
        rw [hchild] at h
        obtain ⟨rest, hrest, rfl⟩ := Option.map_eq_some_iff.mp h
        refine List.Forall₂.cons ?_ (ih hrest)
        unfold restoreChild at hchild
        split at hchild
        · cases hchild
        · split at hchild
          · cases hchild
          · rw [← Option.some.inj hchild]
    · rw [if_pos hpending] at h
      rw [List.filter_cons_of_neg (by simp [hpending])]
      exact ih h

/-- the children of an SA that are dumped and come back -/
def ResumeSa.resumed (sa : ResumeSa) : List ResumeChild :=
  (sa.children.filter ResumeChild.dumped).filter fun c => !c.addkePending

theorem resumed_saved (sa : ResumeSa) (now : Nat) :
    ((sa.children.filter ResumeChild.dumped).map (saveChild now)).filter (fun c => c.addkePending == 0)
      = sa.resumed.map (saveChild now) := by
  unfold ResumeSa.resumed
  rw [List.filter_map]
  congr 1
  apply List.filter_congr
  intro c _
  show (c.addkePending.toNat == 0) = !c.addkePending
  cases c.addkePending <;> rfl

/-- the suite of every child is the negotiated one after the restart, exactly when none of them has
an INTEG transform or ESN -/
theorem resume_suite (env : ResumeEnv) (now : Nat) (sa sa' : ResumeSa) (rec : R2rsSa)
    (hnegotiated : ∀ c ∈ sa.resumed, c.Negotiated) (hsave : resumeSave now sa = some rec)
    (hrestore : restoreRecord env rec = some sa') :
    List.Forall₂ (fun c c' => propSuite c'.myProposal = propSuite c.myProposal)
      sa.resumed sa'.children ↔
    ∀ c ∈ sa.resumed, (propSuite c.myProposal).integrId = none
      ∧ (propSuite c.myProposal).esn = some 0 := by
  have hv : r2rsValidate rec = true := by
    by_contra hbad
    unfold restoreRecord at hrestore
    rw [if_pos (by simpa using hbad)] at hrestore
    cases hrestore
  obtain ⟨⟨nsa, rfl⟩, _, hcount⟩ := resumeSave_eq_some hsave
  obtain ⟨_, _, _, here, there, children, _, _, hchildren, rfl⟩ := (restoreRecord_eq_some hv).mp hrestore
  have hpairs := restoreChildren_forall₂ hchildren
  rw [savedRecord_children nsa hcount, resumed_saved, List.forall₂_map_left_iff] at hpairs
  show List.Forall₂ _ sa.resumed children ↔ _
  revert hnegotiated hpairs
  clear hchildren hrestore hv hcount hsave
  generalize sa.resumed = cs
  intro hnegotiated hpairs
  induction hpairs with
  | nil => simp
  | cons hpair hrest ih =>
    rename_i c ch cs chs
    rw [List.forall₂_cons, List.forall_mem_cons, ih fun c hc => hnegotiated c (List.mem_cons_of_mem _ hc),
      hpair, restored_suite (hnegotiated c List.mem_cons_self)]

/-- AES-CBC with HMAC-SHA2-256, and AES-GCM, as configured -/
def cbcEspConf : EspConf := ⟨[0, 0, 0, 7], [(12, 256)], [12], none, [], false, by decide, by decide⟩
def gcmEspConf : EspConf := ⟨[0, 0, 0, 7], [(20, 256)], [], none, [], false, by decide, by decide⟩

/-- the peer offers what is configured -/
def peerOf (conf : EspConf) : Proto := { (ipsecSaToProplist conf).toProto with spi := [0, 0, 0, 8] }

/-- the child that comes out of the match -/
def matchedChild (conf : EspConf) : ResumeChild :=
  { plainChild with myProposal := [(⟨proposalEsp, [0, 0, 0, 7],
      matchTransforms (ipsecSaToProplist conf).groups (peerOf conf).groups⟩ : Matched).link] }

theorem matchedChild_negotiated {conf : EspConf} {m : Matched}
    (hmatch : findMatch [[(ipsecSaToProplist conf).toOwnProto]] [[peerOf conf]] .mine = some [m])
    (hlink : (matchedChild conf).myProposal = [m.link]) : (matchedChild conf).Negotiated :=
  ⟨[[ipsecSaToProplist conf]], [[peerOf conf]], m, hmatch, hlink⟩

def gcmDump : R2rsSa := savedRecord 1700000000 (dumpedSa (matchedChild gcmEspConf)) ⟨20, 256, 5, 0, 31⟩

theorem resume_suite_gcm :
    ∃ sa', restoreRecord openEnv gcmDump = some sa'
      ∧ List.Forall₂ (fun c c' => propSuite c'.myProposal = propSuite c.myProposal)
        (dumpedSa (matchedChild gcmEspConf)).resumed sa'.children := by
  refine ⟨_, rfl, (resume_suite openEnv 1700000000 (dumpedSa (matchedChild gcmEspConf)) _ gcmDump
    ?_ rfl rfl).mpr ?_⟩
  · intro c hc
    rw [List.mem_singleton.mp hc]
    exact matchedChild_negotiated rfl rfl
  · decide

/-- HMAC-SHA2-256 of a negotiated child is gone after the restart -/
theorem resumed_integrity_lost :
    (matchedChild cbcEspConf).Negotiated
    ∧ (propSuite (matchedChild cbcEspConf).myProposal) = ⟨some 12, 256, some 12, some 0⟩
    ∧ ∃ rec sa', resumeSave 1700000000 (dumpedSa (matchedChild cbcEspConf)) = some rec
      ∧ restoreRecord openEnv rec = some sa'
      ∧ sa'.children.map (fun c => propSuite c.myProposal) = [⟨some 12, 256, none, some 0⟩] :=
  ⟨matchedChild_negotiated rfl rfl, by decide, _, _, rfl, rfl, by decide⟩

end Ikev2
