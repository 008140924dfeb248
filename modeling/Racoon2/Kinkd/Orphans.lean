import Racoon2.Kinkd.Install

/-!
# Kernel SAs of a handle that is released

A handle that is released before its pair of SAs is in use should leave none of them in the kernel. The
labels `fail` of the initiator delete the inbound SAs of the first proposal; the other places do not
delete anything, and in some of them SAs are there.

* `NoOrphan`      no SA is left of a handle released before use;
* `KinkFits`      the condition on a step;
* `SadbInv`       which SAs a handle has in each state;
* `kinkFits_step` a step under the condition keeps it.
-/

set_option linter.unusedVariables false

namespace Kink

/-- a handle released before its pair came into use has left no SA in the kernel -/
def NoOrphan (w : KinkWorld) : Prop := w.kh = none → w.inUse = false → w.sadb = []

/-! ## the condition -/

/-- a call sends all its messages, or none -/
def pkWhole (stop : Option Nat) (pp : Option SaProp) : Prop :=
  pkOk stop pp = false → pkSent stop pp = []

/-- `initiate3`: the update fails only as a whole, and where the CREATE cannot be sent the delete goes
through -/
def CreateIo.Fits (io : CreateIo) (kh : SaHandle) : Prop :=
  io.prepared = false ∨
  (pkWhole io.update kh.first ∧
    (pkOk io.update kh.first = false ∨ io.sent = true ∨ pkOk io.delete kh.first = true))

/-- `reinitiate`: it succeeds or the delete goes through -/
def CreateIo.FitsAgain (io : CreateIo) (kh : SaHandle) : Prop :=
  (io.prepared = true ∧ pkOk io.update kh.first = true ∧ io.sent = true) ∨
  pkOk io.delete kh.first = true

/-- `initiate4` with the approval: the first proposal was taken and, should something fail, the delete
goes through and no outbound SA is there yet; or another was taken and its SAs are all installed, or
none of them -/
def ApprovalIo.FitsApproval (io : ApprovalIo) (kh : SaHandle) : Prop :=
  if io.keymat = false then pkOk io.abort kh.first = true
  else if kh.nthProp ≠ 1 then
    if pkOk io.delete kh.first = false then pkOk io.abort kh.first = true
    else
      pkWhole io.update kh.approval ∧
        (pkOk io.update kh.approval = false ∨ pkOk io.add kh.approval = true)
  else if kh.non1stTrns = true ∧ pkOk io.update kh.approval = false then
    pkOk io.abort kh.first = true
  else
    pkOk io.add kh.approval = true ∨
      (pkWhole io.add kh.approval ∧ pkOk io.abort kh.first = true)

def ApprovalIo.Fits (io : ApprovalIo) (kh : SaHandle) : Prop :=
  match io.peers.bind (getPh2approvalx kh.proposal) with
  | none => pkOk io.abort kh.first = true
  | some found => io.FitsApproval (kh.approve found)

/-- `handle_reply`: an authenticated REPLY aborts a transaction only when no SA of it is left -/
def SaReply.Fits (r : SaReply) (io : ApprovalIo) (again : CreateIo) (kh : SaHandle)
    (sadb : List KernelSa) : Prop :=
  match r.verdict kh with
  | .ignore => True
  | .abort => kh.state = .iCreate ∨ kh.state = .iDelete → sadb = []
  | .retry kh => again.FitsAgain kh
  | .proceed => r.apRep = some true → kh.state = .iCreate → io.Fits kh

/-- `respond2`: it fails before it has installed an SA, or not at all -/
def RespondIo.Fits (io : RespondIo) (kh : SaHandle) : Prop :=
  io.prepared = false ∨
  (pkOk io.update kh.approval = false ∧ pkSent io.update kh.approval = []) ∨
  (pkOk io.update kh.approval = true ∧ (kh.isOptimistic = true → pkOk io.add kh.approval = true) ∧
    io.policy = true ∧ io.sent = true)

/-- the timers: the deletes go through, and a handle is given up in `state_r_stale` and `state_i_delete`
only when its SAs are gone -/
def TimerIo.Fits (io : TimerIo) (kh : SaHandle) (sadb : List KernelSa) : Prop :=
  match kh.state with
  | .iCreate => io.sent = true ∨ pkOk io.delete kh.first = true
  | .rStale => sadb = []
  | .iDelete => io.sent = true ∨ sadb = []
  | .iDeleteHalf => pkOk io.delete kh.approval = true
  | .rDeleteHalf => pkOk io.delete kh.approval = true
  | _ => True

/-- an SPI that completes a proposal -/
def getspiFits (protoId spi : Nat) (create : CreateIo) (respond : RespondIo) (kh : SaHandle) : Prop :=
  (kh.state = .iGetspi → (waitAllSpi kh.proposal protoId spi).2 = true →
    create.Fits { kh with proposal := (waitAllSpi kh.proposal protoId spi).1 }) ∧
  (kh.state = .rGetspi → (waitAllSpi kh.approval.toList protoId spi).2 = true →
    respond.Fits { kh with approval := (waitAllSpi kh.approval.toList protoId spi).1.head? })

/-- `respond_ack`: the outbound SAs are installed -/
def ackFits (add : Option Nat) (kh : SaHandle) (sadb : List KernelSa) : Prop :=
  kh.state = .rReply → pkOk add kh.approval = true ∨ (pkWhole add kh.approval ∧ sadb = [])

/-- the condition on an event for a handle whose pair is not in use -/
def EventFits (kh : SaHandle) (sadb : List KernelSa) : KinkEvent → Prop
  | .getspi protoId spi create respond => getspiFits protoId spi create respond kh
  | .reply r io again => r.Fits io again kh sadb
  | .ack add => ackFits add kh sadb
  | .timeout io => io.Fits kh sadb
  | .expunge _ => sadb = []
  | _ => True

/-- the condition on a step; nothing is asked once the pair is in use -/
def KinkFits (w : KinkWorld) (e : KinkEvent) : Prop :=
  w.inUse = false → ∀ kh, w.kh = some kh → EventFits kh w.sadb e

/-! ## the SAs of a handle -/

def inboundOf (pp : Option SaProp) : List KernelSa := (pkSent none pp).map (SaProto.sa .inbound)

/-- the SAs of a handle whose pair is not in use -/
def SaHandle.Holds (kh : SaHandle) (sadb : List KernelSa) : Prop :=
  match kh.state with
  | .none => sadb = []
  | .iGetspi => sadb = []
  | .rGetspi => sadb = []
  | .iCreate => sadb ⊆ inboundOf kh.first
  | .rReply => sadb ⊆ inboundOf kh.approval
  | .rStale => sadb ⊆ inboundOf kh.approval
  | .iDelete => sadb ⊆ inboundOf kh.approval
  | .iDeleteHalf => sadb ⊆ inboundOf kh.approval
  | .rDeleteRecv => sadb ⊆ inboundOf kh.approval
  | .rDeleteHalf => sadb ⊆ inboundOf kh.approval
  | .iAging => False
  | .iStale => False
  | .rAging => False
  | .iRekeyed => False

/-- the invariant of all runs -/
structure SadbInv (w : KinkWorld) : Prop where
  released : NoOrphan w
  held : ∀ kh, w.kh = some kh → w.inUse = false → kh.rekeyingStart = false ∧ kh.Holds w.sadb

section
variable {w : KinkWorld} {kh : SaHandle} {stop : Option Nat} {pp : Option SaProp} {dir : SaDir}

theorem sadbInv_of_inUse (h : w.inUse = true) : SadbInv w := by
  constructor
  · intro _ hno
    rw [h] at hno
    exact nomatch hno
  · intro kh _ hno
    rw [h] at hno
    exact nomatch hno

theorem sadbInv_release (h : w.inUse = false → w.sadb = []) : SadbInv (releaseHandle w) := by
  constructor
  · intro _ hno
    exact h hno
  · intro kh hkh _
    exact nomatch hkh

theorem sadbInv_keep (hre : w.inUse = false → kh.rekeyingStart = false)
    (h : w.inUse = false → kh.Holds w.sadb) : SadbInv (keepHandle w kh) := by
  constructor
  · intro hkh _
    exact nomatch hkh
  · intro kh' hkh hno
    obtain rfl : kh = kh' := Option.some.inj hkh
    exact ⟨hre hno, h hno⟩

/-! ## PF_KEY calls -/

theorem pkSent_of_ok (h : pkOk stop pp = true) : pkSent stop pp = pkSent none pp := by
  cases pp with
  | none => rfl
  | some pp =>
    cases stop with
    | none => rfl
    | some k => exact List.take_of_length_le (of_decide_eq_true h)

theorem pkSent_subset : pkSent stop pp ⊆ pkSent none pp := by
  cases pp with
  | none => exact List.Subset.refl _
  | some pp =>
    cases stop with
    | none => exact List.Subset.refl _
    | some k => exact List.take_subset k pp.protos

theorem sent_inbound_subset : (pkSent stop pp).map (SaProto.sa .inbound) ⊆ inboundOf pp :=
  List.map_subset _ pkSent_subset

theorem pkSenddelete_subset : (pkSenddelete w stop pp dir).sadb ⊆ w.sadb :=
  List.filter_sublist.subset

/-- a delete that goes through takes all inbound SAs of the proposal away -/
theorem pkSenddelete_all (h : pkOk stop pp = true) (hsub : w.sadb ⊆ inboundOf pp) :
    (pkSenddelete w stop pp .inbound).sadb = [] := by
  refine List.filter_eq_nil_iff.mpr ?_
  intro sa hsa hkept
  have hmem : sa ∈ inboundOf pp := hsub hsa
  rw [inboundOf, ← pkSent_of_ok h] at hmem
  exact of_decide_eq_true hkept hmem

theorem pkSendupdate_subset (hsub : w.sadb ⊆ inboundOf pp) :
    (pkSendupdate w stop pp).sadb ⊆ inboundOf pp :=
  List.append_subset.mpr ⟨hsub, sent_inbound_subset⟩

theorem pkSendupdate_none (h : pkSent stop pp = []) : pkSendupdate w stop pp = w := by
  rw [pkSendupdate, h, List.map_nil, List.append_nil]

theorem pkSendadd_none (h : pkSent stop pp = []) : pkSendadd w stop pp = w := by
  rw [pkSendadd, h, List.map_nil, List.append_nil]

/-- the delete of the labels `fail` goes through -/
theorem sadbInv_abortCreate (h : pkOk stop kh.first = true) (hsub : w.sadb ⊆ inboundOf kh.first) :
    SadbInv (abortCreate stop kh w) := by
  apply sadbInv_release
  intro _
  exact pkSenddelete_all h hsub

end

/-! ## the approved proposal -/

/-- the inbound SAs of the protocols that an initiator approves are SAs of its own proposal -/
theorem approveProtos_inbound {mine : List SaProto} (theirs : List SaProto) :
    ∀ {non1st : Bool} {found : List SaProto × Bool}, approveProtos mine theirs non1st = some found →
      found.1.map (SaProto.sa .inbound) ⊆ mine.map (SaProto.sa .inbound) := by
  induction theirs with
  | nil =>
    intro non1st found h
    obtain rfl := Option.some.inj h
    exact List.nil_subset _
  | cons pr1 rest ih =>
    intro non1st found h
    rw [approveProtos] at h
    split at h
    · exact nomatch h
    · rename_i pr2 hfind
      split at h
      · exact nomatch h
      · split at h
        · exact nomatch h
        · rename_i tr1 flag _
          obtain ⟨more, hmore, rfl⟩ := Option.map_eq_some_iff.mp h
          have hsome := List.find?_some hfind
          have hproto : pr2.protoId = pr1.protoId := eq_of_beq hsome
          refine List.cons_subset.mpr ⟨?_, ih hmore⟩
          refine List.mem_map.mpr ⟨pr2, List.mem_of_find?_eq_some hfind, ?_⟩
          simp [SaProto.sa, hproto]

theorem cmpsapropAlloc_inbound {pp1 pp2 : SaProp} {found : SaProp × Bool}
    (h : cmpsapropAlloc pp1 pp2 = some found) : inboundOf (some found.1) ⊆ inboundOf (some pp2) := by
  unfold cmpsapropAlloc at h
  split at h
  · exact nomatch h
  · split at h
    · exact nomatch h
    · split at h
      · exact nomatch h
      · obtain ⟨more, hmore, rfl⟩ := Option.map_eq_some_iff.mp h
        exact approveProtos_inbound _ hmore

theorem approvalFrom_ge {q1 : SaProp} {found : SaProp × Nat × Bool} (mine : List SaProp) :
    ∀ {n : Nat}, approvalFrom q1 n mine = some found → n ≤ found.2.1 := by
  induction mine with
  | nil =>
    intro n h
    exact nomatch h
  | cons q2 rest ih =>
    intro n h
    rw [approvalFrom] at h
    split at h
    · obtain rfl := Option.some.inj h
      exact Nat.le_refl n
    · exact Nat.le_of_succ_le (ih h)

/-- `nth_prop` is 1 for the first proposal only, whose SAs are installed -/
theorem approvalFrom_first {q1 : SaProp} {found : SaProp × Nat × Bool} {mine : List SaProp}
    (h : approvalFrom q1 1 mine = some found) (hnth : found.2.1 = 1) :
    inboundOf (some found.1) ⊆ inboundOf mine.head? := by
  cases mine with
  | nil => exact nomatch h
  | cons q2 rest =>
    rw [approvalFrom] at h
    split at h
    · rename_i hcmp
      obtain rfl := Option.some.inj h
      exact cmpsapropAlloc_inbound hcmp
    · have hge : 2 ≤ found.2.1 := approvalFrom_ge rest h
      omega

theorem getPh2approvalx_first {proposal peers : List SaProp} {found : SaProp × Nat × Bool}
    (h : getPh2approvalx proposal peers = some found) (hnth : found.2.1 = 1) :
    inboundOf (some found.1) ⊆ inboundOf proposal.head? := by
  obtain ⟨q1, _, hq1⟩ := List.exists_of_findSome?_eq_some h
  exact approvalFrom_first hq1 hnth

/-! ## the initiator -/

section
variable {w : KinkWorld} {kh : SaHandle}

theorem sadbInv_initiate3 {io : CreateIo} (hsadb : w.sadb = []) (hre : kh.rekeyingStart = false)
    (hfits : io.Fits kh) : SadbInv (initiate3 io kh w) := by
  have hsub : (pkSendupdate w io.update kh.first).sadb ⊆ inboundOf kh.first := by
    apply pkSendupdate_subset
    rw [hsadb]
    exact List.nil_subset _
  unfold initiate3
  split
  · exact sadbInv_release fun _ => hsadb
  · rename_i hprep
    obtain ⟨hwhole, hend⟩ := hfits.resolve_left hprep
    split
    · rename_i hfail
      rw [pkSendupdate_none (hwhole hfail)]
      exact sadbInv_release fun _ => hsadb
    · rename_i hok
      split
      · rename_i hsent
        rcases hend with hfail | hyes | hdelete
        · exact absurd hfail hok
        · rw [hsent] at hyes
          exact nomatch hyes
        · exact sadbInv_abortCreate hdelete hsub
      · exact sadbInv_keep (fun _ => hre) fun _ => hsub

theorem sadbInv_reinitiate {io : CreateIo} (hsub : w.sadb ⊆ inboundOf kh.first)
    (hre : kh.rekeyingStart = false) (hfits : io.FitsAgain kh) : SadbInv (reinitiate io kh w) := by
  have hsub' : (pkSendupdate w io.update kh.first).sadb ⊆ inboundOf kh.first := pkSendupdate_subset hsub
  rcases hfits with ⟨hprep, hok, hsent⟩ | hdelete
  · rw [reinitiate, if_neg (by simp [hprep]), if_neg (by simp [hok]), if_neg (by simp [hsent])]
    exact sadbInv_keep (fun _ => hre) fun _ => hsub'
  · unfold reinitiate
    split
    · exact sadbInv_abortCreate hdelete hsub
    · split
      · exact sadbInv_abortCreate hdelete hsub'
      · split
        · exact sadbInv_abortCreate hdelete hsub'
        · exact sadbInv_keep (fun _ => hre) fun _ => hsub'

/-- with the outbound SAs the pair is in use -/
theorem sadbInv_setOutbound {io : ApprovalIo} {ackreq : Bool} (h : pkOk io.add kh.approval = true) :
    SadbInv (setOutbound io ackreq kh w) := by
  rw [setOutbound, if_neg (by simp [h])]
  exact sadbInv_of_inUse rfl

theorem sadbInv_setOutbound_first {io : ApprovalIo} {ackreq : Bool} (hsub : w.sadb ⊆ inboundOf kh.first)
    (hfits : pkOk io.add kh.approval = true ∨
      (pkWhole io.add kh.approval ∧ pkOk io.abort kh.first = true)) :
    SadbInv (setOutbound io ackreq kh w) := by
  rcases hfits with hok | ⟨hwhole, habort⟩
  · exact sadbInv_setOutbound hok
  · unfold setOutbound
    split
    · rename_i hfail
      rw [pkSendadd_none (hwhole hfail)]
      exact sadbInv_abortCreate habort hsub
    · exact sadbInv_of_inUse rfl

theorem sadbInv_replaceFirst {io : ApprovalIo} (hsub : w.sadb ⊆ inboundOf kh.first)
    (hdelete : pkOk io.delete kh.first = false → pkOk io.abort kh.first = true)
    (hrest : pkOk io.delete kh.first = true → pkWhole io.update kh.approval ∧
      (pkOk io.update kh.approval = false ∨ pkOk io.add kh.approval = true)) :
    SadbInv (replaceFirst io kh w) := by
  unfold replaceFirst
  split
  · rename_i hfail
    exact sadbInv_abortCreate (hdelete hfail) (List.Subset.trans pkSenddelete_subset hsub)
  · rename_i hok
    have hok' : pkOk io.delete kh.first = true := eq_true_of_ne_false hok
    have hgone := pkSenddelete_all hok' hsub
    obtain ⟨hwhole, hadd⟩ := hrest hok'
    split
    · rename_i hfail
      -- what the label `fail` deletes is gone already, and nothing has come in its place
      show SadbInv (abortCreate io.abort kh (pkSendupdate _ io.update kh.approval))
      rw [pkSendupdate_none (hwhole hfail)]
      apply sadbInv_release
      intro _
      refine List.eq_nil_iff_forall_not_mem.mpr ?_
      intro sa hsa
      have hmem := pkSenddelete_subset hsa
      rw [hgone] at hmem
      exact nomatch hmem
    · rename_i hupdate
      exact sadbInv_setOutbound (hadd.resolve_left hupdate)

/-- `initiate4` with an approval whose inbound SAs are those of the first proposal when `nth_prop` is 1 -/
theorem sadbInv_installApproval {io : ApprovalIo} (hsub : w.sadb ⊆ inboundOf kh.first)
    (happroval : kh.nthProp = 1 → inboundOf kh.approval ⊆ inboundOf kh.first)
    (hfits : io.FitsApproval kh) : SadbInv (installApproval io kh w) := by
  unfold ApprovalIo.FitsApproval at hfits
  unfold installApproval
  split at hfits
  · rename_i hkeymat
    rw [if_pos hkeymat]
    exact sadbInv_abortCreate hfits hsub
  · rename_i hkeymat
    rw [if_neg hkeymat]
    split at hfits
    · rename_i hnth
      rw [if_pos hnth]
      refine sadbInv_replaceFirst hsub ?_ ?_
      · intro hfail
        rwa [if_pos hfail] at hfits
      · intro hok
        rwa [if_neg (by simp [hok])] at hfits
    · rename_i hnth
      rw [if_neg hnth]
      have happroval := happroval (Decidable.not_not.mp hnth)
      have hupdated : (pkSendupdate w io.update kh.approval).sadb ⊆ inboundOf kh.first :=
        List.append_subset.mpr ⟨hsub, List.Subset.trans sent_inbound_subset happroval⟩
      split
      · rename_i htrns
        unfold replaceTransform
        split
        · rename_i hfail
          rw [if_pos ⟨htrns, hfail⟩] at hfits
          exact sadbInv_abortCreate hfits hupdated
        · rename_i hok
          rw [if_neg fun h => hok h.2] at hfits
          exact sadbInv_setOutbound_first hupdated hfits
      · rename_i htrns
        rw [if_neg fun h => htrns h.1] at hfits
        exact sadbInv_setOutbound_first hsub hfits

theorem sadbInv_initiate4 {io : ApprovalIo} (hsub : w.sadb ⊆ inboundOf kh.first) (hfits : io.Fits kh) :
    SadbInv (initiate4Sa io kh w) := by
  unfold ApprovalIo.Fits at hfits
  unfold initiate4Sa
  split
  · rename_i hnone
    rw [hnone] at hfits
    exact sadbInv_abortCreate hfits hsub
  · rename_i found hfound
    rw [hfound] at hfits
    obtain ⟨peers, _, hpeers⟩ := Option.bind_eq_some_iff.mp hfound
    refine sadbInv_installApproval hsub ?_ hfits
    intro hnth
    exact getPh2approvalx_first hpeers hnth

theorem failed_ne_retry (r : SaReply) (kh' : SaHandle) : r.failed ≠ .retry kh' := by
  unfold SaReply.failed
  split
  · exact fun h => nomatch h
  · exact fun h => nomatch h

theorem retried_eq_retry {r : SaReply} {kh' : SaHandle} (h : r.retried kh = .retry kh') :
    kh.state = .iCreate ∧ kh = kh' := by
  unfold SaReply.retried at h
  split at h
  · rename_i hstate
    exact ⟨hstate, ReplyVerdict.retry.inj h⟩
  · exact absurd h (failed_ne_retry r kh')

/-- a CREATE is tried again with the proposals of the handle as they are -/
theorem krbVerdict_retry {r : SaReply} {kh' : SaHandle} (h : r.krbVerdict kh = .retry kh') :
    kh.state = .iCreate ∧ kh'.first = kh.first ∧ kh'.rekeyingStart = kh.rekeyingStart := by
  unfold SaReply.krbVerdict at h
  split at h
  · exact nomatch h
  · exact absurd h (failed_ne_retry r kh')
  · split at h
    · exact nomatch h
    · split at h
      · exact absurd h (failed_ne_retry r kh')
      · obtain ⟨hstate, rfl⟩ := retried_eq_retry h
        exact ⟨hstate, rfl, rfl⟩
  · split at h
    · exact nomatch h
    · split at h
      · exact absurd h (failed_ne_retry r kh')
      · obtain ⟨hstate, rfl⟩ := retried_eq_retry h
        exact ⟨hstate, rfl, rfl⟩
  · exact absurd h (failed_ne_retry r kh')

theorem verdict_retry {r : SaReply} {kh' : SaHandle} (h : r.verdict kh = .retry kh') :
    kh.state = .iCreate ∧ kh'.first = kh.first ∧ kh'.rekeyingStart = kh.rekeyingStart := by
  unfold SaReply.verdict at h
  split at h
  · exact nomatch h
  · split at h
    · exact nomatch h
    · split at h
      · exact absurd h (failed_ne_retry r kh')
      · split at h
        · exact absurd h (failed_ne_retry r kh')
        · exact krbVerdict_retry h

theorem holds_iCreate {sadb : List KernelSa} (hstate : kh.state = .iCreate) (h : kh.Holds sadb) :
    sadb ⊆ inboundOf kh.first := by
  rw [SaHandle.Holds, hstate] at h
  exact h

theorem sadbInv_handleSaReply {r : SaReply} {io : ApprovalIo} {again : CreateIo} (hinv : SadbInv w)
    (hre : kh.rekeyingStart = false) (hholds : kh.Holds w.sadb) (hfits : r.Fits io again kh w.sadb) :
    SadbInv (handleSaReply r io again kh w) := by
  unfold handleSaReply
  split
  · exact hinv
  · rename_i hhandler
    unfold SaReply.Fits at hfits
    split
    · exact hinv
    · rename_i hv
      rw [hv] at hfits
      have hnot : kh.state ≠ .iAging := by
        intro haging
        rw [SaHandle.Holds, haging] at hholds
        exact hholds
      exact sadbInv_release fun _ => hfits (by grind)
    · rename_i kh' hv
      rw [hv] at hfits
      obtain ⟨hstate, hfirst, hre'⟩ := verdict_retry hv
      refine sadbInv_reinitiate ?_ (hre'.trans hre) hfits
      rw [hfirst]
      exact holds_iCreate hstate hholds
    · rename_i hv
      rw [hv] at hfits
      unfold saReplyHandler
      split
      · rename_i hauth
        split
        · rename_i hstate
          exact sadbInv_initiate4 (holds_iCreate hstate hholds) (hfits hauth hstate)
        · split
          · rename_i hstate
            rw [SaHandle.Holds, hstate] at hholds
            exact sadbInv_keep (fun _ => hre) fun _ => hholds
          · exact hinv
      · exact hinv

end

/-! ## the responder -/

section
variable {w : KinkWorld} {kh : SaHandle}

theorem sadbInv_respond2 {io : RespondIo} (hsadb : w.sadb = []) (hre : kh.rekeyingStart = false)
    (hfits : io.Fits kh) : SadbInv (respond2 io kh w) := by
  have hsub : (pkSendupdate w io.update kh.approval).sadb ⊆ inboundOf kh.approval := by
    apply pkSendupdate_subset
    rw [hsadb]
    exact List.nil_subset _
  unfold respond2
  split
  · exact sadbInv_release fun _ => hsadb
  · rename_i hprep
    split
    · rename_i hfail
      rcases hfits.resolve_left hprep with ⟨_, hnone⟩ | ⟨hok, _⟩
      · rw [pkSendupdate_none hnone]
        exact sadbInv_release fun _ => hsadb
      · rw [hfail] at hok
        exact nomatch hok
    · rename_i hok
      rcases hfits.resolve_left hprep with ⟨hfail, _⟩ | ⟨_, hadd, hpolicy, hsent⟩
      · exact absurd hfail hok
      · have hreply : ∀ w', sendReply io kh w' = if kh.isOptimistic = true then
            keepHandle { w' with inUse := true } { kh with state := .rAging }
            else keepHandle w' { kh with state := .rReply } := by
          intro w'
          rw [sendReply, if_neg (by simp [hpolicy]), if_neg (by simp [hsent])]
        unfold respondOutbound
        split
        · rename_i hopt
          rw [if_neg (by simp [hadd hopt]), hreply, if_pos hopt]
          exact sadbInv_of_inUse rfl
        · rename_i hopt
          rw [hreply, if_neg hopt]
          exact sadbInv_keep (fun _ => hre) fun _ => hsub

theorem sadbInv_respondAck {add : Option Nat} (hinv : SadbInv w) (hfits : ackFits add kh w.sadb) :
    SadbInv (respondAck add kh w) := by
  unfold respondAck
  split
  · exact hinv
  · rename_i hstate
    split
    · rename_i hfail
      rcases hfits (Decidable.not_not.mp hstate) with hok | ⟨hwhole, hsadb⟩
      · rw [hfail] at hok
        exact nomatch hok
      · rw [pkSendadd_none (hwhole hfail)]
        exact sadbInv_release fun _ => hsadb
    · exact sadbInv_of_inUse rfl

theorem sadbInv_callbackGetspi {protoId spi : Nat} {create : CreateIo} {respond : RespondIo}
    (hinv : SadbInv w) (hre : kh.rekeyingStart = false) (hholds : kh.Holds w.sadb)
    (hfits : getspiFits protoId spi create respond kh) :
    SadbInv (callbackGetspi protoId spi create respond kh w) := by
  obtain ⟨hcreate, hrespond⟩ := hfits
  unfold callbackGetspi
  split
  · rename_i hstate
    rw [SaHandle.Holds, hstate] at hholds
    dsimp only
    split
    · rename_i hall
      exact sadbInv_initiate3 hholds hre (hcreate hstate hall)
    · refine sadbInv_keep (fun _ => hre) fun _ => ?_
      rw [SaHandle.Holds, hstate]
      exact hholds
  · split
    · rename_i hstate
      rw [SaHandle.Holds, hstate] at hholds
      dsimp only
      split
      · rename_i hall
        exact sadbInv_respond2 hholds hre (hrespond hstate hall)
      · refine sadbInv_keep (fun _ => hre) fun _ => ?_
        rw [SaHandle.Holds, hstate]
        exact hholds
    · exact hinv

/-! ## timers -/

/-- before its pair is in use, a handle counts as mature in `state_r_stale` only: `timeout_r_reply` has given
up waiting for the ACK -/
theorem rStale_of_mature {sadb : List KernelSa} (hmature : kh.mature = true) (hholds : kh.Holds sadb) :
    kh.state = .rStale := by
  unfold SaHandle.mature at hmature
  unfold SaHandle.Holds at hholds
  cases hstate : kh.state <;> simp [hstate] at hmature hholds ⊢

theorem sadbInv_delete1 {io : TimerIo} (hre : kh.rekeyingStart = false) (hmature : kh.mature = true)
    (hholds : kh.Holds w.sadb) : SadbInv (delete1 io kh w) := by
  have hstate := rStale_of_mature hmature hholds
  rw [SaHandle.Holds, hstate] at hholds
  have hsub : (pkSenddelete w io.delete kh.approval .outbound).sadb ⊆ inboundOf kh.approval :=
    List.Subset.trans pkSenddelete_subset hholds
  refine sadbInv_keep (fun _ => hre) fun _ => ?_
  cases hsent : io.sent with
  | true => simpa only [SaHandle.Holds, if_true] using hsub
  | false =>
    rw [SaHandle.Holds, hstate]
    exact hsub

theorem sadbInv_handleTimeout {io : TimerIo} (hinv : SadbInv w) (hre : kh.rekeyingStart = false)
    (hholds : kh.Holds w.sadb) (hfits : io.Fits kh w.sadb) : SadbInv (handleTimeout io kh w) := by
  unfold SaHandle.Holds at hholds
  unfold TimerIo.Fits at hfits
  unfold handleTimeout
  cases hstate : kh.state <;> simp only [hstate] at hholds hfits ⊢
  case none => exact hinv
  case iGetspi => exact sadbInv_release fun _ => hholds
  case rGetspi => exact sadbInv_release fun _ => hholds
  case iCreate =>
    split
    · exact hinv
    · rename_i hsent
      exact sadbInv_abortCreate (hfits.resolve_left hsent) hholds
  case rReply =>
    refine sadbInv_keep (fun _ => hre) fun _ => ?_
    cases hretrans : retransReply io kh with
    | true => simpa only [SaHandle.Holds, if_true] using hholds
    | false => exact hholds
  case rStale => exact sadbInv_release fun _ => hfits
  case iDelete =>
    split
    · exact hinv
    · rename_i hsent
      exact sadbInv_release fun _ => hfits.resolve_left hsent
  case iDeleteHalf => exact sadbInv_release fun _ => pkSenddelete_all hfits hholds
  case rDeleteRecv =>
    exact sadbInv_keep (fun _ => hre) fun _ => List.Subset.trans pkSenddelete_subset hholds
  case rDeleteHalf => exact sadbInv_release fun _ => pkSenddelete_all hfits hholds

end

/-! ## runs -/

section
variable {w : KinkWorld} {kh : SaHandle}

theorem initiate3_inUse {io : CreateIo} (h : w.inUse = true) : (initiate3 io kh w).inUse = true := by
  unfold initiate3
  repeat' split
  all_goals exact h

theorem reinitiate_inUse {io : CreateIo} (h : w.inUse = true) : (reinitiate io kh w).inUse = true := by
  unfold reinitiate
  repeat' split
  all_goals exact h

theorem setOutbound_inUse {io : ApprovalIo} {ackreq : Bool} (h : w.inUse = true) :
    (setOutbound io ackreq kh w).inUse = true := by
  unfold setOutbound
  split
  · exact h
  · rfl

theorem installApproval_inUse {io : ApprovalIo} (h : w.inUse = true) :
    (installApproval io kh w).inUse = true := by
  unfold installApproval replaceFirst replaceTransform
  repeat' split
  all_goals first | exact h | exact setOutbound_inUse h

theorem initiate4Sa_inUse {io : ApprovalIo} (h : w.inUse = true) : (initiate4Sa io kh w).inUse = true := by
  unfold initiate4Sa
  split
  · exact h
  · exact installApproval_inUse h

theorem handleSaReply_inUse {r : SaReply} {io : ApprovalIo} {again : CreateIo} (h : w.inUse = true) :
    (handleSaReply r io again kh w).inUse = true := by
  unfold handleSaReply saReplyHandler
  repeat' split
  all_goals first | exact h | exact reinitiate_inUse h | exact initiate4Sa_inUse h

theorem respond2_inUse {io : RespondIo} (h : w.inUse = true) : (respond2 io kh w).inUse = true := by
  unfold respond2 respondOutbound sendReply
  repeat' split
  all_goals first | exact h | rfl

theorem callbackGetspi_inUse {protoId spi : Nat} {create : CreateIo} {respond : RespondIo}
    (h : w.inUse = true) : (callbackGetspi protoId spi create respond kh w).inUse = true := by
  unfold callbackGetspi
  repeat' split
  all_goals first | exact h | exact initiate3_inUse h | exact respond2_inUse h

theorem handleTimeout_inUse {io : TimerIo} (h : w.inUse = true) : (handleTimeout io kh w).inUse = true := by
  unfold handleTimeout
  repeat' split
  all_goals exact h

/-- a pair in use stays so -/
theorem handleEvent_inUse (e : KinkEvent) (h : w.inUse = true) : (handleEvent kh w e).inUse = true := by
  unfold handleEvent
  split
  · repeat' split
    all_goals exact h
  · repeat' split
    all_goals exact h
  · exact callbackGetspi_inUse h
  · exact handleSaReply_inUse h
  · unfold respondAck
    repeat' split
    all_goals first | exact h | rfl
  · exact handleTimeout_inUse h
  all_goals
    first
    | exact h
    | split <;> exact h
    | unfold dpdExpungeHandle; split <;> exact h

theorem SaHandle.Holds.mono {sadb sadb' : List KernelSa} (h : kh.Holds sadb) (hsub : sadb' ⊆ sadb) :
    kh.Holds sadb' := by
  unfold SaHandle.Holds at h ⊢
  split at h
  all_goals first | exact List.eq_nil_of_subset_nil (h ▸ hsub) | exact List.Subset.trans hsub h | exact h

theorem sadbInv_handleEvent {e : KinkEvent} (hinv : SadbInv w) (hre : kh.rekeyingStart = false)
    (hholds : kh.Holds w.sadb) (hkh : w.kh = some kh) (hno : w.inUse = false)
    (hfits : EventFits kh w.sadb e) : SadbInv (handleEvent kh w e) := by
  cases e with
  | initiate2 proposal =>
    unfold handleEvent
    dsimp only
    split
    · rename_i hstate
      rw [SaHandle.Holds, hstate.1] at hholds
      cases proposal with
      | none => exact sadbInv_release fun _ => hholds
      | some pps => exact sadbInv_keep (fun _ => hre) fun _ => hholds
    · exact hinv
  | respond1 found =>
    unfold handleEvent
    dsimp only
    split
    · rename_i hstate
      rw [SaHandle.Holds, hstate.1] at hholds
      cases found with
      | none => exact sadbInv_release fun _ => hholds
      | some found => exact sadbInv_keep (fun _ => hre) fun _ => hholds
    · exact hinv
  | getspi protoId spi create respond => exact sadbInv_callbackGetspi hinv hre hholds hfits
  | reply r io again => exact sadbInv_handleSaReply hinv hre hholds hfits
  | ack add => exact sadbInv_respondAck hinv hfits
  | timeout io => exact sadbInv_handleTimeout hinv hre hholds hfits
  | delete io =>
    unfold handleEvent
    dsimp only
    split
    · rename_i hmature
      exact sadbInv_delete1 hre hmature hholds
    · exact hinv
  | deleteSa =>
    unfold handleEvent
    dsimp only
    split
    · rename_i hmature
      rw [SaHandle.Holds, rStale_of_mature hmature hholds] at hholds
      exact sadbInv_keep (fun _ => hre) fun _ => hholds
    · exact hinv
  | expire =>
    unfold handleEvent
    dsimp only
    split
    · rename_i hstate
      rcases hstate.2 with hstale | haging
      · rw [SaHandle.Holds, hstale] at hholds
        exact hholds.elim
      · rw [SaHandle.Holds, haging] at hholds
        exact hholds.elim
    · exact hinv
  | rekeyed =>
    unfold handleEvent
    dsimp only
    rw [if_neg (by simp [hre])]
    exact hinv
  | expunge delete =>
    have hgone : ∀ stop pp dir, (pkSenddelete w stop pp dir).sadb = [] := by
      intro stop pp dir
      exact List.eq_nil_of_subset_nil (hfits ▸ pkSenddelete_subset)
    unfold handleEvent dpdExpungeHandle
    dsimp only
    split
    · exact sadbInv_release fun _ => hfits
    · exact sadbInv_release fun _ => hgone _ _ _
  | hardExpire sa =>
    constructor
    · intro hnone _
      exact nomatch hkh.symm.trans hnone
    · intro kh' hkh' _
      obtain rfl : kh = kh' := Option.some.inj (hkh.symm.trans hkh')
      exact ⟨hre, hholds.mono List.filter_sublist.subset⟩

theorem kinkFits_step (w : KinkWorld) (e : KinkEvent) (hinv : SadbInv w) (hfits : KinkFits w e) :
    SadbInv (w.step e) := by
  unfold KinkWorld.step
  split
  · exact hinv
  · rename_i kh hkh
    cases hno : w.inUse with
    | true => exact sadbInv_of_inUse (handleEvent_inUse e hno)
    | false =>
      obtain ⟨hre, hholds⟩ := hinv.held kh hkh hno
      exact sadbInv_handleEvent hinv hre hholds hkh hno (hfits hno kh hkh)

theorem sadbInv_fresh (initiator : Bool) : SadbInv (.fresh initiator) := by
  constructor
  · intro hkh _
    exact nomatch hkh
  · intro kh hkh _
    obtain rfl := Option.some.inj hkh
    exact ⟨rfl, rfl⟩

end

/-- in a run whose steps meet the condition, a handle released before its pair is in use leaves no SA -/
theorem no_orphan_sas (initiator : Bool) (es : List KinkEvent)
    (h : Run.Meets KinkWorld.step KinkFits (.fresh initiator) es) :
    ∀ w ∈ Run.states KinkWorld.step (.fresh initiator) es, NoOrphan w := by
  intro w hw
  exact (Run.states_inv kinkFits_step es _ (sadbInv_fresh initiator) h w hw).released

/-- one protocol, ESP with one transform, that waits for its SPI -/
def espProposal : SaProp := ⟨3600, 0, 0, [⟨3, 4, 2, 0, 0, [⟨1, 3, 0, 2⟩]⟩]⟩

/-- the kernel gives an SPI and the CREATE is sent -/
def espGetspi : KinkEvent := .getspi 3 4096 ⟨true, none, true, none⟩ ⟨true, none, none, true, true⟩

/-- the CREATE is sent again once, then it cannot be sent -/
def unansweredRun : List KinkEvent :=
  [.initiate2 (some [espProposal]), espGetspi, .timeout ⟨true, none⟩, .timeout ⟨false, none⟩]

theorem unansweredRun_meets : Run.Meets KinkWorld.step KinkFits (.fresh true) unansweredRun := by
  refine ⟨?_, ?_, ?_, ?_, trivial⟩
  · intro _ kh _
    trivial
  · intro _ kh hkh
    obtain rfl := Option.some.inj hkh
    refine ⟨fun _ _ => Or.inr ⟨fun hfail => ?_, Or.inr (Or.inl rfl)⟩, fun hstate => nomatch hstate⟩
    exact absurd hfail (by decide)
  · intro _ kh hkh
    obtain rfl := Option.some.inj hkh
    exact Or.inl rfl
  · intro _ kh hkh
    obtain rfl := Option.some.inj hkh
    exact Or.inr rfl

theorem no_orphan_sas_unanswered :
    (unansweredRun.foldl KinkWorld.step (.fresh true)).kh = none ∧
      NoOrphan (unansweredRun.foldl KinkWorld.step (.fresh true)) :=
  ⟨rfl, no_orphan_sas true unansweredRun unansweredRun_meets _ (Run.foldl_mem_states _ _)⟩

/-- an authenticated REPLY with the error KINK_PROTOERR -/
def protoerrReply : SaReply := ⟨true, some true, true, some (some errProtoerr), none⟩

/-- the peer answers the CREATE with an error: the handle is released and its inbound SA stays -/
theorem authenticated_error_leaves_sa :
    ¬ ∀ (initiator : Bool) (es : List KinkEvent),
      ∀ w ∈ Run.states KinkWorld.step (.fresh initiator) es, NoOrphan w := by
  intro h
  have hleft := h true [.initiate2 (some [espProposal]), espGetspi,
    .reply protoerrReply ⟨none, true, none, none, none, false, none⟩ ⟨true, none, true, none⟩] _
    (Run.foldl_mem_states _ _) rfl rfl
  exact absurd hleft (by decide)

end Kink
