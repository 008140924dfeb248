import Racoon2.Lib.Run
import Racoon2.Lib.Bytes

/-!
# The policies of spmd

`spmd_pfkey.c` keeps a list of the policies it has asked the kernel for.  A record starts with the
sequence number of its request; the reply of the kernel to that number brings the spid, and the
record then says which selector (slid) the policy with this spid belongs to.  Policies of other
programs, and those of an earlier spmd, are adopted when the kernel reports them.

The history of requests, replies and adoptions is kept along, and no function reads it.

* `spidDataAdd`, `spidDataUpdate`, `spidDataDelBySpid`, `getSlidBySpid`    the list;
* `PolicyTable.callback`, `PolicyTable.spdUpdate`    the calls of the library, and a request;
* `Answered`           a request and the first reply to its number;
* `policy_step`        one event (the step);
* `spid_table_sound`   every run: no record is used after it is freed, and no selector is made up.
-/

set_option linter.unusedVariables false

namespace Spmd
open Bytes

/-! ## the list -/

/-- `struct spid_data`: `seq` is 0 when the binding is complete, `spid` is 0 before -/
structure SpidData where
  seq : UInt32
  slid : Bytes
  spid : UInt32
  deriving DecidableEq, Repr

/-- `pfkey_seq_next` -/
def pfkeySeqNext (seq : UInt32) : UInt32 := if seq + 1 = 0 then seq + 1 + 1 else seq + 1

section
variable (sd : List SpidData)

/-- `spid_data_srch_by_seq` -/
def spidDataSrchBySeq (seq : UInt32) : Option SpidData := sd.find? fun d => d.seq == seq

/-- `spid_data_srch_by_spid` -/
def spidDataSrchBySpid (spid : UInt32) : Option SpidData := sd.find? fun d => d.spid == spid

/-- `get_slid_by_spid` -/
def getSlidBySpid (spid : UInt32) : Option Bytes :=
  if spid = 0 then none else (spidDataSrchBySpid sd spid).map SpidData.slid

/-- `spid_data_add`; a number that is in use is not added again -/
def spidDataAdd (seq : UInt32) (slid : Bytes) : List SpidData :=
  if (spidDataSrchBySeq sd seq).isSome then sd else sd ++ [⟨seq, slid, 0⟩]

/-- `spid_data_add_complete` -/
def spidDataAddComplete (spid : UInt32) (slid : Bytes) : List SpidData := sd ++ [⟨0, slid, spid⟩]

/-- `spid_data_del_by_spid`: the first record with the spid goes -/
def spidDataDelBySpid (spid : UInt32) : List SpidData := sd.eraseP fun d => d.spid == spid

end

/-- the record of a number gets its spid -/
def bindSeq (seq spid : UInt32) : List SpidData → List SpidData
  | [] => []
  | d :: ds => if d.seq = seq then { d with spid := spid, seq := 0 } :: ds else d :: bindSeq seq spid ds

/-- how `spid_data_update` ends; `freed` if it writes to the record it has just freed -/
inductive UpdateResult where
  | invalid
  | noEntry
  | freed
  | bound
  | alreadyBound
  deriving DecidableEq, Repr

/-- `spid_data_update`: an older record with the spid goes, and the record of the number gets it -/
def spidDataUpdate (sd : List SpidData) (seq spid : UInt32) : UpdateResult × List SpidData :=
  if seq = 0 ∨ spid = 0 then (.invalid, sd)
  else
    match spidDataSrchBySeq sd seq with
    | none => (.noEntry, sd)
    | some d =>
      if sd.findIdx? (fun d => d.spid == spid) = sd.findIdx? (fun d => d.seq == seq) then (.freed, sd)
      else if d.spid = 0 then (.bound, bindSeq seq spid (spidDataDelBySpid sd spid))
      else (.alreadyBound, spidDataDelBySpid sd spid)

/-! ## the daemon -/

inductive PolicyDir where
  | inbound
  | outbound
  | fwd
  | other
  deriving DecidableEq, Repr

/-- an address of the configuration or of the kernel, with its prefix length -/
abbrev Net (Addr : Type) := Addr × Nat

/-- a selector of the configuration: `src` and `dst` are its addresses where they are written as
such, `install` is that of its policy -/
structure PolicySel (Addr : Type) where
  index : Bytes
  policy : Bool
  install : Bool
  reqid : UInt32
  direction : PolicyDir
  src : Option (Net Addr)
  dst : Option (Net Addr)

/-- a policy of the kernel in a dump -/
structure DumpedPolicy (Addr : Type) where
  dir : PolicyDir
  anyProto : Bool
  src : Net Addr
  dst : Net Addr

/-- the callbacks -/
inductive PolicyCall (Addr : Type) where
  | spdadd (event : Bool) (seq spid reqid : UInt32)
  | spdupdate (event : Bool) (seq spid : UInt32)
  | spddelete (spid : UInt32)
  | spddelete2 (spid : UInt32)
  | spdexpire (spid : UInt32)
  | spddump (spid : UInt32) (p : DumpedPolicy Addr)

inductive PolicyAct where
  | requested (seq : UInt32) (slid : Bytes)
  | replied (seq spid : UInt32)
  | adopted (spid : UInt32) (slid : Bytes)
  deriving DecidableEq, Repr

/-- `sd_top` and `pfkey_seq` -/
structure PolicyTable where
  sd : List SpidData
  seq : UInt32
  history : List PolicyAct

section
variable {Addr : Type} [DecidableEq Addr] (sels : List (PolicySel Addr))

/-- the side of a selector that is ours, for a direction of the kernel -/
def PolicySel.mine (sl : PolicySel Addr) : PolicyDir → Option (Net Addr)
  | .inbound => if sl.direction = .inbound then sl.dst else none
  | .fwd => if sl.direction = .inbound then sl.dst else none
  | .outbound => if sl.direction = .outbound then sl.src else none
  | .other => none

/-- `spmd_rsync_slid` -/
def rsyncSlid (p : DumpedPolicy Addr) : Option Bytes :=
  if !p.anyProto then none
  else
    (sels.find? fun sl => sl.policy
      && sl.mine p.dir == some (if p.dir = .outbound then p.src else p.dst)).map PolicySel.index

/-- the selector of `spmd_handle_external` -/
def externalSel (reqid : UInt32) : Option (PolicySel Addr) :=
  if reqid = 0 then none else sels.find? fun sl => sl.policy && !sl.install && sl.reqid == reqid

namespace PolicyTable
variable (s : PolicyTable)

def start : PolicyTable := ⟨[], 0, []⟩

/-- a sequence number is drawn -/
def draw : PolicyTable := { s with seq := pfkeySeqNext s.seq }

def adopt (spid : UInt32) (slid : Bytes) : PolicyTable :=
  { s with
    sd := spidDataAddComplete s.sd spid slid, history := s.history ++ [.adopted spid slid] }

/-- `spid_data_update`, on a reply to one of our requests -/
def reply (seq spid : UInt32) : PolicyTable :=
  { s with sd := (spidDataUpdate s.sd seq spid).2, history := s.history ++ [.replied seq spid] }

/-- `spmd_handle_external` -/
def handleExternal (spid reqid : UInt32) : PolicyTable :=
  match externalSel sels reqid with
  | none => s
  | some sl => adopt s spid sl.index

/-- `spmd_pfkey_spdadd_cb` -/
def spdaddCb (event : Bool) (seq spid reqid : UInt32) : PolicyTable :=
  if event then handleExternal sels s spid reqid
  else if (spidDataUpdate s.sd seq spid).1 = .bound then reply s seq spid
  else handleExternal sels (reply s seq spid) spid reqid

/-- the callbacks of spmd -/
def callback : PolicyCall Addr → PolicyTable
  | .spdadd event seq spid reqid => spdaddCb sels s event seq spid reqid
  | .spdupdate event seq spid => if event then s else reply s seq spid
  | .spddelete spid => { s with sd := spidDataDelBySpid s.sd spid }
  | .spddelete2 spid => { s with sd := spidDataDelBySpid s.sd spid }
  | .spdexpire spid => { s with sd := spidDataDelBySpid s.sd spid }
  | .spddump spid p =>
    if spid = 0 then s
    else
      match rsyncSlid sels p with
      | none => s
      | some slid => adopt s spid slid

/-- a request for a policy: a number, and a record for it -/
def request (slid : Bytes) : PolicyTable :=
  { s with
    seq := pfkeySeqNext s.seq, sd := spidDataAdd s.sd (pfkeySeqNext s.seq) slid
    history := s.history ++ [.requested (pfkeySeqNext s.seq) slid] }

def callbacks (calls : List (PolicyCall Addr)) : PolicyTable := calls.foldl (callback sels) s

/-- `spmd_spd_update`: a tunnel of the inbound direction has a second policy for what is forwarded.
An urgent request reads the replies before it returns, and their calls are `first` and `second` -/
def spdUpdate (slid : Bytes) (first : List (PolicyCall Addr))
    (second : Option (List (PolicyCall Addr))) : PolicyTable :=
  let s := callbacks sels (request s slid) first
  match second with
  | none => s
  | some second => callbacks sels (request s slid) second

end PolicyTable

inductive PolicyEvent (Addr : Type) where
  /-- `spmd_spd_update` -/
  | update (slid : Bytes) (first : List (PolicyCall Addr)) (second : Option (List (PolicyCall Addr)))
  /-- the library calls back -/
  | call (c : PolicyCall Addr)
  /-- another request draws a number: a delete, a migration, a bypass -/
  | draw

def PolicyTable.step (s : PolicyTable) : PolicyEvent Addr → PolicyTable
  | .update slid first second => s.spdUpdate sels slid first second
  | .call c => s.callback sels c
  | .draw => s.draw

end

/-! ## where a record comes from -/

/-- the request with this number has no reply yet -/
def Unanswered (history : List PolicyAct) (seq : UInt32) (slid : Bytes) : Prop :=
  ∃ h₁ h₂, history = h₁ ++ .requested seq slid :: h₂
    ∧ ∀ spid, spid ≠ 0 → PolicyAct.replied seq spid ∉ h₂

/-- the first reply to the request with this number brought the spid -/
def Answered (history : List PolicyAct) (seq : UInt32) (slid : Bytes) (spid : UInt32) : Prop :=
  ∃ h₁ h₂ h₃, history = h₁ ++ .requested seq slid :: (h₂ ++ .replied seq spid :: h₃)
    ∧ ∀ spid', spid' ≠ 0 → PolicyAct.replied seq spid' ∉ h₂

/-- a policy was adopted, or asked for and answered -/
def Known (history : List PolicyAct) (spid : UInt32) (slid : Bytes) : Prop :=
  PolicyAct.adopted spid slid ∈ history ∨ ∃ seq, Answered history seq slid spid

/-- the keys of the records that have one -/
def usedKeys (f : SpidData → UInt32) (sd : List SpidData) : List UInt32 :=
  (sd.filter fun d => f d != 0).map f

/-- the numbers that wait for their reply -/
def pendingSeqs (sd : List SpidData) : List UInt32 := usedKeys SpidData.seq sd

structure TableInv (s : PolicyTable) : Prop where
  pending : ∀ d ∈ s.sd, d.seq ≠ 0 → d.spid = 0
  distinct : (pendingSeqs s.sd).Nodup
  unanswered : ∀ d ∈ s.sd, d.seq ≠ 0 → Unanswered s.history d.seq d.slid
  known : ∀ d ∈ s.sd, d.spid ≠ 0 → Known s.history d.spid d.slid

section
variable {history : List PolicyAct} {seq : UInt32} {slid : Bytes} {spid : UInt32}

theorem Unanswered.concat (h : Unanswered history seq slid) {act : PolicyAct}
    (hact : ∀ spid, spid ≠ 0 → act ≠ .replied seq spid) : Unanswered (history ++ [act]) seq slid := by
  obtain ⟨h₁, h₂, rfl, hno⟩ := h
  refine ⟨h₁, h₂ ++ [act], by rw [List.append_assoc]; rfl, fun spid hspid hmem => ?_⟩
  rcases List.mem_append.mp hmem with hmem | hmem
  · exact hno spid hspid hmem
  · exact hact spid hspid (List.mem_singleton.mp hmem).symm

theorem Unanswered.replied (h : Unanswered history seq slid) (spid : UInt32) :
    Answered (history ++ [.replied seq spid]) seq slid spid := by
  obtain ⟨h₁, h₂, rfl, hno⟩ := h
  refine ⟨h₁, h₂, [], ?_, hno⟩
  rw [List.append_assoc]
  rfl

theorem Known.concat (h : Known history spid slid) (act : PolicyAct) :
    Known (history ++ [act]) spid slid := by
  rcases h with hadopted | ⟨seq, h₁, h₂, h₃, rfl, hno⟩
  · exact .inl (List.mem_append_left _ hadopted)
  · refine .inr ⟨seq, h₁, h₂, h₃ ++ [act], ?_, hno⟩
    simp only [List.append_assoc, List.cons_append]

end

/-! ## keys -/

section
variable {f : SpidData → UInt32} {sd : List SpidData} {k : UInt32}

theorem usedKeys_cons (d : SpidData) (sd : List SpidData) :
    usedKeys f (d :: sd) = if f d = 0 then usedKeys f sd else f d :: usedKeys f sd := by
  unfold usedKeys
  rw [List.filter_cons]
  by_cases h : f d = 0
  · rw [if_pos h, if_neg (by rw [bne_iff_ne, not_not]; exact h)]
  · rw [if_neg h, if_pos (bne_iff_ne.mpr h)]
    rfl

theorem usedKeys_append (sd sd' : List SpidData) :
    usedKeys f (sd ++ sd') = usedKeys f sd ++ usedKeys f sd' := by
  unfold usedKeys
  rw [List.filter_append, List.map_append]

theorem mem_usedKeys : k ∈ usedKeys f sd ↔ k ≠ 0 ∧ ∃ d ∈ sd, f d = k := by
  unfold usedKeys
  rw [List.mem_map]
  constructor
  · rintro ⟨d, hd, rfl⟩
    obtain ⟨hd, hne⟩ := List.mem_filter.mp hd
    exact ⟨bne_iff_ne.mp hne, d, hd, rfl⟩
  · rintro ⟨hne, d, hd, rfl⟩
    exact ⟨d, List.mem_filter.mpr ⟨hd, bne_iff_ne.mpr hne⟩, rfl⟩

theorem usedKeys_tail {d : SpidData} (h : (usedKeys f (d :: sd)).Nodup) : (usedKeys f sd).Nodup := by
  rw [usedKeys_cons] at h
  split at h
  · exact h
  · exact (List.nodup_cons.mp h).2

/-- no other record has the key of the first -/
theorem usedKeys_head {d : SpidData} (h : (usedKeys f (d :: sd)).Nodup) (hd : f d ≠ 0) :
    ∀ d' ∈ sd, f d' ≠ f d := by
  rw [usedKeys_cons, if_neg hd] at h
  intro d' hd' heq
  exact (List.nodup_cons.mp h).1 (mem_usedKeys.mpr ⟨hd, d', hd', heq⟩)

end

/-! ## the operations of the list -/

section
variable {s : PolicyTable} {seq : UInt32} {slid : Bytes} {spid : UInt32}

theorem pfkeySeqNext_ne_zero (seq : UInt32) : pfkeySeqNext seq ≠ 0 := by
  unfold pfkeySeqNext
  split
  · next h =>
    rw [h]
    decide
  · assumption

theorem pendingSeqs_del_sublist (sd : List SpidData) (spid : UInt32) :
    (pendingSeqs (spidDataDelBySpid sd spid)).Sublist (pendingSeqs sd) :=
  (List.eraseP_sublist.filter _).map _

theorem tableInv_del (h : TableInv s) (spid : UInt32) :
    TableInv { s with sd := spidDataDelBySpid s.sd spid } where
  pending := fun d hd => h.pending d (List.mem_of_mem_eraseP hd)
  distinct := h.distinct.sublist (pendingSeqs_del_sublist s.sd spid)
  unanswered := fun d hd => h.unanswered d (List.mem_of_mem_eraseP hd)
  known := fun d hd => h.known d (List.mem_of_mem_eraseP hd)

theorem tableInv_adopt (h : TableInv s) (spid : UInt32) (slid : Bytes) :
    TableInv (s.adopt spid slid) where
  pending := by
    intro d hd hseq
    rcases List.mem_append.mp hd with hd | hd
    · exact h.pending d hd hseq
    · rw [List.mem_singleton.mp hd] at hseq
      exact absurd rfl hseq
  distinct := by
    show (pendingSeqs (s.sd ++ [⟨0, slid, spid⟩])).Nodup
    unfold pendingSeqs
    rw [usedKeys_append]
    show (pendingSeqs s.sd ++ []).Nodup
    rw [List.append_nil]
    exact h.distinct
  unanswered := by
    intro d hd hseq
    rcases List.mem_append.mp hd with hd | hd
    · exact (h.unanswered d hd hseq).concat fun _ _ hact => by cases hact
    · rw [List.mem_singleton.mp hd] at hseq
      exact absurd rfl hseq
  known := by
    intro d hd hspid
    rcases List.mem_append.mp hd with hd | hd
    · exact (h.known d hd hspid).concat _
    · rw [List.mem_singleton.mp hd]
      exact .inl (List.mem_append_right _ (List.mem_singleton_self _))

theorem tableInv_request (h : TableInv s) (slid : Bytes) : TableInv (s.request slid) := by
  have hne := pfkeySeqNext_ne_zero s.seq
  have hold : ∀ d ∈ s.sd, d.seq ≠ 0 →
      Unanswered (s.history ++ [.requested (pfkeySeqNext s.seq) slid]) d.seq d.slid := fun d hd hseq =>
    (h.unanswered d hd hseq).concat fun _ _ hact => by cases hact
  have hknown : ∀ d ∈ s.sd, d.spid ≠ 0 →
      Known (s.history ++ [.requested (pfkeySeqNext s.seq) slid]) d.spid d.slid := fun d hd hspid =>
    (h.known d hd hspid).concat _
  unfold PolicyTable.request spidDataAdd
  split
  · exact ⟨h.pending, h.distinct, hold, hknown⟩
  next hfree =>
  have hfree : ∀ d ∈ s.sd, d.seq ≠ pfkeySeqNext s.seq := by
    have hnone : s.sd.find? (fun d => d.seq == pfkeySeqNext s.seq) = none :=
      Option.not_isSome_iff_eq_none.mp hfree
    intro d hd heq
    exact List.find?_eq_none.mp hnone d hd (beq_iff_eq.mpr heq)
  constructor
  · intro d hd hseq
    rcases List.mem_append.mp hd with hd | hd
    · exact h.pending d hd hseq
    · rw [List.mem_singleton.mp hd]
  · show (pendingSeqs (s.sd ++ [⟨pfkeySeqNext s.seq, slid, 0⟩])).Nodup
    unfold pendingSeqs
    rw [usedKeys_append]
    refine List.nodup_append.mpr ⟨h.distinct, ?_, ?_⟩
    · exact (List.nodup_singleton _).sublist (List.filter_sublist.map _)
    · intro a ha b hb heq
      obtain ⟨-, d, hd, rfl⟩ := mem_usedKeys.mp ha
      obtain ⟨-, d', hd', rfl⟩ := mem_usedKeys.mp hb
      rw [List.mem_singleton.mp hd'] at heq
      exact hfree d hd heq
  · intro d hd hseq
    rcases List.mem_append.mp hd with hd | hd
    · exact hold d hd hseq
    · rw [List.mem_singleton.mp hd]
      exact ⟨s.history, [], rfl, fun _ _ hmem => by cases hmem⟩
  · intro d hd hspid
    rcases List.mem_append.mp hd with hd | hd
    · exact hknown d hd hspid
    · rw [List.mem_singleton.mp hd] at hspid
      exact absurd rfl hspid

/-! ## a reply -/

theorem mem_bindSeq {sd : List SpidData} {d : SpidData} (h : d ∈ bindSeq seq spid sd) :
    d ∈ sd ∨ ∃ d₀ ∈ sd, d₀.seq = seq ∧ d = { d₀ with spid := spid, seq := 0 } := by
  induction sd with
  | nil => cases h
  | cons x sd ih =>
    unfold bindSeq at h
    split at h
    · next hx =>
      rcases List.mem_cons.mp h with rfl | h
      · exact .inr ⟨x, List.mem_cons_self, hx, rfl⟩
      · exact .inl (List.mem_cons_of_mem x h)
    · rcases List.mem_cons.mp h with rfl | h
      · exact .inl List.mem_cons_self
      · rcases ih h with h | ⟨d₀, hd₀, hseq, rfl⟩
        · exact .inl (List.mem_cons_of_mem x h)
        · exact .inr ⟨d₀, List.mem_cons_of_mem x hd₀, hseq, rfl⟩

theorem pendingSeqs_bindSeq (sd : List SpidData) :
    (pendingSeqs (bindSeq seq spid sd)).Sublist (pendingSeqs sd) := by
  induction sd with
  | nil => exact List.Sublist.refl _
  | cons x sd ih =>
    unfold bindSeq pendingSeqs
    split
    · rw [usedKeys_cons, usedKeys_cons, if_pos rfl]
      split
      · exact List.Sublist.refl _
      · exact List.sublist_cons_self _ _
    · rw [usedKeys_cons, usedKeys_cons]
      split
      · exact ih
      · exact ih.cons_cons _

/-- the number is used up -/
theorem bindSeq_used {sd : List SpidData} (hseq : seq ≠ 0) (hd : (pendingSeqs sd).Nodup) :
    ∀ d ∈ bindSeq seq spid sd, d.seq ≠ seq := by
  induction sd with
  | nil =>
    intro d h
    cases h
  | cons x sd ih =>
    intro d hmem
    unfold bindSeq at hmem
    split at hmem
    · next hx =>
      rcases List.mem_cons.mp hmem with rfl | hmem
      · exact hseq.symm
      · rw [← hx]
        exact usedKeys_head hd (by rw [hx]; exact hseq) d hmem
    · next hx =>
      rcases List.mem_cons.mp hmem with rfl | hmem
      · exact hx
      · exact ih (usedKeys_tail hd) d hmem

/-- a record with a number is not bound, so the two bad ends are not reached -/
theorem spidDataUpdate_cases (h : ∀ d ∈ s.sd, d.seq ≠ 0 → d.spid = 0) (seq spid : UInt32) :
    (spidDataUpdate s.sd seq spid = (.invalid, s.sd) ∧ (seq = 0 ∨ spid = 0))
      ∨ (spidDataUpdate s.sd seq spid = (.noEntry, s.sd) ∧ ∀ d ∈ s.sd, d.seq ≠ seq)
      ∨ (spidDataUpdate s.sd seq spid = (.bound, bindSeq seq spid (spidDataDelBySpid s.sd spid))
        ∧ seq ≠ 0 ∧ spid ≠ 0 ∧ ∃ d ∈ s.sd, d.seq = seq) := by
  unfold spidDataUpdate
  split
  · next hzero => exact .inl ⟨rfl, hzero⟩
  next hzero =>
  rw [not_or] at hzero
  split
  · next hnone =>
    refine .inr (.inl ⟨rfl, fun d hd heq => ?_⟩)
    exact List.find?_eq_none.mp hnone d hd (beq_iff_eq.mpr heq)
  · next d hfind =>
    have hmem : d ∈ s.sd := List.mem_of_find?_eq_some hfind
    have hbeq := List.find?_some hfind
    have hdseq : d.seq = seq := beq_iff_eq.mp hbeq
    have hdspid : d.spid = 0 := h d hmem (by rw [hdseq]; exact hzero.1)
    have hidx : s.sd.findIdx? (fun d => d.spid == spid) ≠ s.sd.findIdx? (fun d => d.seq == seq) := by
      intro heq
      have hsome : (s.sd.findIdx? fun d => d.seq == seq).isSome = true :=
        List.findIdx?_isSome.trans (List.any_eq_true.mpr ⟨d, hmem, beq_iff_eq.mpr hdseq⟩)
      obtain ⟨i, hi⟩ := Option.isSome_iff_exists.mp hsome
      obtain ⟨hlt, hseqi, -⟩ := List.findIdx?_eq_some_iff_getElem.mp hi
      obtain ⟨hlt', hspidi, -⟩ := List.findIdx?_eq_some_iff_getElem.mp (heq.trans hi)
      have hzero' := h s.sd[i] (List.getElem_mem hlt) (by rw [beq_iff_eq.mp hseqi]; exact hzero.1)
      exact hzero.2 ((beq_iff_eq.mp hspidi).symm.trans hzero')
    rw [if_neg hidx, if_pos hdspid]
    exact .inr (.inr ⟨rfl, hzero.1, hzero.2, d, hmem, hdseq⟩)

theorem tableInv_reply (h : TableInv s) (seq spid : UInt32) : TableInv (s.reply seq spid) := by
  have hknown : ∀ d ∈ s.sd, d.spid ≠ 0 → Known (s.history ++ [.replied seq spid]) d.spid d.slid :=
    fun d hd hspid => (h.known d hd hspid).concat _
  -- a reply that binds nothing answers nothing
  have hsame : (spidDataUpdate s.sd seq spid).2 = s.sd →
      (∀ d ∈ s.sd, d.seq ≠ 0 → ∀ spid', spid' ≠ 0 →
        PolicyAct.replied seq spid ≠ .replied d.seq spid') → TableInv (s.reply seq spid) := by
    intro hsd hno
    unfold PolicyTable.reply
    rw [hsd]
    exact ⟨h.pending, h.distinct, fun d hd hseq => (h.unanswered d hd hseq).concat (hno d hd hseq), hknown⟩
  obtain ⟨hup, hzero⟩ | ⟨hup, hno⟩ | ⟨hup, hseq, hspid, -⟩ := spidDataUpdate_cases h.pending seq spid
  · refine hsame (by rw [hup]) fun d hd hdseq spid' hspid' heq => ?_
    obtain ⟨rfl, rfl⟩ := PolicyAct.replied.inj heq
    rcases hzero with hz | hz
    · exact hdseq hz
    · exact hspid' hz
  · refine hsame (by rw [hup]) fun d hd hdseq spid' hspid' heq => ?_
    exact hno d hd (PolicyAct.replied.inj heq).1.symm
  · have hdel := tableInv_del h spid
    unfold PolicyTable.reply
    rw [hup]
    constructor
    · intro d hd hdseq
      rcases mem_bindSeq hd with hd | ⟨d₀, hd₀, -, rfl⟩
      · exact hdel.pending d hd hdseq
      · exact absurd rfl hdseq
    · exact hdel.distinct.sublist (pendingSeqs_bindSeq _)
    · intro d hd hdseq
      have hne := bindSeq_used hseq hdel.distinct d hd
      rcases mem_bindSeq hd with hd | ⟨d₀, hd₀, -, rfl⟩
      · refine (hdel.unanswered d hd hdseq).concat fun spid' _ heq => ?_
        exact hne (PolicyAct.replied.inj heq).1.symm
      · exact absurd rfl hdseq
    · intro d hd hdspid
      rcases mem_bindSeq hd with hd | ⟨d₀, hd₀, rfl, rfl⟩
      · exact (hdel.known d hd hdspid).concat _
      · exact .inr ⟨d₀.seq, (hdel.unanswered d₀ hd₀ hseq).replied spid⟩

/-! ## runs -/

variable {Addr : Type} {sels : List (PolicySel Addr)}

theorem tableInv_handleExternal (h : TableInv s) (spid reqid : UInt32) :
    TableInv (s.handleExternal sels spid reqid) := by
  unfold PolicyTable.handleExternal
  split
  · exact h
  · exact tableInv_adopt h _ _

variable [DecidableEq Addr]

theorem tableInv_callback (h : TableInv s) (c : PolicyCall Addr) : TableInv (s.callback sels c) := by
  cases c with
  | spdadd event seq spid reqid =>
    show TableInv (s.spdaddCb sels event seq spid reqid)
    unfold PolicyTable.spdaddCb
    split
    · exact tableInv_handleExternal h spid reqid
    split
    · exact tableInv_reply h seq spid
    · exact tableInv_handleExternal (tableInv_reply h seq spid) spid reqid
  | spdupdate event seq spid =>
    show TableInv (if event then s else s.reply seq spid)
    split
    · exact h
    · exact tableInv_reply h seq spid
  | spddelete spid => exact tableInv_del h spid
  | spddelete2 spid => exact tableInv_del h spid
  | spdexpire spid => exact tableInv_del h spid
  | spddump spid p =>
    unfold PolicyTable.callback
    dsimp only
    split
    · exact h
    split
    · exact h
    · exact tableInv_adopt h _ _

theorem tableInv_callbacks (calls : List (PolicyCall Addr)) :
    ∀ s : PolicyTable, TableInv s → TableInv (s.callbacks sels calls) := by
  induction calls with
  | nil => exact fun s h => h
  | cons c calls ih => exact fun s h => ih _ (tableInv_callback h c)

/-- one event -/
theorem policy_step (h : TableInv s) (e : PolicyEvent Addr) : TableInv (s.step sels e) := by
  cases e with
  | update slid first second =>
    have hfirst : TableInv ((s.request slid).callbacks sels first) :=
      tableInv_callbacks first _ (tableInv_request h slid)
    show TableInv (s.spdUpdate sels slid first second)
    unfold PolicyTable.spdUpdate
    cases second with
    | none => exact hfirst
    | some second => exact tableInv_callbacks second _ (tableInv_request hfirst slid)
  | call c => exact tableInv_callback h c
  | draw => exact ⟨h.pending, h.distinct, h.unanswered, h.known⟩

theorem tableInv_start : TableInv .start where
  pending := fun d hd => by cases hd
  distinct := List.nodup_nil
  unanswered := fun d hd => by cases hd
  known := fun d hd => by cases hd

theorem getSlidBySpid_known (h : TableInv s) (hget : getSlidBySpid s.sd spid = some slid) :
    Known s.history spid slid := by
  unfold getSlidBySpid at hget
  split at hget
  · cases hget
  next hspid =>
  obtain ⟨d, hfind, rfl⟩ := Option.map_eq_some_iff.mp hget
  have hbeq := List.find?_some hfind
  have hd : d.spid = spid := beq_iff_eq.mp hbeq
  have hknown := h.known d (List.mem_of_find?_eq_some hfind) (by rw [hd]; exact hspid)
  rw [hd] at hknown
  exact hknown

end

/-- in every run of requests and calls of the library, whatever the kernel reports: a reply never
frees the record that it then writes to and never meets a bound record, each waiting number belongs
to one record, and the selector given for a spid is that of a policy that was adopted under this spid
or of a request whose first reply brought it -/
theorem spid_table_sound {Addr : Type} [DecidableEq Addr] (sels : List (PolicySel Addr))
    (es : List (PolicyEvent Addr)) :
    ∀ s ∈ Run.states (PolicyTable.step sels) .start es,
      (∀ seq spid, (spidDataUpdate s.sd seq spid).1 ≠ .freed
          ∧ (spidDataUpdate s.sd seq spid).1 ≠ .alreadyBound)
        ∧ (pendingSeqs s.sd).Nodup
        ∧ ∀ spid slid, getSlidBySpid s.sd spid = some slid → Known s.history spid slid := by
  intro s hs
  have hall : ∀ s ∈ Run.states (PolicyTable.step sels) .start es, TableInv s :=
    Run.states_inv_all (fun _ e h => policy_step h e) es tableInv_start
  have h := hall s hs
  refine ⟨fun seq spid => ?_, h.distinct, fun spid slid => getSlidBySpid_known h⟩
  obtain ⟨hup, -⟩ | ⟨hup, -⟩ | ⟨hup, -⟩ := spidDataUpdate_cases h.pending seq spid
  · rw [hup]
    exact ⟨UpdateResult.noConfusion, UpdateResult.noConfusion⟩
  · rw [hup]
    exact ⟨UpdateResult.noConfusion, UpdateResult.noConfusion⟩
  · rw [hup]
    exact ⟨UpdateResult.noConfusion, UpdateResult.noConfusion⟩

/-- a request whose reply brings the spid 5 -/
def answeredRun : List (PolicyEvent Nat) := [.update [97] [.spdadd false 1 5 0] none]

theorem spid_table_sound_reply :
    getSlidBySpid (answeredRun.foldl (PolicyTable.step []) .start).sd 5 = some [97]
      ∧ Known (answeredRun.foldl (PolicyTable.step []) .start).history 5 [97] := by
  have hget : getSlidBySpid (answeredRun.foldl (PolicyTable.step []) .start).sd 5 = some [97] := by
    decide
  have hmem : answeredRun.foldl (PolicyTable.step []) .start
      ∈ Run.states (PolicyTable.step []) .start answeredRun := Run.foldl_mem_states answeredRun _
  exact ⟨hget, (spid_table_sound [] answeredRun _ hmem).2.2 5 [97] hget⟩

end Spmd
