import Racoon2.Spmd.PolicyTable
import Mathlib.Logic.Function.Basic

/-!
# The policies of spmd as a map

What the list of `PolicyTable` is for: a map from the numbers of requests to selectors, and a map
from spids to selectors.  `spid_data_add_complete` appends without looking, so the list is that map
as long as no policy is adopted under a spid that is bound, and none is deleted under the spid 0,
which is that of every record that waits.

* `PolicyAtom`         requests and calls one by one;
* `PolicyMap`          the two maps;
* `AtomFits`           an adoption is of a new spid, a deletion of a spid;
* `abs_atomStep`       one atom (the step);
* `spid_table_refines` every run.
-/

set_option linter.unusedVariables false

namespace Spmd
open Bytes

/-! ## requests and calls one by one -/

inductive PolicyAtom (Addr : Type) where
  | request (slid : Bytes)
  | call (c : PolicyCall Addr)
  | draw

/-- what an event consists of -/
def PolicyEvent.atoms {Addr : Type} : PolicyEvent Addr → List (PolicyAtom Addr)
  | .update slid first second =>
    .request slid :: (first.map .call ++ second.elim [] fun calls => .request slid :: calls.map .call)
  | .call c => [.call c]
  | .draw => [.draw]

section
variable {Addr : Type} [DecidableEq Addr] (sels : List (PolicySel Addr))

def PolicyTable.atomStep (s : PolicyTable) : PolicyAtom Addr → PolicyTable
  | .request slid => s.request slid
  | .call c => s.callback sels c
  | .draw => s.draw

theorem callbacks_eq (calls : List (PolicyCall Addr)) : ∀ s : PolicyTable,
    s.callbacks sels calls = (calls.map PolicyAtom.call).foldl (PolicyTable.atomStep sels) s := by
  induction calls with
  | nil => exact fun s => rfl
  | cons c calls ih => exact fun s => ih _

theorem step_eq_atoms (s : PolicyTable) (e : PolicyEvent Addr) :
    s.step sels e = e.atoms.foldl (PolicyTable.atomStep sels) s := by
  cases e with
  | update slid first second =>
    show s.spdUpdate sels slid first second = _
    unfold PolicyTable.spdUpdate PolicyEvent.atoms
    rw [List.foldl_cons, List.foldl_append, ← callbacks_eq]
    cases second with
    | none => rfl
    | some second => exact callbacks_eq sels second _
  | call c => rfl
  | draw => rfl

theorem run_eq_atoms (es : List (PolicyEvent Addr)) : ∀ s : PolicyTable,
    es.foldl (PolicyTable.step sels) s
      = (es.flatMap PolicyEvent.atoms).foldl (PolicyTable.atomStep sels) s := by
  induction es with
  | nil => exact fun s => rfl
  | cons e es ih =>
    intro s
    rw [List.foldl_cons, List.flatMap_cons, List.foldl_append, ih, step_eq_atoms]

end

/-! ## the maps -/

/-- the selectors of the requests that wait, by number, and of the policies, by spid -/
@[ext]
structure PolicyMap where
  waiting : UInt32 → Option Bytes
  bound : UInt32 → Option Bytes

namespace PolicyMap
variable (m : PolicyMap)

def empty : PolicyMap := ⟨fun _ => none, fun _ => none⟩

/-- a request, if its number is not in use -/
def request (seq : UInt32) (slid : Bytes) : PolicyMap :=
  if m.waiting seq = none then { m with waiting := Function.update m.waiting seq (some slid) } else m

def adopt (spid : UInt32) (slid : Bytes) : PolicyMap :=
  { m with bound := Function.update m.bound spid (some slid) }

def remove (spid : UInt32) : PolicyMap := { m with bound := Function.update m.bound spid none }

/-- the selector that waits under the number goes to the spid -/
def reply (seq spid : UInt32) : PolicyMap :=
  if seq = 0 ∨ spid = 0 then m
  else
    match m.waiting seq with
    | none => m
    | some slid =>
      ⟨Function.update m.waiting seq none, Function.update m.bound spid (some slid)⟩

/-- whether a reply finds its request -/
def expects (seq spid : UInt32) : Prop := seq ≠ 0 ∧ spid ≠ 0 ∧ m.waiting seq ≠ none

instance (seq spid : UInt32) : Decidable (m.expects seq spid) :=
  inferInstanceAs (Decidable (_ ∧ _ ∧ _))

end PolicyMap

section
variable {Addr : Type} [DecidableEq Addr] (sels : List (PolicySel Addr))

/-- the callbacks on the maps -/
def PolicyMap.callback (m : PolicyMap) : PolicyCall Addr → PolicyMap
  | .spdadd event seq spid reqid =>
    if event = false ∧ m.expects seq spid then m.reply seq spid
    else (externalSel sels reqid).elim m fun sl => m.adopt spid sl.index
  | .spdupdate event seq spid => if event then m else m.reply seq spid
  | .spddelete spid => m.remove spid
  | .spddelete2 spid => m.remove spid
  | .spdexpire spid => m.remove spid
  | .spddump spid p => if spid = 0 then m else (rsyncSlid sels p).elim m fun slid => m.adopt spid slid

/-- the maps, and the last number drawn -/
structure PolicyView where
  map : PolicyMap
  seq : UInt32

def PolicyView.atomStep (v : PolicyView) : PolicyAtom Addr → PolicyView
  | .request slid => ⟨v.map.request (pfkeySeqNext v.seq) slid, pfkeySeqNext v.seq⟩
  | .call c => ⟨v.map.callback sels c, v.seq⟩
  | .draw => ⟨v.map, pfkeySeqNext v.seq⟩

/-- the list as maps -/
def PolicyTable.map (s : PolicyTable) : PolicyMap where
  waiting := fun seq => if seq = 0 then none else (spidDataSrchBySeq s.sd seq).map SpidData.slid
  bound := getSlidBySpid s.sd

def PolicyTable.view (s : PolicyTable) : PolicyView := ⟨s.map, s.seq⟩

/-- adopted under a spid, and one that is not bound -/
def AdoptFits (s : PolicyTable) (spid : UInt32) : Prop := spid ≠ 0 ∧ getSlidBySpid s.sd spid = none

/-- a policy is adopted only under a new spid, and deleted only under a spid -/
def AtomFits (s : PolicyTable) : PolicyAtom Addr → Prop
  | .call (.spdadd event seq spid reqid) =>
    (event = true ∨ (spidDataUpdate s.sd seq spid).1 ≠ .bound) → (externalSel sels reqid).isSome = true →
      AdoptFits s spid
  | .call (.spddump spid p) => spid ≠ 0 → (rsyncSlid sels p).isSome = true → AdoptFits s spid
  | .call (.spddelete spid) => spid ≠ 0
  | .call (.spddelete2 spid) => spid ≠ 0
  | .call (.spdexpire spid) => spid ≠ 0
  | _ => True

end

/-! ## keys that are used once -/

section
variable {f : SpidData → UInt32} {sd : List SpidData} {k : UInt32}

theorem find_slid_iff (h : (usedKeys f sd).Nodup) (hk : k ≠ 0) (slid : Bytes) :
    (sd.find? fun d => f d == k).map SpidData.slid = some slid
      ↔ ∃ d ∈ sd, f d = k ∧ d.slid = slid := by
  induction sd with
  | nil => exact ⟨fun hs => (by cases hs), fun ⟨d, hd, _⟩ => (by cases hd)⟩
  | cons x sd ih =>
    rw [List.find?_cons]
    by_cases hx : f x = k
    · rw [beq_iff_eq.mpr hx]
      show some x.slid = some slid ↔ _
      constructor
      · exact fun hs => ⟨x, List.mem_cons_self, hx, Option.some.inj hs⟩
      · rintro ⟨d, hd, hdk, rfl⟩
        rcases List.mem_cons.mp hd with rfl | hd
        · rfl
        · exact absurd (hdk.trans hx.symm) (usedKeys_head h (by rw [hx]; exact hk) d hd)
    · rw [beq_eq_false_iff_ne.mpr hx]
      show (sd.find? fun d => f d == k).map SpidData.slid = some slid ↔ _
      rw [ih (usedKeys_tail h)]
      constructor
      · rintro ⟨d, hd, hdk⟩
        exact ⟨d, List.mem_cons_of_mem x hd, hdk⟩
      · rintro ⟨d, hd, hdk, hslid⟩
        rcases List.mem_cons.mp hd with rfl | hd
        · exact absurd hdk hx
        · exact ⟨d, hd, hdk, hslid⟩

theorem mem_eraseP_iff (h : (usedKeys f sd).Nodup) (hk : k ≠ 0) (d : SpidData) :
    d ∈ sd.eraseP (fun d => f d == k) ↔ d ∈ sd ∧ f d ≠ k := by
  induction sd with
  | nil => exact ⟨fun hd => (by cases hd), fun hd => (by cases hd.1)⟩
  | cons x sd ih =>
    by_cases hx : f x = k
    · have hp : (fun d => f d == k) x = true := beq_iff_eq.mpr hx
      rw [List.eraseP_cons_of_pos (p := fun d => f d == k) hp]
      have hrest := usedKeys_head h (by rw [hx]; exact hk)
      constructor
      · exact fun hd => ⟨List.mem_cons_of_mem x hd, fun heq => hrest d hd (heq.trans hx.symm)⟩
      · rintro ⟨hd, hne⟩
        rcases List.mem_cons.mp hd with rfl | hd
        · exact absurd hx hne
        · exact hd
    · have hp : ¬(fun d => f d == k) x = true := fun heq => hx (beq_iff_eq.mp heq)
      rw [List.eraseP_cons_of_neg (p := fun d => f d == k) hp, List.mem_cons, List.mem_cons,
        ih (usedKeys_tail h)]
      constructor
      · rintro (rfl | ⟨hd, hne⟩)
        · exact ⟨.inl rfl, hx⟩
        · exact ⟨.inr hd, hne⟩
      · rintro ⟨rfl | hd, hne⟩
        · exact .inl rfl
        · exact .inr ⟨hd, hne⟩

end

section
variable {sd : List SpidData} {seq spid : UInt32}

theorem mem_bindSeq_iff (h : (pendingSeqs sd).Nodup) (hseq : seq ≠ 0) (d : SpidData) :
    d ∈ bindSeq seq spid sd ↔ (d ∈ sd ∧ d.seq ≠ seq)
      ∨ ∃ d₀ ∈ sd, d₀.seq = seq ∧ d = { d₀ with spid := spid, seq := 0 } := by
  constructor
  · intro hd
    have hne := bindSeq_used hseq h d hd
    rcases mem_bindSeq hd with hd | hd
    · exact .inl ⟨hd, hne⟩
    · exact .inr hd
  · intro hd
    induction sd with
    | nil =>
      rcases hd with ⟨hd, -⟩ | ⟨d₀, hd₀, -⟩
      · cases hd
      · cases hd₀
    | cons x sd ih =>
      unfold bindSeq
      have htail := usedKeys_tail (f := SpidData.seq) h
      split
      · next hx =>
        rcases hd with ⟨hd, hne⟩ | ⟨d₀, hd₀, hd₀seq, rfl⟩
        · rcases List.mem_cons.mp hd with rfl | hd
          · exact absurd hx hne
          · exact List.mem_cons_of_mem _ hd
        · rcases List.mem_cons.mp hd₀ with rfl | hd₀
          · exact List.mem_cons_self
          · have hhead := usedKeys_head (f := SpidData.seq) h (by rw [hx]; exact hseq) d₀ hd₀
            exact absurd (hd₀seq.trans hx.symm) hhead
      · next hx =>
        rcases hd with ⟨hd, hne⟩ | ⟨d₀, hd₀, hd₀seq, rfl⟩
        · rcases List.mem_cons.mp hd with rfl | hd
          · exact List.mem_cons_self
          · exact List.mem_cons_of_mem _ (ih htail (.inl ⟨hd, hne⟩))
        · rcases List.mem_cons.mp hd₀ with rfl | hd₀
          · exact absurd hd₀seq hx
          · exact List.mem_cons_of_mem _ (ih htail (.inr ⟨d₀, hd₀, hd₀seq, rfl⟩))

/-- the spid that a record gets is a new one -/
theorem usedKeys_bindSeq (h : (usedKeys SpidData.spid sd).Nodup) (hno : ∀ d ∈ sd, d.spid ≠ spid)
    (hspid : spid ≠ 0) (hzero : ∀ d ∈ sd, d.seq = seq → d.spid = 0) :
    (usedKeys SpidData.spid (bindSeq seq spid sd)).Nodup := by
  induction sd with
  | nil => exact List.nodup_nil
  | cons x sd ih =>
    have htail := usedKeys_tail h
    unfold bindSeq
    split
    · rw [usedKeys_cons, if_neg hspid]
      refine List.nodup_cons.mpr ⟨fun hmem => ?_, htail⟩
      obtain ⟨-, d, hd, heq⟩ := mem_usedKeys.mp hmem
      exact hno d (List.mem_cons_of_mem x hd) heq
    · have ih := ih htail (fun d hd => hno d (List.mem_cons_of_mem x hd))
        (fun d hd => hzero d (List.mem_cons_of_mem x hd))
      rw [usedKeys_cons]
      split
      · exact ih
      · next hx =>
        refine List.nodup_cons.mpr ⟨fun hmem => ?_, ih⟩
        obtain ⟨-, d, hd, heq⟩ := mem_usedKeys.mp hmem
        rcases mem_bindSeq hd with hd | ⟨d₀, hd₀, -, rfl⟩
        · exact usedKeys_head h hx d hd heq
        · exact hno x List.mem_cons_self heq.symm

end

/-! ## one atom -/

/-- no number waits twice, and no spid is bound twice -/
structure MapInv (s : PolicyTable) : Prop where
  table : TableInv s
  spids : (usedKeys SpidData.spid s.sd).Nodup

section
variable {s : PolicyTable} {seq spid : UInt32} {slid : Bytes}

theorem waiting_iff (h : MapInv s) :
    s.map.waiting seq = some slid ↔ seq ≠ 0 ∧ ∃ d ∈ s.sd, d.seq = seq ∧ d.slid = slid := by
  show (if seq = 0 then none else (spidDataSrchBySeq s.sd seq).map SpidData.slid) = some slid ↔ _
  by_cases hseq : seq = 0
  · rw [if_pos hseq]
    exact ⟨fun hs => (by cases hs), fun hs => absurd hseq hs.1⟩
  · rw [if_neg hseq]
    have hiff := find_slid_iff (f := SpidData.seq) h.table.distinct hseq slid
    exact hiff.trans ⟨fun hd => ⟨hseq, hd⟩, fun hd => hd.2⟩

theorem bound_iff (h : MapInv s) :
    s.map.bound spid = some slid ↔ spid ≠ 0 ∧ ∃ d ∈ s.sd, d.spid = spid ∧ d.slid = slid := by
  show (if spid = 0 then none else (spidDataSrchBySpid s.sd spid).map SpidData.slid) = some slid ↔ _
  by_cases hspid : spid = 0
  · rw [if_pos hspid]
    exact ⟨fun hs => (by cases hs), fun hs => absurd hspid hs.1⟩
  · rw [if_neg hspid]
    have hiff := find_slid_iff (f := SpidData.spid) h.spids hspid slid
    exact hiff.trans ⟨fun hd => ⟨hspid, hd⟩, fun hd => hd.2⟩

theorem waiting_none_iff (h : MapInv s) (hseq : seq ≠ 0) :
    s.map.waiting seq = none ↔ ∀ d ∈ s.sd, d.seq ≠ seq := by
  rw [Option.eq_none_iff_forall_ne_some]
  constructor
  · exact fun hno d hd heq => hno d.slid ((waiting_iff h).mpr ⟨hseq, d, hd, heq, rfl⟩)
  · intro hno slid hs
    obtain ⟨-, d, hd, heq, -⟩ := (waiting_iff h).mp hs
    exact hno d hd heq

theorem bound_none_iff (h : MapInv s) (hspid : spid ≠ 0) :
    s.map.bound spid = none ↔ ∀ d ∈ s.sd, d.spid ≠ spid := by
  rw [Option.eq_none_iff_forall_ne_some]
  constructor
  · exact fun hno d hd heq => hno d.slid ((bound_iff h).mpr ⟨hspid, d, hd, heq, rfl⟩)
  · intro hno slid hs
    obtain ⟨-, d, hd, heq, -⟩ := (bound_iff h).mp hs
    exact hno d hd heq

/-- two maps with the same entries -/
theorem policyMap_ext {m m' : PolicyMap}
    (hw : ∀ k x, m.waiting k = some x ↔ m'.waiting k = some x)
    (hb : ∀ k x, m.bound k = some x ↔ m'.bound k = some x) : m = m' := by
  apply PolicyMap.ext
  · funext k
    exact Option.ext (hw k)
  · funext k
    exact Option.ext (hb k)

theorem update_eq_some_iff {g : UInt32 → Option Bytes} {k k' : UInt32} {v : Option Bytes} {x : Bytes} :
    Function.update g k v k' = some x ↔ (k' = k ∧ v = some x) ∨ (k' ≠ k ∧ g k' = some x) := by
  by_cases hk : k' = k
  · subst hk
    rw [Function.update_self]
    exact ⟨fun hv => .inl ⟨rfl, hv⟩, fun hv => hv.elim And.right fun hne => absurd rfl hne.1⟩
  · rw [Function.update_of_ne hk]
    exact ⟨fun hg => .inr ⟨hk, hg⟩, fun hg => hg.elim (fun heq => absurd heq.1 hk) And.right⟩

end

/-! ## the operations -/

section
variable {s : PolicyTable} {seq spid : UInt32} {slid : Bytes}

/-- a record at the end -/
theorem exists_mem_concat {P : SpidData → Prop} {sd : List SpidData} {x : SpidData} :
    (∃ d ∈ sd ++ [x], P d) ↔ (∃ d ∈ sd, P d) ∨ P x := by
  constructor
  · rintro ⟨d, hd, hP⟩
    rcases List.mem_append.mp hd with hd | hd
    · exact .inl ⟨d, hd, hP⟩
    · rw [List.mem_singleton.mp hd] at hP
      exact .inr hP
  · rintro (⟨d, hd, hP⟩ | hP)
    · exact ⟨d, List.mem_append_left _ hd, hP⟩
    · exact ⟨x, List.mem_append_right _ (List.mem_singleton_self x), hP⟩

theorem mapInv_request (h : MapInv s) (slid : Bytes) : MapInv (s.request slid) := by
  refine ⟨tableInv_request h.table slid, ?_⟩
  show (usedKeys SpidData.spid (spidDataAdd s.sd (pfkeySeqNext s.seq) slid)).Nodup
  unfold spidDataAdd
  split
  · exact h.spids
  · rw [usedKeys_append]
    show (usedKeys SpidData.spid s.sd ++ []).Nodup
    rw [List.append_nil]
    exact h.spids

theorem map_request (h : MapInv s) (slid : Bytes) :
    (s.request slid).map = s.map.request (pfkeySeqNext s.seq) slid := by
  have h' := mapInv_request h slid
  have hne := pfkeySeqNext_ne_zero s.seq
  have hwait : s.map.waiting (pfkeySeqNext s.seq)
      = (spidDataSrchBySeq s.sd (pfkeySeqNext s.seq)).map SpidData.slid := if_neg hne
  unfold PolicyMap.request
  by_cases huse : (spidDataSrchBySeq s.sd (pfkeySeqNext s.seq)).isSome = true
  · have hsd : (s.request slid).sd = s.sd := if_pos huse
    rw [if_neg (by rw [hwait, Option.map_eq_none_iff]; exact Option.isSome_iff_ne_none.mp huse)]
    unfold PolicyTable.map
    rw [hsd]
  · have hsd : (s.request slid).sd = s.sd ++ [⟨pfkeySeqNext s.seq, slid, 0⟩] := if_neg huse
    rw [if_pos (by rw [hwait, Option.map_eq_none_iff]; exact Option.not_isSome_iff_eq_none.mp huse)]
    have hfree : ∀ d ∈ s.sd, d.seq ≠ pfkeySeqNext s.seq := by
      intro d hd heq
      exact List.find?_eq_none.mp (Option.not_isSome_iff_eq_none.mp huse) d hd (beq_iff_eq.mpr heq)
    apply policyMap_ext
    · intro k x
      show _ ↔ Function.update s.map.waiting (pfkeySeqNext s.seq) (some slid) k = some x
      rw [waiting_iff h', update_eq_some_iff, waiting_iff h, hsd, exists_mem_concat]
      constructor
      · rintro ⟨hk, ⟨d, hd, rfl, hx⟩ | ⟨rfl, hx⟩⟩
        · exact .inr ⟨hfree d hd, hk, d, hd, rfl, hx⟩
        · exact .inl ⟨rfl, congrArg some hx⟩
      · rintro (⟨rfl, hx⟩ | ⟨-, hk, hd⟩)
        · exact ⟨hne, .inr ⟨rfl, Option.some.inj hx⟩⟩
        · exact ⟨hk, .inl hd⟩
    · intro k x
      show _ ↔ s.map.bound k = some x
      rw [bound_iff h', bound_iff h, hsd, exists_mem_concat]
      constructor
      · rintro ⟨hk, hd | ⟨hzero, -⟩⟩
        · exact ⟨hk, hd⟩
        · exact absurd hzero.symm hk
      · rintro ⟨hk, hd⟩
        exact ⟨hk, .inl hd⟩

theorem mapInv_adopt (h : MapInv s) (hfit : AdoptFits s spid) (slid : Bytes) :
    MapInv (s.adopt spid slid) := by
  refine ⟨tableInv_adopt h.table spid slid, ?_⟩
  have hfree := (bound_none_iff h hfit.1).mp hfit.2
  show (usedKeys SpidData.spid (s.sd ++ [⟨0, slid, spid⟩])).Nodup
  rw [usedKeys_append, usedKeys_cons, if_neg hfit.1]
  refine List.nodup_append.mpr ⟨h.spids, List.nodup_singleton _, ?_⟩
  intro a ha b hb heq
  rw [List.mem_singleton.mp hb] at heq
  subst heq
  obtain ⟨-, d, hd, heq⟩ := mem_usedKeys.mp ha
  exact hfree d hd heq

theorem map_adopt (h : MapInv s) (hfit : AdoptFits s spid) (slid : Bytes) :
    (s.adopt spid slid).map = s.map.adopt spid slid := by
  have h' := mapInv_adopt h hfit slid
  have hfree := (bound_none_iff h hfit.1).mp hfit.2
  apply policyMap_ext
  · intro k x
    show _ ↔ s.map.waiting k = some x
    rw [waiting_iff h', waiting_iff h]
    show (_ ∧ ∃ d ∈ s.sd ++ [⟨0, slid, spid⟩], _) ↔ _
    rw [exists_mem_concat]
    constructor
    · rintro ⟨hk, hd | ⟨hzero, -⟩⟩
      · exact ⟨hk, hd⟩
      · exact absurd hzero.symm hk
    · rintro ⟨hk, hd⟩
      exact ⟨hk, .inl hd⟩
  · intro k x
    show _ ↔ Function.update s.map.bound spid (some slid) k = some x
    rw [bound_iff h', update_eq_some_iff, bound_iff h]
    show (_ ∧ ∃ d ∈ s.sd ++ [⟨0, slid, spid⟩], _) ↔ _
    rw [exists_mem_concat]
    constructor
    · rintro ⟨hk, ⟨d, hd, rfl, hx⟩ | ⟨rfl, hx⟩⟩
      · exact .inr ⟨hfree d hd, hk, d, hd, rfl, hx⟩
      · exact .inl ⟨rfl, congrArg some hx⟩
    · rintro (⟨rfl, hx⟩ | ⟨-, hk, hd⟩)
      · exact ⟨hfit.1, .inr ⟨rfl, Option.some.inj hx⟩⟩
      · exact ⟨hk, .inl hd⟩

/-- the table without a spid -/
def PolicyTable.without (s : PolicyTable) (spid : UInt32) : PolicyTable :=
  { s with sd := spidDataDelBySpid s.sd spid }

theorem mapInv_without (h : MapInv s) (spid : UInt32) : MapInv (s.without spid) where
  table := tableInv_del h.table spid
  spids := h.spids.sublist ((List.eraseP_sublist.filter _).map _)

theorem map_without (h : MapInv s) (hspid : spid ≠ 0) : (s.without spid).map = s.map.remove spid := by
  have h' := mapInv_without h spid
  have hmem : ∀ d, d ∈ (s.without spid).sd ↔ d ∈ s.sd ∧ d.spid ≠ spid :=
    mem_eraseP_iff (f := SpidData.spid) h.spids hspid
  apply policyMap_ext
  · intro k x
    show _ ↔ s.map.waiting k = some x
    rw [waiting_iff h', waiting_iff h]
    constructor
    · rintro ⟨hk, d, hd, hdk⟩
      exact ⟨hk, d, ((hmem d).mp hd).1, hdk⟩
    · rintro ⟨hk, d, hd, rfl, hx⟩
      -- a record that waits has no spid
      have hzero := h.table.pending d hd hk
      exact ⟨hk, d, (hmem d).mpr ⟨hd, by rw [hzero]; exact hspid.symm⟩, rfl, hx⟩
  · intro k x
    show _ ↔ Function.update s.map.bound spid none k = some x
    rw [bound_iff h', update_eq_some_iff, bound_iff h]
    constructor
    · rintro ⟨hk, d, hd, rfl, hx⟩
      obtain ⟨hd, hne⟩ := (hmem d).mp hd
      exact .inr ⟨hne, hk, d, hd, rfl, hx⟩
    · rintro (⟨-, hnone⟩ | ⟨hne, hk, d, hd, rfl, hx⟩)
      · cases hnone
      · exact ⟨hk, d, (hmem d).mpr ⟨hd, hne⟩, rfl, hx⟩

end

/-! ## a reply -/

section
variable {s : PolicyTable} {seq spid : UInt32} {slid : Bytes}

theorem reply_bound_sd (hup : spidDataUpdate s.sd seq spid
      = (.bound, bindSeq seq spid (spidDataDelBySpid s.sd spid))) :
    (s.reply seq spid).sd = bindSeq seq spid (s.without spid).sd := by
  show (spidDataUpdate s.sd seq spid).2 = _
  rw [hup]
  rfl

theorem mapInv_reply (h : MapInv s) (seq spid : UInt32) : MapInv (s.reply seq spid) := by
  refine ⟨tableInv_reply h.table seq spid, ?_⟩
  obtain ⟨hup, -⟩ | ⟨hup, -⟩ | ⟨hup, hseq, hspid, -⟩ := spidDataUpdate_cases h.table.pending seq spid
  · show (usedKeys SpidData.spid (spidDataUpdate s.sd seq spid).2).Nodup
    rw [hup]
    exact h.spids
  · show (usedKeys SpidData.spid (spidDataUpdate s.sd seq spid).2).Nodup
    rw [hup]
    exact h.spids
  · rw [reply_bound_sd hup]
    have hwithout := mapInv_without h spid
    refine usedKeys_bindSeq hwithout.spids ?_ hspid ?_
    · exact fun d hd => ((mem_eraseP_iff (f := SpidData.spid) h.spids hspid d).mp hd).2
    · exact fun d hd heq => hwithout.table.pending d hd (by rw [heq]; exact hseq)

/-- a reply that finds its request -/
theorem map_reply_bound (h : MapInv s) (hup : spidDataUpdate s.sd seq spid
      = (.bound, bindSeq seq spid (spidDataDelBySpid s.sd spid)))
    (hseq : seq ≠ 0) (hspid : spid ≠ 0) (hwait : s.map.waiting seq = some slid) :
    (s.reply seq spid).map
      = ⟨Function.update s.map.waiting seq none, Function.update s.map.bound spid (some slid)⟩ := by
  have h' := mapInv_reply h seq spid
  have hwithout := mapInv_without h spid
  have hmap := map_without h hspid
  have hwaiting : (s.without spid).map.waiting = s.map.waiting := by
    rw [hmap]
    rfl
  have hbound : (s.without spid).map.bound = Function.update s.map.bound spid none := by
    rw [hmap]
    rfl
  have hmem : ∀ d, d ∈ (s.reply seq spid).sd ↔ (d ∈ (s.without spid).sd ∧ d.seq ≠ seq)
      ∨ ∃ d₀ ∈ (s.without spid).sd, d₀.seq = seq ∧ d = { d₀ with spid := spid, seq := 0 } := by
    rw [reply_bound_sd hup]
    exact mem_bindSeq_iff hwithout.table.distinct hseq
  apply policyMap_ext
  · intro k x
    show _ ↔ Function.update s.map.waiting seq none k = some x
    rw [waiting_iff h', update_eq_some_iff, ← hwaiting, waiting_iff hwithout]
    constructor
    · rintro ⟨hk, d, hd, rfl, hx⟩
      rcases (hmem d).mp hd with ⟨hd, hne⟩ | ⟨d₀, -, -, rfl⟩
      · exact .inr ⟨hne, hk, d, hd, rfl, hx⟩
      · exact absurd rfl hk
    · rintro (⟨-, hnone⟩ | ⟨hne, hk, d, hd, rfl, hx⟩)
      · cases hnone
      · exact ⟨hk, d, (hmem d).mpr (.inl ⟨hd, hne⟩), rfl, hx⟩
  · -- the records with a spid are those that had one, and the one that waited
    intro k x
    show _ ↔ Function.update s.map.bound spid (some slid) k = some x
    rw [bound_iff h', update_eq_some_iff]
    have hrest : k ≠ spid → (s.map.bound k = some x ↔ (s.without spid).map.bound k = some x) := by
      intro hne
      rw [hbound, Function.update_of_ne hne]
    obtain ⟨-, dw, hdw, hdwseq, hdwslid⟩ := (waiting_iff hwithout).mp (hwaiting ▸ hwait)
    constructor
    · rintro ⟨hk, d, hd, rfl, hx⟩
      rcases (hmem d).mp hd with ⟨hd, hne⟩ | ⟨d₀, hd₀, hd₀seq, rfl⟩
      · have hneq : d.spid ≠ spid := ((mem_eraseP_iff (f := SpidData.spid) h.spids hspid d).mp hd).2
        exact .inr ⟨hneq, (hrest hneq).mpr ((bound_iff hwithout).mpr ⟨hk, d, hd, rfl, hx⟩)⟩
      · have hslid : s.map.waiting seq = some d₀.slid := by
          rw [← hwaiting]
          exact (waiting_iff hwithout).mpr ⟨hseq, d₀, hd₀, hd₀seq, rfl⟩
        exact .inl ⟨rfl, (hwait.symm.trans hslid).trans (congrArg some hx)⟩
    · rintro (⟨rfl, hx⟩ | ⟨hne, hb⟩)
      · exact ⟨hspid, { dw with spid := k, seq := 0 }, (hmem _).mpr (.inr ⟨dw, hdw, hdwseq, rfl⟩), rfl,
          hdwslid.trans (Option.some.inj hx)⟩
      · obtain ⟨hk, d, hd, rfl, hx⟩ := (bound_iff hwithout).mp ((hrest hne).mp hb)
        have hdseq : d.seq ≠ seq := fun heq =>
          hk (hwithout.table.pending d hd (by rw [heq]; exact hseq))
        exact ⟨hk, d, (hmem d).mpr (.inl ⟨hd, hdseq⟩), rfl, hx⟩

/-- `spid_data_update`, and whether it binds -/
theorem map_reply (h : MapInv s) (seq spid : UInt32) :
    (s.reply seq spid).map = s.map.reply seq spid
      ∧ ((spidDataUpdate s.sd seq spid).1 = .bound ↔ s.map.expects seq spid) := by
  have hsame : (spidDataUpdate s.sd seq spid).2 = s.sd → (s.reply seq spid).map = s.map := by
    intro hsd
    unfold PolicyTable.map PolicyTable.reply
    rw [hsd]
  unfold PolicyMap.reply PolicyMap.expects
  obtain ⟨hup, hzero⟩ | ⟨hup, hno⟩ | ⟨hup, hseq, hspid, d, hd, hdseq⟩ :=
    spidDataUpdate_cases h.table.pending seq spid
  · rw [if_pos hzero, hsame (by rw [hup]), hup]
    refine ⟨rfl, fun heq => (by cases heq), fun hexp => ?_⟩
    rcases hzero with hz | hz
    · exact absurd hz hexp.1
    · exact absurd hz hexp.2.1
  · rw [hsame (by rw [hup]), hup]
    by_cases hzero : seq = 0 ∨ spid = 0
    · rw [if_pos hzero]
      refine ⟨rfl, fun heq => (by cases heq), fun hexp => ?_⟩
      rcases hzero with hz | hz
      · exact absurd hz hexp.1
      · exact absurd hz hexp.2.1
    · have hnone : s.map.waiting seq = none :=
        (waiting_none_iff h (not_or.mp hzero).1).mpr hno
      rw [if_neg hzero, hnone]
      exact ⟨rfl, fun heq => (by cases heq), fun hexp => absurd rfl hexp.2.2⟩
  · have hwait : s.map.waiting seq = some d.slid := (waiting_iff h).mpr ⟨hseq, d, hd, hdseq, rfl⟩
    rw [if_neg (not_or.mpr ⟨hseq, hspid⟩), map_reply_bound h hup hseq hspid hwait, hup, hwait]
    exact ⟨rfl, fun _ => ⟨hseq, hspid, fun hnone => (by cases hnone)⟩, fun _ => rfl⟩

/-! ## runs -/

variable {Addr : Type} {sels : List (PolicySel Addr)}

theorem handleExternal_refines (h : MapInv s) (spid reqid : UInt32)
    (hfit : (externalSel sels reqid).isSome = true → AdoptFits s spid) :
    MapInv (s.handleExternal sels spid reqid)
      ∧ (s.handleExternal sels spid reqid).map
        = (externalSel sels reqid).elim s.map fun sl => s.map.adopt spid sl.index := by
  unfold PolicyTable.handleExternal
  cases hsel : externalSel sels reqid with
  | none => exact ⟨h, rfl⟩
  | some sl =>
    have hfit := hfit (by rw [hsel]; rfl)
    exact ⟨mapInv_adopt h hfit sl.index, map_adopt h hfit sl.index⟩

/-- a reply that binds nothing leaves the list -/
theorem reply_unbound (h : MapInv s) (hno : (spidDataUpdate s.sd seq spid).1 ≠ .bound) :
    (s.reply seq spid).sd = s.sd := by
  show (spidDataUpdate s.sd seq spid).2 = s.sd
  obtain ⟨hup, -⟩ | ⟨hup, -⟩ | ⟨hup, -⟩ := spidDataUpdate_cases h.table.pending seq spid
  · rw [hup]
  · rw [hup]
  · rw [hup] at hno
    exact absurd rfl hno

theorem handleExternal_seq (spid reqid : UInt32) : (s.handleExternal sels spid reqid).seq = s.seq := by
  unfold PolicyTable.handleExternal
  split
  · rfl
  · rfl

variable [DecidableEq Addr]

/-- no callback draws a number -/
theorem callback_seq (c : PolicyCall Addr) : (s.callback sels c).seq = s.seq := by
  cases c with
  | spdadd event seq spid reqid =>
    show (s.spdaddCb sels event seq spid reqid).seq = s.seq
    unfold PolicyTable.spdaddCb
    split
    · exact handleExternal_seq spid reqid
    split
    · rfl
    · exact handleExternal_seq spid reqid
  | spdupdate event seq spid =>
    show (if event then s else s.reply seq spid).seq = s.seq
    split
    · rfl
    · rfl
  | spddelete spid => rfl
  | spddelete2 spid => rfl
  | spdexpire spid => rfl
  | spddump spid p =>
    unfold PolicyTable.callback
    dsimp only
    split
    · rfl
    split
    · rfl
    · rfl

/-- one callback -/
theorem callback_refines (h : MapInv s) (c : PolicyCall Addr) (hfit : AtomFits sels s (.call c)) :
    MapInv (s.callback sels c) ∧ (s.callback sels c).map = s.map.callback sels c := by
  cases c with
  | spdadd event seq spid reqid =>
    have hreply := map_reply h seq spid
    show MapInv (s.spdaddCb sels event seq spid reqid) ∧ (s.spdaddCb sels event seq spid reqid).map
      = if event = false ∧ s.map.expects seq spid then s.map.reply seq spid
        else (externalSel sels reqid).elim s.map fun sl => s.map.adopt spid sl.index
    unfold PolicyTable.spdaddCb
    cases event with
    | true =>
      rw [if_pos rfl, if_neg fun hexp => (by cases hexp.1)]
      exact handleExternal_refines h spid reqid (hfit (.inl rfl))
    | false =>
      rw [if_neg Bool.false_ne_true]
      by_cases hbound : (spidDataUpdate s.sd seq spid).1 = .bound
      · rw [if_pos hbound, if_pos ⟨rfl, hreply.2.mp hbound⟩]
        exact ⟨mapInv_reply h seq spid, hreply.1⟩
      · rw [if_neg hbound, if_neg fun hexp => hbound (hreply.2.mpr hexp.2)]
        have hsd := reply_unbound h hbound
        have hmap : (s.reply seq spid).map = s.map := by
          unfold PolicyTable.map
          rw [hsd]
        rw [← hmap]
        refine handleExternal_refines (mapInv_reply h seq spid) spid reqid fun hsel => ?_
        have hadopt := hfit (.inr hbound) hsel
        unfold AdoptFits
        rw [hsd]
        exact hadopt
  | spdupdate event seq spid =>
    show MapInv (if event then s else s.reply seq spid) ∧ (if event then s else s.reply seq spid).map
      = if event then s.map else s.map.reply seq spid
    cases event with
    | true => exact ⟨h, rfl⟩
    | false => exact ⟨mapInv_reply h seq spid, (map_reply h seq spid).1⟩
  | spddelete spid => exact ⟨mapInv_without h spid, map_without h hfit⟩
  | spddelete2 spid => exact ⟨mapInv_without h spid, map_without h hfit⟩
  | spdexpire spid => exact ⟨mapInv_without h spid, map_without h hfit⟩
  | spddump spid p =>
    unfold PolicyTable.callback PolicyMap.callback
    dsimp only
    by_cases hspid : spid = 0
    · rw [if_pos hspid, if_pos hspid]
      exact ⟨h, rfl⟩
    · rw [if_neg hspid, if_neg hspid]
      cases hsync : rsyncSlid sels p with
      | none => exact ⟨h, rfl⟩
      | some slid =>
        have hfit := hfit hspid (by rw [hsync]; rfl)
        exact ⟨mapInv_adopt h hfit slid, map_adopt h hfit slid⟩

/-- one atom -/
theorem abs_atomStep (h : MapInv s) (a : PolicyAtom Addr) (hfit : AtomFits sels s a) :
    MapInv (s.atomStep sels a) ∧ (s.atomStep sels a).view = s.view.atomStep sels a := by
  cases a with
  | request slid =>
    refine ⟨mapInv_request h slid, ?_⟩
    show PolicyView.mk (s.request slid).map _ = _
    rw [map_request h slid]
    rfl
  | call c =>
    obtain ⟨hinv, hmap⟩ := callback_refines h c hfit
    refine ⟨hinv, ?_⟩
    show PolicyView.mk (s.callback sels c).map (s.callback sels c).seq = _
    rw [hmap, callback_seq]
    rfl
  | draw => exact ⟨⟨⟨h.table.pending, h.table.distinct, h.table.unanswered, h.table.known⟩, h.spids⟩, rfl⟩

theorem mapInv_start : MapInv .start := ⟨tableInv_start, List.nodup_nil⟩

end

/-- in every run whose adoptions are of new spids, however the replies and reports of the kernel come
between and inside the requests, the list answers as the two maps do -/
theorem spid_table_refines {Addr : Type} [DecidableEq Addr] (sels : List (PolicySel Addr))
    (es : List (PolicyEvent Addr))
    (h : Run.Meets (PolicyTable.atomStep sels) (AtomFits sels) .start
      (es.flatMap PolicyEvent.atoms)) :
    (es.foldl (PolicyTable.step sels) .start).view
      = (es.flatMap PolicyEvent.atoms).foldl (PolicyView.atomStep sels) ⟨.empty, 0⟩ := by
  have hstart : PolicyTable.view .start = ⟨.empty, 0⟩ := by
    show PolicyView.mk (PolicyTable.map .start) 0 = _
    congr 1
    apply policyMap_ext
    · intro k x
      rw [waiting_iff mapInv_start]
      exact ⟨fun ⟨_, d, hd, _⟩ => (by cases hd), fun hs => (by cases hs)⟩
    · intro k x
      rw [bound_iff mapInv_start]
      exact ⟨fun ⟨_, d, hd, _⟩ => (by cases hd), fun hs => (by cases hs)⟩
  have hstep : ∀ s a, MapInv s → AtomFits sels s a → MapInv (s.atomStep sels a)
      ∧ (s.atomStep sels a).view = s.view.atomStep sels a := fun s a hs ha => abs_atomStep hs a ha
  rw [run_eq_atoms, ← hstart]
  exact Run.foldl_refines hstep _ _ mapInv_start h

/-- a request whose reply brings the spid 5, and a policy of another program with the spid 9 -/
theorem spid_table_refines_reply_and_adoption :
    let sels : List (PolicySel Nat) := [⟨[98], true, false, 7, .inbound, none, none⟩]
    let es : List (PolicyEvent Nat) :=
      [.update [97] [.spdadd false 1 5 0] none, .call (.spdadd true 0 9 7)]
    let v := (es.foldl (PolicyTable.step sels) .start).view
    v.map.waiting 1 = none ∧ v.map.bound 5 = some [97] ∧ v.map.bound 9 = some [98] := by
  intro sels es v
  have hmeets : Run.Meets (PolicyTable.atomStep sels) (AtomFits sels) .start
      (es.flatMap PolicyEvent.atoms) := by
    refine ⟨trivial, fun _ hsel => ?_, fun _ _ => ⟨?_, rfl⟩, trivial⟩
    · cases hsel
    · decide
  have hview : v = _ := spid_table_refines sels es hmeets
  rw [hview]
  exact ⟨rfl, rfl, rfl⟩

end Spmd
