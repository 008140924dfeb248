import Racoon2.Iked.Deprecated
import Racoon2.Iked.ProposalWire
import Racoon2.Iked.ResumeRecord
import Racoon2.Lib.Run

/-!
# IKE SAs and deprecated transforms

An IKE SA gets its suite by matching (IKE_SA_INIT and rekeying, both ends), from a ticket (both ends)
or from a dump after a restart.  The first filters the peer's proposals, the other two ask
`ikev2_isakmpsa_deprecated_refused`.

* `IsakmpSa.refusedBy`                one of the methods is refused by a configuration;
* `isakmpsaDeprecatedRefused`         the check, which knows one additional key exchange only;
* `findMatchIkesa_allowed`            a match selects nothing that is refused;
* `deprStep`                          the SAs in use, with the configuration of their remotes;
* `no_refused_method_in_use`          runs in which no SA in use has a refused method.

`restore_one` has given its `conf` away by the time it asks, and asks with NULL.
-/

set_option linter.unusedVariables false

namespace Ikev2
open Bytes

/-! ## the check -/

/-- the methods of a suite with their transform types -/
def IsakmpSa.methods (sa : IsakmpSa) : List (Nat × Nat) :=
  [(deprEncr, sa.encr), (deprPrf, sa.prf), (deprInteg, sa.integr), (deprKe, sa.dhdef.getD 0)]
    ++ (List.range sa.addkeNrounds).map fun r => (transformAddke + r, sa.method r)

section
variable (dflt rm : Option Kmp)

def methodRefused (m : Nat × Nat) : Bool := (deprRefused dflt rm .ike m.1 m.2).any

/-- a configuration refuses one of the methods -/
def IsakmpSa.refusedBy (sa : IsakmpSa) : Bool := sa.methods.any (methodRefused dflt rm)

/-- the five of `ikev2_isakmpsa_deprecated_refused` -/
def IsakmpSa.checked (sa : IsakmpSa) : List (Nat × Nat) :=
  [(deprEncr, sa.encr), (deprPrf, sa.prf), (deprInteg, sa.integr), (deprKe, sa.dhdef.getD 0),
    (transformAddke, sa.addke)]

/-- `ikev2_isakmpsa_deprecated_refused` -/
def isakmpsaDeprecatedRefused (sa : IsakmpSa) : Bool :=
  sa.checked.any fun m => m.2 != 0 && methodRefused dflt rm m

/-- a method of ADDKE2 to ADDKE7 is refused -/
def IsakmpSa.laterRefused (sa : IsakmpSa) : Bool :=
  (List.range sa.addkeNrounds).any fun r =>
    r != 0 && methodRefused dflt rm (transformAddke + r, sa.method r)

end

section
variable {dflt rm : Option Kmp}

theorem classify_foldl_zero (ctx : DeprCtx) (type : Nat) (table : List DeprEntry)
    (h : ∀ e ∈ table, e.id ≠ 0) (classes : DeprClasses) :
    table.foldl (fun classes e =>
      if e.type = deprType type ∧ e.id = 0 ∧ ctx ∈ e.ctxs then
        ⟨classes.nsa || e.classes.nsa, classes.rfc || e.classes.rfc⟩
      else classes) classes = classes := by
  induction table with
  | nil => rfl
  | cons e table ih =>
    rw [List.foldl_cons, if_neg (fun hand => h e List.mem_cons_self hand.2.1)]
    exact ih fun e' he => h e' (List.mem_cons_of_mem _ he)

/-- no row of the table is for the id 0 -/
theorem methodRefused_zero (type : Nat) : methodRefused dflt rm (type, 0) = false := by
  have hclasses : deprClassify .ike type 0 = ⟨false, false⟩ :=
    classify_foldl_zero .ike type deprTable (by decide) _
  unfold methodRefused deprRefused
  rw [hclasses]
  rfl

theorem not_checked {sa : IsakmpSa} (h : isakmpsaDeprecatedRefused dflt rm sa = false) :
    ∀ m ∈ sa.checked, methodRefused dflt rm m = false := by
  intro m hm
  have hm' := List.any_eq_false.mp h m hm
  by_cases hzero : m.2 = 0
  · obtain ⟨type, id⟩ := m
    rw [show id = 0 from hzero]
    exact methodRefused_zero type
  · simpa [hzero] using hm'

/-- a suite that passes the check, and has no refused method that the check does not look at -/
theorem refusedBy_of_checked {sa : IsakmpSa} (hmirror : sa.addke = sa.method 0)
    (hchecked : isakmpsaDeprecatedRefused dflt rm sa = false)
    (hlater : sa.laterRefused dflt rm = false) : sa.refusedBy dflt rm = false := by
  have hfive := not_checked hchecked
  unfold IsakmpSa.refusedBy
  rw [List.any_eq_false]
  intro m hm
  rw [Bool.not_eq_true]
  rcases List.mem_append.mp hm with hm | hm
  · exact hfive m (List.mem_append_left [(transformAddke, sa.addke)] hm)
  · obtain ⟨r, hr, rfl⟩ := List.mem_map.mp hm
    cases r with
    | zero =>
      rw [← hmirror]
      exact hfive _ (by simp [IsakmpSa.checked])
    | succ r =>
      have hround := List.any_eq_false.mp hlater (r + 1) hr
      simpa using hround

end

/-! ## matching -/

section
variable {dflt rm : Option Kmp} {groups : List Nat}

/-- what the filter leaves to the matcher -/
theorem filterDeprecated_allowed {refused : Nat → Nat → Nat → Bool} {peers : PeerList}
    {p : PeerProposal} {q : PeerProto} (hp : p ∈ (peers.filterDeprecated refused).proposals)
    (hq : q ∈ p.protos) : ∀ g ∈ q.groups, ∀ t ∈ g.alternatives,
      refused q.protocol g.type t.id = false := by
  have hmem : (p.number, p.plain) ∈ (filterProplist refused peers.plain [] 0).1 := by
    rw [PeerList.filterDeprecated_plain]
    exact List.mem_map_of_mem hp
  obtain ⟨p', -, -, -, hplain⟩ := mem_filterProplist.mp hmem
  have hproto : q.toProto ∈ p'.plain.map (Proto.allowed refused) := by
    rw [← hplain]
    exact List.mem_map_of_mem hq
  obtain ⟨q', -, hq'⟩ := List.mem_map.mp hproto
  intro g hg t ht
  have hprotocol : q'.protocol = q.protocol := by
    show (q'.allowed refused).protocol = q.protocol
    rw [hq']
  have hallowed := @Proto.allowed_not_refused refused q' g
  rw [hq', hprotocol] at hallowed
  exact hallowed hg t ht

/-- a selected transform has an id that the peer offers for its type -/
theorem Selection.offered {mine peers : List Group} {ts : List Selected}
    (h : Selection mine peers ts) {s : Selected} (hs : s ∈ ts) :
    ∃ g ∈ peers, g.type = s.type ∧ ∃ t ∈ g.alternatives, t.id = s.transform.id := by
  rcases h.origin s hs with ⟨m, -, g, hg, -, htype, _, _, -, ⟨t, ht, hid, -⟩, -⟩
    | ⟨-, -, g, hg, htype, hhead⟩
  · exact ⟨g, hg, htype, t, ht, hid.symm⟩
  · exact ⟨g, hg, htype, s.transform, List.mem_of_mem_head? hhead, rfl⟩

/-- the method of a type among transforms that are not refused -/
theorem idOr_not_refused {ts : List Selected}
    (h : ∀ s ∈ ts, methodRefused dflt rm (s.type, s.transform.id) = false) (type : Nat) :
    methodRefused dflt rm (type, idOr ts type 0) = false := by
  unfold idOr selectedOf
  cases hfind : ts.find? (·.type == type) with
  | none => exact methodRefused_zero type
  | some s =>
    have htype : s.type = type := by simpa using List.find?_some hfind
    rw [← htype]
    exact h s (List.mem_of_find?_eq_some hfind)

/-- the suite of transforms that are not refused -/
theorem proppairToIsakmpsa_allowed {ts : List Selected} {number : Nat} {sa : IsakmpSa}
    (hdistinct : (ts.map Selected.type).Nodup)
    (h : ∀ s ∈ ts, methodRefused dflt rm (s.type, s.transform.id) = false)
    (hsa : proppairToIsakmpsa groups number ts = some sa) : sa.refusedBy dflt rm = false := by
  have hfrom := proppairToIsakmpsa_from hdistinct hsa
  have hrec := (proppairToIsakmpsa_recorded hdistinct hsa).2
  have hid := idOr_not_refused h
  have hdh : methodRefused dflt rm (deprKe, sa.dhdef.getD 0) = false := by
    rw [hfrom.dhdef]
    cases hsel : selectedOf transformDh ts with
    | none => exact methodRefused_zero deprKe
    | some t =>
      show methodRefused dflt rm (deprKe, (dhinfo groups t.id).getD 0) = false
      unfold dhinfo
      cases hfind : groups.find? (· == t.id) with
      | none => exact methodRefused_zero deprKe
      | some id =>
        have hsame : id = t.id := by simpa using List.find?_some hfind
        have hdh := hid transformDh
        unfold idOr at hdh
        rw [hsel] at hdh
        rw [hsame]
        exact hdh
  unfold IsakmpSa.refusedBy
  rw [List.any_eq_false]
  intro m hm
  rw [Bool.not_eq_true]
  rcases List.mem_append.mp hm with hm | hm
  · simp only [List.mem_cons, List.not_mem_nil, or_false] at hm
    rcases hm with rfl | rfl | rfl | rfl
    · rw [hfrom.encr]
      exact hid transformEncr
    · rw [hfrom.prf]
      exact hid transformPrf
    · rw [hfrom.integr]
      exact hid transformIntegr
    · exact hdh
  · obtain ⟨r, hr, rfl⟩ := List.mem_map.mp hm
    have hle : highestRound ts ≤ 7 := highestRound_le_iff.mpr fun s _ => roundOf_le s.type
    rw [List.mem_range, hrec.nrounds] at hr
    rw [hrec.methods r (by omega)]
    exact hid (transformAddke + r)

/-- `ikev2_find_match_ikesa` selects nothing that its configuration refuses -/
theorem findMatchIkesa_allowed {conf : Option IkeConf} {peers : PeerList}
    {rekey allowInitAddke : Bool} {sa : IsakmpSa}
    (h : (findMatchIkesa groups (transformRefused dflt rm) conf peers rekey allowInitAddke).1
      = some sa) : sa.refusedBy dflt rm = false := by
  obtain ⟨c, -, p, hp, q, hq, hprotocol, -, hsel, hsa⟩ := findMatchIkesa_matched h
  have hallowed := filterDeprecated_allowed hp (hq ▸ List.mem_singleton_self q)
  rw [hprotocol] at hallowed
  apply proppairToIsakmpsa_allowed hsel.one_per_type _ hsa
  intro s hs
  obtain ⟨g, hg, htype, t, ht, hid⟩ := hsel.offered hs
  rw [← htype, ← hid]
  exact hallowed g hg t ht

end

/-! ## tickets and dumps -/

/-- the suite of a ticket: the first proposal that `ikev2_parse_sa` finds in its SAr -/
def ticketSa (groups : List Nat) (sar : Bytes) : Option IsakmpSa :=
  match parseSa 0 sar with
  | none => none
  | some array =>
    ((List.range' 1 255).find? fun number => !(array number).isEmpty).bind (parsedSa groups 0 sar)

/-- the suite of a dump as an SA: it has no additional key exchange -/
def IkeSuite.isakmpsa (s : IkeSuite) : IsakmpSa where
  propNo := 0
  encr := s.encr
  encrklen := s.encrklen
  prf := s.prf
  integr := s.integr
  dhdef := if s.dhId = 0 then none else some s.dhId

section
variable {groups : List Nat}

/-- `addke` holds the method of the first round -/
theorem record_mirror (ts : List Selected) : ∀ (sa : IsakmpSa) {sa' : IsakmpSa},
    sa.addkeMethods.length = 8 → sa.addke = sa.method 0 → sa.record groups ts = some sa' →
      sa'.addke = sa'.method 0 := by
  induction ts with
  | nil =>
    intro sa sa' _ hmirror h
    cases h
    exact hmirror
  | cons s ss ih =>
    intro sa sa' hslots hmirror h
    unfold IsakmpSa.record at h
    cases hone : (sa.recordType groups s).bind fun sa => sa.recordAttrs s with
    | none =>
      rw [hone] at h
      cases h
    | some next =>
      rw [hone] at h
      obtain ⟨mid, hmid, hnext⟩ := Option.bind_eq_some_iff.mp hone
      have hkept : mid.addkeMethods.length = 8 ∧ mid.addke = mid.method 0 := by
        rcases recordType_cases hmid with ⟨-, rfl⟩ | ⟨-, rfl⟩ | ⟨-, rfl⟩ | ⟨-, rfl⟩ | ⟨haddke, rfl⟩
        · exact ⟨hslots, hmirror⟩
        · exact ⟨hslots, hmirror⟩
        · exact ⟨hslots, hmirror⟩
        · exact ⟨hslots, hmirror⟩
        · refine ⟨(List.length_set ..).trans hslots, ?_⟩
          rw [method_recordAddke sa _ _ 0 hslots haddke, ← hmirror]
          have hbound := isAddke_iff.mp haddke
          show (if s.type = transformAddke then s.transform.id else sa.addke) = _
          by_cases htype : s.type = transformAddke
          · rw [if_pos htype, if_pos (by omega)]
          · rw [if_neg htype, if_neg (by omega)]
      have hrest : next.addkeMethods.length = 8 ∧ next.addke = next.method 0 := by
        rcases recordAttrs_cases hnext with rfl | rfl
        · exact hkept
        · exact hkept
      exact ih next hrest.1 hrest.2 h

theorem ticketSa_mirror {sar : Bytes} {sa : IsakmpSa} (h : ticketSa groups sar = some sa) :
    sa.addke = sa.method 0 := by
  unfold ticketSa at h
  split at h
  · cases h
  obtain ⟨number, -, hparsed⟩ := Option.bind_eq_some_iff.mp h
  unfold parsedSa at hparsed
  split at hparsed
  · cases hparsed
  · split at hparsed
    · cases hparsed
    · exact record_mirror _ _ rfl rfl hparsed

/-- the suite of a restored SA has passed the check -/
theorem restoreRecord_suite {env : ResumeEnv} {rec : R2rsSa} {sa : ResumeSa}
    (h : restoreRecord env rec = some sa) : sa.negotiated = some (restoreSuite env rec.suite)
      ∧ env.deprecatedRefused (restoreSuite env rec.suite) = false := by
  cases hv : r2rsValidate rec with
  | false =>
    unfold restoreRecord at h
    rw [hv, if_pos rfl] at h
    cases h
  | true =>
    obtain ⟨-, -, hsuite, here, there, children, -, -, -, rfl⟩ := (restoreRecord_eq_some hv).mp h
    exact ⟨rfl, hsuite.1⟩

end

/-! ## the SAs in use -/

/-- `struct rcf_remote`; the default clause has no index -/
structure RcfRemote where
  isDefault : Bool
  ikev2 : Option Kmp
  own : Option IkeConf

/-- the configuration: the `ikev2` part of its default clause, and its remotes by their indices -/
structure RcfConf where
  dflt : Option Kmp
  remotes : Bytes → Option RcfRemote

structure UsedSa where
  remote : RcfRemote
  suite : IsakmpSa

structure IkeSas where
  conf : RcfConf
  sas : List UsedSa

def IkeSas.add (s : IkeSas) (remote : RcfRemote) (suite : Option IsakmpSa) : IkeSas :=
  match suite with
  | none => s
  | some sa => { s with sas := s.sas ++ [⟨remote, sa⟩] }

/-- what `restore_one` finds; `conf` is NULL when it asks for deprecated transforms -/
def RcfConf.resumeEnv (c : RcfConf) (groups : List Nat) (env : ResumeEnv) : ResumeEnv :=
  { env with
    remoteKnown := fun index => (c.remotes index).isSome
    dhKnown := fun id => (dhinfo groups id).isSome
    deprecatedRefused := fun suite => isakmpsaDeprecatedRefused c.dflt none suite.isakmpsa }

/-- an exchange, or a part of the daemon's life, that goes well but for the suite -/
inductive SuiteEvent where
  /-- IKE_SA_INIT of either end, with the remote that was found by its address -/
  | saInit (remote : RcfRemote) (peers : PeerList) (allowInitAddke : Bool)
  /-- CREATE_CHILD_SA of either end that rekeys an SA -/
  | rekey (old : Nat) (peers : PeerList)
  /-- IKE_SESSION_RESUME of either end -/
  | ticket (remote : RcfRemote) (sar : Bytes)
  | restore (env : ResumeEnv) (rec : R2rsSa)
  /-- IKE_AUTH finds another remote by the peer's identity -/
  | identified (sa : Nat) (remote : RcfRemote)
  | deleted (sa : Nat)
  | restart (conf : RcfConf)

/-- IKE_AUTH only replaces the default clause -/
def UsedSa.identify (remote : RcfRemote) (u : UsedSa) : UsedSa :=
  if u.remote.isDefault then { u with remote := remote } else u

def deprStep (groups : List Nat) (s : IkeSas) : SuiteEvent → IkeSas
  | .saInit remote peers allowInitAddke =>
    s.add remote (findMatchIkesa groups (transformRefused s.conf.dflt remote.ikev2) remote.own peers
      false allowInitAddke).1
  | .rekey old peers =>
    match s.sas[old]? with
    | none => s
    | some u =>
      s.add u.remote (findMatchIkesa groups (transformRefused s.conf.dflt u.remote.ikev2)
        u.remote.own peers true false).1
  | .ticket remote sar =>
    match ticketSa groups sar with
    | none => s
    | some sa =>
      if isakmpsaDeprecatedRefused s.conf.dflt remote.ikev2 sa then s else s.add remote (some sa)
  | .restore env rec =>
    match s.conf.remotes (cString rec.rmIndex), restoreRecord (s.conf.resumeEnv groups env) rec with
    | some remote, some sa => s.add remote (sa.negotiated.map IkeSuite.isakmpsa)
    | _, _ => s
  | .identified sa remote => { s with sas := s.sas.modify sa (UsedSa.identify remote) }
  | .deleted sa => { s with sas := s.sas.eraseIdx sa }
  | .restart conf => ⟨conf, []⟩

/-- the configuration of the remote allows every method of every SA in use -/
def NoneRefused (s : IkeSas) : Prop :=
  ∀ u ∈ s.sas, u.suite.refusedBy s.conf.dflt u.remote.ikev2 = false

/-- A refused method of a later round comes with one that the check sees; the default clause refuses
a dump that its remote refuses; and a remote that is found by the peer's identity does not refuse
what the default clause allowed. -/
def DeprMeets (groups : List Nat) (s : IkeSas) : SuiteEvent → Prop
  | .ticket remote sar => ∀ sa, ticketSa groups sar = some sa →
      sa.laterRefused s.conf.dflt remote.ikev2 = true →
        isakmpsaDeprecatedRefused s.conf.dflt remote.ikev2 sa = true
  | .restore env rec => ∀ remote, s.conf.remotes (cString rec.rmIndex) = some remote →
      (restoreSuite (s.conf.resumeEnv groups env) rec.suite).isakmpsa.refusedBy s.conf.dflt
          remote.ikev2 = true →
        isakmpsaDeprecatedRefused s.conf.dflt none
          (restoreSuite (s.conf.resumeEnv groups env) rec.suite).isakmpsa = true
  | .identified sa remote => ∀ u, s.sas[sa]? = some u → u.remote.isDefault = true →
      u.suite.refusedBy s.conf.dflt remote.ikev2 = false
  | _ => True

section
variable {groups : List Nat} {s : IkeSas}

theorem NoneRefused.add (h : NoneRefused s) {remote : RcfRemote} {suite : Option IsakmpSa}
    (hsuite : ∀ sa, suite = some sa → sa.refusedBy s.conf.dflt remote.ikev2 = false) :
    NoneRefused (s.add remote suite) := by
  cases suite with
  | none => exact h
  | some sa =>
    intro u hu
    rcases List.mem_append.mp hu with hu | hu
    · exact h u hu
    · rw [List.mem_singleton.mp hu]
      exact hsuite sa rfl

theorem ticket_noneRefused (h : NoneRefused s) {remote : RcfRemote} {sar : Bytes}
    (hmeets : DeprMeets groups s (.ticket remote sar)) :
    NoneRefused (deprStep groups s (.ticket remote sar)) := by
  rw [deprStep]
  split
  · exact h
  · rename_i sa hsa
    split
    · exact h
    · rename_i hchecked
      rw [Bool.not_eq_true] at hchecked
      have hlater : sa.laterRefused s.conf.dflt remote.ikev2 = false := by
        by_contra hlater
        rw [Bool.not_eq_false] at hlater
        rw [hmeets sa hsa hlater] at hchecked
        cases hchecked
      apply h.add
      intro sa' hsa'
      rw [← Option.some.inj hsa']
      exact refusedBy_of_checked (ticketSa_mirror hsa) hchecked hlater

theorem restore_noneRefused (h : NoneRefused s) {env : ResumeEnv} {rec : R2rsSa}
    (hmeets : DeprMeets groups s (.restore env rec)) :
    NoneRefused (deprStep groups s (.restore env rec)) := by
  rw [deprStep]
  split
  · rename_i remote sa hremote hrestore
    obtain ⟨hsuite, hchecked⟩ := restoreRecord_suite hrestore
    apply h.add
    intro sa' hsa'
    rw [hsuite, Option.map_some] at hsa'
    rw [← Option.some.inj hsa']
    by_contra hrefused
    rw [Bool.not_eq_false] at hrefused
    have hasked : isakmpsaDeprecatedRefused s.conf.dflt none
        (restoreSuite (s.conf.resumeEnv groups env) rec.suite).isakmpsa = false := hchecked
    rw [hmeets remote hremote hrefused] at hasked
    cases hasked
  · exact h

theorem identified_noneRefused (h : NoneRefused s) {sa : Nat} {remote : RcfRemote}
    (hmeets : DeprMeets groups s (.identified sa remote)) :
    NoneRefused (deprStep groups s (.identified sa remote)) := by
  intro u hu
  obtain ⟨i, hi, hget⟩ := List.mem_iff_getElem.mp hu
  have hget' : (s.sas.modify sa (UsedSa.identify remote))[i]? = some u :=
    List.getElem?_eq_some_iff.mpr ⟨hi, hget⟩
  rw [List.getElem?_modify] at hget'
  obtain ⟨old, hold, hu'⟩ := Option.map_eq_some_iff.mp hget'
  have hmem : old ∈ s.sas := List.mem_of_getElem? hold
  by_cases hsame : sa = i
  · rw [if_pos hsame] at hu'
    rw [← hu']
    unfold UsedSa.identify
    split
    · rename_i hdefault
      exact hmeets old (hsame ▸ hold) hdefault
    · exact h old hmem
  · rw [if_neg hsame] at hu'
    rw [← hu']
    exact h old hmem

/-- one event, over the ways in which an SA gets its suite -/
theorem deprStep_noneRefused (e : SuiteEvent) (h : NoneRefused s) (hmeets : DeprMeets groups s e) :
    NoneRefused (deprStep groups s e) := by
  cases e with
  | saInit remote peers allowInitAddke => exact h.add fun sa hsa => findMatchIkesa_allowed hsa
  | rekey old peers =>
    rw [deprStep]
    split
    · exact h
    · exact h.add fun sa hsa => findMatchIkesa_allowed hsa
  | ticket remote sar => exact ticket_noneRefused h hmeets
  | restore env rec => exact restore_noneRefused h hmeets
  | identified sa remote => exact identified_noneRefused h hmeets
  | deleted sa => exact fun u hu => h u (List.mem_of_mem_eraseIdx hu)
  | restart conf => exact fun u hu => (nomatch hu)

end

/-- In every run whose events meet the condition, no SA in use has a method that the configuration of
its remote refuses. -/
theorem no_refused_method_in_use (groups : List Nat) (conf : RcfConf) (events : List SuiteEvent)
    (hmeets : Run.Meets (deprStep groups) (DeprMeets groups) ⟨conf, []⟩ events) :
    ∀ s ∈ Run.states (deprStep groups) ⟨conf, []⟩ events, ∀ u ∈ s.sas,
      u.suite.refusedBy s.conf.dflt u.remote.ikev2 = false := by
  have hstep : ∀ s e, NoneRefused s → DeprMeets groups s e → NoneRefused (deprStep groups s e) :=
    fun s e => deprStep_noneRefused e
  exact Run.states_inv hstep events ⟨conf, []⟩ (fun u hu => (nomatch hu)) hmeets

def gcmRemote : RcfRemote := ⟨false, none, some gcmConf⟩

def gcmRcf : RcfConf := ⟨none, fun _ => some gcmRemote⟩

/-- an SA that is matched, one from a ticket and one from a dump -/
def threeWays : List SuiteEvent :=
  [.saInit gcmRemote twoMlkemPeer true, .ticket gcmRemote (ikesaToProposal twoMlkemSa []),
    .restore openEnv plainDump]

theorem three_ways_in_use : ∃ s ∈ Run.states (deprStep [14, 31]) ⟨gcmRcf, []⟩ threeWays,
    s.sas.length = 3 ∧ ∀ u ∈ s.sas, u.suite.refusedBy s.conf.dflt u.remote.ikev2 = false := by
  have hmeets : Run.Meets (deprStep [14, 31]) (DeprMeets [14, 31]) ⟨gcmRcf, []⟩ threeWays := by
    refine ⟨trivial, ?_, ?_, trivial⟩
    · intro sa hsa hlater
      have hticket : ticketSa [14, 31] (ikesaToProposal twoMlkemSa []) = some twoMlkemSa := by
        decide +kernel
      rw [← Option.some.inj (hticket.symm.trans hsa)] at hlater
      exact absurd hlater (by decide +kernel)
    · intro remote hremote hrefused
      rw [← Option.some.inj hremote] at hrefused
      exact absurd hrefused (by decide +kernel)
  have hlast := @Run.foldl_mem_states IkeSas SuiteEvent (deprStep [14, 31]) threeWays ⟨gcmRcf, []⟩
  exact ⟨_, hlast, by decide +kernel,
    no_refused_method_in_use [14, 31] gcmRcf threeWays hmeets _ hlast⟩

/-- a remote that allows nothing deprecated, below a default clause that allows all of it -/
def strictRemote : RcfRemote := ⟨false, some ⟨some false, some false⟩, some gcmConf⟩

def laxDefault : RcfConf := ⟨some ⟨some true, some true⟩, fun _ => some strictRemote⟩

/-- MODP 1024 -/
def weakDump : R2rsSa := { plainDump with suite := ⟨20, 256, 5, 0, 2⟩ }

/-- ML-KEM-1024 as ADDKE1 and MODP 1024 as ADDKE2 -/
def weakSecondRound : Bytes := ikesaToProposal (gcmSa [37, 2, 0, 0, 0, 0, 0, 0] 2) []

/-- a dump is restored and a ticket resumed with a group that the remote refuses -/
theorem refused_method_in_use :
    (∃ u ∈ (deprStep [2, 14] ⟨laxDefault, []⟩ (.restore openEnv weakDump)).sas,
      u.suite.refusedBy laxDefault.dflt u.remote.ikev2 = true)
    ∧ ∃ u ∈ (deprStep [2, 14] ⟨laxDefault, []⟩ (.ticket strictRemote weakSecondRound)).sas,
      u.suite.refusedBy laxDefault.dflt u.remote.ikev2 = true := by
  constructor <;> decide +kernel

end Ikev2
