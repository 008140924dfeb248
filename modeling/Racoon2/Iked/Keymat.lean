import Racoon2.Iked.Proposal

/-!
# The keys of a Child SA

`ikev2_prf_plus`, `compute_keymat`, `ikev2_proposal_to_ipsec` and `ikev2_add_ipsec_sa`: the length
is computed in one pass over our proposal, the keys are cut in two further passes with a running
offset, first for the SAs from the initiator to the responder.

* `proposalToIpsec_eq`     a pass is its callback over the plan of the proposal;
* `pass_slices`            a pass of `ikev2_sadb_update` cuts consecutive slices;
* `Negotiation`            two ends that agreed on a bundle of protocols;
* `child_keys_agree`       the slices of each end are all of KEYMAT, and the two ends' keys are equal.
-/

set_option linter.unusedVariables false

namespace Ikev2
open Bytes

/-! ## prf+ -/

/-- `struct keyed_hash`; the output has `result_len` octets -/
structure Prf where
  resultLen : Nat
  hash : Bytes → Bytes → Option Bytes
  hash_length : ∀ key msg out, hash key msg = some out → out.length = resultLen

section
variable (prf : Prf)

/-- the loop of `ikev2_prf_plus`, at most `fuel` more blocks -/
def prfPlusLoop (key seed : Bytes) : Nat → Bytes → UInt8 → Nat → Option Bytes
  | 0, _, _, need => if need = 0 then some [] else none
  | fuel + 1, t, byte, need =>
    if need = 0 then some []
    else match prf.hash key (t ++ seed ++ [byte]) with
      | none => none
      | some out =>
        (prfPlusLoop key seed fuel out (byte + 1) (need - prf.resultLen)).map (out.take need ++ ·)

/-- `ikev2_prf_plus` -/
def prfPlus (key seed : Bytes) (need : Nat) : Option Bytes :=
  if prf.resultLen * 255 < need then none else prfPlusLoop prf key seed 255 [] 1 need

theorem prfPlusLoop_length (key seed : Bytes) (fuel : Nat) :
    ∀ (t : Bytes) (byte : UInt8) (need : Nat) (out : Bytes),
      prfPlusLoop prf key seed fuel t byte need = some out → out.length = need := by
  induction fuel with
  | zero =>
    intro t byte need out h
    unfold prfPlusLoop at h
    split at h
    · rename_i hneed
      rw [← Option.some.inj h, hneed]
      rfl
    · exact absurd h (by simp)
  | succ fuel ih =>
    intro t byte need out h
    unfold prfPlusLoop at h
    split at h
    · rename_i hneed
      rw [← Option.some.inj h, hneed]
      rfl
    · split at h
      · exact absurd h (by simp)
      · rename_i block hblock
        obtain ⟨rest, hrest, rfl⟩ := Option.map_eq_some_iff.mp h
        have hlen := ih _ _ _ _ hrest
        have hout := prf.hash_length _ _ _ hblock
        rw [List.length_append, List.length_take, hlen, hout]
        omega

theorem prfPlus_length {key seed : Bytes} {need : Nat} {out : Bytes}
    (h : prfPlus prf key seed need = some out) : out.length = need := by
  unfold prfPlus at h
  split at h
  · exact absurd h (by simp)
  · exact prfPlusLoop_length prf _ _ _ _ _ _ _ h

/-! ## KEYMAT -/

/-- what `compute_keymat` reads of the child and its IKE SA -/
structure KeymatInput where
  skD : Bytes
  gIr : Option Bytes
  /-- the nonces of CREATE_CHILD_SA -/
  nI : Option Bytes
  nR : Option Bytes
  /-- the nonces of IKE_SA_INIT -/
  parentNI : Bytes
  parentNR : Bytes
  /-- SK(1) | ... | SK(n) -/
  addkeSk : Option Bytes

def KeymatInput.nonces (k : KeymatInput) : Bytes :=
  match k.nI, k.nR with
  | some nI, some nR => nI ++ nR
  | _, _ => k.parentNI ++ k.parentNR

def KeymatInput.seed (k : KeymatInput) : Bytes :=
  k.gIr.getD [] ++ k.nonces ++ k.addkeSk.getD []

/-- `compute_keymat` -/
def computeKeymat (k : KeymatInput) (required_len : Nat) : Option Bytes :=
  prfPlus prf k.skD k.seed required_len

end

/-! ## key lengths -/

/-- a row of `ikev2_transf_encr` -/
structure EncrDef where
  id : Nat
  keylen : Nat
  nonceLen : Nat
  variableKeylen : Bool
  deriving DecidableEq, Repr

def transfEncr : List EncrDef :=
  [⟨1, 8, 0, false⟩, ⟨2, 8, 0, false⟩, ⟨3, 24, 0, false⟩, ⟨4, 16, 0, true⟩, ⟨5, 16, 0, false⟩,
    ⟨6, 16, 0, true⟩, ⟨7, 16, 0, true⟩, ⟨8, 0, 0, false⟩, ⟨9, 8, 0, false⟩, ⟨11, 0, 0, false⟩,
    ⟨12, 16, 0, true⟩, ⟨12, 24, 0, true⟩, ⟨12, 32, 0, true⟩,
    ⟨13, 16, 4, true⟩, ⟨13, 24, 4, true⟩, ⟨13, 32, 4, true⟩,
    ⟨20, 16, 4, true⟩, ⟨20, 24, 4, true⟩, ⟨20, 32, 4, true⟩,
    ⟨19, 16, 4, true⟩, ⟨19, 24, 4, true⟩, ⟨19, 32, 4, true⟩,
    ⟨18, 16, 4, true⟩, ⟨18, 24, 4, true⟩, ⟨18, 32, 4, true⟩,
    ⟨14, 16, 3, true⟩, ⟨14, 24, 3, true⟩, ⟨14, 32, 3, true⟩,
    ⟨15, 16, 3, true⟩, ⟨15, 24, 3, true⟩, ⟨15, 32, 3, true⟩,
    ⟨16, 16, 3, true⟩, ⟨16, 24, 3, true⟩, ⟨16, 32, 3, true⟩,
    ⟨28, 32, 4, false⟩, ⟨21, 16, 4, true⟩, ⟨21, 24, 4, true⟩, ⟨21, 32, 4, true⟩]

/-- `ikev2_transf_integr`: id and key length -/
def transfIntegr : List (Nat × Nat) :=
  [(1, 16), (2, 20), (5, 16), (8, 16), (12, 32), (13, 48), (14, 64)]

/-- the key length attribute, the last one if there are several -/
def attrKeylen (attrs : List Attr) : Nat :=
  attrs.foldl (fun keylen a =>
    match a with
    | .short type value => if type = attrKeyLength then value else keylen
    | .long _ _ => keylen) 0

def encrKeylen (t : Transform) : Option Nat :=
  (transfEncr.find? (·.id == t.id)).map fun alg =>
    let keylen :=
      if alg.variableKeylen && attrKeylen t.attrs == 0 && hasDefaultKeylen alg.id then 128
      else attrKeylen t.attrs
    (if alg.variableKeylen then keylen / 8 else alg.keylen) + alg.nonceLen

def integrKeylen (t : Transform) : Option Nat := (transfIntegr.find? (·.1 == t.id)).map Prod.snd

/-- the loop of `ikev2_proposal_to_ipsec` over the transforms of a protocol; `none`: an algorithm
is not in the table -/
def keylens : List Selected → Nat → Nat → Option (Nat × Nat)
  | [], enc, auth => some (enc, auth)
  | s :: ss, enc, auth =>
    if s.type = transformEncr then
      match encrKeylen s.transform with
      | none => none
      | some n => keylens ss n auth
    else if s.type = transformIntegr then
      match integrKeylen s.transform with
      | none => none
      | some n => keylens ss enc n
    else keylens ss enc auth

/-- the fields of `struct rcpfk_msg` that the keys depend on -/
structure KeyParam where
  protocol : Nat
  spi : Bytes
  enckeylen : Nat
  authkeylen : Nat
  deriving DecidableEq, Repr

def protoParam (m : Matched) : Option KeyParam :=
  if m.spi.length ≠ 4 then none
  else (keylens m.transforms 0 0).map fun n => ⟨m.protocol, m.spi, n.1, n.2⟩

def protocolAh : Nat := 2
def protocolEsp : Nat := 3

/-- the order of the headers in a packet -/
def headerOrder : List Nat := [protocolAh, protocolEsp]

section
variable {σ : Type}

/-- the loop of `ikev2_proposal_to_ipsec` over the protocols -/
def protocolLoop (apply_func : KeyParam → σ → σ × Bool) (proposal : List Matched) :
    List Nat → σ → σ × Bool
  | [], data => (data, true)
  | h :: hs, data =>
    match proposal.find? (·.protocol == h) with
    | none => protocolLoop apply_func proposal hs data
    | some m =>
      match protoParam m with
      | none => (data, false)
      | some param =>
        match apply_func param data with
        | (data, true) => protocolLoop apply_func proposal hs data
        | (data, false) => (data, false)

/-- `ikev2_proposal_to_ipsec` -/
def proposalToIpsec (apply_func : KeyParam → σ → σ × Bool) (proposal : List Matched) (data : σ) :
    σ × Bool :=
  protocolLoop apply_func proposal headerOrder data

end

/-! ## installation -/

def calculateKeylen (param : KeyParam) (keylen : Nat) : Nat × Bool :=
  (keylen + (param.enckeylen + param.authkeylen), true)

/-- an SA in the kernel -/
structure Installed where
  outbound : Bool
  protocol : Nat
  spi : Bytes
  enckey : Bytes
  authkey : Bytes
  deriving DecidableEq, Repr

def Installed.keys (i : Installed) : Bytes := i.enckey ++ i.authkey

structure SadbEnv where
  /-- `ike_determine_sa_endpoint()` finds both addresses -/
  endpoints : Bool
  /-- the kernel takes the SA -/
  accepts : Bool → KeyParam → Bool

/-- the offset in KEYMAT and what has been installed -/
structure SadbState where
  keyptr : Nat
  installed : List Installed

def cutKeys (keymat : Bytes) (outbound : Bool) (param : KeyParam) (off : Nat) : Installed where
  outbound := outbound
  protocol := param.protocol
  spi := param.spi
  enckey := slice keymat off param.enckeylen
  authkey := slice keymat (off + param.enckeylen) param.authkeylen

/-- `ikev2_sadb_outbound` and `ikev2_sadb_inbound`, with `ikev2_sadb_update` -/
def sadbUpdate (env : SadbEnv) (keymat : Bytes) (outbound : Bool) (param : KeyParam)
    (st : SadbState) : SadbState × Bool :=
  if !env.endpoints then (st, false)
  else
    let keyptr := st.keyptr + (param.enckeylen + param.authkeylen)
    if env.accepts outbound param then
      (⟨keyptr, st.installed ++ [cutKeys keymat outbound param st.keyptr]⟩, true)
    else (⟨keyptr, st.installed⟩, false)

/-- what `ikev2_add_ipsec_sa` leaves in the kernel -/
structure AddResult where
  installed : List Installed
  /-- the octets of KEYMAT consumed -/
  consumed : Nat
  ok : Bool

/-- the first pass: twice this length is required of KEYMAT -/
def requiredLen (mine : List Matched) : Nat × Bool := proposalToIpsec calculateKeylen mine 0

/-- `ikev2_add_ipsec_sa` -/
def addIpsecSa (prf : Prf) (k : KeymatInput) (env : SadbEnv) (isInitiator : Bool)
    (peer mine : List Matched) : AddResult :=
  match requiredLen mine with
  | (_, false) => ⟨[], 0, false⟩
  | (n, true) =>
    match computeKeymat prf k (2 * n) with
    | none => ⟨[], 0, false⟩
    | some keymat =>
      match proposalToIpsec (sadbUpdate env keymat isInitiator) (if isInitiator then peer else mine)
          ⟨0, []⟩ with
      | (st, false) => ⟨st.installed, st.keyptr, false⟩
      | (st, true) =>
        match proposalToIpsec (sadbUpdate env keymat (!isInitiator))
            (if isInitiator then mine else peer) st with
        | (st, ok) => ⟨st.installed, st.keyptr, ok⟩

/-! ## the plan of a proposal -/

/-- the parameters of the protocols, in the order of the headers -/
def plan (proposal : List Matched) : List Nat → Option (List KeyParam)
  | [] => some []
  | h :: hs =>
    match proposal.find? (·.protocol == h) with
    | none => plan proposal hs
    | some m =>
      match protoParam m with
      | none => none
      | some param => (plan proposal hs).map (param :: ·)

/-- a callback over a list of parameters, up to its first error -/
def applyAll {σ : Type} (apply_func : KeyParam → σ → σ × Bool) : List KeyParam → σ → σ × Bool
  | [], data => (data, true)
  | param :: ps, data =>
    match apply_func param data with
    | (data, true) => applyAll apply_func ps data
    | (data, false) => (data, false)

def KeyParam.keylen (param : KeyParam) : Nat := param.enckeylen + param.authkeylen

def planLen (ps : List KeyParam) : Nat := (ps.map KeyParam.keylen).sum

section
variable {σ : Type} {apply_func : KeyParam → σ → σ × Bool} {proposal : List Matched}

/-- a pass is its callback over the plan -/
theorem proposalToIpsec_eq {ps : List KeyParam} (h : plan proposal headerOrder = some ps)
    (data : σ) : proposalToIpsec apply_func proposal data = applyAll apply_func ps data := by
  have hloop : ∀ (hs : List Nat) (ps : List KeyParam) (data : σ), plan proposal hs = some ps →
      protocolLoop apply_func proposal hs data = applyAll apply_func ps data := by
    intro hs
    induction hs with
    | nil =>
      intro ps data h
      rw [← Option.some.inj h]
      rfl
    | cons hd hs ih =>
      intro ps data h
      unfold plan at h
      unfold protocolLoop
      split at h
      · exact ih ps data h
      · split at h
        · exact absurd h (by simp)
        · rename_i param hparam
          obtain ⟨rest, hrest, rfl⟩ := Option.map_eq_some_iff.mp h
          simp only [applyAll]
          split
          · exact ih rest _ hrest
          · rfl
  exact hloop headerOrder ps data h

/-- the pass that adds up the lengths succeeds only if there is a plan -/
theorem requiredLen_plan {n : Nat} (h : requiredLen proposal = (n, true)) :
    ∃ ps, plan proposal headerOrder = some ps ∧ n = planLen ps := by
  have hloop : ∀ (hs : List Nat) (len n : Nat),
      protocolLoop calculateKeylen proposal hs len = (n, true) →
        ∃ ps, plan proposal hs = some ps ∧ n = len + planLen ps := by
    intro hs
    induction hs with
    | nil =>
      intro len n h
      exact ⟨[], rfl, (congrArg Prod.fst h).symm⟩
    | cons hd hs ih =>
      intro len n h
      unfold protocolLoop at h
      unfold plan
      split at h
      · exact ih len n h
      · split at h
        · exact absurd h (by simp)
        · rename_i param hparam
          simp only [calculateKeylen] at h
          obtain ⟨ps, hps, hn⟩ := ih _ n h
          refine ⟨param :: ps, by rw [hps]; rfl, ?_⟩
          rw [hn]
          simp only [planLen, List.map_cons, List.sum_cons, KeyParam.keylen]
          omega
  obtain ⟨ps, hps, hn⟩ := hloop headerOrder 0 n h
  exact ⟨ps, hps, by omega⟩

theorem plan_protocols {hs : List Nat} {ps : List KeyParam} (h : plan proposal hs = some ps) :
    (ps.map KeyParam.protocol).Sublist hs := by
  induction hs generalizing ps with
  | nil =>
    rw [← Option.some.inj h]
    exact List.Sublist.refl _
  | cons hd hs ih =>
    unfold plan at h
    split at h
    · exact (ih h).cons _
    · rename_i m hm
      split at h
      · exact absurd h (by simp)
      · rename_i param hparam
        obtain ⟨rest, hrest, rfl⟩ := Option.map_eq_some_iff.mp h
        have hprotocol : param.protocol = hd := by
          have hfound : m.protocol = hd := by simpa using List.find?_some hm
          unfold protoParam at hparam
          split at hparam
          · exact absurd hparam (by simp)
          · obtain ⟨n, _, rfl⟩ := Option.map_eq_some_iff.mp hparam
            exact hfound
        rw [List.map_cons, hprotocol]
        exact (ih hrest).cons_cons _

end

/-! ## slices -/

section
variable {env : SadbEnv} {keymat : Bytes} {outbound : Bool}

/-- the SAs of a plan, cut one after the other from an offset on -/
def slices (keymat : Bytes) (outbound : Bool) : List KeyParam → Nat → List Installed
  | [], _ => []
  | param :: ps, off =>
    cutKeys keymat outbound param off :: slices keymat outbound ps (off + param.keylen)

theorem slices_keys (ps : List KeyParam) : ∀ off,
    (slices keymat outbound ps off).flatMap Installed.keys = slice keymat off (planLen ps) := by
  induction ps with
  | nil =>
    intro off
    show [] = slice keymat off 0
    simp [slice]
  | cons param ps ih =>
    intro off
    have hcut : (cutKeys keymat outbound param off).keys = slice keymat off param.keylen :=
      slice_add keymat off param.enckeylen param.authkeylen
    rw [slices, List.flatMap_cons, ih, hcut, slice_add]
    rfl

theorem sadbUpdate_cases (env : SadbEnv) (keymat : Bytes) (outbound : Bool) (param : KeyParam)
    (st : SadbState) :
    sadbUpdate env keymat outbound param st
        = (⟨st.keyptr + param.keylen, st.installed ++ [cutKeys keymat outbound param st.keyptr]⟩,
          true)
      ∨ ∃ ptr, sadbUpdate env keymat outbound param st = (⟨ptr, st.installed⟩, false) := by
  unfold sadbUpdate
  split
  · exact .inr ⟨st.keyptr, rfl⟩
  · simp only
    split
    · exact .inl rfl
    · exact .inr ⟨_, rfl⟩

/-- a pass installs the slices of its plan, all of them if it succeeds -/
theorem pass_slices (ps : List KeyParam) : ∀ (st st' : SadbState) (ok : Bool),
    applyAll (sadbUpdate env keymat outbound) ps st = (st', ok) →
      ∃ done, st'.installed = st.installed ++ done
        ∧ done <+: slices keymat outbound ps st.keyptr
        ∧ (ok = true → done = slices keymat outbound ps st.keyptr
          ∧ st'.keyptr = st.keyptr + planLen ps) := by
  induction ps with
  | nil =>
    intro st st' ok h
    have hst : st = st' := congrArg Prod.fst h
    refine ⟨[], ?_, List.nil_prefix, fun _ => ⟨rfl, ?_⟩⟩
    · rw [hst, List.append_nil]
    · rw [hst]
      rfl
  | cons param ps ih =>
    intro st st' ok h
    unfold applyAll at h
    rcases sadbUpdate_cases env keymat outbound param st with hstep | ⟨ptr, hstep⟩
    · rw [hstep] at h
      obtain ⟨done, hinst, hpre, hok⟩ := ih _ st' ok h
      refine ⟨cutKeys keymat outbound param st.keyptr :: done, ?_, ?_, ?_⟩
      · rw [hinst, List.append_assoc]
        rfl
      · exact List.cons_prefix_cons.mpr ⟨rfl, hpre⟩
      · intro htrue
        obtain ⟨hall, hptr⟩ := hok htrue
        refine ⟨by rw [hall]; rfl, ?_⟩
        rw [hptr]
        simp only [planLen, List.map_cons, List.sum_cons]
        omega
    · rw [hstep] at h
      have hst : SadbState.mk ptr st.installed = st' := congrArg Prod.fst h
      have hfalse : false = ok := congrArg Prod.snd h
      refine ⟨[], ?_, List.nil_prefix, ?_⟩
      · rw [← hst, List.append_nil]
      · intro htrue
        rw [htrue] at hfalse
        exact absurd hfalse (by simp)

/-- what two ends must have in common -/
def KeyParam.lens (param : KeyParam) : Nat × Nat × Nat :=
  (param.protocol, param.enckeylen, param.authkeylen)

theorem planLen_eq {ps ps' : List KeyParam} (h : ps.map KeyParam.lens = ps'.map KeyParam.lens) :
    planLen ps = planLen ps' := by
  have hlen : ∀ ps : List KeyParam,
      planLen ps = ((ps.map KeyParam.lens).map fun l => l.2.1 + l.2.2).sum := by
    intro ps
    rw [List.map_map]
    rfl
  rw [hlen ps, hlen ps', h]

/-- protocol and keys of an SA -/
def Installed.view (i : Installed) : Nat × Bytes × Bytes := (i.protocol, i.enckey, i.authkey)

/-- the slices of two plans with the same lengths, cut from one KEYMAT, have the same keys -/
theorem slices_view {out out' : Bool} (ps : List KeyParam) : ∀ (ps' : List KeyParam) (off : Nat),
    ps.map KeyParam.lens = ps'.map KeyParam.lens →
      (slices keymat out ps off).map Installed.view
        = (slices keymat out' ps' off).map Installed.view := by
  induction ps with
  | nil =>
    intro ps' off hlens
    rw [List.map_eq_nil_iff.mp hlens.symm]
    rfl
  | cons param ps ih =>
    intro ps' off hlens
    cases ps' with
    | nil => exact absurd hlens (by simp)
    | cons param' ps' =>
      rw [List.map_cons, List.map_cons, List.cons.injEq] at hlens
      obtain ⟨hhead, htail⟩ := hlens
      simp only [KeyParam.lens, Prod.mk.injEq] at hhead
      obtain ⟨hprotocol, henc, hauth⟩ := hhead
      rw [slices, slices, List.map_cons, List.map_cons, ih ps' _ htail]
      unfold KeyParam.keylen Installed.view cutKeys
      rw [hprotocol, henc, hauth]

theorem slices_protocols (keymat : Bytes) (outbound : Bool) (ps : List KeyParam) : ∀ off,
    (slices keymat outbound ps off).map Installed.protocol = ps.map KeyParam.protocol := by
  induction ps with
  | nil =>
    intro off
    rfl
  | cons param ps ih =>
    intro off
    rw [slices, List.map_cons, List.map_cons, ih]
    rfl

theorem slices_outbound (ps : List KeyParam) : ∀ off, ∀ x ∈ slices keymat outbound ps off,
    x.outbound = outbound := by
  induction ps with
  | nil =>
    intro off x hx
    exact absurd hx (by simp [slices])
  | cons param ps ih =>
    intro off x hx
    rw [slices, List.mem_cons] at hx
    rcases hx with rfl | hx
    · rfl
    · exact ih _ x hx

/-- an SA of one plan and the SA of the other plan for its protocol -/
theorem slices_agree {out out' : Bool} {ps ps' : List KeyParam} (off : Nat)
    (hlens : ps.map KeyParam.lens = ps'.map KeyParam.lens)
    (hnodup : (ps'.map KeyParam.protocol).Nodup) {x y : Installed}
    (hx : x ∈ slices keymat out ps off) (hy : y ∈ slices keymat out' ps' off)
    (heq : x.protocol = y.protocol) : x.enckey = y.enckey ∧ x.authkey = y.authkey := by
  have hview : x.view ∈ (slices keymat out' ps' off).map Installed.view := by
    rw [← slices_view ps ps' off hlens]
    exact List.mem_map_of_mem hx
  obtain ⟨z, hz, hzx⟩ := List.mem_map.mp hview
  unfold Installed.view at hzx
  simp only [Prod.mk.injEq] at hzx
  have hzy : z = y := by
    rw [← slices_protocols keymat out' ps' off] at hnodup
    exact List.inj_on_of_nodup_map hnodup hz hy (hzx.1.trans heq)
  rw [← hzy]
  exact ⟨hzx.2.1.symm, hzx.2.2.symm⟩

/-- every SA of one plan has its SA in the other -/
theorem slices_partner {out out' : Bool} {ps ps' : List KeyParam} (off : Nat)
    (hlens : ps.map KeyParam.lens = ps'.map KeyParam.lens) {x : Installed}
    (hx : x ∈ slices keymat out ps off) :
    ∃ y ∈ slices keymat out' ps' off, y.view = x.view := by
  have hview : x.view ∈ (slices keymat out' ps' off).map Installed.view := by
    rw [← slices_view ps ps' off hlens]
    exact List.mem_map_of_mem hx
  exact List.mem_map.mp hview

end

/-! ## one end -/

/-- two matched proposals with the same protocols and key lengths -/
def SameKeys (a b : Matched) : Prop :=
  a.protocol = b.protocol ∧ a.spi.length = b.spi.length
    ∧ keylens a.transforms 0 0 = keylens b.transforms 0 0

theorem SameKeys.protoParam {a b : Matched} (h : SameKeys a b) :
    (Ikev2.protoParam a).map KeyParam.lens = (Ikev2.protoParam b).map KeyParam.lens := by
  obtain ⟨hprotocol, hspi, hlens⟩ := h
  unfold Ikev2.protoParam
  rw [hspi, hlens]
  split
  · rfl
  · rw [Option.map_map, Option.map_map]
    congr 1
    funext n
    show (a.protocol, n.1, n.2) = (b.protocol, n.1, n.2)
    rw [hprotocol]

theorem SameKeys.find {as bs : List Matched} (h : List.Forall₂ SameKeys as bs) (hd : Nat) :
    match as.find? (·.protocol == hd) with
    | none => bs.find? (·.protocol == hd) = none
    | some a => ∃ b, bs.find? (·.protocol == hd) = some b ∧ SameKeys a b := by
  induction h with
  | nil => rfl
  | cons hab hrest ih =>
    rename_i a b as bs
    rw [List.find?_cons, List.find?_cons, ← hab.1]
    by_cases heq : a.protocol = hd
    · rw [beq_iff_eq.mpr heq]
      exact ⟨b, rfl, hab⟩
    · rw [beq_eq_false_iff_ne.mpr heq]
      exact ih

/-- proposals with the same protocols and key lengths have the same plan, up to the SPIs -/
theorem SameKeys.plan {as bs : List Matched} (h : List.Forall₂ SameKeys as bs) (hs : List Nat) :
    (Ikev2.plan as hs).map (List.map KeyParam.lens)
      = (Ikev2.plan bs hs).map (List.map KeyParam.lens) := by
  induction hs with
  | nil => rfl
  | cons hd hs ih =>
    have hfind := SameKeys.find h hd
    unfold Ikev2.plan
    split at hfind
    · rename_i hnone
      rw [hfind]
      exact ih
    · rename_i a hsome
      obtain ⟨b, hb, hab⟩ := hfind
      rw [hb]
      simp only
      have hparam := hab.protoParam
      cases ha : Ikev2.protoParam a with
      | none =>
        rw [ha] at hparam
        rw [Option.map_eq_none_iff.mp hparam.symm]
      | some pa =>
        rw [ha] at hparam
        obtain ⟨pb, hpb, hlens⟩ := Option.map_eq_some_iff.mp hparam.symm
        rw [hpb]
        simp only [Option.map_map]
        have hcons : ∀ (p : KeyParam) (o : Option (List KeyParam)),
            o.map (List.map KeyParam.lens ∘ fun x => p :: x)
              = (o.map (List.map KeyParam.lens)).map (p.lens :: ·) := by
          intro p o
          cases o <;> rfl
        rw [hcons, hcons, ih, hlens]

theorem SameKeys.plan_some {as bs : List Matched} (h : List.Forall₂ SameKeys as bs)
    {hs : List Nat} {ps : List KeyParam} (hps : Ikev2.plan as hs = some ps) :
    ∃ ps', Ikev2.plan bs hs = some ps' ∧ ps'.map KeyParam.lens = ps.map KeyParam.lens := by
  have heq := SameKeys.plan h hs
  rw [hps] at heq
  obtain ⟨ps', hps', hlens⟩ := Option.map_eq_some_iff.mp heq.symm
  exact ⟨ps', hps', hlens⟩

/-- KEYMAT is cut from the left without gaps, and used up if both passes succeed -/
def CutExactly (prf : Prf) (k : KeymatInput) (mine : List Matched) (r : AddResult) : Prop :=
  r = ⟨[], 0, false⟩ ∨ ∃ n keymat, requiredLen mine = (n, true)
    ∧ computeKeymat prf k (2 * n) = some keymat ∧ keymat.length = 2 * n
    ∧ r.installed.flatMap Installed.keys <+: keymat
    ∧ (r.ok = true → r.installed.flatMap Installed.keys = keymat ∧ r.consumed = 2 * n)

section
variable (prf : Prf) (k : KeymatInput) (env : SadbEnv) {peer mine : List Matched}

/-- The two passes of `ikev2_add_ipsec_sa`, once KEYMAT is there: the slices of two plans in a row,
of the same length. -/
theorem addIpsecSa_passes {isInitiator : Bool} {n : Nat} {keymat : Bytes}
    {first second : List KeyParam} (hreq : requiredLen mine = (n, true))
    (hkey : computeKeymat prf k (2 * n) = some keymat)
    (hfirst : plan (if isInitiator then peer else mine) headerOrder = some first)
    (hsecond : plan (if isInitiator then mine else peer) headerOrder = some second)
    (hlen : planLen second = planLen first) :
    (addIpsecSa prf k env isInitiator peer mine).installed
        <+: slices keymat isInitiator first 0 ++ slices keymat (!isInitiator) second (planLen first)
      ∧ ((addIpsecSa prf k env isInitiator peer mine).ok = true →
        (addIpsecSa prf k env isInitiator peer mine).installed
            = slices keymat isInitiator first 0
              ++ slices keymat (!isInitiator) second (planLen first)
          ∧ (addIpsecSa prf k env isInitiator peer mine).consumed = 2 * planLen first) := by
  unfold addIpsecSa
  simp only [hreq, hkey]
  rw [proposalToIpsec_eq hfirst]
  cases hone : applyAll (sadbUpdate env keymat isInitiator) first ⟨0, []⟩ with
  | mk st ok =>
    obtain ⟨done, hinst, hpre, hall⟩ := pass_slices first _ _ _ hone
    rw [List.nil_append] at hinst
    cases ok with
    | false =>
      refine ⟨?_, fun hfalse => absurd hfalse (by simp)⟩
      show st.installed <+: _
      rw [hinst]
      exact hpre.trans (List.prefix_append _ _)
    | true =>
      obtain ⟨hdone, hptr⟩ := hall rfl
      rw [Nat.zero_add] at hptr
      simp only
      rw [proposalToIpsec_eq hsecond]
      cases htwo : applyAll (sadbUpdate env keymat (!isInitiator)) second st with
      | mk st' ok' =>
        obtain ⟨done', hinst', hpre', hall'⟩ := pass_slices second _ _ _ htwo
        rw [hptr] at hpre' hall'
        rw [hinst, hdone] at hinst'
        refine ⟨?_, ?_⟩
        · show st'.installed <+: _
          rw [hinst']
          exact (List.prefix_append_right_inj _).mpr hpre'
        · intro htrue
          obtain ⟨hdone', hptr'⟩ := hall' htrue
          refine ⟨?_, ?_⟩
          · show st'.installed = _
            rw [hinst', hdone']
          · show st'.keyptr = _
            rw [hptr', hlen]
            omega

/-- What one end installs: the slices of two plans in a row, first for the SAs from the initiator
to the responder. -/
theorem addIpsecSa_slices (isInitiator : Bool) (h : List.Forall₂ SameKeys mine peer) :
    addIpsecSa prf k env isInitiator peer mine = ⟨[], 0, false⟩
      ∨ ∃ keymat first second,
        plan (if isInitiator then peer else mine) headerOrder = some first
        ∧ plan (if isInitiator then mine else peer) headerOrder = some second
        ∧ second.map KeyParam.lens = first.map KeyParam.lens
        ∧ requiredLen mine = (planLen first, true)
        ∧ computeKeymat prf k (2 * planLen first) = some keymat
        ∧ (addIpsecSa prf k env isInitiator peer mine).installed
          <+: slices keymat isInitiator first 0
            ++ slices keymat (!isInitiator) second (planLen first)
        ∧ ((addIpsecSa prf k env isInitiator peer mine).ok = true →
          (addIpsecSa prf k env isInitiator peer mine).installed
              = slices keymat isInitiator first 0
                ++ slices keymat (!isInitiator) second (planLen first)
            ∧ (addIpsecSa prf k env isInitiator peer mine).consumed = 2 * planLen first) := by
  cases hreq : requiredLen mine with
  | mk n ok =>
    cases ok with
    | false =>
      left
      unfold addIpsecSa
      rw [hreq]
    | true =>
      obtain ⟨ps, hps, rfl⟩ := requiredLen_plan hreq
      obtain ⟨ps', hps', hlens⟩ := SameKeys.plan_some h hps
      cases hkey : computeKeymat prf k (2 * planLen ps) with
      | none =>
        left
        unfold addIpsecSa
        simp only [hreq, hkey]
      | some keymat =>
        right
        obtain ⟨first, second, hfirst, hsecond, heq, hlen⟩ : ∃ first second,
            plan (if isInitiator then peer else mine) headerOrder = some first
              ∧ plan (if isInitiator then mine else peer) headerOrder = some second
              ∧ second.map KeyParam.lens = first.map KeyParam.lens
              ∧ planLen ps = planLen first := by
          cases isInitiator with
          | true => exact ⟨ps', ps, hps', hps, hlens.symm, planLen_eq hlens.symm⟩
          | false => exact ⟨ps, ps', hps, hps', hlens, rfl⟩
        refine ⟨keymat, first, second, hfirst, hsecond, heq, by rw [hlen], by rw [← hlen, hkey], ?_⟩
        exact addIpsecSa_passes prf k env hreq hkey hfirst hsecond (planLen_eq heq)

theorem addIpsecSa_cutExactly (isInitiator : Bool) (h : List.Forall₂ SameKeys mine peer) :
    CutExactly prf k mine (addIpsecSa prf k env isInitiator peer mine) := by
  rcases addIpsecSa_slices prf k env isInitiator h with hnone | hsome
  · exact .inl hnone
  · obtain ⟨keymat, first, second, _, _, hlens, hreq, hkey, hpre, hall⟩ := hsome
    have hlen := prfPlus_length prf hkey
    have hkeys : (slices keymat isInitiator first 0
        ++ slices keymat (!isInitiator) second (planLen first)).flatMap Installed.keys = keymat := by
      rw [List.flatMap_append, slices_keys, slices_keys, planLen_eq hlens]
      have hadd := slice_add keymat 0 (planLen first) (planLen first)
      rw [Nat.zero_add] at hadd
      rw [hadd]
      unfold slice
      rw [List.drop_zero, List.take_of_length_le (by omega)]
    refine .inr ⟨planLen first, keymat, hreq, hkey, hlen, ?_, ?_⟩
    · obtain ⟨rest, hrest⟩ := hpre
      refine ⟨rest.flatMap Installed.keys, ?_⟩
      rw [← List.flatMap_append, hrest, hkeys]
    · intro hok
      obtain ⟨hinst, hconsumed⟩ := hall hok
      refine ⟨?_, hconsumed⟩
      rw [hinst, hkeys]

end

/-! ## two ends -/

theorem keylens_eq {ts : List Selected} (hnodup : (ts.map Selected.type).Nodup) (enc auth : Nat) :
    keylens ts enc auth
      = ((selectedOf transformEncr ts).elim (some enc) encrKeylen).bind fun e =>
        ((selectedOf transformIntegr ts).elim (some auth) integrKeylen).map fun a => (e, a) := by
  induction ts generalizing enc auth with
  | nil => rfl
  | cons s ts ih =>
    rw [List.map_cons, List.nodup_cons] at hnodup
    have habsent : ∀ type, s.type = type → selectedOf type ts = none := by
      rintro type rfl
      unfold selectedOf
      rw [Option.map_eq_none_iff, List.find?_eq_none]
      intro x hx heq
      rw [← beq_iff_eq.mp heq] at hnodup
      exact hnodup.1 (List.mem_map_of_mem hx)
    have hhead : ∀ type, selectedOf type (s :: ts)
        = if s.type = type then some s.transform else selectedOf type ts := by
      intro type
      unfold selectedOf
      rw [List.find?_cons]
      by_cases heq : s.type = type
      · rw [if_pos heq, beq_iff_eq.mpr heq]
        rfl
      · rw [if_neg heq, beq_eq_false_iff_ne.mpr heq]
    unfold keylens
    rw [hhead, hhead]
    by_cases henc : s.type = transformEncr
    · have hother : s.type ≠ transformIntegr := by rw [henc]; decide
      rw [if_pos henc, if_pos henc, if_neg hother, Option.elim_some]
      split
      · rename_i hnone
        rw [hnone]
        rfl
      · rename_i n hsome
        rw [hsome, ih hnodup.2, habsent _ henc]
        rfl
    · rw [if_neg henc, if_neg henc]
      by_cases hint : s.type = transformIntegr
      · rw [if_pos hint, if_pos hint, Option.elim_some]
        split
        · rename_i hnone
          rw [hnone]
          cases (selectedOf transformEncr ts).elim (some enc) encrKeylen <;> rfl
        · rename_i n hsome
          rw [hsome, ih hnodup.2, habsent _ hint]
          rfl
      · rw [if_neg hint, if_neg hint]
        exact ih hnodup.2 enc auth

theorem soleKeylen_attrKeylen {attrs : List Attr} {n : Nat} (h : soleKeylen attrs = some n) :
    attrKeylen attrs = n := by
  unfold soleKeylen at h
  split at h
  · rename_i type value
    split at h
    · rename_i htype
      rw [← Option.some.inj h]
      show (if type = attrKeyLength then value else 0) = value
      rw [if_pos htype]
    · exact absurd h (by simp)
  · exact absurd h (by simp)

/-- matching attributes give one key length; the default of RC5, CAST and Blowfish counts -/
theorem encrKeylen_eq {m t : Transform} (hid : m.id = t.id)
    (h : compareAttributes transformEncr m t = true) : encrKeylen m = encrKeylen t := by
  unfold encrKeylen
  rw [hid]
  cases hfind : transfEncr.find? (·.id == t.id) with
  | none => rfl
  | some alg =>
    have halg : alg.id = t.id := by simpa using List.find?_some hfind
    have hvar : hasDefaultKeylen t.id = true → alg.variableKeylen = true := by
      intro hdef
      rw [← halg] at hdef
      have htable : ∀ row ∈ transfEncr, hasDefaultKeylen row.id = true →
          row.variableKeylen = true := by decide
      exact htable alg (List.mem_of_find?_eq_some hfind) hdef
    have hdefault : ∀ {a b : List Attr}, attrKeylen a = 0 → soleKeylen b = some 128 →
        hasDefaultKeylen t.id = true →
        (if alg.variableKeylen && attrKeylen a == 0 && hasDefaultKeylen alg.id then 128
          else attrKeylen a)
        = (if alg.variableKeylen && attrKeylen b == 0 && hasDefaultKeylen alg.id then 128
          else attrKeylen b) := by
      intro a b ha hb hdef
      rw [ha, soleKeylen_attrKeylen hb, halg, hdef, hvar hdef]
      rfl
    simp only [Option.map_some]
    unfold compareAttributes at h
    split at h
    · rename_i hm ht
      rw [hm, ht]
    · rename_i attrs hm _
      rw [Bool.and_eq_true, Bool.and_eq_true, beq_iff_eq] at h
      rw [hdefault (by rw [hm]; rfl) (beq_iff_eq.mp h.2) (by rw [← hid]; exact h.1.2)]
    · rename_i attrs ht _
      rw [Bool.and_eq_true, Bool.and_eq_true, beq_iff_eq] at h
      have hsame := hdefault (by rw [ht]; rfl : attrKeylen t.attrs = 0) (beq_iff_eq.mp h.2)
        (by rw [← hid]; exact h.1.2)
      rw [hsame]
    · split at h
      · rename_i a b ha hb
        rw [soleKeylen_attrKeylen ha, soleKeylen_attrKeylen hb, beq_iff_eq.mp h]
      · exact absurd h (by simp)

theorem integrKeylen_eq {m t : Transform} (hid : m.id = t.id) :
    integrKeylen m = integrKeylen t := by
  unfold integrKeylen
  rw [hid]

/-- the proposals stored after a match have the protocols and transforms of the pair matched -/
theorem findMatch_mine {own : List (List OwnProto)} {peers : List (List Proto)}
    {mine : List Matched} (h : findMatch own peers .mine = some mine) :
    ∃ m p, firstMatch own peers = some (m, p)
      ∧ (∀ x ∈ m.zip p, x.1.spi.length = x.2.spi.length)
      ∧ mine = (m.zip p).map fun x =>
        ⟨x.1.protocol, x.1.spi, matchTransforms x.1.groups x.2.groups⟩ := by
  unfold findMatch at h
  split at h
  · exact absurd h (by simp)
  · rename_i m p hfirst
    simp only at h
    split at h
    · rename_i hspi
      refine ⟨m, p, hfirst, ?_, (Option.some.inj h).symm⟩
      intro x hx
      simpa using List.all_eq_true.mp hspi x hx
    · exact absurd h (by simp)

theorem findMatch_peer {own : List (List OwnProto)} {peers : List (List Proto)}
    {peer : List Matched} (h : findMatch own peers .peer = some peer) {m : List OwnProto}
    {p : List Proto} (hfirst : firstMatch own peers = some (m, p)) :
    peer = (m.zip p).map fun x =>
      ⟨x.2.protocol, x.2.spi, matchTransforms x.1.groups x.2.groups⟩ := by
  unfold findMatch at h
  rw [hfirst] at h
  exact (Option.some.inj h).symm

theorem firstMatch_protosMatch {own : List (List OwnProto)} {peers : List (List Proto)}
    {m : List OwnProto} {p : List Proto} (h : firstMatch own peers = some (m, p)) :
    p ∈ peers ∧ protosMatch m p = true := by
  unfold firstMatch at h
  obtain ⟨m', _, hm'⟩ := List.exists_of_findSome?_eq_some h
  obtain ⟨p', hp', heq⟩ := Option.map_eq_some_iff.mp hm'
  rw [Prod.mk.injEq] at heq
  obtain ⟨rfl, rfl⟩ := heq
  exact ⟨List.mem_of_find?_eq_some hp', List.find?_some hp'⟩

/-- at one end our own and the peer's proposal differ only in the SPIs -/
theorem findMatch_sameKeys {own : List (List OwnProto)} {peers : List (List Proto)}
    {mine peer : List Matched} (hm : findMatch own peers .mine = some mine)
    (hp : findMatch own peers .peer = some peer) : List.Forall₂ SameKeys mine peer := by
  obtain ⟨m, p, hfirst, hspi, rfl⟩ := findMatch_mine hm
  rw [findMatch_peer hp hfirst]
  have hmatch := (firstMatch_protosMatch hfirst).2
  clear hfirst hm hp
  induction m generalizing p with
  | nil => exact List.Forall₂.nil
  | cons x m ih =>
    cases p with
    | nil => exact List.Forall₂.nil
    | cons y p =>
      unfold protosMatch at hmatch
      rw [Bool.and_eq_true, Bool.and_eq_true, beq_iff_eq] at hmatch
      refine List.Forall₂.cons ?_ (ih p (fun z hz => hspi z (List.mem_cons_of_mem _ hz)) hmatch.2)
      exact ⟨hmatch.1.1, hspi (x, y) List.mem_cons_self, rfl⟩

/-- the answer the initiator parses for a protocol the responder matched: the responder may add a
DH or ADDKE type, but none that gives keys -/
def IsAnswer (m : Matched) (p : Proto) : Prop :=
  p.protocol = m.protocol ∧ p.spi = m.spi
    ∧ ∃ extra, (∀ g ∈ extra, keyType g.type = false) ∧ p.groups = answerGroups m.transforms extra

/-- two ends that agreed on a bundle of protocols -/
structure Negotiation where
  /-- the proposals of the initiator and of the responder -/
  ownI : List (List OwnProto)
  ownR : List (List OwnProto)
  /-- the offer as the responder reads it -/
  offer : List (List Proto)
  mineR : List Matched
  peerR : List Matched
  matchedMineR : findMatch ownR offer .mine = some mineR
  matchedPeerR : findMatch ownR offer .peer = some peerR
  /-- the answer as the initiator parses it -/
  answer : List Proto
  answered : List.Forall₂ IsAnswer mineR answer
  mineI : List Matched
  peerI : List Matched
  matchedMineI : findMatch ownI [answer] .mine = some mineI
  matchedPeerI : findMatch ownI [answer] .peer = some peerI

/-- the transforms of a responder's match have distinct types -/
theorem findMatch_nodup {own : List (List OwnProto)} {peers : List (List Proto)}
    {mine : List Matched} (h : findMatch own peers .mine = some mine) :
    ∀ x ∈ mine, (x.transforms.map Selected.type).Nodup := by
  obtain ⟨m, p, _, _, rfl⟩ := findMatch_mine h
  intro x hx
  obtain ⟨y, _, rfl⟩ := List.mem_map.mp hx
  exact matchTransforms_nodup y.1.distinct

/-- the initiator's match with an answer has the key lengths of the responder's -/
theorem answer_sameKeys {m : Matched} {p : Proto} {own : OwnProto}
    (hnodup : (m.transforms.map Selected.type).Nodup) (hans : IsAnswer m p)
    (hprotocol : own.protocol = p.protocol)
    (hspi : own.spi.length = p.spi.length)
    (hcmp : compareTransforms own.groups p.groups = true) :
    SameKeys ⟨own.protocol, own.spi, matchTransforms own.groups p.groups⟩ m := by
  obtain ⟨hprot, hspi', extra, hextra, hgroups⟩ := hans
  rw [hgroups] at hcmp
  refine ⟨hprotocol.trans hprot, by rw [hspi, hspi'], ?_⟩
  have habsent : ∀ type, keyType type = true → ∀ g ∈ extra, g.type ≠ type := by
    rintro type htype g hg rfl
    rw [hextra g hg] at htype
    exact absurd htype (by simp)
  have henc := answer_selected own.distinct hcmp (by decide : keyType transformEncr = true)
    (habsent _ rfl)
  have hint := answer_selected own.distinct hcmp (by decide : keyType transformIntegr = true)
    (habsent _ rfl)
  show keylens (matchTransforms own.groups p.groups) 0 0 = keylens m.transforms 0 0
  rw [hgroups, keylens_eq (matchTransforms_nodup own.distinct), keylens_eq hnodup]
  have hencr : (selectedOf transformEncr
        (matchTransforms own.groups (answerGroups m.transforms extra))).elim (some 0) encrKeylen
      = (selectedOf transformEncr m.transforms).elim (some 0) encrKeylen := by
    split at henc
    · rename_i hnone
      rw [henc, hnone]
    · rename_i t hsome
      obtain ⟨t', ht', hid, hattrs⟩ := henc
      rw [ht', hsome]
      exact encrKeylen_eq hid hattrs
  have hintegr : (selectedOf transformIntegr
        (matchTransforms own.groups (answerGroups m.transforms extra))).elim (some 0) integrKeylen
      = (selectedOf transformIntegr m.transforms).elim (some 0) integrKeylen := by
    split at hint
    · rename_i hnone
      rw [hint, hnone]
    · rename_i t hsome
      obtain ⟨t', ht', hid, _⟩ := hint
      rw [ht', hsome]
      exact integrKeylen_eq hid
  rw [hencr, hintegr]

theorem Negotiation.sameKeys (n : Negotiation) : List.Forall₂ SameKeys n.mineI n.mineR := by
  obtain ⟨m, p, hfirst, hspi, hmine⟩ := findMatch_mine n.matchedMineI
  obtain ⟨hmem, hmatch⟩ := firstMatch_protosMatch hfirst
  rw [List.mem_singleton] at hmem
  subst hmem
  have hnodup := findMatch_nodup n.matchedMineR
  have hanswered := n.answered
  rw [hmine]
  generalize n.mineR = mineR at hnodup hanswered ⊢
  generalize n.answer = answer at hspi hmatch hanswered
  clear hfirst hmine
  induction hanswered generalizing m with
  | nil =>
    cases m with
    | nil => exact List.Forall₂.nil
    | cons x m => exact absurd hmatch (by simp [protosMatch])
  | cons hans hrest ih =>
    rename_i mr pa mrs ps
    cases m with
    | nil => exact absurd hmatch (by simp [protosMatch])
    | cons x m =>
      unfold protosMatch at hmatch
      rw [Bool.and_eq_true, Bool.and_eq_true, beq_iff_eq] at hmatch
      refine List.Forall₂.cons ?_ (ih m (fun z hz => hnodup z (List.mem_cons_of_mem _ hz))
        (fun z hz => hspi z (List.mem_cons_of_mem _ hz)) hmatch.2)
      exact answer_sameKeys (hnodup mr List.mem_cons_self) hans hmatch.1.1
        (hspi (x, pa) List.mem_cons_self) hmatch.1.2

/-- The keys of a negotiated Child SA.  Each end cuts KEYMAT into consecutive slices and uses all of
it, and the keys of an outbound SA are those of the other end's inbound SA of the protocol. -/
theorem child_keys_agree (n : Negotiation) (prf : Prf) (k : KeymatInput) (envI envR : SadbEnv) :
    let i := addIpsecSa prf k envI true n.peerI n.mineI
    let r := addIpsecSa prf k envR false n.peerR n.mineR
    CutExactly prf k n.mineI i ∧ CutExactly prf k n.mineR r
      ∧ (∀ x ∈ i.installed, ∀ y ∈ r.installed, x.outbound = !y.outbound → x.protocol = y.protocol →
        x.enckey = y.enckey ∧ x.authkey = y.authkey)
      ∧ (i.ok = true → r.ok = true → ∀ x ∈ i.installed, ∃ y ∈ r.installed,
        y.outbound = !x.outbound ∧ y.view = x.view) := by
  intro i r
  have hI := findMatch_sameKeys n.matchedMineI n.matchedPeerI
  have hR := findMatch_sameKeys n.matchedMineR n.matchedPeerR
  refine ⟨addIpsecSa_cutExactly prf k envI true hI, addIpsecSa_cutExactly prf k envR false hR, ?_⟩
  rcases addIpsecSa_slices prf k envI true hI with hnone | hsomeI
  · have hi : i = ⟨[], 0, false⟩ := hnone
    rw [hi]
    exact ⟨fun x hx => absurd hx (by simp), fun hok => absurd hok (by simp)⟩
  rcases addIpsecSa_slices prf k envR false hR with hnone | hsomeR
  · have hr : r = ⟨[], 0, false⟩ := hnone
    rw [hr]
    exact ⟨fun x _ y hy => absurd hy (by simp), fun _ hok => absurd hok (by simp)⟩
  obtain ⟨keymat, firstI, secondI, hfirstI, hsecondI, hlensI, _, hkeyI, hpreI, hallI⟩ := hsomeI
  obtain ⟨keymat', firstR, secondR, hfirstR, hsecondR, hlensR, _, hkeyR, hpreR, hallR⟩ := hsomeR
  simp only [if_true, Bool.false_eq_true, if_false] at hfirstI hsecondI hfirstR hsecondR
  -- the plans of both ends have the same lengths, so there is one KEYMAT
  obtain ⟨ps, hps, hlens⟩ := SameKeys.plan_some n.sameKeys hsecondI
  rw [hfirstR] at hps
  have hfirst : firstI.map KeyParam.lens = firstR.map KeyParam.lens := by
    rw [Option.some.inj hps, hlens, hlensI]
  have hsecond : secondI.map KeyParam.lens = secondR.map KeyParam.lens := by
    rw [hlensI, hfirst, hlensR]
  have hlen := planLen_eq hfirst
  have hkeymat : keymat' = keymat := by
    rw [hlen, hkeyR] at hkeyI
    exact Option.some.inj hkeyI
  rw [hkeymat, ← hlen] at hpreR hallR
  have hnodup : ∀ {m : List Matched} {ps : List KeyParam}, plan m headerOrder = some ps →
      (ps.map KeyParam.protocol).Nodup := by
    intro m ps h
    exact (plan_protocols h).nodup (by decide)
  refine ⟨?_, ?_⟩
  · intro x hx y hy hdir heq
    have hx' := hpreI.subset hx
    have hy' := hpreR.subset hy
    rw [List.mem_append] at hx' hy'
    rcases hx' with hx' | hx' <;> rcases hy' with hy' | hy'
    · exact slices_agree 0 hfirst (hnodup hfirstR) hx' hy' heq
    · rw [slices_outbound _ _ x hx', slices_outbound _ _ y hy'] at hdir
      exact absurd hdir (by simp)
    · rw [slices_outbound _ _ x hx', slices_outbound _ _ y hy'] at hdir
      exact absurd hdir (by simp)
    · exact slices_agree _ hsecond (hnodup hsecondR) hx' hy' heq
  · intro hokI hokR x hx
    have hx' := hpreI.subset hx
    rw [List.mem_append] at hx'
    have hinst : r.installed = slices keymat false firstR 0
        ++ slices keymat true secondR (planLen firstI) := (hallR hokR).1
    rw [hinst]
    rcases hx' with hx' | hx'
    · obtain ⟨y, hy, hview⟩ := slices_partner 0 hfirst hx'
      refine ⟨y, List.mem_append_left _ hy, ?_, hview⟩
      rw [slices_outbound _ _ x hx', slices_outbound _ _ y hy]
      rfl
    · obtain ⟨y, hy, hview⟩ := slices_partner _ hsecond hx'
      refine ⟨y, List.mem_append_right _ hy, ?_, hview⟩
      rw [slices_outbound _ _ x hx', slices_outbound _ _ y hy]
      rfl

/-! ## AH with HMAC-SHA1 around ESP with AES-CBC -/

def bundleOf (ah esp : Bytes) : List OwnProto :=
  [⟨⟨protocolEsp, esp, [⟨transformEncr, [⟨12, [.short attrKeyLength 128]⟩]⟩]⟩, by simp⟩,
    ⟨⟨protocolAh, ah, [⟨transformIntegr, [⟨2, []⟩]⟩]⟩, by simp⟩]

/-- what a match of two such proposals leaves -/
def bundleMatched (ah esp : Bytes) : List Matched :=
  [⟨protocolEsp, esp, [⟨transformEncr, ⟨12, [.short attrKeyLength 128]⟩⟩]⟩,
    ⟨protocolAh, ah, [⟨transformIntegr, ⟨2, []⟩⟩]⟩]

def bundleNegotiation : Negotiation where
  ownI := [bundleOf [0, 0, 0, 1] [0, 0, 0, 2]]
  ownR := [bundleOf [0, 0, 0, 3] [0, 0, 0, 4]]
  offer := [(bundleOf [0, 0, 0, 1] [0, 0, 0, 2]).map OwnProto.toProto]
  mineR := bundleMatched [0, 0, 0, 3] [0, 0, 0, 4]
  peerR := bundleMatched [0, 0, 0, 1] [0, 0, 0, 2]
  matchedMineR := by decide
  matchedPeerR := by decide
  answer := (bundleOf [0, 0, 0, 3] [0, 0, 0, 4]).map OwnProto.toProto
  answered := .cons ⟨rfl, rfl, [], by simp, rfl⟩ (.cons ⟨rfl, rfl, [], by simp, rfl⟩ .nil)
  mineI := bundleMatched [0, 0, 0, 1] [0, 0, 0, 2]
  peerI := bundleMatched [0, 0, 0, 3] [0, 0, 0, 4]
  matchedMineI := by decide
  matchedPeerI := by decide

/-- a prf that adds up the octets -/
def sumPrf : Prf where
  resultLen := 20
  hash := fun key msg => some (List.replicate 20 ((key ++ msg).foldl (· + ·) 0))
  hash_length := by
    intro key msg out h
    rw [← Option.some.inj h]
    exact List.length_replicate

def openSadb : SadbEnv := ⟨true, fun _ _ => true⟩

def bundleKeymat : KeymatInput := ⟨[1], none, some [2], some [3], [4], [5], none⟩

theorem child_keys_agree_bundle :
    (addIpsecSa sumPrf bundleKeymat openSadb true bundleNegotiation.peerI
        bundleNegotiation.mineI).ok = true
      ∧ CutExactly sumPrf bundleKeymat bundleNegotiation.mineI
        (addIpsecSa sumPrf bundleKeymat openSadb true bundleNegotiation.peerI
          bundleNegotiation.mineI) := by
  refine ⟨by decide +kernel, ?_⟩
  exact (child_keys_agree bundleNegotiation sumPrf bundleKeymat openSadb openSadb).1

end Ikev2
