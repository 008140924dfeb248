import Racoon2.Iked.Established

/-!
# NAT detection

Each side of an IKE_SA_INIT exchange sends digests of the addresses it knows; a digest that is not
that of the address the other side sees says that a NAT stands between them.
`resp_state0_recv_notify` and `init_ike_sa_init_recv_notify` hand the notifies one by one to
`natt_process_natd`, which writes a flag of the IKE SA for each.  An UPDATE_SA_ADDRESSES is read
otherwise: the notifies are collected first, and `natt_mobike_renat` decides once.

* `recvNatd`          the notifies of an IKE_SA_INIT message, one by one;
* `nattMobikeRenat`   the decision over all of them;
* `NatDecided`        what should be recorded;
* `recvNatd_flags`    the last notify of a type is what counts.
-/

set_option linter.unusedVariables false

namespace Ikev2
open Bytes

/-- `nat_traversal` of the remote's configuration -/
inductive NatTraversal where
  | off
  | on
  | force
  deriving DecidableEq, Repr

/-- NAT_DETECTION_SOURCE_IP and NAT_DETECTION_DESTINATION_IP -/
inductive NatdType where
  | sourceIp
  | destinationIp
  deriving DecidableEq, Repr

structure NatdNotify where
  type : NatdType
  spiSize : Nat
  /-- what follows the fixed part of the payload: the SPI and the data -/
  body : Bytes
  deriving DecidableEq, Repr

/-- the IKE SA, with what NAT traversal keeps beside it -/
structure NattSa extends Sa where
  natTraversal : NatTraversal
  /-- `natk_timer` is armed -/
  natkTimer : Bool

/-- the flag that the notifies of a type decide: of the peer, and of ourselves -/
def NattSa.nated (sa : NattSa) : NatdType → Bool
  | .sourceIp => sa.peerBehindNat
  | .destinationIp => sa.behindNat

/-- write that flag -/
def NattSa.record (sa : NattSa) (type : NatdType) (nated : Bool) : NattSa :=
  match type with
  | .sourceIp => { sa with peerBehindNat := nated }
  | .destinationIp => { sa with behindNat := nated }

/-- the keepalive starts once the SA is established: before that its ports have not floated -/
def NattSa.armNatk (sa : NattSa) : NattSa :=
  if sa.state = .established then { sa with natkTimer := true } else sa

def NattSa.setFragSupported (sa : NattSa) : NattSa := { sa with fragSupported := true }

section
variable (sha1 : Bytes → Bytes)

/-! ## the digests -/

/-- `natt_create_hash` -/
def nattCreateHash (mode : NatTraversal) (index : Bytes × Bytes) (addr : Endpoint) (useSpiR : Bool) :
    Bytes :=
  sha1 (index.1 ++ (if useSpiR then index.2 else List.replicate 8 0)
    ++ (if mode = .force then List.replicate addr.addr.length 0 else addr.addr) ++ enc16 addr.port)

/-- the data of a notify against a digest; `none`: the length is wrong -/
def natdCompare (hash : Bytes) (n : NatdNotify) : Option Bool :=
  if n.body.length < n.spiSize ∨ n.body.length - n.spiSize ≠ hash.length then none
  else some (n.body.drop n.spiSize == hash)

/-- the address that a notify is about, as we see it -/
def NattSa.natdAddr (sa : NattSa) : NatdType → Endpoint
  | .sourceIp => sa.remoteEp
  | .destinationIp => sa.localEp

/-- the digest that a notify of a type should have -/
def NattSa.natdHash (sa : NattSa) (useSpiR : Bool) (type : NatdType) : Bytes :=
  nattCreateHash sha1 sa.natTraversal (sa.spiI, sa.spiR) (sa.natdAddr type) useSpiR

/-- the notify has the digest of the address that we see -/
def NattSa.natdMatches (sa : NattSa) (useSpiR : Bool) (n : NatdNotify) : Bool :=
  natdCompare (sa.natdHash sha1 useSpiR n.type) n == some true

/-! ## one by one -/

/-- `natt_process_natd` -/
def nattProcessNatd (sa : NattSa) (n : NatdNotify) (useSpiR : Bool) : Option NattSa :=
  if sa.natTraversal = .force then some ((sa.record .destinationIp true).record .sourceIp true)
  else
    match natdCompare (sa.natdHash sha1 useSpiR n.type) n with
    | none => none
    | some same =>
      match n.type with
      | .sourceIp => some (sa.record .sourceIp (!same))
      | .destinationIp =>
        if same then some (sa.record .destinationIp false)
        else some (sa.record .destinationIp true).armNatk

/-- `resp_state0_recv_notify` and `init_ike_sa_init_recv_notify`, of such a notify -/
def saInitRecvNotify (useSpiR : Bool) (sa : NattSa) (n : NatdNotify) : Option NattSa :=
  if n.spiSize ≠ 0 then none
  else if sa.natTraversal = .on ∨ sa.natTraversal = .force then nattProcessNatd sha1 sa n useSpiR
  else
    -- the case falls through to that of FRAGMENTATION_SUPPORTED
    some sa.setFragSupported

/-- the notifies of a message; `none`: the message is dropped, or the IKE SA aborted -/
def recvNatd (useSpiR : Bool) : NattSa → List NatdNotify → Option NattSa
  | sa, [] => some sa
  | sa, n :: ns =>
    match saInitRecvNotify sha1 useSpiR sa n with
    | none => none
    | some sa => recvNatd useSpiR sa ns

/-! ## all at once -/

/-- what `ikev2_informational_responder_recv` collects -/
structure NatdSeen where
  srcSeen : Bool
  srcMatch : Bool
  dstSeen : Bool
  dstMatch : Bool
  deriving DecidableEq, Repr

/-- a notify of the message, and how it compares -/
def NatdSeen.add (seen : NatdSeen) (type : NatdType) : Option Bool → NatdSeen
  | none => seen
  | some m =>
    match type with
    | .sourceIp => { seen with srcSeen := true, srcMatch := seen.srcMatch || m }
    | .destinationIp => { seen with dstSeen := true, dstMatch := seen.dstMatch || m }

def natdCollect (compare : NatdNotify → Option Bool) (ns : List NatdNotify) : NatdSeen :=
  ns.foldl (fun seen n => seen.add n.type (compare n)) ⟨false, false, false, false⟩

/-- `natt_mobike_renat`; also whether a flag changed -/
def nattMobikeRenat (sa : NattSa) (seen : NatdSeen) : NattSa × Bool :=
  if !seen.srcSeen && !seen.dstSeen then (sa, false)
  else if sa.natTraversal = .force then (sa, false)
  else
    let peer := if seen.srcSeen then !seen.srcMatch else sa.peerBehindNat
    let behind := if seen.dstSeen then !seen.dstMatch else sa.behindNat
    let timer :=
      if behind && !sa.behindNat && sa.state == .established then true
      else if !behind && sa.behindNat then false
      else sa.natkTimer
    ({ sa with peerBehindNat := peer, behindNat := behind, natkTimer := timer },
      (sa.behindNat != behind) || (sa.peerBehindNat != peer))

/-! ## what should be recorded -/

/-- there is a notify of the type, and none of them matches -/
def NoneMatches (useSpiR : Bool) (sa : NattSa) (ns : List NatdNotify) (type : NatdType) : Prop :=
  (∃ n ∈ ns, n.type = type) ∧
    ∀ n ∈ ns, n.type = type → sa.natdMatches sha1 useSpiR n = false

/-- the flags of `sa'` are those that the list of notifies gives, in any order, and those that
`natt_mobike_renat` gives for it -/
def NatDecided (useSpiR : Bool) (sa sa' : NattSa) (ns : List NatdNotify) : Prop :=
  ∀ type, (sa'.nated type = true ↔ NoneMatches sha1 useSpiR sa ns type) ∧
    sa'.nated type =
      (nattMobikeRenat sa
        (natdCollect (fun n => natdCompare (sa.natdHash sha1 useSpiR n.type) n) ns)).1.nated type

/-- the last notify of a type -/
def lastNatd (type : NatdType) (ns : List NatdNotify) : Option NatdNotify :=
  (ns.filter fun n => n.type = type).getLast?

/-- the notify makes the handler return -1 -/
def NatdRefused (useSpiR : Bool) (sa : NattSa) (n : NatdNotify) : Prop :=
  n.spiSize ≠ 0 ∨
    (sa.natTraversal = .on ∧ natdCompare (sa.natdHash sha1 useSpiR n.type) n = none)

/-- when one by one is as good as all at once -/
def LastDecides (useSpiR : Bool) (sa : NattSa) (ns : List NatdNotify) (type : NatdType) : Prop :=
  match sa.natTraversal with
  | .on =>
    -- a match of any notify is a match of the last one, and without one the flag is clear
    match lastNatd type ns with
    | none => sa.nated type = false
    | some last => (∃ n ∈ ns, n.type = type ∧ sa.natdMatches sha1 useSpiR n = true) →
        sa.natdMatches sha1 useSpiR last = true
  | .off => (sa.nated type = true ↔ NoneMatches sha1 useSpiR sa ns type)
  | .force =>
    if ns = [] then sa.nated type = false
    else sa.nated type = true ∧ NoneMatches sha1 useSpiR sa ns type

/-! ## the walk -/

variable {sha1} {useSpiR : Bool} {sa sa' : NattSa} {n : NatdNotify} {ns : List NatdNotify}

/-- a notify changes flags, and nothing that the digests are made of -/
structure SameNatd (sa sa' : NattSa) : Prop where
  mode : sa'.natTraversal = sa.natTraversal
  hash : ∀ sha1 useSpiR type, sa'.natdHash sha1 useSpiR type = sa.natdHash sha1 useSpiR type

theorem SameNatd.matches (h : SameNatd sa sa') (n : NatdNotify) :
    sa'.natdMatches sha1 useSpiR n = sa.natdMatches sha1 useSpiR n := by
  unfold NattSa.natdMatches
  rw [h.hash]

theorem SameNatd.refused (h : SameNatd sa sa') (n : NatdNotify) :
    NatdRefused sha1 useSpiR sa' n ↔ NatdRefused sha1 useSpiR sa n := by
  unfold NatdRefused
  rw [h.hash, h.mode]

theorem SameNatd.refl (sa : NattSa) : SameNatd sa sa := ⟨rfl, fun _ _ _ => rfl⟩

theorem SameNatd.trans {a b c : NattSa} (h : SameNatd a b) (h' : SameNatd b c) : SameNatd a c :=
  ⟨h'.mode.trans h.mode, fun sha1 useSpiR type =>
    (h'.hash sha1 useSpiR type).trans (h.hash sha1 useSpiR type)⟩

theorem sameNatd_record (sa : NattSa) (type : NatdType) (nated : Bool) :
    SameNatd sa (sa.record type nated) := by
  cases type <;> exact ⟨rfl, fun _ _ type => by cases type <;> rfl⟩

theorem sameNatd_armNatk (sa : NattSa) : SameNatd sa sa.armNatk := by
  unfold NattSa.armNatk
  split
  · exact ⟨rfl, fun _ _ type => by cases type <;> rfl⟩
  · exact SameNatd.refl sa

theorem sameNatd_setFragSupported (sa : NattSa) : SameNatd sa sa.setFragSupported :=
  ⟨rfl, fun _ _ type => by cases type <;> rfl⟩

@[simp] theorem nated_record (sa : NattSa) (type type' : NatdType) (nated : Bool) :
    (sa.record type nated).nated type' = if type = type' then nated else sa.nated type' := by
  cases type <;> cases type' <;> rfl

@[simp] theorem nated_armNatk (sa : NattSa) (type : NatdType) :
    sa.armNatk.nated type = sa.nated type := by
  unfold NattSa.armNatk
  split <;> cases type <;> rfl

@[simp] theorem nated_setFragSupported (sa : NattSa) (type : NatdType) :
    sa.setFragSupported.nated type = sa.nated type := by
  cases type <;> rfl

/-- all that `natt_process_natd` can do with `nat_traversal on` -/
theorem nattProcessNatd_cases (hmode : sa.natTraversal = .on)
    (h : nattProcessNatd sha1 sa n useSpiR = some sa') :
    SameNatd sa sa' ∧ natdCompare (sa.natdHash sha1 useSpiR n.type) n ≠ none ∧
    ∀ type, sa'.nated type =
      if n.type = type then !sa.natdMatches sha1 useSpiR n else sa.nated type := by
  unfold nattProcessNatd at h
  rw [hmode, if_neg (by decide)] at h
  unfold NattSa.natdMatches
  generalize natdCompare (sa.natdHash sha1 useSpiR n.type) n = c at h
  cases c with
  | none => cases h
  | some same =>
    cases htype : n.type <;> cases same <;> simp only [htype, Bool.false_eq_true, if_true, if_false] at h <;>
      cases h
    · exact ⟨sameNatd_record sa _ _, by simp, by simp⟩
    · exact ⟨sameNatd_record sa _ _, by simp, by simp⟩
    · exact ⟨(sameNatd_record sa _ _).trans (sameNatd_armNatk _), by simp, by simp⟩
    · exact ⟨sameNatd_record sa _ _, by simp, by simp⟩

/-- all that an accepted notify can do -/
theorem saInitRecvNotify_cases (h : saInitRecvNotify sha1 useSpiR sa n = some sa') :
    SameNatd sa sa' ∧ ¬ NatdRefused sha1 useSpiR sa n ∧
    ((sa.natTraversal = .force ∧ ∀ type, sa'.nated type = true) ∨
      (sa.natTraversal = .off ∧ ∀ type, sa'.nated type = sa.nated type) ∨
      (sa.natTraversal = .on ∧
        ∀ type, sa'.nated type =
          if n.type = type then !sa.natdMatches sha1 useSpiR n else sa.nated type)) := by
  unfold saInitRecvNotify at h
  by_cases hspi : n.spiSize = 0
  · rw [if_neg (not_not_intro hspi)] at h
    cases hmode : sa.natTraversal with
    | off =>
      rw [hmode, if_neg (by decide)] at h
      cases h
      refine ⟨sameNatd_setFragSupported sa, ?_, .inr (.inl ⟨rfl, by simp⟩)⟩
      simp [NatdRefused, hspi, hmode]
    | force =>
      rw [hmode, if_pos (by decide)] at h
      unfold nattProcessNatd at h
      rw [if_pos hmode] at h
      cases h
      refine ⟨(sameNatd_record sa _ _).trans (sameNatd_record _ _ _), ?_, .inl ⟨rfl, ?_⟩⟩
      · simp [NatdRefused, hspi, hmode]
      · intro type
        cases type <;> rfl
    | on =>
      rw [hmode, if_pos (by decide)] at h
      obtain ⟨hsame, hc, hflag⟩ := nattProcessNatd_cases hmode h
      refine ⟨hsame, ?_, .inr (.inr ⟨rfl, hflag⟩)⟩
      simp [NatdRefused, hspi, hc]
  · rw [if_pos hspi] at h
    cases h

theorem saInitRecvNotify_eq_none :
    saInitRecvNotify sha1 useSpiR sa n = none ↔ NatdRefused sha1 useSpiR sa n := by
  constructor
  · intro h
    by_cases hspi : n.spiSize = 0
    · unfold saInitRecvNotify nattProcessNatd at h
      rw [if_neg (not_not_intro hspi)] at h
      cases hmode : sa.natTraversal with
      | off => simp [hmode] at h
      | force => simp [hmode] at h
      | on =>
        refine .inr ⟨hmode, ?_⟩
        generalize natdCompare (sa.natdHash sha1 useSpiR n.type) n = c at h
        cases c with
        | none => rfl
        | some same => cases same <;> cases htype : n.type <;> simp [hmode, htype] at h
    · exact .inl hspi
  · intro h
    cases hr : saInitRecvNotify sha1 useSpiR sa n with
    | none => rfl
    | some sa' => exact absurd h (saInitRecvNotify_cases hr).2.1

theorem recvNatd_cons_some (h : recvNatd sha1 useSpiR sa (n :: ns) = some sa') :
    ∃ sa₁, saInitRecvNotify sha1 useSpiR sa n = some sa₁ ∧
      recvNatd sha1 useSpiR sa₁ ns = some sa' := by
  unfold recvNatd at h
  cases hr : saInitRecvNotify sha1 useSpiR sa n with
  | none => simp only [hr, reduceCtorEq] at h
  | some sa₁ => exact ⟨sa₁, rfl, by simpa only [hr] using h⟩

/-- the whole message is refused for one notify of it -/
theorem recvNatd_eq_none :
    recvNatd sha1 useSpiR sa ns = none ↔ ∃ n ∈ ns, NatdRefused sha1 useSpiR sa n := by
  induction ns generalizing sa with
  | nil => simp [recvNatd]
  | cons n ns ih =>
    rw [List.exists_mem_cons_iff]
    cases hr : saInitRecvNotify sha1 useSpiR sa n with
    | none =>
      have hn := saInitRecvNotify_eq_none.mp hr
      simp [recvNatd, hr, hn]
    | some sa₁ =>
      obtain ⟨hsame, hn, -⟩ := saInitRecvNotify_cases hr
      have hrest : recvNatd sha1 useSpiR sa (n :: ns) = recvNatd sha1 useSpiR sa₁ ns := by
        simp only [recvNatd, hr]
      rw [hrest, ih]
      simp only [hn, false_or, hsame.refused]

theorem lastNatd_cons (type : NatdType) (n : NatdNotify) (ns : List NatdNotify) :
    lastNatd type (n :: ns) =
      (lastNatd type ns).or (if n.type = type then some n else none) := by
  unfold lastNatd
  by_cases h : n.type = type
  · rw [List.filter_cons_of_pos (by simpa using h), if_pos h, List.getLast?_cons]
    cases (ns.filter fun n => n.type = type).getLast? <;> rfl
  · rw [List.filter_cons_of_neg (by simpa using h), if_neg h, Option.or_none]

/-- the flags after the message: what its last notify of the type says -/
theorem recvNatd_flags (hmode : sa.natTraversal = .on)
    (h : recvNatd sha1 useSpiR sa ns = some sa') (type : NatdType) :
    sa'.nated type =
      ((lastNatd type ns).map fun n => !sa.natdMatches sha1 useSpiR n).getD (sa.nated type) := by
  induction ns generalizing sa with
  | nil =>
    cases h
    rfl
  | cons n ns ih =>
    obtain ⟨sa₁, hn, hrest⟩ := recvNatd_cons_some h
    obtain ⟨hsame, -, hcase⟩ := saInitRecvNotify_cases hn
    simp only [hmode, reduceCtorEq, false_and, true_and, false_or] at hcase
    rw [ih (hsame.mode.trans hmode) hrest, lastNatd_cons, hcase type]
    simp only [hsame.matches]
    cases lastNatd type ns with
    | some last => rfl
    | none => by_cases ht : n.type = type <;> simp [ht]

/-- with `nat_traversal off` no flag moves -/
theorem recvNatd_off (hmode : sa.natTraversal = .off)
    (h : recvNatd sha1 useSpiR sa ns = some sa') (type : NatdType) :
    sa'.nated type = sa.nated type := by
  induction ns generalizing sa with
  | nil =>
    cases h
    rfl
  | cons n ns ih =>
    obtain ⟨sa₁, hn, hrest⟩ := recvNatd_cons_some h
    obtain ⟨hsame, -, hcase⟩ := saInitRecvNotify_cases hn
    simp only [hmode, reduceCtorEq, false_and, true_and, false_or, or_false] at hcase
    rw [ih (hsame.mode.trans hmode) hrest, hcase type]

/-- with `nat_traversal force` any notify sets both -/
theorem recvNatd_force (hmode : sa.natTraversal = .force)
    (h : recvNatd sha1 useSpiR sa ns = some sa') (type : NatdType) :
    sa'.nated type = if ns = [] then sa.nated type else true := by
  induction ns generalizing sa with
  | nil =>
    cases h
    rfl
  | cons n ns ih =>
    obtain ⟨sa₁, hn, hrest⟩ := recvNatd_cons_some h
    obtain ⟨hsame, -, hcase⟩ := saInitRecvNotify_cases hn
    simp only [hmode, reduceCtorEq, false_and, true_and, or_false] at hcase
    rw [ih (hsame.mode.trans hmode) hrest, hcase type]
    simp

/-! ## the decision -/

def NatdSeen.seen (seen : NatdSeen) : NatdType → Bool
  | .sourceIp => seen.srcSeen
  | .destinationIp => seen.dstSeen

def NatdSeen.matched (seen : NatdSeen) : NatdType → Bool
  | .sourceIp => seen.srcMatch
  | .destinationIp => seen.dstMatch

theorem seen_add (seen : NatdSeen) (type t : NatdType) (c : Option Bool) :
    (seen.add type c).seen t = (seen.seen t || (decide (type = t) && c.isSome)) := by
  cases c <;> cases type <;> cases t <;> simp [NatdSeen.add, NatdSeen.seen]

theorem matched_add (seen : NatdSeen) (type t : NatdType) (c : Option Bool) :
    (seen.add type c).matched t = (seen.matched t || (decide (type = t) && (c == some true))) := by
  cases c with
  | none => cases type <;> cases t <;> simp [NatdSeen.add, NatdSeen.matched]
  | some m => cases m <;> cases type <;> cases t <;> simp [NatdSeen.add, NatdSeen.matched]

theorem natdCollect_seen (compare : NatdNotify → Option Bool) (ns : List NatdNotify) (t : NatdType) :
    (natdCollect compare ns).seen t = ns.any fun n => decide (n.type = t) && (compare n).isSome := by
  have h : ∀ seen : NatdSeen,
      (ns.foldl (fun seen n => seen.add n.type (compare n)) seen).seen t =
        (seen.seen t || ns.any fun n => decide (n.type = t) && (compare n).isSome) := by
    induction ns with
    | nil => simp
    | cons n ns ih =>
      intro seen
      rw [List.foldl_cons, ih, seen_add, List.any_cons, Bool.or_assoc]
  rw [natdCollect, h]
  cases t <;> rfl

theorem natdCollect_matched (compare : NatdNotify → Option Bool) (ns : List NatdNotify)
    (t : NatdType) :
    (natdCollect compare ns).matched t =
      ns.any fun n => decide (n.type = t) && (compare n == some true) := by
  have h : ∀ seen : NatdSeen,
      (ns.foldl (fun seen n => seen.add n.type (compare n)) seen).matched t =
        (seen.matched t || ns.any fun n => decide (n.type = t) && (compare n == some true)) := by
    induction ns with
    | nil => simp
    | cons n ns ih =>
      intro seen
      rw [List.foldl_cons, ih, matched_add, List.any_cons, Bool.or_assoc]
  rw [natdCollect, h]
  cases t <;> rfl

theorem nattMobikeRenat_nated (sa : NattSa) (seen : NatdSeen) (t : NatdType) :
    (nattMobikeRenat sa seen).1.nated t =
      if sa.natTraversal = .force then sa.nated t
      else if seen.seen t then !seen.matched t else sa.nated t := by
  unfold nattMobikeRenat
  by_cases hnone : (!seen.srcSeen && !seen.dstSeen) = true
  · rw [if_pos hnone]
    simp only [Bool.and_eq_true, Bool.not_eq_true'] at hnone
    cases t <;> simp [NatdSeen.seen, hnone]
  · rw [if_neg hnone]
    by_cases hforce : sa.natTraversal = .force
    · rw [if_pos hforce, if_pos hforce]
    · rw [if_neg hforce, if_neg hforce]
      cases t <;> rfl

/-- where the flag is right notify by notify, it is the one of the batch decision -/
theorem nated_eq_renat (hforce : sa.natTraversal ≠ .force) (t : NatdType)
    (hright : sa'.nated t = true ↔ NoneMatches sha1 useSpiR sa ns t)
    (hkeep : (∀ n ∈ ns, n.type = t → natdCompare (sa.natdHash sha1 useSpiR n.type) n = none) →
      sa'.nated t = sa.nated t) :
    sa'.nated t =
      (nattMobikeRenat sa
        (natdCollect (fun n => natdCompare (sa.natdHash sha1 useSpiR n.type) n) ns)).1.nated t := by
  rw [nattMobikeRenat_nated, if_neg hforce, natdCollect_seen, natdCollect_matched]
  by_cases hseen : (ns.any fun n => decide (n.type = t)
      && (natdCompare (sa.natdHash sha1 useSpiR n.type) n).isSome) = true
  · rw [if_pos hseen, Bool.eq_iff_iff, hright, Bool.not_eq_true', List.any_eq_false]
    simp only [List.any_eq_true, Bool.and_eq_true, decide_eq_true_eq] at hseen
    obtain ⟨n, hn, htype, -⟩ := hseen
    constructor
    · rintro ⟨-, hno⟩ n hn hm
      simp only [Bool.and_eq_true, decide_eq_true_eq] at hm
      have hm' : sa.natdMatches sha1 useSpiR n = true := hm.2
      rw [hno n hn hm.1] at hm'
      cases hm'
    · intro hno
      refine ⟨⟨n, hn, htype⟩, fun n hn htype => ?_⟩
      have h := hno n hn
      rw [NattSa.natdMatches]
      simpa [htype] using h
  · rw [if_neg hseen]
    apply hkeep
    intro n hn htype
    by_contra hc
    refine hseen (List.any_eq_true.mpr ⟨n, hn, ?_⟩)
    simp [htype, Option.isSome_iff_ne_none]
    rwa [htype] at hc

theorem lastNatd_eq_none {t : NatdType} : lastNatd t ns = none ↔ ∀ n ∈ ns, n.type ≠ t := by
  unfold lastNatd
  rw [List.getLast?_eq_none_iff, List.filter_eq_nil_iff]
  simp

theorem lastNatd_mem {t : NatdType} {last : NatdNotify} (h : lastNatd t ns = some last) :
    last ∈ ns ∧ last.type = t := by
  have hm := List.mem_of_getLast? h
  rw [List.mem_filter] at hm
  exact ⟨hm.1, of_decide_eq_true hm.2⟩

/-- `nat_traversal on`: the flag is right exactly when the last notify speaks for all -/
theorem flag_right_iff_on (hmode : sa.natTraversal = .on)
    (h : recvNatd sha1 useSpiR sa ns = some sa') (t : NatdType) :
    (sa'.nated t = true ↔ NoneMatches sha1 useSpiR sa ns t) ↔
      LastDecides sha1 useSpiR sa ns t := by
  have hflag := recvNatd_flags hmode h t
  unfold LastDecides
  rw [hmode]
  show _ ↔ (match lastNatd t ns with | none => _ | some last => _)
  cases hlast : lastNatd t ns with
  | none =>
    have hno := lastNatd_eq_none.mp hlast
    have hnone : ¬ NoneMatches sha1 useSpiR sa ns t := by
      rintro ⟨⟨n, hn, htype⟩, -⟩
      exact hno n hn htype
    rw [hlast] at hflag
    simp only [hflag, hnone, iff_false, Option.map_none, Option.getD_none, Bool.not_eq_true]
  | some last =>
    obtain ⟨hmem, htype⟩ := lastNatd_mem hlast
    rw [hlast] at hflag
    simp only [Option.map_some, Option.getD_some] at hflag
    rw [hflag, Bool.not_eq_true']
    constructor
    · intro hright hex
      obtain ⟨n, hn, hnt, hm⟩ := hex
      by_contra hl
      have hno := (hright.mp (by simpa using hl)).2 n hn hnt
      rw [hm] at hno
      cases hno
    · intro hlastm
      constructor
      · intro hl
        refine ⟨⟨last, hmem, htype⟩, fun n hn hnt => ?_⟩
        by_contra hm
        have := hlastm ⟨n, hn, hnt, by simpa using hm⟩
        rw [hl] at this
        cases this
      · rintro ⟨-, hno⟩
        exact hno last hmem htype

/-- for each type of notify -/
theorem natDecided_iff (h : recvNatd sha1 useSpiR sa ns = some sa') :
    NatDecided sha1 useSpiR sa sa' ns ↔ ∀ t, LastDecides sha1 useSpiR sa ns t := by
  unfold NatDecided
  apply forall_congr'
  intro t
  cases hmode : sa.natTraversal with
  | on =>
    rw [← flag_right_iff_on hmode h t]
    refine ⟨And.left, fun hright => ⟨hright, nated_eq_renat (by simp [hmode]) t hright ?_⟩⟩
    intro hall
    -- an accepted message has no notify of a wrong length
    have hno : lastNatd t ns = none := by
      rw [lastNatd_eq_none]
      intro n hn htype
      have hnone := recvNatd_eq_none.mpr ⟨n, hn, .inr ⟨hmode, hall n hn htype⟩⟩
      rw [h] at hnone
      cases hnone
    rw [recvNatd_flags hmode h, hno]
    rfl
  | off =>
    have hkeep := recvNatd_off hmode h t
    unfold LastDecides
    simp only [hmode]
    rw [← hkeep]
    exact ⟨And.left, fun hright => ⟨hright, nated_eq_renat (by simp [hmode]) t hright
      fun _ => hkeep⟩⟩
  | force =>
    have hflag := recvNatd_force hmode h t
    unfold LastDecides
    simp only [hmode, nattMobikeRenat_nated, if_true]
    by_cases hns : ns = []
    · subst hns
      rw [if_pos rfl] at hflag ⊢
      rw [hflag]
      simp [NoneMatches]
    · rw [if_neg hns] at hflag ⊢
      rw [hflag]
      constructor
      · rintro ⟨hright, hold⟩
        exact ⟨hold.symm, hright.mp rfl⟩
      · rintro ⟨hold, hnone⟩
        exact ⟨⟨fun _ => hnone, fun _ => rfl⟩, hold.symm⟩

/-- what an accepted IKE_SA_INIT message records is what all its notifies together say, exactly when
the last notify of each type decides as all of them do -/
theorem nat_detection_iff_last_decides (sha1 : Bytes → Bytes) (useSpiR : Bool) (sa : NattSa)
    (ns : List NatdNotify) :
    (∀ sa', recvNatd sha1 useSpiR sa ns = some sa' → NatDecided sha1 useSpiR sa sa' ns) ↔
      (∃ n ∈ ns, NatdRefused sha1 useSpiR sa n) ∨ ∀ t, LastDecides sha1 useSpiR sa ns t := by
  cases h : recvNatd sha1 useSpiR sa ns with
  | none =>
    have hr := recvNatd_eq_none.mp h
    exact ⟨fun _ => .inl hr, fun _ _ hsome => by cases hsome⟩
  | some sa₁ =>
    have hr : ¬ ∃ n ∈ ns, NatdRefused sha1 useSpiR sa n := by
      rw [← recvNatd_eq_none, h]
      simp
    rw [or_iff_right hr, ← natDecided_iff h]
    exact ⟨fun hall => hall sa₁ rfl, fun hd sa' hsome => by cases hsome; exact hd⟩

end

/-- SHA-1 on the octets of one notify: the SPI 0101010101010101, no second SPI, 192.0.2.1, 500 -/
def sampleSha1 (b : Bytes) : Bytes :=
  if b = [1, 1, 1, 1, 1, 1, 1, 1, 0, 0, 0, 0, 0, 0, 0, 0, 192, 0, 2, 1, 1, 244] then
    [44, 107, 34, 73, 38, 153, 231, 251, 153, 6, 231, 15, 31, 111, 60, 13, 47, 108, 23, 212]
  else []

/-- a responder's SA for a request from 192.0.2.1 -/
def sampleNattSa : NattSa :=
  { Sa.allocate false [1, 1, 1, 1, 1, 1, 1, 1] [2, 2, 2, 2, 2, 2, 2, 2] (.v4 192 0 2 2 500)
      (.v4 192 0 2 1 500) with
    natTraversal := .on, natkTimer := false }

/-- two source notifies of a host with two addresses: the first is the one it sent from -/
def sampleNatd : List NatdNotify :=
  [⟨.sourceIp, 0,
      [44, 107, 34, 73, 38, 153, 231, 251, 153, 6, 231, 15, 31, 111, 60, 13, 47, 108, 23, 212]⟩,
    ⟨.sourceIp, 0, [1, 2, 3, 4, 5, 6, 7, 8, 9, 10, 11, 12, 13, 14, 15, 16, 17, 18, 19, 20]⟩]

/-- the second one hides that the first matches -/
theorem nat_detected_though_one_matches :
    ¬ ∀ sa', recvNatd sampleSha1 false sampleNattSa sampleNatd = some sa' →
      NatDecided sampleSha1 false sampleNattSa sa' sampleNatd := by
  intro h
  obtain ⟨hright, -⟩ := h (sampleNattSa.record .sourceIp false |>.record .sourceIp true) rfl .sourceIp
  have hno := (hright.mp rfl).2 _ List.mem_cons_self rfl
  revert hno
  decide

end Ikev2
