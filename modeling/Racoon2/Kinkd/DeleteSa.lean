import Racoon2.Iked.Sa
import Racoon2.Kinkd.DeleteReply

/-!
# DELETE and the handles

The responder looks for the SPIs of a DELETE among its handles and marks those that it finds; their SAs
go when the timers of the handle have run.

* `hlGetBySaidx`, `deleteSa`, `respondDelete`  the responder;
* `Marked`            what a DELETE can do to a handle;
* `delete_isolated`   whatever messages come, a principal marks only handles of its own;
* `prepD2_eq`         the octets of a DELETE;
* `delete_exchange`   a DELETE for the two sides of one pair of SAs.
-/

set_option linter.unusedVariables false

namespace Kink
open Bytes Rows
open Ikev2 (Endpoint sameAddr)

/-! ## the list of handles -/

/-- a handle in the list, with the principal of its peer and, when it has a `ph2`, the addresses of
it -/
structure Listed where
  principal : String
  addrs : Option (Endpoint × Endpoint)
  kh : SaHandle
  deriving DecidableEq, Repr

/-- `match_saidx`: the SPI of the other direction -/
def matchSaidx (pp : SaProp) (inbound : Bool) (protoId spi : Nat) : Option Nat :=
  pp.protos.findSome? fun pr =>
    if protoId ≠ pr.protoId then none
    else if inbound = true ∧ spi = pr.spi then some pr.spiP
    else if inbound = false ∧ spi = pr.spiP then some pr.spi
    else none

/-- whether the SAs from `src` to `dst` are inbound ones of the handle, or outbound ones -/
def Listed.inbound (h : Listed) (src dst : Endpoint) : Option Bool :=
  match h.addrs with
  | none => none
  | some (a, b) =>
    if sameAddr a dst ∧ sameAddr b src then some true
    else if sameAddr a src ∧ sameAddr b dst then some false
    else none

/-- the body of the loop of `hl_get_by_saidx` -/
def Listed.matchSa (h : Listed) (src dst : Endpoint) (protoId spi : Nat) : Option Nat :=
  (h.inbound src dst).bind fun inbound =>
    (h.kh.approval.or h.kh.first).bind fun pp => matchSaidx pp inbound protoId spi

/-- `hl_get_by_saidx`: the place of the first handle that matches, the handle, and the SPI of the other
direction -/
def hlGetBySaidx (src dst : Endpoint) (protoId spi : Nat) : List Listed → Option (Nat × Listed × Nat)
  | [] => none
  | h :: rest =>
    match h.matchSa src dst protoId spi with
    | some twinspi => some (0, h, twinspi)
    | none => (hlGetBySaidx src dst protoId spi rest).map fun r => (r.1 + 1, r.2)

/-- the one who sent a DELETE, and the addresses that it came by -/
structure Requester where
  principal : String
  here : Endpoint
  there : Endpoint
  deriving DecidableEq, Repr

/-- ISAKMP_NTYPE_INVALID_SPI -/
def ntypeInvalidSpi : Nat := 11
/-- ISAKMP_NTYPE_AUTHENTICATION_FAILED -/
def ntypeAuthenticationFailed : Nat := 24

def Listed.deleting (h : Listed) : Listed := { h with kh := { h.kh with state := .rDeleteRecv } }

/-- `delete_sa` -/
def deleteSa (req : Requester) : DeleteFunc (List Listed) := fun protoId spi hl =>
  match hlGetBySaidx req.here req.there protoId spi hl with
  | none => (ntypeInvalidSpi, spi, hl)
  | some (i, khd, twinspi) =>
    if req.principal ≠ khd.principal then (ntypeAuthenticationFailed, spi, hl)
    else if khd.kh.state = .rDeleteRecv ∨ khd.kh.state = .rDeleteHalf then (0, twinspi, hl)
    else if khd.kh.mature = false then (ntypeInvalidSpi, spi, hl)
    else (0, twinspi, hl.set i khd.deleting)

section
variable {Ctx : Type}

/-- an authenticated DELETE: its sender, the handle that was made for it, and what lies beyond its
ISAKMP payloads -/
structure DeleteMessage (Ctx : Type) where
  req : Requester
  kh : Transaction Ctx
  beyond : Bytes

/-- `respond_delete`: the handles, and the ISAKMP payloads of the REPLY -/
def respondDelete (hl : List Listed) (m : DeleteMessage Ctx) : List Listed × Option (UInt8 × Bytes) :=
  match m.kh.decoded.payloads.isakmp.bind (readKinkIsakmp m.kh) with
  | none => (hl, none)
  | some kh =>
    let r := isakmpInfoRecvD (deleteSa m.req) m.beyond (kh.inIsakmp.getD [])
      (UInt8.ofNat kh.isakmp1sttype) hl
    (r.1, r.2.toOption)

/-- the protocols and SPIs of a message that are looked for -/
def DeleteMessage.asked (m : DeleteMessage Ctx) : List (Nat × Nat) :=
  match m.kh.decoded.payloads.isakmp.bind (readKinkIsakmp m.kh) with
  | none => []
  | some kh =>
    match isakmpParseNoheader (kh.inIsakmp.getD []) (UInt8.ofNat kh.isakmp1sttype) with
    | none => []
    | some pas => Kink.asked (pas.takeWhile Parsed.taken)

end

/-! ## what a DELETE can do to a handle -/

/-- the handle is as it was, or it was a mature one of the kind `P` and waits for its end now -/
def Marked (P : Listed → Prop) (h h' : Listed) : Prop :=
  h' = h ∨ (h.kh.mature = true ∧ P h ∧ h' = h.deleting)

theorem deleting_not_mature (h : Listed) : h.deleting.kh.mature = false := rfl

theorem marked_refl (P : Listed → Prop) (hl : List Listed) : List.Forall₂ (Marked P) hl hl := by
  induction hl with
  | nil => exact .nil
  | cons h hl ih => exact .cons (.inl rfl) ih

theorem Marked.trans {P Q R : Listed → Prop} {h h' h'' : Listed} (hPR : ∀ x, P x → R x)
    (hQR : ∀ x, Q x → R x)
    (h1 : Marked P h h') (h2 : Marked Q h' h'') : Marked R h h'' := by
  rcases h1 with rfl | ⟨hmature, hp, rfl⟩
  · rcases h2 with rfl | ⟨hmature, hq, rfl⟩
    · exact .inl rfl
    · exact .inr ⟨hmature, hQR _ hq, rfl⟩
  · rcases h2 with rfl | ⟨hmature', -, -⟩
    · exact .inr ⟨hmature, hPR _ hp, rfl⟩
    · rw [deleting_not_mature] at hmature'
      cases hmature'

theorem marked_trans {P Q R : Listed → Prop} {hl hl' hl'' : List Listed} (hPR : ∀ x, P x → R x)
    (hQR : ∀ x, Q x → R x) (h1 : List.Forall₂ (Marked P) hl hl')
    (h2 : List.Forall₂ (Marked Q) hl' hl'') :
    List.Forall₂ (Marked R) hl hl'' := by
  induction h1 generalizing hl'' with
  | nil =>
    cases h2
    exact .nil
  | cons h1 hrest ih =>
    cases h2 with
    | cons h2 hrest' => exact .cons (h1.trans hPR hQR h2) (ih hrest')

/-- the handle that is found is one of the list, and matches -/
theorem hlGetBySaidx_some {src dst : Endpoint} {protoId spi : Nat} (hl : List Listed) :
    ∀ {i khd twinspi}, hlGetBySaidx src dst protoId spi hl = some (i, khd, twinspi) →
      ∃ pre post, hl = pre ++ khd :: post ∧ pre.length = i ∧
        khd.matchSa src dst protoId spi = some twinspi := by
  induction hl with
  | nil =>
    intro i khd twinspi h
    cases h
  | cons h rest ih =>
    intro i khd twinspi hget
    rw [hlGetBySaidx] at hget
    cases hmatch : h.matchSa src dst protoId spi with
    | some twin =>
      rw [hmatch] at hget
      obtain ⟨rfl, hkhd⟩ := Prod.mk.inj (Option.some.inj hget)
      obtain ⟨rfl, rfl⟩ := Prod.mk.inj hkhd
      exact ⟨[], rest, rfl, rfl, hmatch⟩
    | none =>
      rw [hmatch] at hget
      obtain ⟨⟨j, khd', twin⟩, hrest, heq⟩ := Option.map_eq_some_iff.mp hget
      obtain ⟨rfl, hkhd⟩ := Prod.mk.inj heq
      obtain ⟨rfl, rfl⟩ := Prod.mk.inj hkhd
      obtain ⟨pre, post, rfl, rfl, hm⟩ := ih hrest
      exact ⟨h :: pre, post, rfl, rfl, hm⟩

/-- the handles of the sender that have one of the SPIs -/
def Named (req : Requester) (as : List (Nat × Nat)) (h : Listed) : Prop :=
  h.principal = req.principal ∧ ∃ a ∈ as, (h.matchSa req.here req.there a.1 a.2).isSome

theorem deleteSa_marked (req : Requester) (a : Nat × Nat) (hl : List Listed) :
    List.Forall₂ (Marked (Named req [a])) hl (deleteSa req a.1 a.2 hl).2.2 := by
  unfold deleteSa
  cases hget : hlGetBySaidx req.here req.there a.1 a.2 hl with
  | none => exact marked_refl _ hl
  | some r =>
    obtain ⟨i, khd, twinspi⟩ := r
    dsimp only
    by_cases howner : req.principal ≠ khd.principal
    · rw [if_pos howner]
      exact marked_refl _ hl
    rw [if_neg howner]
    by_cases hongoing : khd.kh.state = .rDeleteRecv ∨ khd.kh.state = .rDeleteHalf
    · rw [if_pos hongoing]
      exact marked_refl _ hl
    rw [if_neg hongoing]
    by_cases hmature : khd.kh.mature = false
    · rw [if_pos hmature]
      exact marked_refl _ hl
    rw [if_neg hmature]
    obtain ⟨pre, post, rfl, rfl, hmatch⟩ := hlGetBySaidx_some hl hget
    have hset : (pre ++ khd :: post).set pre.length khd.deleting = pre ++ khd.deleting :: post := by
      rw [List.set_append_right _ _ (Nat.le_refl _), Nat.sub_self]
      rfl
    have hnamed : Named req [a] khd :=
      ⟨(not_not.mp howner).symm, a, List.mem_singleton_self a, by rw [hmatch]; rfl⟩
    have hmark : Marked (Named req [a]) khd khd.deleting :=
      .inr ⟨(Bool.not_eq_false _).mp hmature, hnamed, rfl⟩
    show List.Forall₂ _ _ ((pre ++ khd :: post).set pre.length khd.deleting)
    rw [hset]
    exact List.rel_append (marked_refl _ pre) (.cons hmark (marked_refl _ post))

theorem judgeAll_marked (req : Requester) (as : List (Nat × Nat)) (hl : List Listed) :
    List.Forall₂ (Marked (Named req as)) hl (judgeAll (deleteSa req) hl as).1 := by
  induction as generalizing hl with
  | nil => exact marked_refl _ hl
  | cons a as ih =>
    refine marked_trans (fun h hh => ?_) (fun h hh => ?_) (deleteSa_marked req a hl) (ih _)
    · obtain ⟨howner, b, hb, hmatch⟩ := hh
      exact ⟨howner, b, List.mem_cons.mpr (.inl (List.mem_singleton.mp hb)), hmatch⟩
    · obtain ⟨howner, b, hb, hmatch⟩ := hh
      exact ⟨howner, b, List.mem_cons_of_mem a hb, hmatch⟩

section
variable {Ctx : Type}

/-- the handles after a message are those after the calls for what it asks -/
theorem respondDelete_handles (hl : List Listed) (m : DeleteMessage Ctx) :
    (respondDelete hl m).1 = (judgeAll (deleteSa m.req) hl m.asked).1 := by
  unfold respondDelete DeleteMessage.asked
  cases m.kh.decoded.payloads.isakmp.bind (readKinkIsakmp m.kh) with
  | none => rfl
  | some kh =>
    dsimp only
    cases hparse : isakmpParseNoheader (kh.inIsakmp.getD []) (UInt8.ofNat kh.isakmp1sttype) with
    | none =>
      rw [recvD_none (deleteSa m.req) m.beyond hl hparse]
      rfl
    | some pas => rw [recvD_state (deleteSa m.req) m.beyond hl hparse]

/-- the handles that one of the messages may mark: the sender is the principal of the handle, and
one of the SPIs is the handle's -/
def NamedIn (ms : List (DeleteMessage Ctx)) (h : Listed) : Prop := ∃ m ∈ ms, Named m.req m.asked h

/-- whatever messages come, and in whatever order, a handle keeps everything but its state, and it is
marked only while it is mature and by a message of its own principal that names an SPI of it -/
theorem delete_isolated (ms : List (DeleteMessage Ctx)) (hl : List Listed) :
    List.Forall₂ (Marked (NamedIn ms)) hl (ms.foldl (fun hl m => (respondDelete hl m).1) hl) := by
  induction ms generalizing hl with
  | nil => exact marked_refl _ hl
  | cons m ms ih =>
    have hfirst : List.Forall₂ (Marked (Named m.req m.asked)) hl (respondDelete hl m).1 := by
      rw [respondDelete_handles]
      exact judgeAll_marked m.req m.asked hl
    refine marked_trans (fun h hh => ?_) (fun h hh => ?_) hfirst (ih _)
    · exact ⟨m, List.mem_cons_self, hh⟩
    · obtain ⟨m', hm', hh⟩ := hh
      exact ⟨m', List.mem_cons_of_mem m hm', hh⟩

end

/-! ## the octets of a DELETE -/

/-- a payload of the message; the reserved octet is not initialised -/
def prepItem (reserved : UInt8) (pr : SaProto) : Item :=
  ⟨nptypeD, reserved :: (enc16 (12 + (spiOctets pr).length) ++ (enc32 1
    ++ [UInt8.ofNat pr.protoId, UInt8.ofNat pr.spisize] ++ enc16 (if pr.spi = 0 then 0 else 1)
      ++ spiOctets pr))⟩

/-- the loop has the row of the payloads, with the last header still to be written -/
structure PrepD.Holds (reserved : UInt8) (st : PrepD) (xs : List Item) : Prop where
  reserved : st.d.reserved = reserved
  close : st.close = octets nptypeD xs
  last : xs ≠ [] → st.h ≠ none ∧ ∀ t, { st with d := { st.d with np := t } }.close = octets t xs

theorem prepDStep_holds {reserved : UInt8} {st : PrepD} {xs : List Item} (h : st.Holds reserved xs)
    (pr : SaProto) : (prepDStep st pr).Holds reserved (xs ++ [prepItem reserved pr]) := by
  have hclose : ∀ t, { prepDStep st pr with d := { (prepDStep st pr).d with np := t } }.close
      = octets t (xs ++ [prepItem reserved pr]) := by
    intro t
    have hlen : (st.close ++ List.replicate PlD.size 0 ++ spiOctets pr).length - st.close.length
        = 12 + (spiOctets pr).length := by
      rw [List.append_assoc, List.length_append, Nat.add_sub_cancel_left, List.length_append,
        List.length_replicate]
      rfl
    have hput : { prepDStep st pr with d := { (prepDStep st pr).d with np := t } }.close
        = put (st.close ++ List.replicate PlD.size 0 ++ spiOctets pr) st.close.length
          (PlD.octets ⟨t, st.d.reserved, (st.close ++ List.replicate PlD.size 0 ++ spiOctets pr).length
            - st.close.length, 1, UInt8.ofNat pr.protoId, UInt8.ofNat pr.spisize,
              if pr.spi = 0 then 0 else 1⟩) :=
      rfl
    have hitem : octets t [prepItem reserved pr]
        = PlD.octets ⟨t, reserved, 12 + (spiOctets pr).length, 1,
        UInt8.ofNat pr.protoId, UInt8.ofNat pr.spisize, if pr.spi = 0 then 0 else 1⟩
          ++ spiOctets pr := by
      have hnil : octets t [prepItem reserved pr] = t :: ((prepItem reserved pr).rest ++ []) := rfl
      rw [hnil, List.append_nil]
      rfl
    have hheader : (List.replicate PlD.size (0 : UInt8)).length = (PlD.octets ⟨t, reserved,
        12 + (spiOctets pr).length, 1, UInt8.ofNat pr.protoId, UInt8.ofNat pr.spisize,
        if pr.spi = 0 then 0 else 1⟩).length := rfl
    rw [hput, hlen, h.reserved, List.append_assoc, put_append st.close (spiOctets pr) hheader, h.close,
      octets_append, hitem]
    rfl
  refine ⟨h.reserved, hclose nptypeD, fun _ => ⟨Option.some_ne_none _, hclose⟩⟩

theorem prepD2_eq (d : PlD) (approval : SaProp) (hne : approval.protos ≠ []) :
    isakmpInfoPrepD2 d approval = some (octets 0 (approval.protos.map (prepItem d.reserved))) := by
  have hfold : ∀ (prs : List SaProto) (st : PrepD) (xs : List Item), st.Holds d.reserved xs →
      (prs.foldl prepDStep st).Holds d.reserved (xs ++ prs.map (prepItem d.reserved)) := by
    intro prs
    induction prs with
    | nil =>
      intro st xs h
      rw [List.map_nil, List.append_nil]
      exact h
    | cons pr prs ih =>
      intro st xs h
      have hih := ih _ _ (prepDStep_holds h pr)
      rw [List.append_assoc] at hih
      exact hih
  have hholds := hfold approval.protos ⟨[], none, d⟩ [] ⟨rfl, rfl, fun h => absurd rfl h⟩
  have hitems : approval.protos.map (prepItem d.reserved) ≠ [] :=
    fun h => hne (List.map_eq_nil_iff.mp h)
  obtain ⟨hsome, hclose⟩ := hholds.last hitems
  unfold isakmpInfoPrepD2
  dsimp only
  rw [if_neg hsome, hclose 0]
  rfl

/-! ## the two sides of one pair of SAs -/

/-- AH and ESP with SPIs of four octets, none of them twice -/
structure Deletable (pp : SaProp) : Prop where
  nonempty : pp.protos ≠ []
  protos : ∀ pr ∈ pp.protos, (pr.protoId = 2 ∨ pr.protoId = 3) ∧ pr.spisize = 4 ∧ 0 < pr.spi ∧
    pr.spi < 2 ^ 32
  once : (pp.protos.map fun pr => (pr.protoId, pr.spi)).Nodup

/-- what is inbound for one side is outbound for the other -/
def Mirror (mine theirs : SaProp) : Prop :=
  List.Forall₂ (fun a b : SaProto => a.protoId = b.protoId ∧ a.spi = b.spiP ∧ a.spiP = b.spi) mine.protos
    theirs.protos

theorem matchSaidx_mirror {mine theirs : SaProp} (h : Mirror mine theirs)
    (honce : (mine.protos.map fun pr => (pr.protoId, pr.spi)).Nodup) {pr : SaProto}
    (hpr : pr ∈ mine.protos) :
    matchSaidx theirs false pr.protoId pr.spi = some pr.spiP := by
  unfold matchSaidx
  unfold Mirror at h
  revert honce hpr
  generalize mine.protos = as at h
  generalize theirs.protos = bs at h
  intro honce hpr
  induction h with
  | nil => cases hpr
  | cons hab hrest ih =>
    rename_i a b as bs
    obtain ⟨hproto, hspi, hspiP⟩ := hab
    obtain ⟨hnew, honce⟩ := List.nodup_cons.mp honce
    rw [List.findSome?_cons]
    rcases List.mem_cons.mp hpr with rfl | hpr
    · rw [if_neg (not_not.mpr hproto), if_neg (fun h => by cases h.1), if_pos ⟨rfl, hspi⟩, hspiP]
    · -- an earlier one has another protocol or another SPI
      have hother : ¬ (pr.protoId = b.protoId ∧ pr.spi = b.spiP) := by
        intro ⟨hp, hs⟩
        refine hnew (List.mem_map.mpr ⟨pr, hpr, ?_⟩)
        show (pr.protoId, pr.spi) = (a.protoId, a.spi)
        rw [hp, hs, hproto, hspi]
      by_cases hp : pr.protoId ≠ b.protoId
      · rw [if_pos hp]
        exact ih honce hpr
      · rw [if_neg hp, if_neg (fun h => by cases h.1), if_neg (fun h => hother ⟨not_not.mp hp, h.2⟩)]
        exact ih honce hpr

/-- the states in which a DELETE is taken -/
def Listed.Ends (h : Listed) : Prop :=
  h.kh.mature = true ∨ h.kh.state = .rDeleteRecv ∨ h.kh.state = .rDeleteHalf

/-- the handle behind a DELETE -/
def Listed.marked (h : Listed) : Listed := if h.kh.mature = true then h.deleting else h

theorem marked_marked (h : Listed) : h.marked.marked = h.marked := by
  have hdeleting : h.deleting.marked = h.deleting := rfl
  unfold Listed.marked
  by_cases hmature : h.kh.mature = true
  · rw [if_pos hmature]
    exact hdeleting
  · rw [if_neg hmature, if_neg hmature]

theorem marked_ends {h : Listed} (hends : h.Ends) : h.marked.Ends := by
  unfold Listed.marked
  by_cases hmature : h.kh.mature = true
  · rw [if_pos hmature]
    exact .inr (.inl rfl)
  · rw [if_neg hmature]
    exact hends

theorem marked_matchSa (h : Listed) (src dst : Endpoint) (protoId spi : Nat) :
    h.marked.matchSa src dst protoId spi = h.matchSa src dst protoId spi := by
  unfold Listed.marked
  by_cases hmature : h.kh.mature = true
  · rw [if_pos hmature]
    rfl
  · rw [if_neg hmature]

theorem marked_principal (h : Listed) : h.marked.principal = h.principal := by
  unfold Listed.marked
  by_cases hmature : h.kh.mature = true
  · rw [if_pos hmature]
    rfl
  · rw [if_neg hmature]

theorem hlGetBySaidx_first {src dst : Endpoint} {protoId spi twinspi : Nat} {h : Listed}
    (pre post : List Listed)
    (hpre : ∀ x ∈ pre, x.matchSa src dst protoId spi = none)
    (hmatch : h.matchSa src dst protoId spi = some twinspi) :
    hlGetBySaidx src dst protoId spi (pre ++ h :: post) = some (pre.length, h, twinspi) := by
  induction pre with
  | nil =>
    rw [List.nil_append, hlGetBySaidx, hmatch]
    rfl
  | cons x pre ih =>
    rw [List.cons_append, hlGetBySaidx, hpre x List.mem_cons_self,
      ih fun y hy => hpre y (List.mem_cons_of_mem x hy)]
    rfl

theorem deleteSa_found {req : Requester} {protoId spi twinspi : Nat} {h : Listed}
    (pre post : List Listed)
    (howner : h.principal = req.principal) (hends : h.Ends)
    (hpre : ∀ x ∈ pre, x.matchSa req.here req.there protoId spi = none)
    (hmatch : h.matchSa req.here req.there protoId spi = some twinspi) :
    deleteSa req protoId spi (pre ++ h :: post) = (0, twinspi, pre ++ h.marked :: post) := by
  have hset : (pre ++ h :: post).set pre.length h.deleting = pre ++ h.deleting :: post := by
    rw [List.set_append_right _ _ (Nat.le_refl _), Nat.sub_self]
    rfl
  unfold deleteSa Listed.marked
  rw [hlGetBySaidx_first pre post hpre hmatch]
  dsimp only
  rw [if_neg (not_not.mpr howner.symm)]
  by_cases hongoing : h.kh.state = .rDeleteRecv ∨ h.kh.state = .rDeleteHalf
  · have hmature : ¬ h.kh.mature = true := by
      unfold SaHandle.mature
      rcases hongoing with hs | hs
      · rw [hs]
        decide
      · rw [hs]
        decide
    rw [if_pos hongoing, if_neg hmature]
  · have hmature : h.kh.mature = true := hends.resolve_right hongoing
    rw [if_neg hongoing, if_neg (by rw [hmature]; decide), if_pos hmature, hset]

/-- what a payload of the message asks -/
def AsksFor (pr : SaProto) (r : DeleteRequest) : Prop :=
  ∃ d, r = .delete d [pr.spi] ∧ d.protoId = UInt8.ofNat pr.protoId

theorem protoId_value {n : Nat} (h : n = 2 ∨ n = 3) : (UInt8.ofNat n).toNat = n :=
  octet_value (by omega)

/-- a message for protocols of one handle: all of them are found -/
theorem serve_found {req : Requester} (pre post : List Listed) (prs : List SaProto)
    (hproto : ∀ pr ∈ prs, pr.protoId = 2 ∨ pr.protoId = 3)
    (hpre : ∀ x ∈ pre, ∀ pr ∈ prs, x.matchSa req.here req.there pr.protoId pr.spi = none) :
    ∀ (reqs : List DeleteRequest) (h : Listed), List.Forall₂ AsksFor prs reqs →
      h.principal = req.principal → h.Ends →
      (∀ pr ∈ prs, h.matchSa req.here req.there pr.protoId pr.spi = some pr.spiP) →
      serve (deleteSa req) reqs (pre ++ h :: post)
        = .ok (pre ++ (if prs = [] then h else h.marked) :: post,
          prs.map fun pr => deleteItem (UInt8.ofNat pr.protoId) [pr.spiP]) := by
  induction prs with
  | nil =>
    intro reqs h hreqs _ _ _
    cases hreqs
    rfl
  | cons pr prs ih =>
    intro reqs h hreqs howner hends hmatch
    cases hreqs with
    | cons hr hrest =>
      rename_i r reqs
      obtain ⟨d, rfl, hd⟩ := hr
      have hfound := deleteSa_found pre post howner hends (fun x hx => hpre x hx pr List.mem_cons_self)
        (hmatch pr List.mem_cons_self)
      have hjudge : judge (deleteSa req) d.protoId.toNat (pre ++ h :: post) [pr.spi]
          = (pre ++ h.marked :: post, [(0, pr.spiP)]) := by
        rw [hd, protoId_value (hproto pr List.mem_cons_self), judge, hfound]
        rfl
      have hih := ih (fun x hx => hproto x (List.mem_cons_of_mem pr hx))
        (fun x hx y hy => hpre x hx y (List.mem_cons_of_mem pr hy)) reqs h.marked hrest
        (by rw [marked_principal, howner]) (marked_ends hends)
        (fun x hx => by rw [marked_matchSa, hmatch x (List.mem_cons_of_mem pr hx)])
      have hstate : (if prs = [] then h.marked else h.marked.marked) = h.marked := by
        rw [marked_marked, ite_self]
      rw [hstate] at hih
      rw [serve, hjudge, hih, hd, if_neg (List.cons_ne_nil pr prs)]
      rfl

theorem Parsed.Inside.ptr_eq {pa : Parsed} (h : pa.Inside) :
    ∃ np tail, pa.ptr = np :: (pa.item.rest ++ tail) := by
  obtain ⟨-, hfour, hinside⟩ := h
  unfold Parsed.item
  dsimp only
  generalize hptr : pa.ptr = ptr at hinside
  cases ptr with
  | nil =>
    have : pa.len ≤ 0 := hinside
    omega
  | cons np rest =>
    obtain ⟨k, hk⟩ : ∃ k, pa.len = k + 1 := ⟨pa.len - 1, by omega⟩
    refine ⟨np, rest.drop k, ?_⟩
    rw [hk, List.take_succ_cons, List.drop_succ_cons, List.drop_zero, List.take_append_drop]

theorem spiOctets_word {pr : SaProto} (hsize : pr.spisize = 4) (hpos : 0 < pr.spi) :
    spiOctets pr = enc32 pr.spi := by
  unfold spiOctets
  rw [if_neg (by omega), hsize]
  rfl

/-- a payload of the message, as the responder reads it -/
theorem deleteRequest_prepItem {pa : Parsed} {reserved : UInt8} {pr : SaProto} (hinside : pa.Inside)
    (hitem : pa.item = prepItem reserved pr) (hproto : pr.protoId = 2 ∨ pr.protoId = 3)
    (hsize : pr.spisize = 4) (hpos : 0 < pr.spi) (hspi : pr.spi < 2 ^ 32) (beyond : Bytes) :
    AsksFor pr (deleteRequest beyond pa) := by
  obtain ⟨np, tail, hptr⟩ := hinside.ptr_eq
  have htype : pa.type = nptypeD := congrArg Item.type hitem
  have hrest : pa.item.rest = reserved :: (enc16 16
      ++ (enc32 1 ++ [UInt8.ofNat pr.protoId, 4] ++ enc16 1 ++ enc32 pr.spi)) := by
    rw [hitem, prepItem, spiOctets_word hsize hpos, if_neg (by omega), hsize]
    rfl
  rw [hrest] at hptr
  have hsplit : pa.ptr = PlD.octets ⟨np, reserved, 16, 1, UInt8.ofNat pr.protoId, 4, 1⟩
      ++ (enc32 pr.spi ++ tail) := by
    rw [hptr]
    rfl
  have hread : PlD.read (pa.ptr ++ beyond) = ⟨np, reserved, 16, 1, UInt8.ofNat pr.protoId, 4, 1⟩ := by
    rw [hsplit, List.append_assoc]
    exact PlD.read_octets (show 16 < 65536 by decide) (show 1 < 2 ^ 32 by decide)
      (show 1 < 65536 by decide) _
  have hspis : spisAt pa.ptr 1 = [pr.spi] := by
    have hword := be32_append_right (PlD.octets ⟨np, reserved, 16, 1, UInt8.ofNat pr.protoId, 4, 1⟩)
      (enc32 pr.spi ++ tail) 0
    rw [be32_enc32 hspi, ← hsplit] at hword
    exact congrArg (fun n => [n]) hword
  have hid : UInt8.ofNat pr.protoId = 2 ∨ UInt8.ofNat pr.protoId = 3 := by
    rcases hproto with h | h
    · rw [h]
      exact .inl rfl
    · rw [h]
      exact .inr rfl
  refine ⟨⟨np, reserved, 16, 1, UInt8.ofNat pr.protoId, 4, 1⟩, ?_, rfl⟩
  unfold deleteRequest
  rw [if_neg (not_not.mpr htype)]
  dsimp only
  rw [hread]
  dsimp only
  rw [if_neg (by decide), if_neg (by decide), if_pos hid, if_neg (by decide), hspis]

theorem deleteRequests_prepItems {reserved : UInt8} (beyond : Bytes) (prs : List SaProto)
    (hprs : ∀ pr ∈ prs, (pr.protoId = 2 ∨ pr.protoId = 3) ∧ pr.spisize = 4 ∧ 0 < pr.spi ∧
      pr.spi < 2 ^ 32) :
    ∀ pas : List Parsed, (∀ pa ∈ pas, pa.Inside) →
      pas.map Parsed.item = prs.map (prepItem reserved) →
      List.Forall₂ AsksFor prs (pas.map (deleteRequest beyond)) := by
  induction prs with
  | nil =>
    intro pas _ hmap
    rw [List.map_nil] at hmap
    rw [List.map_eq_nil_iff.mp hmap]
    exact .nil
  | cons pr prs ih =>
    intro pas hin hmap
    cases pas with
    | nil => cases hmap
    | cons pa pas =>
      obtain ⟨hpa, hrest⟩ := List.cons.inj hmap
      obtain ⟨hproto, hsize, hpos, hspi⟩ := hprs pr List.mem_cons_self
      have hfirst := deleteRequest_prepItem (hin pa List.mem_cons_self) hpa hproto hsize hpos hspi beyond
      exact .cons hfirst (ih (fun x hx => hprs x (List.mem_cons_of_mem pr hx)) pas
        (fun x hx => hin x (List.mem_cons_of_mem pa hx)) hrest)

theorem prepItem_fits {reserved : UInt8} {pr : SaProto} (hsize : pr.spisize = 4) (hpos : 0 < pr.spi) :
    ItemFits (prepItem reserved pr) := by
  refine ⟨reserved, enc32 1 ++ [UInt8.ofNat pr.protoId, UInt8.ofNat pr.spisize]
    ++ enc16 (if pr.spi = 0 then 0 else 1) ++ spiOctets pr, ?_, ?_, ?_, ?_⟩
  · unfold payloadItem prepItem
    rw [spiOctets_word hsize hpos]
    rfl
  · exact List.cons_ne_nil _ _
  · rw [spiOctets_word hsize hpos]
    show 4 + 12 < 65536
    decide
  · show nptypeD ≠ 0
    decide

section
variable {Ctx : Type}

/-- A DELETE for a pair of SAs, at the other side: the handle of the pair waits for its end, no other
handle changes, and the REPLY names for each protocol the SPI that the sender itself sends to -/
theorem delete_exchange (d : PlD) (mine theirs : SaProp) (h : Listed) (pre post : List Listed)
    (m : DeleteMessage Ctx) (hmine : Deletable mine) (hmirror : Mirror mine theirs)
    (hsent : m.kh.decoded.payloads.isakmp = (isakmpInfoPrepD2 d mine).map ([nptypeD, 0x10, 0, 0] ++ ·))
    (happroval : h.kh.approval = some theirs) (howner : h.principal = m.req.principal)
    (hdir : h.inbound m.req.here m.req.there = some false) (hends : h.Ends)
    (hpre : ∀ x ∈ pre, ∀ pr ∈ mine.protos, x.matchSa m.req.here m.req.there pr.protoId pr.spi = none) :
    ∃ rnp reply answers,
      respondDelete (pre ++ h :: post) m = (pre ++ h.marked :: post, some (rnp, reply)) ∧
      isakmpParseNoheader reply rnp = some answers ∧
      answers.map Parsed.item = mine.protos.map fun pr => deleteItem (UInt8.ofNat pr.protoId)
        [pr.spiP] := by
  have hfits : ∀ x ∈ mine.protos.map (prepItem d.reserved), ItemFits x := by
    intro x hx
    obtain ⟨pr, hpr, rfl⟩ := List.mem_map.mp hx
    obtain ⟨-, hsize, hpos, -⟩ := hmine.protos pr hpr
    exact prepItem_fits hsize hpos
  obtain ⟨pas, hparse, hitems⟩ := parse_octets hfits
  have hinside : ∀ pa ∈ pas, pa.Inside := isakmpParsewoh_inside _ _ _ _ hparse
  have hhead : headType 0 (mine.protos.map (prepItem d.reserved)) = nptypeD := by
    cases hprotos : mine.protos with
    | nil => exact absurd hprotos hmine.nonempty
    | cons pr prs => rfl
  rw [hhead] at hparse
  -- every payload asks for the SPI of its protocol
  have hasks : List.Forall₂ AsksFor mine.protos (pas.map (deleteRequest m.beyond)) :=
    deleteRequests_prepItems m.beyond mine.protos hmine.protos pas hinside hitems
  have hmatch : ∀ pr ∈ mine.protos, h.matchSa m.req.here m.req.there pr.protoId pr.spi
      = some pr.spiP := by
    intro pr hpr
    unfold Listed.matchSa
    rw [hdir, happroval]
    exact matchSaidx_mirror hmirror hmine.once hpr
  have hserve := serve_found pre post mine.protos (fun pr hpr => (hmine.protos pr hpr).1) hpre _ h
    hasks howner hends hmatch
  rw [if_neg hmine.nonempty] at hserve
  have hrecv := (recvD_eq (deleteSa m.req) m.beyond (pre ++ h :: post) hparse).2 _ _ hserve
  have hanswerFits : ∀ x ∈ mine.protos.map (fun pr => deleteItem (UInt8.ofNat pr.protoId) [pr.spiP]),
      ItemFits x := by
    intro x hx
    obtain ⟨pr, -, rfl⟩ := List.mem_map.mp hx
    refine deleteItem_fits _ ?_
    show 12 + 4 * 1 < 65536
    decide
  obtain ⟨answers, hanswers, hanswerItems⟩ := parse_octets hanswerFits
  refine ⟨_, _, answers, ?_, hanswers, hanswerItems⟩
  rw [prepD2_eq d mine hmine.nonempty] at hsent
  have hrespond : ∀ r, isakmpInfoRecvD (deleteSa m.req) m.beyond
      (octets 0 (mine.protos.map (prepItem d.reserved))) nptypeD (pre ++ h :: post) = r →
      respondDelete (pre ++ h :: post) m = (r.1, r.2.toOption) := by
    rintro r rfl
    unfold respondDelete
    rw [hsent]
    rfl
  rw [hrespond _ hrecv]
  rfl

end

/-- the two sides of an ESP pair -/
def senderSas : SaProp := ⟨3600, 0, 0, [⟨3, 4, 2, 0x1000, 0x2000, []⟩]⟩
def receiverSas : SaProp := ⟨3600, 0, 0, [⟨3, 4, 2, 0x2000, 0x1000, []⟩]⟩

/-- the handle of the pair, and one of somebody else between the same hosts -/
def pairHandle : Listed where
  principal := "kink/a"
  addrs := some (.v4 10 0 0 2 0, .v4 10 0 0 1 0)
  kh := { SaHandle.fresh false with state := .rAging, approval := some receiverSas }

def otherHandle : Listed where
  principal := "kink/b"
  addrs := some (.v4 10 0 0 2 0, .v4 10 0 0 1 0)
  kh := { SaHandle.fresh false with state := .rAging, approval := some ⟨3600, 0, 0, [⟨3, 4, 2, 7, 8, []⟩]⟩ }

def sentDelete : DeleteMessage Unit where
  req := ⟨"kink/a", .v4 10 0 0 2 910, .v4 10 0 0 1 910⟩
  kh := { statusSent.kh with decoded := { statusSent.kh.decoded with payloads := { releasePayloads with
    isakmp := (isakmpInfoPrepD2 ⟨0, 0, 0, 0, 0, 0, 0⟩ senderSas).map ([nptypeD, 0x10, 0, 0] ++ ·) } } }
  beyond := []

theorem delete_exchange_esp :
    ∃ rnp reply answers,
      respondDelete [otherHandle, pairHandle] sentDelete
        = ([otherHandle, pairHandle.deleting], some (rnp, reply)) ∧
      isakmpParseNoheader reply rnp = some answers ∧
      answers.map Parsed.item = [deleteItem 3 [0x2000]] := by
  have hmine : Deletable senderSas := ⟨by decide, by decide, by decide⟩
  have hmirror : Mirror senderSas receiverSas := .cons ⟨rfl, rfl, rfl⟩ .nil
  exact delete_exchange ⟨0, 0, 0, 0, 0, 0, 0⟩ senderSas receiverSas pairHandle [otherHandle] []
    sentDelete hmine
    hmirror rfl rfl rfl (by decide) (.inl rfl) (by decide)

end Kink
