import Racoon2.Iked.Addke
import Racoon2.Lib.Run

/-!
# The follow-up key exchanges of an IKE SA

All children of an IKE SA, of both roles, are in one list. `ikev2_followup_ke_recv` takes a request
to the child that `followup_ke_find_child` returns: the one that has its link; else the only one that
is pending, or the only pending one of its method, which then takes over the link. A response goes to
the child that sent the request.

What is done to one child is in `Racoon2.Iked.Addke`. A request that is sent again may come to the
handler again: it is a request like any other here.

* `BoundTo`          the exchange that a request is for;
* `Binds`            what a request changes;
* `InOrder`          the secret of a child is that of its completed rounds, in order;
* `followupStep_*`   what an event keeps.
-/

set_option linter.unusedVariables false

namespace Ikev2
open Bytes

/-! ## the list -/

/-- the children of an IKE SA, and the link of its own rekey if that waits for a follow-up -/
structure FollowupSa where
  children : List AddkeChild
  rekeyLink : Option Bytes

def FollowupSa.start : FollowupSa := ⟨[], none⟩

def AddkeChild.hasLink (link : Bytes) (child : AddkeChild) : Bool :=
  child.pending && child.link == some link

def AddkeChild.hasMethod (method : Nat) (child : AddkeChild) : Bool :=
  child.pending && child.method == method

/-- the loop and the rules of `followup_ke_find_child`: the place of the child in the list -/
def followupKeFindChild (m : FollowupRequest) (children : List AddkeChild) : Option Nat :=
  match children.findIdx? (AddkeChild.hasLink m.link) with
  | some i => some i
  | none =>
    if children.countP AddkeChild.pending = 1 then children.findIdx? AddkeChild.pending
    else if children.countP (AddkeChild.hasMethod m.method) = 1 then
      children.findIdx? (AddkeChild.hasMethod m.method)
    else none

section
variable (env : AddkeEnv)

/-- the end of `followup_ke_find_child`, where the child takes over the link, and the round -/
def followupFound (m : FollowupRequest) (child : AddkeChild) : AddkeChild :=
  if child.link = some m.link then followupRound env m child
  else if env.memory then followupRound env m { child with link := some m.link }
  else { child with link := none }

/-- `ikev2_followup_ke_recv` for a request. The link of the rekey comes first -/
def followupKeRequest (m : FollowupRequest) (sa : FollowupSa) : FollowupSa :=
  if !m.wellFormed || sa.rekeyLink == some m.link then sa
  else
    match followupKeFindChild m sa.children with
    | none => sa
    | some i => { sa with children := sa.children.modify i (followupFound env m) }

/-- `ikev2_followup_ke_recv` for a response -/
def followupKeResponse (m : FollowupResponse) (sa : FollowupSa) : FollowupSa :=
  match sa.children.findIdx? fun child => child.pending && child.followupMsgid == m.msgid with
  | none => sa
  | some i => { sa with children := sa.children.modify i (followupResponse env m) }

/-- what happens to one child -/
inductive ChildEvent where
  | accept (peer mine : List Matched)
  | getspiDone
  | update (peer mine : List Matched)
  | timeout
  | aborted

def ChildEvent.addke : ChildEvent → AddkeEvent
  | .accept peer mine => .accept peer mine
  | .getspiDone => .getspiDone
  | .update peer mine => .update peer mine
  | .timeout => .timeout
  | .aborted => .aborted

inductive FollowupEvent where
  | create (child : { child : AddkeChild // child.Fresh })
  | destroy (i : Nat)
  | child (i : Nat) (ev : ChildEvent)
  /-- a rekey of the IKE SA begins to wait, takes its next round or is over -/
  | rekey (link : Option Bytes)
  | request (m : FollowupRequest)
  | response (m : FollowupResponse)

end

def followupStep (sa : FollowupSa) : AddkeEnv × FollowupEvent → FollowupSa
  | (_, .create child) => { sa with children := sa.children ++ [child.1] }
  | (_, .destroy i) => { sa with children := sa.children.eraseIdx i }
  | (env, .child i ev) => { sa with children := sa.children.modify i (addkeStep env ev.addke) }
  | (_, .rekey link) => { sa with rekeyLink := link }
  | (env, .request m) => followupKeRequest env m sa
  | (env, .response m) => followupKeResponse env m sa

/-! ## what a request may change -/

/-- no pending exchange of the kind is at another place -/
def FollowupSa.Sole (sa : FollowupSa) (kind : AddkeChild → Prop) (i : Nat) : Prop :=
  ∀ j child, sa.children[j]? = some child → child.pending = true → kind child → j = i

/-- the request has the link of the exchange; or it has the link of none, and the exchange is the only
pending one, or the only pending one of the method -/
def BoundTo (sa : FollowupSa) (m : FollowupRequest) (i : Nat) (child : AddkeChild) : Prop :=
  child.link = some m.link ∨
    (∀ child ∈ sa.children, child.pending = true → child.link ≠ some m.link) ∧
      (sa.Sole (fun _ => True) i ∨
        child.method = m.method ∧ sa.Sole (fun child => child.method = m.method) i)

/-- the exchange goes on: a round is over -/
def AddkeChild.progress (child : AddkeChild) : Bool × Nat × Option Bytes :=
  (child.pending, child.round, child.sk)

/-- a request changes one pending exchange at most, and only one it is bound to. It takes one of ours
as a responder further only with the method of its round, and when the response was sent -/
structure Binds (env : AddkeEnv) (m : FollowupRequest) (sa : FollowupSa) : Prop where
  bound : ∀ i child, sa.children[i]? = some child → child.pending = true → ¬ BoundTo sa m i child →
    (followupKeRequest env m sa).children[i]? = some child
  one : ∃ i, ∀ j : Nat, j ≠ i → (followupKeRequest env m sa).children[j]? = sa.children[j]?
  round : ∀ (i : Nat) (child child' : AddkeChild), sa.children[i]? = some child →
    (followupKeRequest env m sa).children[i]? = some child' → child.pending = true →
    child.isInitiator = false → child'.progress ≠ child.progress →
    child.methods[child.round]? = some m.method ∧ env.sent = true
  link : ∀ (i : Nat) (child child' : AddkeChild), sa.children[i]? = some child →
    (followupKeRequest env m sa).children[i]? = some child' → child'.link ≠ child.link →
    child'.link = none ∨ child'.link = some m.link ∨ child'.link = env.link

/-- SK(1) | ... | SK(k) of the `k` rounds that are over, each once. The secret of an initiator's child
that could not be installed has been freed -/
structure InOrder (child : AddkeChild) : Prop where
  rounds : child.secrets.map Prod.fst = child.methods.take child.round
  sk : child.sk.getD [] = child.secrets.flatMap Prod.snd ∨
    child.isInitiator = true ∧ child.nrounds ≤ child.round ∧ child.sk = none

/-- no request is taken to a child that we created as an initiator -/
def OwnRole (sa : FollowupSa) : AddkeEnv × FollowupEvent → Prop
  | (_, .request m) => ∀ i, followupKeFindChild m sa.children = some i →
      ∀ child, sa.children[i]? = some child → child.isInitiator = false
  | _ => True

/-! ## the child that is found -/

theorem eq_of_countP_one {α : Type} {p : α → Bool} {l : List α} (h : l.countP p = 1) :
    ∀ {i j : Nat} {a b : α}, l[i]? = some a → p a = true → l[j]? = some b → p b = true → i = j := by
  induction l with
  | nil => exact fun hi => nomatch hi
  | cons x l ih =>
    intro i j a b hi ha hj hb
    -- a second one behind the head
    have hrest (hx : p x = true) {k : Nat} {c : α} (hk : l[k]? = some c) : p c ≠ true := by
      rw [List.countP_cons_of_pos hx] at h
      exact List.countP_eq_zero.mp (Nat.succ.inj h) c (List.mem_of_getElem? hk)
    cases i with
    | zero =>
      obtain rfl := Option.some.inj hi
      cases j with
      | zero => rfl
      | succ j => exact absurd hb (hrest ha hj)
    | succ i =>
      cases j with
      | zero =>
        obtain rfl := Option.some.inj hj
        exact absurd ha (hrest hb hi)
      | succ j =>
        have hx : ¬ p x = true := fun hx => hrest hx hi ha
        rw [List.countP_cons_of_neg hx] at h
        exact congrArg Nat.succ (ih h hi ha hj hb)

theorem findIdx?_spec {α : Type} {p : α → Bool} {l : List α} {i : Nat} (h : l.findIdx? p = some i) :
    ∃ a, l[i]? = some a ∧ p a = true := by
  obtain ⟨hlt, hp, -⟩ := List.findIdx?_eq_some_iff_getElem.mp h
  exact ⟨_, List.getElem?_eq_getElem hlt, hp⟩

variable {env : AddkeEnv} {m : FollowupRequest} {sa : FollowupSa} {child : AddkeChild}

theorem hasLink_iff {link : Bytes} :
    child.hasLink link = true ↔ child.pending = true ∧ child.link = some link := by
  rw [AddkeChild.hasLink, Bool.and_eq_true, beq_iff_eq]

theorem hasMethod_iff {method : Nat} :
    child.hasMethod method = true ↔ child.pending = true ∧ child.method = method := by
  rw [AddkeChild.hasMethod, Bool.and_eq_true, beq_iff_eq]

/-- the child that `followup_ke_find_child` returns is pending, and the request is bound to it -/
theorem followupKeFindChild_bound {i : Nat} (h : followupKeFindChild m sa.children = some i) :
    ∃ child, sa.children[i]? = some child ∧ child.pending = true ∧ BoundTo sa m i child := by
  unfold followupKeFindChild at h
  split at h
  · rename_i k hk
    obtain rfl := Option.some.inj h
    obtain ⟨child, hget, hlink⟩ := findIdx?_spec hk
    obtain ⟨hp, hl⟩ := hasLink_iff.mp hlink
    exact ⟨child, hget, hp, .inl hl⟩
  · rename_i hnone
    have hother : ∀ child ∈ sa.children, child.pending = true → child.link ≠ some m.link := by
      intro child hmem hp hl
      have hno := List.findIdx?_eq_none_iff.mp hnone child hmem
      rw [hasLink_iff.mpr ⟨hp, hl⟩] at hno
      cases hno
    split at h
    · rename_i hone
      obtain ⟨child, hget, hp⟩ := findIdx?_spec h
      refine ⟨child, hget, hp, .inr ⟨hother, .inl fun j child' hj hp' _ => ?_⟩⟩
      exact eq_of_countP_one hone hj hp' hget hp
    · split at h
      · rename_i hone
        obtain ⟨child, hget, hmethod⟩ := findIdx?_spec h
        obtain ⟨hp, hm⟩ := hasMethod_iff.mp hmethod
        refine ⟨child, hget, hp, .inr ⟨hother, .inr ⟨hm, fun j child' hj hp' hm' => ?_⟩⟩⟩
        exact eq_of_countP_one hone hj (hasMethod_iff.mpr ⟨hp', hm'⟩) hget hmethod
      · cases h

/-- a request changes nothing, or the child that was found -/
theorem followupKeRequest_cases (env : AddkeEnv) (m : FollowupRequest) (sa : FollowupSa) :
    followupKeRequest env m sa = sa ∨ ∃ i, followupKeFindChild m sa.children = some i ∧
      followupKeRequest env m sa =
        { sa with children := sa.children.modify i (followupFound env m) } := by
  unfold followupKeRequest
  split
  · exact .inl rfl
  · split
    · exact .inl rfl
    · rename_i i hi
      exact .inr ⟨i, hi, rfl⟩

/-! ## one round of a child -/

/-- the last round leaves no pending exchange -/
theorem followupFinal_frame : (followupFinal env child).pending = false ∧
    (followupFinal env child).isInitiator = child.isInitiator ∧
    (followupFinal env child).roundKey = child.roundKey ∧
    (followupFinal env child).link = child.link ∧
    (followupFinal env child).peerProposal = child.peerProposal := by
  unfold followupFinal
  rcases @addkeInstall_cases env { child with round := 0, nrounds := 0 } with h | ⟨n, t, h⟩
  · simp only [h, AddkeChild.abort, and_self]
  · simp only [h, and_self]

/-! ## the invariant of a child -/

/-- a pending child -/
structure Rounds (child : AddkeChild) : Prop where
  nrounds : child.nrounds = child.methods.length
  inOrder : InOrder child
  live : child.isInitiator = false ∨ child.roundKey = true → child.round < child.nrounds
  method : child.roundKey = true → child.methods[child.round]? = some child.method

structure IsProper (child : AddkeChild) : Prop where
  fresh : child.peerProposal = none → child.sk = none ∧ child.secrets = [] ∧ child.roundKey = false
  responder : child.isInitiator = false → child.roundKey = false
  negotiated : child.pending = true → child.peerProposal.isSome
  running : child.pending = true → Rounds child

theorem AddkeChild.Fresh.proper (h : child.Fresh) : IsProper child where
  fresh := fun _ => ⟨h.sk, h.secrets, h.roundKey⟩
  responder := fun _ => h.roundKey
  negotiated := fun hp => absurd (h.pending.symm.trans hp) (by simp)
  running := fun hp => absurd (h.pending.symm.trans hp) (by simp)

/-- the secret of a round that is not the first after the last -/
theorem Rounds.sk (h : Rounds child) (hl : child.isInitiator = false ∨ child.roundKey = true) :
    child.sk.getD [] = child.secrets.flatMap Prod.snd := by
  rcases h.inOrder.sk with hsk | ⟨-, hle, -⟩
  · exact hsk
  · exact absurd (h.live hl) (Nat.not_lt.mpr hle)

/-- a round of the right method is over -/
theorem Rounds.collect (h : Rounds child) (hl : child.isInitiator = false ∨ child.roundKey = true)
    {method : Nat} (hm : child.methods[child.round]? = some method) (ss : Bytes) :
    InOrder (child.collect method ss) := by
  constructor
  · show (child.secrets ++ [(method, ss)]).map Prod.fst = child.methods.take (child.round + 1)
    rw [List.map_append, h.inOrder.rounds, List.take_add_one, hm]
    rfl
  · refine .inl ?_
    show child.sk.getD [] ++ ss = (child.secrets ++ [(method, ss)]).flatMap Prod.snd
    rw [h.sk hl, List.flatMap_append]
    simp

/-- the fields that the invariant is about, of a pending child -/
theorem IsProper.of_eq {child' : AddkeChild} (h : IsProper child)
    (hrounds : child'.rounds = child.rounds) (hpeer : child'.peerProposal = child.peerProposal)
    (hpending : child'.pending = true → child.pending = true) : IsProper child' := by
  simp only [AddkeChild.rounds, Prod.mk.injEq] at hrounds
  obtain ⟨h1, h2, h3, h4, h5, h6, -, h8, h9⟩ := hrounds
  refine ⟨?_, ?_, ?_, fun hp => ?_⟩
  · rw [hpeer, h2, h8, h9]
    exact h.fresh
  · rw [h1, h2]
    exact h.responder
  · rw [hpeer]
    exact fun hp => h.negotiated (hpending hp)
  · have hr := h.running (hpending hp)
    refine ⟨?_, ⟨?_, ?_⟩, ?_, ?_⟩
    · rw [h3, h4]
      exact hr.nrounds
    · rw [h3, h5, h8]
      exact hr.inOrder.rounds
    · rw [h1, h4, h5, h8, h9]
      exact hr.inOrder.sk
    · rw [h1, h2, h4, h5]
      exact hr.live
    · rw [h2, h3, h5, h6]
      exact hr.method

/-- a child after its negotiation -/
theorem proper_negotiated (hpeer : child.peerProposal.isSome)
    (hkey : child.isInitiator = false → child.roundKey = false)
    (hrounds : child.pending = true → Rounds child) : IsProper child where
  fresh := fun hnone => by rw [hnone] at hpeer; cases hpeer
  responder := hkey
  negotiated := fun _ => hpeer
  running := hrounds

/-- a child whose exchange is over -/
theorem proper_over (hpeer : child.peerProposal.isSome) (hpending : child.pending = false)
    (hkey : child.isInitiator = false → child.roundKey = false) : IsProper child :=
  proper_negotiated hpeer hkey fun hp => absurd (hpending.symm.trans hp) (by simp)

theorem followupRound_proper (h : IsProper child) (hi : child.isInitiator = false)
    (hp : child.pending = true) : IsProper (followupRound env m child) := by
  have hr := h.running hp
  have hpeer := h.negotiated hp
  have hlt := hr.live (.inl hi)
  rcases followupRound_cases env m child with hsame | ⟨hmethod, -, ss, ⟨hmore, hround⟩ | ⟨-, hround⟩⟩
  · rw [hsame]
    exact h
  · rw [hround]
    have horder := hr.collect (.inl hi) (hmethod hlt) ss
    refine proper_negotiated hpeer h.responder fun _ => ?_
    refine ⟨hr.nrounds, ⟨horder.rounds, horder.sk⟩, fun _ => hmore, fun hkey => ?_⟩
    exact absurd ((h.responder hi).symm.trans hkey) (by simp)
  · rw [hround]
    obtain ⟨hpending, hini, hkey, -, hprop⟩ := @followupFinal_frame env (child.collect m.method ss)
    refine proper_over ?_ hpending fun _ => hkey.trans (h.responder hi)
    rw [hprop]
    exact hpeer

theorem followupFound_proper (h : IsProper child) (hi : child.isInitiator = false)
    (hp : child.pending = true) : IsProper (followupFound env m child) := by
  have hlink (l : Option Bytes) : IsProper { child with link := l } := h.of_eq rfl rfl id
  unfold followupFound
  split
  · exact followupRound_proper h hi hp
  · split
    · exact followupRound_proper (hlink _) hi hp
    · exact hlink none

/-- an initiator without a key pair for its round -/
theorem rounds_stopped (hi : child.isInitiator = true) (hkey : child.roundKey = false)
    (hn : child.nrounds = child.methods.length) (ho : InOrder child) : Rounds child where
  nrounds := hn
  inOrder := ho
  live := by simp [hi, hkey]
  method := by simp [hkey]

theorem followupNext_rounds (hi : child.isInitiator = true) (hkey : child.roundKey = false)
    (hn : child.nrounds = child.methods.length) (ho : InOrder child)
    (hlt : child.round < child.nrounds) : Rounds (followupNext env child) := by
  unfold followupNext
  split
  · exact rounds_stopped hi hkey hn ho
  · rcases @followupSend_cases env { child with
        roundKey := true, method := (child.methods[child.round]?).getD 0 } with hs | hs
    · simp only [hs]
      exact rounds_stopped hi rfl hn ⟨ho.rounds, ho.sk⟩
    · simp only [hs]
      refine ⟨hn, ⟨ho.rounds, ho.sk⟩, fun _ => hlt, fun _ => ?_⟩
      show child.methods[child.round]? = some ((child.methods[child.round]?).getD 0)
      rw [List.getElem?_eq_getElem (hn ▸ hlt), Option.getD_some]

theorem followupNext_isInitiator : (followupNext env child).isInitiator = child.isInitiator := by
  unfold followupNext
  split
  · rfl
  · rcases @followupSend_cases env { child with
        roundKey := true, method := (child.methods[child.round]?).getD 0 } with h | h
    · simp only [h]
    · simp only [h]

theorem followupComplete_proper (h : IsProper child) (hp : child.pending = true) :
    IsProper (followupComplete env child) := by
  have hr := h.running hp
  have hpeer := h.negotiated hp
  by_cases hkey : child.roundKey = false
  · have hsame : followupComplete env child = child := by simp [followupComplete, hkey]
    rw [hsame]
    exact h
  replace hkey : child.roundKey = true := by simpa using hkey
  have hi : child.isInitiator = true := by
    by_contra hres
    exact absurd ((h.responder (by simpa using hres)).symm.trans hkey) (by simp)
  have hstop : IsProper { child with roundKey := false } :=
    proper_negotiated hpeer (fun _ => rfl) fun _ =>
      rounds_stopped hi rfl hr.nrounds ⟨hr.inOrder.rounds, hr.inOrder.sk⟩
  rcases followupComplete_cases env child with heq | ⟨-, heq | ⟨ss, c, rfl, hnext⟩⟩
  · rw [heq]
    exact h
  · rw [heq]
    exact hstop
  · -- the secret of the round is appended
    have horder := hr.collect (.inr hkey) (hr.method hkey) ss
    have horder' : InOrder ({ child with roundKey := false }.collect child.method ss) :=
      ⟨horder.rounds, horder.sk⟩
    rcases hnext with ⟨hmore, heq⟩ | ⟨hlast, heq | ⟨n, t, heq⟩⟩
    · obtain ⟨-, -, -, -, -, hprop⟩ := @followupNext_frame env
        ({ child with roundKey := false }.collect child.method ss)
      rw [heq]
      refine proper_negotiated ?_ (fun hres => ?_) fun _ =>
        followupNext_rounds hi rfl hr.nrounds horder' hmore
      · rw [hprop]
        exact hpeer
      · rw [followupNext_isInitiator] at hres
        exact absurd (hi.symm.trans hres) (Bool.noConfusion ·)
    · have hlast' : child.nrounds ≤ child.round + 1 := Nat.not_lt.mp hlast
      rw [heq]
      refine proper_negotiated hpeer (fun _ => rfl) fun _ => rounds_stopped hi rfl hr.nrounds ?_
      exact ⟨horder.rounds, .inr ⟨hi, hlast', rfl⟩⟩
    · rw [heq]
      exact proper_over hpeer rfl fun _ => rfl

theorem followupResponse_proper (m : FollowupResponse) (h : IsProper child) :
    IsProper (followupResponse env m child) := by
  have hlink (l : Option Bytes) : IsProper { child with link := l } := h.of_eq rfl rfl id
  obtain ⟨l, heq | ⟨hp, heq⟩⟩ := followupResponse_cases env m child
  · rw [heq]
    exact hlink l
  · rw [heq]
    exact followupComplete_proper (hlink l) hp

/-! ## the events of one child -/

theorem IsProper.not_pending (h : IsProper child) (hnone : child.peerProposal = none) :
    child.pending = false := by
  by_contra hp
  have hsome := h.negotiated (by simpa using hp)
  rw [hnone] at hsome
  cases hsome

/-- the first round of a child has begun -/
theorem rounds_begin {child' : AddkeChild} (h : IsProper child) (hnone : child.peerProposal = none)
    (hsk : child'.sk = child.sk) (hsecrets : child'.secrets = child.secrets) (hround : child'.round = 0)
    (hn : child'.nrounds = child'.methods.length) (hpos : child'.methods ≠ [])
    (hmethod : child'.roundKey = true → child'.methods[0]? = some child'.method) : Rounds child' := by
  obtain ⟨hs, hsec, -⟩ := h.fresh hnone
  refine ⟨hn, ⟨?_, .inl ?_⟩, fun _ => ?_, ?_⟩
  · rw [hsecrets, hsec, hround]
    rfl
  · rw [hsk, hs, hsecrets, hsec]
    rfl
  · rw [hround, hn]
    exact List.length_pos_of_ne_nil hpos
  · rw [hround]
    exact hmethod

theorem childAddkeMark_proper (peer mine : List Matched) (h : IsProper child)
    (hnone : child.peerProposal = none) (hi : child.isInitiator = false) :
    IsProper ((childAddkeMark env peer mine child).getD child.abort) := by
  have habort : IsProper child.abort := h.of_eq rfl rfl id
  have hkey := h.responder hi
  unfold childAddkeMark
  cases hc : collectRounds peer with
  | none => exact habort
  | some rounds =>
    dsimp only
    split
    · exact habort
    · split
      · rename_i hmark
        simp only [Bool.and_eq_true, bne_iff_ne, ne_eq] at hmark
        obtain ⟨hdropped, hne⟩ := hmark
        have hlen : (if (!env.parentEstablished && !env.addkeRequired) = true then 0
            else rounds.length) = rounds.length := by
          rw [Bool.not_eq_true'] at hdropped
          exact if_neg (by rw [hdropped]; simp)
        refine proper_negotiated rfl (fun _ => hkey) fun _ => ?_
        exact rounds_begin h hnone rfl rfl rfl hlen hne fun hk =>
          absurd (hkey.symm.trans hk) (by simp)
      · split
        · refine proper_negotiated rfl (fun _ => hkey) fun _ => ?_
          exact rounds_begin h hnone rfl rfl rfl rfl (List.cons_ne_nil _ _) fun hk =>
            absurd (hkey.symm.trans hk) (by simp)
        · exact proper_over rfl (h.not_pending hnone) fun _ => hkey

theorem installPlain_frame : (installPlain env child).pending = child.pending ∧
    (installPlain env child).roundKey = child.roundKey ∧
    (installPlain env child).peerProposal = child.peerProposal := by
  unfold installPlain
  rcases @addIpsec_cases env child with h | h
  · simp only [h, AddkeChild.abort, and_self]
  · simp only [h, and_self]

theorem updateChild_proper (peer mine : List Matched) (h : IsProper child)
    (hnone : child.peerProposal = none) (hi : child.isInitiator = true) :
    IsProper (updateChild env peer mine child) := by
  have hpending := h.not_pending hnone
  obtain ⟨-, -, hkey⟩ := h.fresh hnone
  -- without rounds the child is installed
  have hplain (c : AddkeChild) (hpeer : c.peerProposal = some peer) (hp : c.pending = false)
      (hk : c.roundKey = false) : IsProper (installPlain env c) := by
    obtain ⟨e1, e2, e3⟩ := @installPlain_frame env c
    exact proper_over (by rw [e3, hpeer]; rfl) (e1.trans hp) fun _ => e2.trans hk
  unfold updateChild
  cases hc : collectRounds peer with
  | none => exact proper_over rfl hpending fun _ => hkey
  | some rounds =>
    cases rounds with
    | nil => exact hplain _ rfl hpending hkey
    | cons method rest =>
      dsimp only
      split
      · rcases @followupSend_cases env { child with
          peerProposal := some peer, myProposal := mine, methods := method :: rest
          nrounds := (method :: rest).length, round := 0, accepted := method :: rest
          pending := true, roundKey := true, method := method, link := child.link.or env.link }
          with hs | hs
        · simp only [hs]
          exact proper_over rfl rfl fun _ => rfl
        · simp only [hs]
          refine proper_negotiated rfl (fun hres => absurd (hi.symm.trans hres) (by simp)) fun _ => ?_
          exact rounds_begin h hnone rfl rfl rfl rfl (List.cons_ne_nil _ _) fun _ => rfl
      · exact hplain _ rfl hpending hkey

theorem waitTimeout_proper (h : IsProper child) : IsProper (waitTimeout env child) := by
  rcases waitTimeout_cases env child with heq | ⟨p, hp, heq⟩ | ⟨-, -, n, t, heq⟩
  · rw [heq]
    exact h.of_eq rfl rfl id
  · rw [heq]
    exact h.of_eq rfl rfl hp
  · rw [heq]
    exact h.of_eq rfl rfl (Bool.noConfusion ·)

theorem childEvent_proper (ev : ChildEvent) (h : IsProper child) :
    IsProper (addkeStep env ev.addke child) := by
  cases ev with
  | accept peer mine =>
    simp only [ChildEvent.addke, addkeStep]
    split
    · exact h
    · rename_i hg
      simp only [Bool.or_eq_true, not_or, Bool.not_eq_true, Option.isSome_eq_false_iff,
        Option.isNone_iff_eq_none] at hg
      exact childAddkeMark_proper peer mine h hg.1.2 hg.1.1
  | getspiDone =>
    simp only [ChildEvent.addke, addkeStep]
    split
    · obtain ⟨n, t, he, -⟩ := @enterMature_eq env child
      rw [he]
      exact h.of_eq rfl rfl id
    · exact h
  | update peer mine =>
    simp only [ChildEvent.addke, addkeStep]
    split
    · rename_i hg
      simp only [Bool.and_eq_true, Option.isNone_iff_eq_none] at hg
      exact updateChild_proper peer mine h hg.2 hg.1
    · exact h
  | timeout =>
    simp only [ChildEvent.addke, addkeStep]
    split
    · exact waitTimeout_proper h
    · exact h
  | aborted => exact h.of_eq rfl rfl id

/-! ## the role is fixed -/

theorem childAddkeMark_isInitiator (peer mine : List Matched) :
    ((childAddkeMark env peer mine child).getD child.abort).isInitiator = child.isInitiator := by
  unfold childAddkeMark
  split
  · rfl
  · dsimp only
    split
    · rfl
    · split
      · rfl
      · split
        · rfl
        · rfl

theorem installPlain_isInitiator : (installPlain env child).isInitiator = child.isInitiator := by
  unfold installPlain
  rcases @addIpsec_cases env child with h | h
  · simp only [h, AddkeChild.abort]
  · simp only [h]

theorem updateChild_isInitiator (peer mine : List Matched) :
    (updateChild env peer mine child).isInitiator = child.isInitiator := by
  unfold updateChild
  cases collectRounds peer with
  | none => rfl
  | some rounds =>
    cases rounds with
    | nil => exact installPlain_isInitiator
    | cons method rest =>
      dsimp only
      split
      · rcases @followupSend_cases env { child with
          peerProposal := some peer, myProposal := mine, methods := method :: rest
          nrounds := (method :: rest).length, round := 0, accepted := method :: rest
          pending := true, roundKey := true, method := method, link := child.link.or env.link }
          with hs | hs
        · simp only [hs, AddkeChild.abort]
        · simp only [hs]
      · exact installPlain_isInitiator

theorem waitTimeout_isInitiator : (waitTimeout env child).isInitiator = child.isInitiator := by
  rcases waitTimeout_cases env child with heq | ⟨p, -, heq⟩ | ⟨-, -, n, t, heq⟩
  · rw [heq]
  · rw [heq]
    rfl
  · rw [heq]

theorem childEvent_isInitiator (ev : ChildEvent) :
    (addkeStep env ev.addke child).isInitiator = child.isInitiator := by
  cases ev with
  | accept peer mine =>
    simp only [ChildEvent.addke, addkeStep]
    split
    · rfl
    · exact childAddkeMark_isInitiator peer mine
  | getspiDone =>
    simp only [ChildEvent.addke, addkeStep]
    split
    · obtain ⟨n, t, he, -⟩ := @enterMature_eq env child
      rw [he]
    · rfl
  | update peer mine =>
    simp only [ChildEvent.addke, addkeStep]
    split
    · exact updateChild_isInitiator peer mine
    · rfl
  | timeout =>
    simp only [ChildEvent.addke, addkeStep]
    split
    · exact waitTimeout_isInitiator
    · rfl
  | aborted => rfl

theorem followupRound_isInitiator :
    (followupRound env m child).isInitiator = child.isInitiator := by
  rcases followupRound_cases env m child with h | ⟨-, -, ss, ⟨-, h⟩ | ⟨-, h⟩⟩
  · rw [h]
  · rw [h]
    rfl
  · rw [h, (followupFinal_frame).2.1]
    rfl

theorem followupFound_isInitiator :
    (followupFound env m child).isInitiator = child.isInitiator := by
  unfold followupFound
  split
  · exact followupRound_isInitiator
  · split
    · exact followupRound_isInitiator
    · rfl

theorem followupComplete_isInitiator :
    (followupComplete env child).isInitiator = child.isInitiator := by
  rcases followupComplete_cases env child with heq | ⟨-, heq | ⟨ss, c, rfl, hnext⟩⟩
  · rw [heq]
  · rw [heq]
  · rcases hnext with ⟨-, heq⟩ | ⟨-, heq | ⟨n, t, heq⟩⟩
    · rw [heq]
      exact followupNext_isInitiator
    · rw [heq]
      rfl
    · rw [heq]
      rfl

theorem followupResponse_isInitiator (m : FollowupResponse) :
    (followupResponse env m child).isInitiator = child.isInitiator := by
  obtain ⟨l, heq | ⟨-, heq⟩⟩ := followupResponse_cases env m child
  · rw [heq]
  · rw [heq]
    exact followupComplete_isInitiator

/-! ## the step -/

theorem forall_mem_modify {α : Type} {P : α → Prop} {l : List α} {i : Nat} {f : α → α}
    (h : ∀ a ∈ l, P a) (hf : ∀ a, l[i]? = some a → P (f a)) : ∀ a ∈ l.modify i f, P a := by
  intro b hb
  obtain ⟨j, hj⟩ := List.mem_iff_getElem?.mp hb
  rw [List.getElem?_modify] at hj
  obtain ⟨a, ha, rfl⟩ := Option.map_eq_some_iff.mp hj
  split
  · rename_i hij
    exact hf a (hij ▸ ha)
  · exact h a (List.mem_of_getElem? ha)

/-- the children of the roles are proper -/
def FollowupInv (roles : Bool → Prop) (sa : FollowupSa) : Prop :=
  ∀ child ∈ sa.children, roles child.isInitiator → IsProper child

theorem followupStep_inv (roles : Bool → Prop) (sa : FollowupSa) (e : AddkeEnv × FollowupEvent)
    (h : FollowupInv roles sa)
    (hreq : ∀ m, e.2 = .request m → ∀ i child, followupKeFindChild m sa.children = some i →
      sa.children[i]? = some child → roles child.isInitiator → child.isInitiator = false) :
    FollowupInv roles (followupStep sa e) := by
  obtain ⟨env, ev⟩ := e
  cases ev with
  | create child =>
    intro c hc hrole
    rcases List.mem_append.mp hc with hc | hc
    · exact h c hc hrole
    · rw [List.mem_singleton.mp hc]
      exact child.2.proper
  | destroy i => exact fun c hc => h c (List.mem_of_mem_eraseIdx hc)
  | child i ev =>
    refine forall_mem_modify h fun c hc hrole => ?_
    rw [childEvent_isInitiator] at hrole
    exact childEvent_proper ev (h c (List.mem_of_getElem? hc) hrole)
  | rekey link => exact h
  | request m =>
    simp only [followupStep]
    rcases followupKeRequest_cases env m sa with hsame | ⟨i, hfind, hmod⟩
    · rw [hsame]
      exact h
    · rw [hmod]
      refine forall_mem_modify h fun c hc hrole => ?_
      obtain ⟨child, hget, hp, -⟩ := followupKeFindChild_bound hfind
      obtain rfl := Option.some.inj (hc.symm.trans hget)
      rw [followupFound_isInitiator] at hrole
      exact followupFound_proper (h c (List.mem_of_getElem? hc) hrole) (hreq m rfl i c hfind hc hrole)
        hp
  | response m =>
    simp only [followupStep, followupKeResponse]
    split
    · exact h
    · refine forall_mem_modify h fun c hc hrole => ?_
      rw [followupResponse_isInitiator] at hrole
      exact followupResponse_proper m (h c (List.mem_of_getElem? hc) hrole)

theorem followupInv_start (roles : Bool → Prop) : FollowupInv roles FollowupSa.start :=
  List.forall_mem_nil _

theorem IsProper.inOrder (h : IsProper child) (hp : child.pending = true) : InOrder child :=
  (h.running hp).inOrder

/-! ## a request -/

theorem followupRound_link : (followupRound env m child).link = child.link ∨
    (followupRound env m child).link = env.link := by
  rcases followupRound_cases env m child with h | ⟨-, -, ss, ⟨-, h⟩ | ⟨-, h⟩⟩
  · exact .inl (by rw [h])
  · exact .inr (by rw [h])
  · exact .inl (by rw [h, (followupFinal_frame).2.2.2.1]; rfl)

theorem followupFound_link : (followupFound env m child).link = child.link ∨
    (followupFound env m child).link = none ∨ (followupFound env m child).link = some m.link ∨
    (followupFound env m child).link = env.link := by
  unfold followupFound
  split
  · exact followupRound_link.imp id fun h => .inr (.inr h)
  · split
    · exact .inr (.inr (followupRound_link))
    · exact .inr (.inl rfl)

/-- a child of ours as a responder goes on with the method of its round only -/
theorem followupFound_progress (h : IsProper child) (hi : child.isInitiator = false)
    (hp : child.pending = true) (hne : (followupFound env m child).progress ≠ child.progress) :
    child.methods[child.round]? = some m.method ∧ env.sent = true := by
  have hlt := (h.running hp).live (.inl hi)
  have hround (c : AddkeChild) (hc : c.progress = child.progress) (hm : c.methods = child.methods)
      (hr : c.round = child.round) (hn : c.nrounds = child.nrounds)
      (hne : (followupRound env m c).progress ≠ child.progress) :
      child.methods[child.round]? = some m.method ∧ env.sent = true := by
    rcases followupRound_cases env m c with hsame | ⟨hmethod, hsent, -⟩
    · exact absurd (by rw [hsame]; exact hc) hne
    · rw [hm, hr, hn] at hmethod
      exact ⟨hmethod hlt, hsent⟩
  unfold followupFound at hne
  split at hne
  · exact hround child rfl rfl rfl rfl hne
  · split at hne
    · exact hround { child with link := some m.link } rfl rfl rfl rfl hne
    · exact absurd rfl hne

theorem binds (h : FollowupInv (· = false) sa) : Binds env m sa := by
  rcases followupKeRequest_cases env m sa with hsame | ⟨k, hfind, hmod⟩
  · refine ⟨fun i child hget _ _ => ?_, ⟨0, fun j _ => ?_⟩, ?_, ?_⟩
    · rw [hsame]
      exact hget
    · rw [hsame]
    · intro i child child' hget hget' _ _ hne
      rw [hsame] at hget'
      exact absurd (Option.some.inj (hget'.symm.trans hget) ▸ rfl) hne
    · intro i child child' hget hget' hne
      rw [hsame] at hget'
      exact absurd (Option.some.inj (hget'.symm.trans hget) ▸ rfl) hne
  · obtain ⟨found, hk, hp, hbound⟩ := followupKeFindChild_bound hfind
    -- every other place is as it was
    have hother (i : Nat) (hi : i ≠ k) :
        (followupKeRequest env m sa).children[i]? = sa.children[i]? := by
      rw [hmod]
      exact List.getElem?_modify_ne _ _ (Ne.symm hi)
    have hat : (followupKeRequest env m sa).children[k]? = some (followupFound env m found) := by
      rw [hmod]
      show (sa.children.modify k (followupFound env m))[k]? = _
      rw [List.getElem?_modify_eq, hk]
      rfl
    -- a child that is not as it was is the one that was found
    have hchanged (i : Nat) (child child' : AddkeChild) (hget : sa.children[i]? = some child)
        (hget' : (followupKeRequest env m sa).children[i]? = some child') (hne : child' ≠ child) :
        child = found ∧ child' = followupFound env m found := by
      by_cases hi : i = k
      · subst hi
        exact ⟨Option.some.inj (hget.symm.trans hk), Option.some.inj (hget'.symm.trans hat)⟩
      · rw [hother i hi] at hget'
        exact absurd (Option.some.inj (hget'.symm.trans hget)) hne
    refine ⟨fun i child hget _ hnot => ?_, ⟨k, hother⟩, ?_, ?_⟩
    · by_cases hi : i = k
      · subst hi
        exact absurd (Option.some.inj (hget.symm.trans hk) ▸ hbound) hnot
      · rw [hother i hi]
        exact hget
    · intro i child child' hget hget' hpending hrole hne
      obtain ⟨rfl, rfl⟩ := hchanged i child child' hget hget' fun he => hne (he ▸ rfl)
      exact followupFound_progress (h child (List.mem_of_getElem? hget) hrole) hrole hpending hne
    · intro i child child' hget hget' hne
      obtain ⟨rfl, rfl⟩ := hchanged i child child' hget hget' fun he => hne (he ▸ rfl)
      rcases @followupFound_link env m child with hl | hl
      · exact absurd hl hne
      · exact hl

/-! ## whole runs -/

/-- in every state of every run, a request binds to one exchange at most and takes it further only with
the method of its round; and the secrets are in order: of the children we created as a responder, and
of all as long as no request is taken to one that we created as an initiator -/
theorem followup_requests_bound (events : List (AddkeEnv × FollowupEvent)) :
    ∀ sa ∈ Run.states followupStep FollowupSa.start events,
      (∀ env m, Binds env m sa) ∧
      (∀ child ∈ sa.children, child.pending = true → child.isInitiator = false → InOrder child) ∧
      (Run.Meets followupStep OwnRole FollowupSa.start events →
        ∀ child ∈ sa.children, child.pending = true → InOrder child) := by
  intro sa hsa
  have hresponders : FollowupInv (· = false) sa :=
    Run.states_inv_all (fun sa e h => followupStep_inv _ sa e h fun _ _ _ _ _ _ hrole => hrole) events
      (followupInv_start _) sa hsa
  refine ⟨fun env m => binds hresponders, fun child hc hp hi => (hresponders child hc hi).inOrder hp,
    fun hmeets child hc hp => ?_⟩
  have hall : FollowupInv (fun _ => True) sa := by
    refine Run.states_inv (fun sa e h hown => followupStep_inv _ sa e h ?_) events FollowupSa.start
      (followupInv_start _) hmeets sa hsa
    obtain ⟨env, ev⟩ := e
    rintro m rfl i child hfind hget -
    exact hown i hfind child hget
  exact (hall child hc trivial).inOrder hp

/-! ## one round of ML-KEM-768 -/

def mlkemResponder : AddkeChild := { mlkemInitiator with isInitiator := false, link := none }

theorem mlkemResponder_fresh : mlkemResponder.Fresh := { mlkemInitiator_fresh with }

/-- the child waits for the follow-up with the link [9] -/
def mlkemWaits : List (AddkeEnv × FollowupEvent) :=
  [(mlkemEnv, .create ⟨mlkemResponder, mlkemResponder_fresh⟩),
    (mlkemEnv, .child 0 (.accept (mlkemMatched [0, 0, 0, 1]) (mlkemMatched [0, 0, 0, 2]))),
    (mlkemEnv, .child 0 .getspiDone)]

/-- the first response cannot be sent, the request comes again -/
theorem followup_requests_bound_mlkem :
    (∃ sa ∈ Run.states followupStep FollowupSa.start
        (mlkemWaits ++ [({ mlkemEnv with sent := false }, .request ⟨true, 36, [9]⟩),
          (mlkemEnv, .request ⟨true, 36, [9]⟩)]),
      sa.children.map AddkeChild.secrets = [[(36, [7, 7, 7])]]) ∧
    ∀ sa ∈ Run.states followupStep FollowupSa.start
        (mlkemWaits ++ [({ mlkemEnv with sent := false }, .request ⟨true, 36, [9]⟩),
          (mlkemEnv, .request ⟨true, 36, [9]⟩)]), ∀ env m, Binds env m sa := by
  constructor
  · decide +kernel
  · intro sa hsa
    exact (followup_requests_bound _ sa hsa).1

/-- a request with a link that was never issued completes the exchange; with another method it is
refused, and has changed the link -/
theorem unknown_link_completes : ∃ sa ∈ Run.states followupStep FollowupSa.start mlkemWaits,
    sa.children.map (fun child => (child.pending, child.link)) = [(true, some [9])] ∧
    (followupKeRequest mlkemEnv ⟨true, 36, [1]⟩ sa).children.map AddkeChild.progress =
      [(false, 0, some [7, 7, 7])] ∧
    (followupKeRequest mlkemEnv ⟨true, 35, [1]⟩ sa).children.map
      (fun child => (child.progress, child.link)) = [((true, 0, none), some [1])] := by
  refine ⟨_, Run.foldl_mem_states _ _, ?_, ?_, ?_⟩
  · decide +kernel
  · decide +kernel
  · decide +kernel

end Ikev2
