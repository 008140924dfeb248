import Mathlib.Logic.Function.Basic
import Racoon2.Lib.Bytes
import Racoon2.Lib.Run

/-!
# The cache of used tickets

`r2ticket_replay_mark`, `r2ticket_replay_disk` and `r2ticket_replay_sweep`: every ticket that a
responder accepted is kept until it expires, in a table in memory and as a file of the cache
directory, so that a restart does not forget it.

* `MarkLive`           the file of a ticket, with its expiry;
* `replayMark_live`    a call leaves every live file and reports no ticket that has one;
* `replayMark_first`   a first use was written, linked and put in a slot;
* `tickets_once`       every run of calls, sweeps and restarts.

The sweep takes a file it cannot open for an orphan once it is seven days old, even when it is the
mark of a ticket that is still good.
-/

set_option linter.unusedVariables false

namespace Ikev2
open Bytes

/-! ## the cache -/

def replaySlots : Nat := 4096
def replaySweepEvery : Nat := 300
def replayOrphanAge : Nat := 7 * 86400

/-- `r2ticket_expired` -/
def ticketExpired (expiresAt now : Nat) : Bool := expiresAt == 0 || expiresAt ≤ now

/-- `struct r2tick_seen`; the slot is free when `expiresAt` is 0 -/
structure SeenSlot where
  expiresAt : UInt32
  h : Bytes
  deriving DecidableEq, Repr

def SeenSlot.free : SeenSlot := ⟨0, []⟩

/-- a file below the name of a digest -/
structure MarkFile where
  data : Bytes
  mtime : Nat
  deriving DecidableEq, Repr

/-- memory and directory -/
structure ReplayCache where
  seen : List SeenSlot
  files : Bytes → Option MarkFile
  swept : Bool
  lastSweep : UInt32

/-- the answers of the system during one call -/
structure ReplayIo where
  wall : Nat
  digestOk : Bool
  nameFits : Bool
  opendir : Bool
  lstat : Bytes → Bool
  sweepOpen : Bytes → Bool
  sweepRead : Bytes → Bool
  sweepUnlink : Bytes → Bool
  openOk : Bool
  readOk : Bool
  unlinkOk : Bool
  create : Bool
  write : Bool
  fsync : Bool
  link : Bool

inductive ReplayResult where
  | first
  | used
  | error
  deriving DecidableEq, Repr

/-- the expiry in a mark -/
def MarkFile.expiresAt (m : MarkFile) : Nat := be32 m.data 0

/-- what the loop of `r2ticket_replay_sweep` drops -/
def dropMark (now : UInt32) (io : ReplayIo) (h : Bytes) (m : MarkFile) : Bool :=
  if m.data.length = 4 ∧ io.sweepOpen h = true then
    io.sweepRead h && ticketExpired m.expiresAt now.toNat
  else m.mtime + replayOrphanAge ≤ io.wall

/-- `r2ticket_replay_sweep` -/
def replaySweep (now : UInt32) (io : ReplayIo) (c : ReplayCache) : ReplayCache :=
  if io.opendir = false ∨ io.nameFits = false then c
  else { c with files := fun h =>
    match c.files h with
    | none => none
    | some m => if io.lstat h && dropMark now io h m && io.sweepUnlink h then none else some m }

/-- `r2ticket_replay_disk` sweeps first, every five minutes -/
def sweepDue (now : UInt32) (c : ReplayCache) : Bool :=
  !c.swept || replaySweepEvery ≤ (now - c.lastSweep).toNat

def sweepIfDue (now : UInt32) (io : ReplayIo) (c : ReplayCache) : ReplayCache :=
  if sweepDue now c then { replaySweep now io c with swept := true, lastSweep := now } else c

/-- the look at an earlier mark, which is taken away when it is expired; `none`: it is in use -/
def clearMark (h : Bytes) (now : UInt32) (io : ReplayIo) (c : ReplayCache) : Option ReplayCache :=
  match c.files h with
  | none => some c
  | some m =>
    if io.openOk = false then some c
    else if io.readOk = false ∨ m.data.length < 4 then none
    else if ticketExpired m.expiresAt now.toNat = false then none
    else if io.unlinkOk = false then some c
    else some { c with files := Function.update c.files h none }

/-- `r2ticket_replay_disk`, where a directory is bound -/
def replayDisk (h : Bytes) (expiresAt now : UInt32) (io : ReplayIo) (c : ReplayCache) :
    ReplayCache × ReplayResult :=
  let c := sweepIfDue now io c
  if io.nameFits = false then (c, .error)
  else match clearMark h now io c with
    | none => (c, .used)
    | some c =>
      if io.create = false ∨ io.write = false ∨ io.fsync = false ∨ io.link = false then (c, .error)
      else if (c.files h).isSome then (c, .used)
      else ({ c with files := Function.update c.files h (some ⟨enc32 expiresAt.toNat, io.wall⟩) },
        .first)

/-- a slot whose ticket is expired is given free -/
def SeenSlot.clear (now : UInt32) (e : SeenSlot) : SeenSlot :=
  if e.expiresAt ≠ 0 ∧ ticketExpired e.expiresAt.toNat now.toNat = true then .free else e

/-- the loop over the slots, which ends where the ticket is found -/
def seenScan (h : Bytes) (now : UInt32) : List SeenSlot → List SeenSlot × Bool
  | [] => ([], false)
  | e :: es =>
    if (e.clear now).expiresAt ≠ 0 ∧ (e.clear now).h = h then (e.clear now :: es, true)
    else (e.clear now :: (seenScan h now es).1, (seenScan h now es).2)

/-- the first free slot is taken -/
def storeSlot (new : SeenSlot) : List SeenSlot → Option (List SeenSlot)
  | [] => none
  | e :: es => if e.expiresAt = 0 then some (new :: es) else (storeSlot new es).map (e :: ·)

section
variable (sha256 : Bytes → Bytes)

/-- `r2ticket_replay_mark` -/
def replayMark (ticket : Bytes) (expiresAt now : UInt32) (io : ReplayIo) (c : ReplayCache) :
    ReplayCache × ReplayResult :=
  if ticket = [] ∨ ticketExpired expiresAt.toNat now.toNat = true ∨ io.digestOk = false then
    (c, .error)
  else
    let d := replayDisk (sha256 ticket) expiresAt now io c
    match d.2 with
    | .used => (d.1, .used)
    | .error => (d.1, .error)
    | .first =>
      let r := seenScan (sha256 ticket) now d.1.seen
      if r.2 = true then ({ d.1 with seen := r.1 }, .used)
      else match storeSlot ⟨expiresAt, sha256 ticket⟩ r.1 with
        | none => ({ d.1 with seen := r.1 }, .error)
        | some seen => ({ d.1 with seen := seen }, .first)

/-! ## runs -/

/-- a ticket that was reported as first use -/
structure TicketUse where
  ticket : Bytes
  expiresAt : Nat
  now : Nat
  deriving DecidableEq, Repr

structure ReplaySys where
  cache : ReplayCache
  clock : Nat
  uses : List TicketUse

inductive ReplayEvent where
  | mark (ticket : Bytes) (expiresAt now : UInt32) (io : ReplayIo)
  | sweep (now : UInt32) (io : ReplayIo)
  | restart

/-- a restart clears the memory; the files stay -/
def ReplayCache.restart (c : ReplayCache) : ReplayCache :=
  { c with seen := List.replicate replaySlots .free, swept := false, lastSweep := 0 }

def replayStep (s : ReplaySys) : ReplayEvent → ReplaySys
  | .mark ticket expiresAt now io =>
    let r := replayMark sha256 ticket expiresAt now io s.cache
    { cache := r.1
      clock := now.toNat
      uses := if r.2 = .first then s.uses ++ [⟨ticket, expiresAt.toNat, now.toNat⟩] else s.uses }
  | .sweep now io => { s with cache := replaySweep now io s.cache, clock := now.toNat }
  | .restart => { s with cache := s.cache.restart }

/-- the sweep opens every mark of a good ticket that is as old as an orphan -/
def SweepOpens (now : UInt32) (io : ReplayIo) (c : ReplayCache) : Prop :=
  ∀ h m, c.files h = some m → m.data.length = 4 → ticketExpired m.expiresAt now.toNat = false →
    m.mtime + replayOrphanAge ≤ io.wall → io.lstat h = true → io.sweepUnlink h = true →
    io.sweepOpen h = true

/-- the clock does not go back, and a sweep opens the old marks that are good -/
def ReplayAllowed (s : ReplaySys) : ReplayEvent → Prop
  | .mark ticket expiresAt now io =>
    s.clock ≤ now.toNat ∧ (sweepDue now s.cache = true → SweepOpens now io s.cache)
  | .sweep now io => s.clock ≤ now.toNat ∧ SweepOpens now io s.cache
  | .restart => True

/-- two first uses of one ticket: the first one was expired when the second came -/
def OncePerTicket (uses : List TicketUse) : Prop :=
  uses.Pairwise fun a b => a.ticket = b.ticket → a.expiresAt ≤ b.now

end

/-! ## what a call leaves -/

/-- the file of a ticket, with its expiry -/
def MarkLive (c : ReplayCache) (h : Bytes) (expiresAt : UInt32) : Prop :=
  ∃ m, c.files h = some m ∧ m.data = enc32 expiresAt.toNat

theorem ticketExpired_false {expiresAt now : Nat} :
    ticketExpired expiresAt now = false ↔ now < expiresAt := by
  unfold ticketExpired
  rw [Bool.or_eq_false_iff, beq_eq_false_iff_ne, decide_eq_false_iff_not]
  omega

section
variable {c c' : ReplayCache} {h h' : Bytes} {exp exp' now : UInt32} {io : ReplayIo}

theorem mark_expiresAt {m : MarkFile} (hdata : m.data = enc32 exp.toNat) :
    m.data.length = 4 ∧ m.expiresAt = exp.toNat := by
  unfold MarkFile.expiresAt
  rw [hdata]
  refine ⟨enc32_length _, ?_⟩
  have hread := be32_enc32 exp.toNat_lt []
  rw [List.append_nil] at hread
  exact hread

/-- the sweep leaves a mark that it can open until it is expired -/
theorem replaySweep_live (hlive : MarkLive c h exp) (hgood : now.toNat < exp.toNat)
    (hopens : SweepOpens now io c) : MarkLive (replaySweep now io c) h exp := by
  obtain ⟨m, hm, hdata⟩ := hlive
  obtain ⟨hsize, hexp⟩ := mark_expiresAt hdata
  have hunexpired : ticketExpired m.expiresAt now.toNat = false := by
    rw [hexp]
    exact ticketExpired_false.mpr hgood
  unfold replaySweep
  split
  · exact ⟨m, hm, hdata⟩
  · refine ⟨m, ?_, hdata⟩
    simp only [hm]
    rw [if_neg]
    simp only [Bool.and_eq_true, not_and]
    rintro ⟨hlstat, hdrop⟩ hunlink
    unfold dropMark at hdrop
    by_cases hopen : io.sweepOpen h = true
    · rw [if_pos ⟨hsize, hopen⟩, hunexpired, Bool.and_false] at hdrop
      cases hdrop
    · rw [if_neg (fun hand => hopen hand.2), decide_eq_true_eq] at hdrop
      exact hopen (hopens h m hm hsize hunexpired hdrop hlstat hunlink)

theorem sweepIfDue_live (hlive : MarkLive c h exp) (hgood : now.toNat < exp.toNat)
    (hopens : sweepDue now c = true → SweepOpens now io c) : MarkLive (sweepIfDue now io c) h exp := by
  unfold sweepIfDue
  split
  · rename_i hdue
    exact replaySweep_live hlive hgood (hopens hdue)
  · exact hlive

/-- a live mark is not cleared, not even by a call for its own ticket -/
theorem clearMark_live (hlive : MarkLive c h exp) (hgood : now.toNat < exp.toNat)
    (hclear : clearMark h' now io c = some c') : MarkLive c' h exp := by
  obtain ⟨m, hm, hdata⟩ := hlive
  obtain ⟨hsize, hexp⟩ := mark_expiresAt hdata
  unfold clearMark at hclear
  split at hclear
  · rw [← Option.some.inj hclear]
    exact ⟨m, hm, hdata⟩
  · rename_i m' hm'
    split at hclear
    · rw [← Option.some.inj hclear]
      exact ⟨m, hm, hdata⟩
    · split at hclear
      · cases hclear
      · split at hclear
        · cases hclear
        · rename_i hexpired
          split at hclear
          · rw [← Option.some.inj hclear]
            exact ⟨m, hm, hdata⟩
          · rw [← Option.some.inj hclear]
            have hne : h ≠ h' := by
              rintro rfl
              rw [hm] at hm'
              rw [← Option.some.inj hm', hexp] at hexpired
              exact hexpired (ticketExpired_false.mpr hgood)
            exact ⟨m, by rw [← hm]; exact Function.update_of_ne hne _ _, hdata⟩

/-- `r2ticket_replay_disk` leaves the live marks and reports none of their tickets -/
theorem replayDisk_live (hlive : MarkLive c h exp) (hgood : now.toNat < exp.toNat)
    (hopens : sweepDue now c = true → SweepOpens now io c) :
    MarkLive (replayDisk h' exp' now io c).1 h exp
    ∧ ((replayDisk h' exp' now io c).2 = .first → h' ≠ h) := by
  have hswept := sweepIfDue_live hlive hgood hopens
  unfold replayDisk
  simp only
  split
  · exact ⟨hswept, fun hfirst => nomatch hfirst⟩
  · split
    · exact ⟨hswept, fun hfirst => nomatch hfirst⟩
    · rename_i c₁ hclear
      have hcleared := clearMark_live hswept hgood hclear
      split
      · exact ⟨hcleared, fun hfirst => nomatch hfirst⟩
      · split
        · exact ⟨hcleared, fun hfirst => nomatch hfirst⟩
        · rename_i habsent
          obtain ⟨m, hm, hdata⟩ := hcleared
          have hne : h' ≠ h := by
            rintro rfl
            rw [hm] at habsent
            exact habsent rfl
          exact ⟨⟨m, by rw [← hm]; exact Function.update_of_ne hne.symm _ _, hdata⟩, fun _ => hne⟩

/-- a first use on disk is a file that was written, synced and linked -/
theorem replayDisk_first (hfirst : (replayDisk h exp now io c).2 = .first) :
    MarkLive (replayDisk h exp now io c).1 h exp
    ∧ io.create = true ∧ io.write = true ∧ io.fsync = true ∧ io.link = true := by
  unfold replayDisk at hfirst ⊢
  simp only at hfirst ⊢
  split at hfirst
  · cases hfirst
  · rename_i hfits
    rw [if_neg hfits]
    split at hfirst
    · cases hfirst
    · rename_i c₁ hclear
      split at hfirst
      · cases hfirst
      · rename_i hio
        split at hfirst
        · cases hfirst
        · rename_i habsent
          rw [if_neg hio, if_neg habsent]
          simp only [not_or, Bool.not_eq_false] at hio
          exact ⟨⟨_, Function.update_self _ _ _, rfl⟩, hio⟩

end

section
variable {sha256 : Bytes → Bytes} {c : ReplayCache} {h ticket : Bytes} {exp exp' now : UInt32}
  {io : ReplayIo}

theorem replayMark_files : (replayMark sha256 ticket exp now io c).1.files = c.files
    ∨ (replayMark sha256 ticket exp now io c).1.files
      = (replayDisk (sha256 ticket) exp now io c).1.files := by
  unfold replayMark
  split
  · exact .inl rfl
  · right
    simp only
    split
    · rfl
    · rfl
    · split
      · rfl
      · split <;> rfl

theorem sweepIfDue_seen : (sweepIfDue now io c).seen = c.seen := by
  unfold sweepIfDue replaySweep
  split
  · split <;> rfl
  · rfl

theorem clearMark_seen {c' : ReplayCache} (hclear : clearMark h now io c = some c') :
    c'.seen = c.seen := by
  unfold clearMark at hclear
  split at hclear
  · rw [← Option.some.inj hclear]
  · split at hclear
    · rw [← Option.some.inj hclear]
    · split at hclear
      · cases hclear
      · split at hclear
        · cases hclear
        · split at hclear <;> rw [← Option.some.inj hclear]

/-- the disk has nothing to do with the slots -/
theorem replayDisk_seen : (replayDisk h exp now io c).1.seen = c.seen := by
  unfold replayDisk
  simp only
  split
  · exact sweepIfDue_seen
  · split
    · exact sweepIfDue_seen
    · rename_i c₁ hclear
      have hseen : c₁.seen = c.seen := (clearMark_seen hclear).trans sweepIfDue_seen
      split
      · exact hseen
      · split
        · exact hseen
        · exact hseen

theorem storeSlot_isSome {new : SeenSlot} {es : List SeenSlot}
    (hsome : (storeSlot new es).isSome = true) : ∃ e ∈ es, e.expiresAt = 0 := by
  induction es with
  | nil => cases hsome
  | cons e es ih =>
    unfold storeSlot at hsome
    by_cases hfree : e.expiresAt = 0
    · exact ⟨e, List.mem_cons_self, hfree⟩
    · rw [if_neg hfree, Option.isSome_map] at hsome
      obtain ⟨e', hmem, hzero⟩ := ih hsome
      exact ⟨e', List.mem_cons_of_mem _ hmem, hzero⟩

theorem clear_free {e : SeenSlot} (hzero : (e.clear now).expiresAt = 0) :
    ticketExpired e.expiresAt.toNat now.toNat = true := by
  unfold SeenSlot.clear at hzero
  split at hzero
  · rename_i hexpired
    exact hexpired.2
  · unfold ticketExpired
    rw [hzero]
    rfl

/-- a slot is free after the loop when it was free or its ticket expired -/
theorem seenScan_free {es : List SeenSlot} {e : SeenSlot} (hmem : e ∈ (seenScan h now es).1)
    (hzero : e.expiresAt = 0) : ∃ e' ∈ es, ticketExpired e'.expiresAt.toNat now.toNat = true := by
  induction es with
  | nil => cases hmem
  | cons x xs ih =>
    unfold seenScan at hmem
    split at hmem
    · rcases List.mem_cons.mp hmem with rfl | hmem
      · exact ⟨x, List.mem_cons_self, clear_free hzero⟩
      · refine ⟨e, List.mem_cons_of_mem _ hmem, ?_⟩
        unfold ticketExpired
        rw [hzero]
        rfl
    · rcases List.mem_cons.mp hmem with rfl | hmem
      · exact ⟨x, List.mem_cons_self, clear_free hzero⟩
      · obtain ⟨e', hmem', hexpired⟩ := ih hmem
        exact ⟨e', List.mem_cons_of_mem _ hmem', hexpired⟩

/-- a first use was reported by the disk, and there was a slot for it -/
theorem replayMark_disk (hfirst : (replayMark sha256 ticket exp now io c).2 = .first) :
    now.toNat < exp.toNat ∧ io.digestOk = true
    ∧ (replayDisk (sha256 ticket) exp now io c).2 = .first
    ∧ (replayMark sha256 ticket exp now io c).1.files
      = (replayDisk (sha256 ticket) exp now io c).1.files
    ∧ ∃ e ∈ c.seen, ticketExpired e.expiresAt.toNat now.toNat = true := by
  unfold replayMark at hfirst ⊢
  split at hfirst
  · cases hfirst
  · rename_i hguard
    rw [if_neg hguard]
    simp only [not_or, Bool.not_eq_true, Bool.not_eq_false] at hguard
    refine ⟨ticketExpired_false.mp hguard.2.1, hguard.2.2, ?_⟩
    simp only at hfirst ⊢
    split at hfirst
    · cases hfirst
    · cases hfirst
    · rename_i hdisk
      split at hfirst
      · cases hfirst
      · rename_i hscan
        split at hfirst
        · cases hfirst
        · rename_i seen hstore
          simp only [hdisk]
          rw [if_neg hscan]
          refine ⟨trivial, rfl, ?_⟩
          obtain ⟨e, hmem, hzero⟩ := storeSlot_isSome (by rw [hstore]; rfl)
          rw [replayDisk_seen] at hmem
          exact seenScan_free hmem hzero

/-- a call leaves the live marks and reports none of their tickets -/
theorem replayMark_live (hlive : MarkLive c h exp) (hgood : now.toNat < exp.toNat)
    (hopens : sweepDue now c = true → SweepOpens now io c) :
    MarkLive (replayMark sha256 ticket exp' now io c).1 h exp
    ∧ ((replayMark sha256 ticket exp' now io c).2 = .first → sha256 ticket ≠ h) := by
  have hdisk : MarkLive (replayDisk (sha256 ticket) exp' now io c).1 h exp ∧ _ :=
    replayDisk_live hlive hgood hopens
  refine ⟨?_, fun hfirst => hdisk.2 (replayMark_disk hfirst).2.2.1⟩
  unfold MarkLive at hlive hdisk ⊢
  rcases (replayMark_files : (replayMark sha256 ticket exp' now io c).1.files = _ ∨ _) with hf | hf
  · rw [hf]
    exact hlive
  · rw [hf]
    exact hdisk.1

/-- a first use leaves its mark -/
theorem replayMark_first (hfirst : (replayMark sha256 ticket exp now io c).2 = .first) :
    MarkLive (replayMark sha256 ticket exp now io c).1 (sha256 ticket) exp := by
  obtain ⟨_, _, hdisk, hfiles, _⟩ := replayMark_disk hfirst
  have hmark := (replayDisk_first hdisk).1
  unfold MarkLive at hmark ⊢
  rw [hfiles]
  exact hmark

end

/-! ## every run -/

section
variable (sha256 : Bytes → Bytes)

/-- every ticket that was reported is expired or has its mark -/
structure ReplaySys.Sound (s : ReplaySys) : Prop where
  marks : ∀ u ∈ s.uses, u.expiresAt ≤ s.clock
    ∨ ∃ exp : UInt32, exp.toNat = u.expiresAt ∧ MarkLive s.cache (sha256 u.ticket) exp
  once : OncePerTicket s.uses

variable {sha256} {s : ReplaySys}

/-- the marks after an event that leaves those of good tickets -/
theorem marks_kept (hsound : s.Sound sha256) {c : ReplayCache} {now : UInt32}
    (hclock : s.clock ≤ now.toNat)
    (hkept : ∀ h (exp : UInt32), MarkLive s.cache h exp → now.toNat < exp.toNat → MarkLive c h exp) :
    ∀ u ∈ s.uses, u.expiresAt ≤ now.toNat
      ∨ ∃ exp : UInt32, exp.toNat = u.expiresAt ∧ MarkLive c (sha256 u.ticket) exp := by
  intro u hu
  by_cases hgood : now.toNat < u.expiresAt
  · rcases hsound.marks u hu with hold | ⟨exp, hexp, hlive⟩
    · omega
    · exact .inr ⟨exp, hexp, hkept _ exp hlive (by omega)⟩
  · exact .inl (by omega)

theorem replayStep_mark (hsound : s.Sound sha256) {ticket : Bytes} {exp now : UInt32}
    {io : ReplayIo} (hallowed : ReplayAllowed s (.mark ticket exp now io)) :
    (replayStep sha256 s (.mark ticket exp now io)).Sound sha256 := by
  obtain ⟨hclock, hopens⟩ := hallowed
  have hmarks : ∀ u ∈ s.uses, u.expiresAt ≤ now.toNat ∨ ∃ exp' : UInt32,
      exp'.toNat = u.expiresAt
        ∧ MarkLive (replayMark sha256 ticket exp now io s.cache).1 (sha256 u.ticket) exp' :=
    marks_kept hsound hclock fun h exp' hlive hgood => (replayMark_live hlive hgood hopens).1
  unfold replayStep
  simp only
  by_cases hfirst : (replayMark sha256 ticket exp now io s.cache).2 = .first
  · rw [if_pos hfirst]
    constructor
    · intro u hu
      rcases List.mem_append.mp hu with hu | hu
      · exact hmarks u hu
      · rw [List.mem_singleton.mp hu]
        exact .inr ⟨exp, rfl, replayMark_first hfirst⟩
    · unfold OncePerTicket
      rw [List.pairwise_append]
      refine ⟨hsound.once, List.pairwise_singleton _ _, fun u hu v hv heq => ?_⟩
      rw [List.mem_singleton.mp hv] at heq ⊢
      -- an earlier use that is good has its mark, and then this is none
      by_contra hlate
      rcases hsound.marks u hu with hold | ⟨exp', hexp', hlive⟩
      · exact hlate (Nat.le_trans hold hclock)
      · have hgood : now.toNat < exp'.toNat := by
          rw [hexp']
          exact Nat.not_le.mp hlate
        exact (replayMark_live hlive hgood hopens).2 hfirst (by rw [heq])
  · rw [if_neg hfirst]
    exact ⟨hmarks, hsound.once⟩

theorem replayStep_sound (s : ReplaySys) (e : ReplayEvent) (hsound : s.Sound sha256)
    (hallowed : ReplayAllowed s e) : (replayStep sha256 s e).Sound sha256 := by
  cases e with
  | mark ticket exp now io => exact replayStep_mark hsound hallowed
  | sweep now io =>
    refine ⟨marks_kept hsound hallowed.1 fun h exp hlive hgood => ?_, hsound.once⟩
    exact replaySweep_live hlive hgood hallowed.2
  | restart => exact ⟨hsound.marks, hsound.once⟩

end

/-- every run of calls, sweeps and restarts whose sweeps open the old marks of good tickets reports
each ticket once until it expires; and what is reported was put on disk and in a slot -/
theorem tickets_once (sha256 : Bytes → Bytes) :
    (∀ (s : ReplaySys) (es : List ReplayEvent), s.uses = [] →
      Run.Meets (replayStep sha256) ReplayAllowed s es →
      ∀ s' ∈ Run.states (replayStep sha256) s es, OncePerTicket s'.uses)
    ∧ ∀ (c : ReplayCache) (ticket : Bytes) (exp now : UInt32) (io : ReplayIo),
      (replayMark sha256 ticket exp now io c).2 = .first →
      (io.create = true ∧ io.write = true ∧ io.fsync = true ∧ io.link = true)
      ∧ ∃ e ∈ c.seen, ticketExpired e.expiresAt.toNat now.toNat = true := by
  refine ⟨fun s es hempty hmeets s' hs' => ?_, fun c ticket exp now io hfirst => ?_⟩
  · have hstart : s.Sound sha256 := by
      constructor
      · rw [hempty]
        intro u hu
        cases hu
      · rw [hempty]
        exact List.Pairwise.nil
    exact (Run.states_inv replayStep_sound es s hstart hmeets s' hs').once
  · obtain ⟨_, _, hdisk, _, hslot⟩ := replayMark_disk hfirst
    exact ⟨(replayDisk_first hdisk).2, hslot⟩

/-- SHA-256 of the ticket `01` -/
def oneTicketSha256 (ticket : Bytes) : Bytes :=
  if ticket = [1] then
    [75, 245, 18, 47, 52, 69, 84, 197, 59, 222, 46, 187, 140, 210, 183, 227, 209, 96, 10, 214, 49,
      195, 133, 165, 215, 204, 226, 60, 119, 133, 69, 154]
  else []

/-- a system where nothing fails -/
def healthyIo (wall : Nat) : ReplayIo where
  wall := wall
  digestOk := true
  nameFits := true
  opendir := true
  lstat := fun _ => true
  sweepOpen := fun _ => true
  sweepRead := fun _ => true
  sweepUnlink := fun _ => true
  openOk := true
  readOk := true
  unlinkOk := true
  create := true
  write := true
  fsync := true
  link := true

def emptyReplay : ReplaySys := ⟨⟨List.replicate replaySlots .free, fun _ => none, false, 0⟩, 0, []⟩

/-- a ticket of thirty days, a sweep after eight, a restart, and the ticket again -/
def reuseRun (sweepIo : ReplayIo) : List ReplayEvent :=
  [.mark [1] 2592000 1 (healthyIo 1), .sweep 700000 sweepIo, .restart,
    .mark [1] 2592000 700001 (healthyIo 700001)]

/-- no file is opened, as when the process is out of descriptors -/
def noOpenIo : ReplayIo := { healthyIo 700000 with sweepOpen := fun _ => false }

theorem tickets_once_healthy :
    ((reuseRun (healthyIo 700000)).foldl (replayStep oneTicketSha256) emptyReplay).uses
      = [⟨[1], 2592000, 1⟩]
    ∧ ∀ s' ∈ Run.states (replayStep oneTicketSha256) emptyReplay (reuseRun (healthyIo 700000)),
      OncePerTicket s'.uses := by
  refine ⟨by decide +kernel, ?_⟩
  apply (tickets_once oneTicketSha256).1 emptyReplay _ rfl
  have hopens : ∀ wall now c, SweepOpens now (healthyIo wall) c := by
    intro wall now c h m _ _ _ _ _ _
    rfl
  exact ⟨⟨by decide, fun _ => hopens _ _ _⟩, ⟨by decide, hopens _ _ _⟩, trivial,
    ⟨by decide, fun _ => hopens _ _ _⟩, trivial⟩

/-- a sweep that opens no file drops the mark of a good ticket, and it is used twice -/
theorem ticket_used_twice :
    ((reuseRun noOpenIo).foldl (replayStep oneTicketSha256) emptyReplay).uses
      = [⟨[1], 2592000, 1⟩, ⟨[1], 2592000, 700001⟩]
    ∧ ¬ OncePerTicket
      ((reuseRun noOpenIo).foldl (replayStep oneTicketSha256) emptyReplay).uses := by
  have huses : ((reuseRun noOpenIo).foldl (replayStep oneTicketSha256) emptyReplay).uses
      = [⟨[1], 2592000, 1⟩, ⟨[1], 2592000, 700001⟩] := by
    decide +kernel
  refine ⟨huses, ?_⟩
  rw [huses]
  unfold OncePerTicket
  decide

end Ikev2
