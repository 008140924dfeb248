import Racoon2.Lib.Bytes
import Racoon2.Lib.Keyed
import Mathlib.Data.List.Perm.Basic

/-!
# Migration without the kernel's help

A kernel without XFRM_MSG_MIGRATE cannot move SAs to other addresses.  `xfrm_migrate_userspace` does it
with single requests: it dumps the SAs, adds and deletes each that has the old addresses, then dumps the
policies and updates those with a template that has them.

The kernel finds an SA by its family, destination, protocol, SPI and mark.  A request is carried out or
refused; an error may also be reported for one that was carried out, when the reply is lost.

* `newSa`, `delSa`, `updPolicy`     the requests;
* `moveOne`, `moveLoop`             the SAs;
* `policyLoop`                      the policies;
* `xfrmMigrateUserspace`            the whole;
* `moveOne_done`, `moveOne_failed`  what the requests for one SA leave behind;
* `mem_moveLoop`, `moveLoop_origin` which SAs a loop keeps, and where those in the table come from.
-/

set_option linter.unusedVariables false

namespace Xfrm
open Bytes Keyed

/-! ## the tables of the kernel -/

/-- an SA, as its XFRM_MSG_NEWSA message has it -/
structure KernelSa where
  family : Nat
  saddr : Bytes
  daddr : Bytes
  proto : Nat
  spi : Nat
  mark : Nat
  reqid : Nat
  /-- the addresses of the selector -/
  selSaddr : Bytes
  selDaddr : Bytes
  /-- XFRMA_ENCAP -/
  encap : Option Bytes
  /-- keys, replay state, lifetimes and the other attributes -/
  rest : Bytes
  deriving DecidableEq, Repr

/-- what the kernel finds an SA by -/
def KernelSa.key (x : KernelSa) : Nat × Bytes × Nat × Nat × Nat := (x.family, x.daddr, x.proto, x.spi, x.mark)

/-- `struct xfrm_usersa_id` without XFRMA_MARK -/
def KernelSa.delKey (x : KernelSa) : Nat × Bytes × Nat × Nat × Nat := (x.family, x.daddr, x.proto, x.spi, 0)

/-- NLMSG_LENGTH(sizeof(struct xfrm_usersa_info)) -/
def saHeaderLen : Nat := 240

/-- an XFRMA_ENCAP attribute -/
def encapLen : Nat := 28

/-- an XFRMA_MARK attribute; the kernel gives one with a mark -/
def markLen : Nat := 12

/-- the message without XFRMA_ENCAP -/
def KernelSa.plainLen (x : KernelSa) : Nat :=
  saHeaderLen + x.rest.length + if x.mark = 0 then 0 else markLen

/-- `nlmsg_len` -/
def KernelSa.msgLen (x : KernelSa) : Nat := x.plainLen + if x.encap.isSome then encapLen else 0

/-- `struct xfrm_user_tmpl` -/
structure Tmpl where
  family : Nat
  saddr : Bytes
  daddr : Bytes
  reqid : Nat
  rest : Bytes
  deriving DecidableEq, Repr

/-- a policy; its selector, direction, mark and interface are one number -/
structure KernelPolicy where
  key : Nat
  tmpls : List Tmpl
  rest : Bytes
  deriving DecidableEq, Repr

/-- NLMSG_LENGTH(sizeof(struct xfrm_userpolicy_info)), and the sizes of XFRMA_TMPL -/
def KernelPolicy.msgLen (p : KernelPolicy) : Nat :=
  184 + p.rest.length + if p.tmpls.isEmpty then 0 else 4 + 64 * p.tmpls.length

/-- the SAD and the SPD; each has one entry for a key -/
structure Kernel where
  sad : List KernelSa
  spd : List KernelPolicy
  sadKeys : Distinct KernelSa.key sad
  spdKeys : Distinct KernelPolicy.key spd

/-- what becomes of a request -/
inductive Outcome where
  | ok
  | refused
  /-- it is carried out, but the reply is lost -/
  | lost
  deriving DecidableEq, Repr

/-- XFRM_MSG_NEWSA: the table, and whether `xfrm_sync` returns an error -/
def newSa (sad : List KernelSa) (x : KernelSa) (o : Outcome) : List KernelSa × Bool :=
  if o = .refused ∨ find KernelSa.key sad x.key ≠ none then (sad, true)
  else (sad ++ [x], o == .lost)

/-- XFRM_MSG_DELSA -/
def delSa (sad : List KernelSa) (key : Nat × Bytes × Nat × Nat × Nat) (o : Outcome) :
    List KernelSa × Bool :=
  if o = .refused ∨ find KernelSa.key sad key = none then (sad, true)
  else (remove KernelSa.key sad key, o == .lost)

/-- XFRM_MSG_UPDPOLICY, for a policy of the table -/
def updPolicy (spd : List KernelPolicy) (p : KernelPolicy) (o : Outcome) : List KernelPolicy × Bool :=
  if o = .refused then (spd, true) else (replace KernelPolicy.key spd p, o == .lost)

/-! ## the migration -/

/-- what the migration is told: the fields of `struct rcpfk_msg` -/
structure MigrateRc where
  family : Nat
  src : Bytes
  dst : Bytes
  family2 : Nat
  src2 : Bytes
  dst2 : Bytes
  proto : Nat
  reqid : Nat
  /-- the template of `add_encap_attr`, if `natt_wanted` -/
  encap : Option Bytes
  /-- PFK_FLAG_NOENCAP -/
  noEncap : Bool
  deriving DecidableEq, Repr

/-- the replies to its requests, by the number of the SA or policy they are for -/
structure Replies where
  dumpSa : Bool
  new : Nat → Outcome
  del : Nat → Outcome
  /-- the original is put back -/
  back : Nat → Outcome
  dumpPolicy : Bool
  upd : Nat → Outcome

/-- XFRM_BUFLEN, XFRM_ENCAP_MAX -/
def xfrmBuflen : Nat := 4096
def xfrmEncapMax : Nat := 64

section
variable (rc : MigrateRc)

/-- the test of `xfrm_encap_collect` -/
def saMatches (x : KernelSa) : Bool :=
  x.family == rc.family && x.proto == rc.proto && x.saddr == rc.src && x.daddr == rc.dst
    && (rc.reqid == 0 || x.reqid == rc.reqid)

/-- `xfrm_encap_collect` -/
def encapCollect (sad : List KernelSa) : List KernelSa :=
  ((sad.filter (saMatches rc)).filter fun x => decide (x.msgLen ≤ xfrmBuflen)).take xfrmEncapMax

/-- the SA on the new addresses -/
def moveSaTo (x : KernelSa) : KernelSa :=
  let sel := x.selSaddr == rc.src && x.selDaddr == rc.dst
  { x with
    saddr := rc.src2
    daddr := rc.dst2
    selSaddr := if sel then rc.src2 else x.selSaddr
    selDaddr := if sel then rc.dst2 else x.selDaddr
    encap := if rc.noEncap then none else rc.encap.or x.encap }

/-- the new message has room for its attributes -/
def moveFits (x : KernelSa) : Bool :=
  rc.noEncap || rc.encap.isNone || decide (x.plainLen + encapLen ≤ xfrmBuflen)

/-- the destination changes, so the new SA can be added before the old one is deleted -/
def keyChanges : Bool := rc.dst2 != rc.dst

/-- the requests for one SA: the table, and whether the loop ends with an error -/
def moveOne (o : Replies) (i : Nat) (m : KernelSa) (sad : List KernelSa) : List KernelSa × Bool :=
  if !moveFits rc m then (sad, true)
  else if keyChanges rc then
    let added := newSa sad (moveSaTo rc m) (o.new i)
    -- the result of the delete is not looked at
    if added.2 then added else ((delSa added.1 m.delKey (o.del i)).1, false)
  else
    let deleted := delSa sad m.delKey (o.del i)
    if deleted.2 then deleted
    else
      let added := newSa deleted.1 (moveSaTo rc m) (o.new i)
      -- the original is put back
      if added.2 then ((newSa added.1 m (o.back i)).1, true) else added

/-- the loop over the SAs -/
def moveLoop (o : Replies) : Nat → List KernelSa → List KernelSa → List KernelSa × Bool
  | _, [], sad => (sad, false)
  | i, m :: ms, sad =>
    let r := moveOne rc o i m sad
    if r.2 then r else moveLoop o (i + 1) ms r.1

/-- `xfrm_tmpl_matches` -/
def tmplMatches (t : Tmpl) : Bool :=
  t.family == rc.family && t.saddr == rc.src && t.daddr == rc.dst
    && (rc.reqid == 0 || t.reqid == rc.reqid)

def policyHit (p : KernelPolicy) : Bool := p.tmpls.any (tmplMatches rc)

/-- `xfrm_pol_collect` -/
def polCollect (spd : List KernelPolicy) : List KernelPolicy :=
  ((spd.filter (policyHit rc)).filter fun p => decide (p.msgLen ≤ xfrmBuflen)).take xfrmEncapMax

def rewriteTmpl (t : Tmpl) : Tmpl :=
  if tmplMatches rc t then { t with saddr := rc.src2, daddr := rc.dst2 } else t

def rewritePolicy (p : KernelPolicy) : KernelPolicy := { p with tmpls := p.tmpls.map (rewriteTmpl rc) }

/-- the loop over the policies -/
def policyLoop (o : Replies) : Nat → List KernelPolicy → List KernelPolicy → List KernelPolicy × Bool
  | _, [], spd => (spd, false)
  | i, p :: ps, spd =>
    let r := updPolicy spd (rewritePolicy rc p) (o.upd i)
    if r.2 then (r.1, true) else policyLoop o (i + 1) ps r.1

/-- the tables, and whether an error is returned -/
structure Migrated where
  sad : List KernelSa
  spd : List KernelPolicy
  failed : Bool
  deriving DecidableEq, Repr

/-- the policies follow -/
def migratePolicies (o : Replies) (sad : List KernelSa) (spd : List KernelPolicy) : Migrated :=
  if !o.dumpPolicy then ⟨sad, spd, true⟩
  else
    let r := policyLoop rc o 0 (polCollect rc spd) spd
    ⟨sad, r.1, r.2⟩

/-- `xfrm_migrate_userspace` -/
def xfrmMigrateUserspace (o : Replies) (k : Kernel) : Migrated :=
  if rc.family2 ≠ rc.family ∨ o.dumpSa = false then ⟨k.sad, k.spd, true⟩
  else
    let r := moveLoop rc o 0 (encapCollect rc k.sad) k.sad
    if r.2 then ⟨r.1, k.spd, true⟩ else migratePolicies rc o r.1 k.spd

end

/-! ## one request -/

section
variable {rc : MigrateRc} {o : Replies} {i : Nat} {m x : KernelSa} {sad : List KernelSa}

theorem newSa_refused {out : Outcome} (h : out = .refused ∨ find KernelSa.key sad x.key ≠ none) :
    newSa sad x out = (sad, true) := if_pos h

theorem newSa_done {out : Outcome} (hout : out ≠ .refused) (hfree : find KernelSa.key sad x.key = none) :
    newSa sad x out = (sad ++ [x], out == .lost) := by
  apply if_neg
  rintro (h | h)
  · exact hout h
  · exact h hfree

theorem delSa_refused {out : Outcome} {key : Nat × Bytes × Nat × Nat × Nat}
    (h : out = .refused ∨ find KernelSa.key sad key = none) : delSa sad key out = (sad, true) := if_pos h

theorem delSa_done {out : Outcome} {key : Nat × Bytes × Nat × Nat × Nat} (hout : out ≠ .refused)
    (hfound : find KernelSa.key sad key ≠ none) :
    delSa sad key out = (remove KernelSa.key sad key, out == .lost) := by
  apply if_neg
  rintro (h | h)
  · exact hout h
  · exact hfound h

theorem newSa_cases (sad : List KernelSa) (x : KernelSa) (out : Outcome) :
    (out = .refused ∨ find KernelSa.key sad x.key ≠ none) ∧ newSa sad x out = (sad, true) ∨
    out ≠ .refused ∧ find KernelSa.key sad x.key = none ∧ newSa sad x out = (sad ++ [x], out == .lost) := by
  by_cases h : out = .refused ∨ find KernelSa.key sad x.key ≠ none
  · exact .inl ⟨h, newSa_refused h⟩
  · rw [not_or, not_not] at h
    exact .inr ⟨h.1, h.2, newSa_done h.1 h.2⟩

theorem delSa_cases (sad : List KernelSa) (key : Nat × Bytes × Nat × Nat × Nat) (out : Outcome) :
    (out = .refused ∨ find KernelSa.key sad key = none) ∧ delSa sad key out = (sad, true) ∨
    out ≠ .refused ∧ find KernelSa.key sad key ≠ none ∧
      delSa sad key out = (remove KernelSa.key sad key, out == .lost) := by
  by_cases h : out = .refused ∨ find KernelSa.key sad key = none
  · exact .inl ⟨h, delSa_refused h⟩
  · rw [not_or] at h
    exact .inr ⟨h.1, h.2, delSa_done h.1 h.2⟩

theorem mem_newSa {y : KernelSa} {out : Outcome} (h : y ∈ (newSa sad x out).1) : y ∈ sad ∨ y = x := by
  obtain ⟨-, heq⟩ | ⟨-, -, heq⟩ := newSa_cases sad x out
  · rw [heq] at h
    exact .inl h
  · rw [heq] at h
    simpa using h

theorem newSa_mem {y : KernelSa} {out : Outcome} (h : y ∈ sad) : y ∈ (newSa sad x out).1 := by
  obtain ⟨-, heq⟩ | ⟨-, -, heq⟩ := newSa_cases sad x out
  · rw [heq]
    exact h
  · rw [heq]
    exact List.mem_append_left _ h

theorem mem_delSa {y : KernelSa} {out : Outcome} {key : Nat × Bytes × Nat × Nat × Nat}
    (h : y ∈ (delSa sad key out).1) : y ∈ sad := by
  obtain ⟨-, heq⟩ | ⟨-, -, heq⟩ := delSa_cases sad key out
  · rw [heq] at h
    exact h
  · rw [heq] at h
    exact (mem_remove h).1

theorem delSa_mem {y : KernelSa} {out : Outcome} {key : Nat × Bytes × Nat × Nat × Nat} (h : y ∈ sad)
    (hkey : key = y.key → out = .refused) : y ∈ (delSa sad key out).1 := by
  obtain ⟨-, heq⟩ | ⟨hout, -, heq⟩ := delSa_cases sad key out
  · rw [heq]
    exact h
  · rw [heq]
    apply remove_mem h
    intro hsame
    exact hout (hkey hsame.symm)

/-! ## the requests for one SA -/

/-- an SA that no carried out delete names stays -/
theorem moveOne_mem (h : x ∈ sad) (hdel : m.delKey = x.key → o.del i = .refused) :
    x ∈ (moveOne rc o i m sad).1 := by
  unfold moveOne
  split
  · exact h
  · split
    · dsimp only
      split
      · exact newSa_mem h
      · exact delSa_mem (newSa_mem h) hdel
    · dsimp only
      split
      · exact delSa_mem h hdel
      · split
        · exact newSa_mem (newSa_mem (delSa_mem h hdel))
        · exact newSa_mem (delSa_mem h hdel)

/-- where the SAs of the table come from -/
theorem mem_moveOne (h : x ∈ (moveOne rc o i m sad).1) : x ∈ sad ∨ x = moveSaTo rc m ∨ x = m := by
  unfold moveOne at h
  split at h
  · exact .inl h
  · split at h
    · dsimp only at h
      split at h
      · exact (mem_newSa h).imp_right .inl
      · exact (mem_newSa (mem_delSa h)).imp_right .inl
    · dsimp only at h
      split at h
      · exact .inl (mem_delSa h)
      · split at h
        · obtain h | h := mem_newSa h
          · exact (mem_newSa h).imp mem_delSa .inl
          · exact .inr (.inr h)
        · exact (mem_newSa h).imp mem_delSa .inl

theorem moveOne_complete (h : (moveOne rc o i m sad).2 = false) :
    moveFits rc m = true ∧ o.new i = .ok ∧
    (keyChanges rc = true → find KernelSa.key sad (moveSaTo rc m).key = none ∧
      (moveOne rc o i m sad).1 = (delSa (sad ++ [moveSaTo rc m]) m.delKey (o.del i)).1) ∧
    (keyChanges rc = false → o.del i = .ok ∧ find KernelSa.key sad m.delKey ≠ none ∧
      find KernelSa.key (remove KernelSa.key sad m.delKey) (moveSaTo rc m).key = none ∧
      (moveOne rc o i m sad).1 = remove KernelSa.key sad m.delKey ++ [moveSaTo rc m]) := by
  unfold moveOne at h ⊢
  have hfits : moveFits rc m = true := by
    by_contra hno
    rw [Bool.not_eq_true] at hno
    rw [hno] at h
    cases h
  rw [hfits] at h ⊢
  by_cases hkey : keyChanges rc = true
  · rw [hkey] at h ⊢
    obtain ⟨-, hnew⟩ | ⟨hout, hfree, hnew⟩ := newSa_cases sad (moveSaTo rc m) (o.new i)
    · simp [hnew] at h
    · cases hres : o.new i with
      | refused => exact absurd hres hout
      | lost =>
        rw [hres] at hnew
        simp [hnew, hres] at h
      | ok =>
        rw [hres] at hnew
        refine ⟨rfl, rfl, fun _ => ⟨hfree, ?_⟩, fun hno => absurd hno.symm Bool.false_ne_true⟩
        simp [hnew]
  · rw [Bool.not_eq_true] at hkey
    rw [hkey] at h ⊢
    obtain ⟨-, hdel⟩ | ⟨hout, hfound, hdel⟩ := delSa_cases sad m.delKey (o.del i)
    · simp [hdel] at h
    · cases hd : o.del i with
      | refused => exact absurd hd hout
      | lost =>
        rw [hd] at hdel
        simp [hdel, hd] at h
      | ok =>
        rw [hd] at hdel h
        obtain ⟨-, hnew⟩ | ⟨hout', hfree, hnew⟩ :=
          newSa_cases (remove KernelSa.key sad m.delKey) (moveSaTo rc m) (o.new i)
        · simp [hdel, hnew] at h
        · cases hres : o.new i with
          | refused => exact absurd hres hout'
          | lost =>
            rw [hres] at hnew
            simp [hdel, hnew, hres] at h
          | ok =>
            rw [hres] at hnew
            refine ⟨rfl, rfl, fun hno => absurd hno Bool.false_ne_true, fun _ => ⟨rfl, hfound, hfree, ?_⟩⟩
            simp [hdel, hnew]

theorem moveOne_failed (h : (moveOne rc o i m sad).2 = true) :
    (moveOne rc o i m sad).1 = sad ∧
      (moveFits rc m = false ∨
        (if keyChanges rc then o.new i = .refused ∨ find KernelSa.key sad (moveSaTo rc m).key ≠ none
          else o.del i = .refused ∨ find KernelSa.key sad m.delKey = none)) ∨
    keyChanges rc = true ∧ find KernelSa.key sad (moveSaTo rc m).key = none ∧
      (moveOne rc o i m sad).1 = sad ++ [moveSaTo rc m] ∨
    keyChanges rc = false ∧ find KernelSa.key sad m.delKey ≠ none ∧
      (o.del i = .lost ∧ (moveOne rc o i m sad).1 = remove KernelSa.key sad m.delKey ∨
       o.del i = .ok ∧
        (moveOne rc o i m sad).1 = (newSa (newSa (remove KernelSa.key sad m.delKey) (moveSaTo rc m)
          (o.new i)).1 m (o.back i)).1 ∧
        (newSa (remove KernelSa.key sad m.delKey) (moveSaTo rc m) (o.new i)).2 = true) := by
  unfold moveOne at h ⊢
  by_cases hfits : moveFits rc m = true
  · rw [hfits] at h ⊢
    by_cases hkey : keyChanges rc = true
    · rw [hkey] at h ⊢
      obtain ⟨hwhy, hnew⟩ | ⟨hout, hfree, hnew⟩ := newSa_cases sad (moveSaTo rc m) (o.new i)
      · simp [hnew, hwhy]
      · cases hres : o.new i with
        | refused => exact absurd hres hout
        | lost =>
          rw [hres] at hnew
          simp [hnew, hfree]
        | ok =>
          rw [hres] at hnew
          simp [hnew, hres] at h
    · rw [Bool.not_eq_true] at hkey
      rw [hkey] at h ⊢
      obtain ⟨hwhy, hdel⟩ | ⟨hout, hfound, hdel⟩ := delSa_cases sad m.delKey (o.del i)
      · simp [hdel, hwhy]
      · cases hd : o.del i with
        | refused => exact absurd hd hout
        | lost =>
          rw [hd] at hdel
          simp [hdel, hfound]
        | ok =>
          rw [hd] at hdel h
          right
          right
          refine ⟨rfl, hfound, .inr ⟨rfl, ?_⟩⟩
          cases hnew : (newSa (remove KernelSa.key sad m.delKey) (moveSaTo rc m) (o.new i)).2
          · simp [hdel, hnew] at h
          · simp [hdel, hnew]
  · rw [Bool.not_eq_true] at hfits
    rw [hfits]
    exact .inl ⟨rfl, .inl rfl⟩

/-- the requests for an SA without a mark, all carried out -/
theorem moveOne_done (hd : Distinct KernelSa.key sad) (hm : m ∈ sad) (hfits : moveFits rc m = true)
    (hmark : m.mark = 0) (hnew : o.new i = .ok)
    (hchange : keyChanges rc = true →
      find KernelSa.key sad (moveSaTo rc m).key = none ∧ o.del i ≠ .refused)
    (hplace : keyChanges rc = false → o.del i = .ok ∧ (moveSaTo rc m).key = m.key) :
    moveOne rc o i m sad = (remove KernelSa.key sad m.key ++ [moveSaTo rc m], false) := by
  have hdelKey : m.delKey = m.key := by
    unfold KernelSa.delKey KernelSa.key
    rw [hmark]
  unfold moveOne
  rw [hfits, hdelKey, hnew]
  by_cases hkey : keyChanges rc = true
  · obtain ⟨hfree, hdel⟩ := hchange hkey
    have hne : (moveSaTo rc m).key ≠ m.key := fun heq => find_eq_none.mp hfree m hm heq.symm
    have hfound : find KernelSa.key (sad ++ [moveSaTo rc m]) m.key ≠ none := by
      rw [find_append, hd.find_of_mem hm]
      exact Option.some_ne_none _
    rw [hkey, newSa_done (by decide) hfree]
    dsimp only
    rw [delSa_done hdel hfound, remove_append hne]
    rfl
  · rw [Bool.not_eq_true] at hkey
    obtain ⟨hdel, hsame⟩ := hplace hkey
    have hfound : find KernelSa.key sad m.key ≠ none := by
      rw [hd.find_of_mem hm]
      exact Option.some_ne_none _
    have hfree : find KernelSa.key (remove KernelSa.key sad m.key) (moveSaTo rc m).key = none := by
      rw [find_remove, if_pos hsame]
    rw [hkey, hdel, delSa_done (by decide) hfound]
    dsimp only
    rw [newSa_done (by decide) hfree]
    rfl

theorem moveOne_put_back {sad' sad'' : List KernelSa} (hfits : moveFits rc m = true)
    (hkey : keyChanges rc = false) (hdel : delSa sad m.delKey (o.del i) = (sad', false))
    (hnew : newSa sad' (moveSaTo rc m) (o.new i) = (sad'', true)) :
    moveOne rc o i m sad = ((newSa sad'' m (o.back i)).1, true) := by
  unfold moveOne
  rw [hfits, hkey, hdel]
  dsimp only
  rw [hnew]
  rfl

/-! ## the loop over the SAs -/

theorem moveLoop_cons (i : Nat) (m : KernelSa) (ms sad : List KernelSa) :
    moveLoop rc o i (m :: ms) sad
      = if (moveOne rc o i m sad).2 then moveOne rc o i m sad
        else moveLoop rc o (i + 1) ms (moveOne rc o i m sad).1 := rfl

theorem moveLoop_mem {ms : List KernelSa} (h : x ∈ sad)
    (hdel : ∀ j m, ms[j]? = some m → m.delKey = x.key → o.del (i + j) = .refused) :
    x ∈ (moveLoop rc o i ms sad).1 := by
  induction ms generalizing i sad with
  | nil => exact h
  | cons m ms ih =>
    have hone : x ∈ (moveOne rc o i m sad).1 := moveOne_mem h (hdel 0 m rfl)
    rw [moveLoop_cons]
    split
    · exact hone
    · apply ih hone
      intro j m' hj hkey
      have hrefused := hdel (j + 1) m' hj hkey
      rw [show i + (j + 1) = i + 1 + j from by omega] at hrefused
      exact hrefused

theorem mem_moveLoop {ms : List KernelSa} (h : x ∈ (moveLoop rc o i ms sad).1) :
    x ∈ sad ∨ ∃ m ∈ ms, x = moveSaTo rc m ∨ x = m := by
  induction ms generalizing i sad with
  | nil => exact .inl h
  | cons m ms ih =>
    have hone : ∀ y ∈ (moveOne rc o i m sad).1, y ∈ sad ∨ ∃ m' ∈ m :: ms, y = moveSaTo rc m' ∨ y = m' := by
      intro y hy
      exact (mem_moveOne hy).imp_right fun h => ⟨m, List.mem_cons_self, h⟩
    rw [moveLoop_cons] at h
    split at h
    · exact hone x h
    · obtain h | ⟨m', hm', h⟩ := ih h
      · exact hone x h
      · exact .inr ⟨m', List.mem_cons_of_mem _ hm', h⟩

theorem moveLoop_complete {ms : List KernelSa} (hms : ∀ m ∈ ms, m.daddr = rc.dst)
    (h : (moveLoop rc o i ms sad).2 = false) :
    ∀ j m, ms[j]? = some m → moveFits rc m = true ∧ o.new (i + j) = .ok ∧
      (keyChanges rc = true → find KernelSa.key sad (moveSaTo rc m).key = none) ∧
      (keyChanges rc = false → o.del (i + j) = .ok) := by
  induction ms generalizing i sad with
  | nil =>
    intro j m hj
    simp at hj
  | cons m0 ms ih =>
    rw [moveLoop_cons] at h
    cases hone : (moveOne rc o i m0 sad).2 with
    | true =>
      rw [hone] at h
      rw [if_pos rfl, hone] at h
      cases h
    | false =>
      rw [hone, if_neg Bool.false_ne_true] at h
      obtain ⟨hfits, hnew, hchange, hplace⟩ := moveOne_complete hone
      intro j m hj
      cases j with
      | zero =>
        cases hj
        exact ⟨hfits, hnew, fun hk => (hchange hk).1, fun hk => (hplace hk).1⟩
      | succ j =>
        have hrest := ih (fun m hm => hms m (List.mem_cons_of_mem _ hm)) h j m hj
        rw [show i + 1 + j = i + (j + 1) from by omega] at hrest
        refine ⟨hrest.1, hrest.2.1, ?_, hrest.2.2.2⟩
        intro hk
        rw [find_eq_none]
        intro y hy hkey
        -- an SA at the new destination is never deleted
        apply find_eq_none.mp (hrest.2.2.1 hk) y (moveOne_mem hy _) hkey
        intro hdel
        have hdst : rc.dst2 = rc.dst := calc
          rc.dst2 = y.key.2.1 := congrArg (fun k => k.2.1) hkey.symm
          _ = m0.daddr := congrArg (fun k => k.2.1) hdel.symm
          _ = rc.dst := hms m0 List.mem_cons_self
        exact absurd hdst (bne_iff_ne.mp hk)

/-! ## the loop over the policies -/

variable {spd : List KernelPolicy} {p q : KernelPolicy}

theorem updPolicy_ok : updPolicy spd p .ok = (replace KernelPolicy.key spd p, false) := rfl

theorem policyLoop_complete {ps : List KernelPolicy} (h : (policyLoop rc o i ps spd).2 = false) :
    ∀ j, j < ps.length → o.upd (i + j) = .ok := by
  induction ps generalizing i spd with
  | nil =>
    intro j hj
    exact absurd hj (Nat.not_lt_zero _)
  | cons p ps ih =>
    have hok : o.upd i = .ok := by
      cases hupd : o.upd i with
      | ok => rfl
      | refused => simp [policyLoop, updPolicy, hupd] at h
      | lost => simp [policyLoop, updPolicy, hupd] at h
    unfold policyLoop at h
    rw [hok, updPolicy_ok] at h
    intro j hj
    cases j with
    | zero => exact hok
    | succ j =>
      rw [show i + (j + 1) = i + 1 + j from by omega]
      exact ih h j (Nat.lt_of_succ_lt_succ hj)

theorem mem_updPolicy {out : Outcome} (h : q ∈ (updPolicy spd p out).1) : q ∈ spd ∨ q = p := by
  unfold updPolicy at h
  split at h
  · exact .inl h
  · exact (mem_replace h).symm.imp_left And.left

theorem mem_policyLoop {ps : List KernelPolicy} (h : q ∈ (policyLoop rc o i ps spd).1) :
    q ∈ spd ∨ ∃ p ∈ ps, q = rewritePolicy rc p := by
  induction ps generalizing i spd with
  | nil => exact .inl h
  | cons p ps ih =>
    have hone : q ∈ (updPolicy spd (rewritePolicy rc p) (o.upd i)).1 →
        q ∈ spd ∨ ∃ p' ∈ p :: ps, q = rewritePolicy rc p' := by
      intro hq
      exact (mem_updPolicy hq).imp_right fun h => ⟨p, List.mem_cons_self, h⟩
    unfold policyLoop at h
    dsimp only at h
    split at h
    · exact hone h
    · obtain h | ⟨p', hp', h⟩ := ih h
      · exact hone h
      · exact .inr ⟨p', List.mem_cons_of_mem _ hp', h⟩

/-- the policies of the list, which are in the table, are the ones rewritten -/
theorem policyLoop_done {ps : List KernelPolicy} (hd : Distinct KernelPolicy.key spd) (hps : ps ⊆ spd)
    (hnd : ps.Nodup) (hok : ∀ j, j < ps.length → o.upd (i + j) = .ok) :
    policyLoop rc o i ps spd = (spd.map fun p => if p ∈ ps then rewritePolicy rc p else p, false) := by
  induction ps generalizing i spd with
  | nil =>
    unfold policyLoop
    simp
  | cons p ps ih =>
    have hp : p ∈ spd := hps List.mem_cons_self
    have hfirst : o.upd i = .ok := hok 0 (Nat.succ_pos _)
    have hinj : ∀ q ∈ spd, q.key = p.key → q = p := fun q hq => List.inj_on_of_nodup_map hd hq hp
    have hfresh : ∀ q ∈ ps, q.key ≠ p.key := by
      intro q hq heq
      exact (List.nodup_cons.mp hnd).1 (hinj q (hps (List.mem_cons_of_mem _ hq)) heq ▸ hq)
    have hstay : ps ⊆ replace KernelPolicy.key spd (rewritePolicy rc p) := by
      intro q hq
      refine List.mem_map.mpr ⟨q, hps (List.mem_cons_of_mem _ hq), if_neg ?_⟩
      exact hfresh q hq
    have hlater : ∀ j, j < ps.length → o.upd (i + 1 + j) = .ok := by
      intro j hj
      rw [show i + 1 + j = i + (j + 1) from by omega]
      exact hok (j + 1) (Nat.succ_lt_succ hj)
    unfold policyLoop
    rw [hfirst, updPolicy_ok]
    dsimp only
    rw [if_neg Bool.false_ne_true, ih (hd.replace _) hstay (List.nodup_cons.mp hnd).2 hlater]
    refine Prod.ext ?_ rfl
    unfold replace
    rw [List.map_map]
    apply List.map_congr_left
    intro q hq
    rw [Function.comp_apply]
    by_cases hkey : q.key = (rewritePolicy rc p).key
    · have hstay : rewritePolicy rc p ∉ ps := fun hmem => hfresh _ hmem rfl
      rw [if_pos hkey, hinj q hq hkey, if_pos List.mem_cons_self, if_neg hstay]
    · have hne : q ≠ p := fun heq => hkey (heq ▸ rfl)
      rw [if_neg hkey]
      simp [hne]

end

end Xfrm
