import Racoon2.Xfrm.Migrate

/-!
# When the migration without the kernel's help is one

`xfrm_migrate_userspace` replaces the kernel's migration: on success all SAs and templates with the old
addresses are on the new ones and nothing else has changed, on failure nothing has.  It is so when an
error comes before anything was done, or when all is collected and every request is carried out; there
is no way back after the first SA, the result of a delete is not looked at, and a delete has no mark.

* `MigrateRight`          what a migration is;
* `MigrateFits`           the condition;
* `moveLoop_all`          the loop when all requests are carried out;
* `moveLoop_changes`      after the first SA there is no way back;
* `moveLoop_collects`     after a right success all SAs were collected and deleted.
-/

set_option linter.unusedVariables false

namespace Xfrm
open Bytes Keyed

section
variable (rc : MigrateRc)

/-! ## what a migration is -/

/-- the kernel's own migration of an SA -/
def migrateSa (x : KernelSa) : KernelSa := if saMatches rc x then moveSaTo rc x else x

/-- on success exactly the SAs and templates with the old addresses are on the new ones, on failure all is
as before; the order of the SAs does not count -/
structure MigrateRight (k : Kernel) (r : Migrated) : Prop where
  moved : r.failed = false → r.sad.Perm (k.sad.map (migrateSa rc)) ∧ r.spd = k.spd.map (rewritePolicy rc)
  kept : r.failed = true → r.sad.Perm k.sad ∧ r.spd = k.spd

/-! ## the condition -/

/-- the requests for the first SA have no effect -/
def firstRefused (o : Replies) (sad : List KernelSa) (m : KernelSa) : Prop :=
  moveFits rc m = false ∨
  if keyChanges rc then o.new 0 = .refused ∨ find KernelSa.key sad (moveSaTo rc m).key ≠ none
  else
    o.del 0 = .refused ∨ find KernelSa.key sad m.delKey = none ∨
      m.mark = 0 ∧ o.del 0 = .ok ∧ o.new 0 = .refused ∧ o.back 0 ≠ .refused

/-- the requests for an SA are carried out -/
def saDone (o : Replies) (sad : List KernelSa) (i : Nat) (m : KernelSa) : Prop :=
  moveFits rc m = true ∧ m.mark = 0 ∧ o.new i = .ok ∧
  if keyChanges rc then find KernelSa.key sad (moveSaTo rc m).key = none ∧ o.del i ≠ .refused
  else o.del i = .ok

/-- an error comes before anything was changed -/
def NothingDone (o : Replies) (k : Kernel) : Prop :=
  rc.family2 ≠ rc.family ∨ o.dumpSa = false ∨
  (∃ m ms, encapCollect rc k.sad = m :: ms ∧ firstRefused rc o k.sad m) ∨
  encapCollect rc k.sad = [] ∧ (o.dumpPolicy = false ∨ polCollect rc k.spd ≠ [] ∧ o.upd 0 = .refused)

/-- all SAs and policies are collected, and all requests carried out -/
structure AllDone (o : Replies) (k : Kernel) : Prop where
  family : rc.family2 = rc.family
  dumpSa : o.dumpSa = true
  sas : encapCollect rc k.sad = k.sad.filter (saMatches rc)
  sasDone : ∀ i m, (encapCollect rc k.sad)[i]? = some m → saDone rc o k.sad i m
  dumpPolicy : o.dumpPolicy = true
  policies : polCollect rc k.spd = k.spd.filter (policyHit rc)
  policiesDone : ∀ i, i < (polCollect rc k.spd).length → o.upd i = .ok

def MigrateFits (o : Replies) (k : Kernel) : Prop := NothingDone rc o k ∨ AllDone rc o k

end

/-! ## the SAs with the old addresses -/

section
variable {rc : MigrateRc} {o : Replies} {k : Kernel} {x y m : KernelSa} {sad : List KernelSa}

theorem saMatches_addrs (h : saMatches rc x = true) :
    x.family = rc.family ∧ x.proto = rc.proto ∧ x.saddr = rc.src ∧ x.daddr = rc.dst := by
  simp only [saMatches, Bool.and_eq_true, beq_iff_eq] at h
  exact ⟨h.1.1.1.1, h.1.1.1.2, h.1.1.2, h.1.2⟩

theorem moveSaTo_left (hne : (rc.src2, rc.dst2) ≠ (rc.src, rc.dst)) (x : KernelSa) :
    saMatches rc (moveSaTo rc x) = false := by
  rw [← Bool.not_eq_true]
  intro h
  obtain ⟨-, -, hsrc, hdst⟩ := saMatches_addrs h
  exact hne (Prod.ext hsrc hdst)

theorem migrateSa_left (hne : (rc.src2, rc.dst2) ≠ (rc.src, rc.dst)) (x : KernelSa) :
    saMatches rc (migrateSa rc x) = false := by
  unfold migrateSa
  split
  · exact moveSaTo_left hne x
  · rename_i h
    exact Bool.not_eq_true _ ▸ h

theorem moveSaTo_key_place (hkey : keyChanges rc = false) (h : saMatches rc x = true) :
    (moveSaTo rc x).key = x.key := by
  have hdst : rc.dst2 = x.daddr := (bne_eq_false_iff_eq.mp hkey).trans (saMatches_addrs h).2.2.2.symm
  show (x.family, rc.dst2, x.proto, x.spi, x.mark) = _
  rw [hdst]
  rfl

theorem moveSaTo_key_inj (hx : saMatches rc x = true) (hy : saMatches rc y = true)
    (h : (moveSaTo rc x).key = (moveSaTo rc y).key) : x.key = y.key := by
  have hdst : x.daddr = y.daddr := (saMatches_addrs hx).2.2.2.trans (saMatches_addrs hy).2.2.2.symm
  have h' : (x.family, rc.dst2, x.proto, x.spi, x.mark) = (y.family, rc.dst2, y.proto, y.spi, y.mark) := h
  simp only [Prod.mk.injEq] at h'
  unfold KernelSa.key
  rw [h'.1, hdst, h'.2.2.1, h'.2.2.2.1, h'.2.2.2.2]

theorem encapCollect_sublist (rc : MigrateRc) (sad : List KernelSa) :
    (encapCollect rc sad).Sublist (sad.filter (saMatches rc)) :=
  (List.take_sublist _ _).trans List.filter_sublist

theorem mem_encapCollect (h : m ∈ encapCollect rc sad) : m ∈ sad ∧ saMatches rc m = true :=
  List.mem_filter.mp ((encapCollect_sublist rc sad).subset h)

theorem polCollect_sublist (rc : MigrateRc) (spd : List KernelPolicy) :
    (polCollect rc spd).Sublist (spd.filter (policyHit rc)) :=
  (List.take_sublist _ _).trans List.filter_sublist

/-! ## all requests carried out -/

theorem moveLoop_all {ms rest : List KernelSa} {i : Nat} (hperm : sad.Perm (ms ++ rest))
    (hd : Distinct KernelSa.key sad) (hms : ∀ m ∈ ms, saMatches rc m = true)
    (hdone : ∀ j m, ms[j]? = some m → saDone rc o sad (i + j) m) :
    ∃ sad', moveLoop rc o i ms sad = (sad', false) ∧ sad'.Perm (ms.map (moveSaTo rc) ++ rest) := by
  induction ms generalizing sad rest i with
  | nil => exact ⟨sad, rfl, hperm⟩
  | cons m ms ih =>
    have hm : saMatches rc m = true := hms m List.mem_cons_self
    have hmem : m ∈ sad := hperm.mem_iff.mpr List.mem_cons_self
    obtain ⟨hfits, hmark, hnew, hdel⟩ := hdone 0 m rfl
    have hone : moveOne rc o i m sad = (remove KernelSa.key sad m.key ++ [moveSaTo rc m], false) := by
      apply moveOne_done hd hmem hfits hmark hnew
      · intro hkey
        rwa [if_pos hkey] at hdel
      · intro hkey
        rw [hkey] at hdel
        exact ⟨hdel, moveSaTo_key_place hkey hm⟩
    have hleft : (remove KernelSa.key sad m.key).Perm (ms ++ rest) := hd.remove_perm hperm
    have hfree : find KernelSa.key (remove KernelSa.key sad m.key) (moveSaTo rc m).key = none := by
      by_cases hkey : keyChanges rc = true
      · rw [if_pos hkey] at hdel
        rw [find_remove, hdel.1, ite_self]
      · rw [Bool.not_eq_true] at hkey
        rw [find_remove, if_pos (moveSaTo_key_place hkey hm)]
    have hfresh : ∀ m' ∈ ms, (moveSaTo rc m').key ≠ (moveSaTo rc m).key := by
      intro m' hm' heq
      have hkey := moveSaTo_key_inj (hms m' (List.mem_cons_of_mem _ hm')) hm heq
      have hnodup := List.nodup_cons.mp (hd.perm hperm)
      exact hnodup.1 (hkey ▸ List.mem_map_of_mem (List.mem_append_left _ hm'))
    have hdone' : ∀ j m', ms[j]? = some m' →
        saDone rc o (remove KernelSa.key sad m.key ++ [moveSaTo rc m]) (i + 1 + j) m' := by
      intro j m' hj
      obtain ⟨hfits', hmark', hnew', hdel'⟩ := hdone (j + 1) m' hj
      rw [show i + (j + 1) = i + 1 + j from by omega] at hnew' hdel'
      refine ⟨hfits', hmark', hnew', ?_⟩
      split
      · rename_i hkey
        rw [if_pos hkey] at hdel'
        refine ⟨?_, hdel'.2⟩
        have hne := hfresh m' (List.mem_of_getElem? hj)
        rw [find_append, find_remove, hdel'.1, ite_self, if_neg hne.symm]
        rfl
      · rename_i hkey
        rwa [if_neg hkey] at hdel'
    have hperm' : (remove KernelSa.key sad m.key ++ [moveSaTo rc m]).Perm
        (ms ++ (rest ++ [moveSaTo rc m])) := by
      rw [← List.append_assoc]
      exact hleft.append_right _
    obtain ⟨sad', hloop, hend⟩ := ih hperm' ((hd.remove _).append hfree)
      (fun m' hm' => hms m' (List.mem_cons_of_mem _ hm')) hdone'
    refine ⟨sad', ?_, ?_⟩
    · rw [moveLoop_cons, hone, if_neg Bool.false_ne_true]
      exact hloop
    · refine hend.trans ?_
      rw [← List.append_assoc]
      exact List.perm_append_singleton _ _

/-- the tables after a loop over all SAs with the old addresses -/
theorem perm_migrateSa (rc : MigrateRc) (sad : List KernelSa) :
    ((sad.filter (saMatches rc)).map (moveSaTo rc) ++ sad.filter fun x => !saMatches rc x).Perm
      (sad.map (migrateSa rc)) := by
  have hmoved : (sad.filter (saMatches rc)).map (migrateSa rc)
      = (sad.filter (saMatches rc)).map (moveSaTo rc) := by
    apply List.map_congr_left
    intro x hx
    exact if_pos (List.mem_filter.mp hx).2
  have hothers : (sad.filter fun x => !saMatches rc x).map (migrateSa rc)
      = sad.filter fun x => !saMatches rc x := by
    rw [List.map_congr_left (g := id), List.map_id]
    intro x hx
    have hno := (List.mem_filter.mp hx).2
    exact if_neg (by simpa using hno)
  have hall := (List.filter_append_perm (saMatches rc) sad).map (migrateSa rc)
  rw [List.map_append, hmoved, hothers] at hall
  exact hall

theorem rewriteTmpl_left (hne : (rc.src2, rc.dst2) ≠ (rc.src, rc.dst)) (t : Tmpl) :
    tmplMatches rc (rewriteTmpl rc t) = false := by
  unfold rewriteTmpl
  split
  · rw [← Bool.not_eq_true]
    intro h
    simp only [tmplMatches, Bool.and_eq_true, beq_iff_eq] at h
    exact hne (Prod.ext h.1.1.2 h.1.2)
  · rename_i h
    exact Bool.not_eq_true _ ▸ h

theorem rewritePolicy_left (hne : (rc.src2, rc.dst2) ≠ (rc.src, rc.dst)) (p : KernelPolicy) :
    policyHit rc (rewritePolicy rc p) = false := by
  show (p.tmpls.map (rewriteTmpl rc)).any (tmplMatches rc) = false
  rw [List.any_eq_false]
  intro t ht
  obtain ⟨t', -, rfl⟩ := List.mem_map.mp ht
  rw [rewriteTmpl_left hne]
  exact Bool.false_ne_true

theorem rewritePolicy_idle {p : KernelPolicy} (h : policyHit rc p = false) : rewritePolicy rc p = p := by
  have hsame : p.tmpls.map (rewriteTmpl rc) = p.tmpls := by
    rw [List.map_congr_left (g := id), List.map_id]
    intro t ht
    exact if_neg (List.any_eq_false.mp h t ht)
  unfold rewritePolicy
  rw [hsame]

theorem policyLoop_all (hall : polCollect rc k.spd = k.spd.filter (policyHit rc))
    (hok : ∀ i, i < (polCollect rc k.spd).length → o.upd i = .ok) :
    policyLoop rc o 0 (polCollect rc k.spd) k.spd = (k.spd.map (rewritePolicy rc), false) := by
  have hnd : (polCollect rc k.spd).Nodup := by
    rw [hall]
    exact (List.Nodup.of_map _ k.spdKeys).filter _
  rw [policyLoop_done k.spdKeys ((polCollect_sublist rc k.spd).trans List.filter_sublist).subset hnd]
  · refine Prod.ext ?_ rfl
    apply List.map_congr_left
    intro p hp
    split
    · rfl
    · rename_i hno
      rw [hall, List.mem_filter, not_and, Bool.not_eq_true] at hno
      exact (rewritePolicy_idle (hno hp)).symm
  · intro j hj
    rw [Nat.zero_add]
    exact hok j hj

/-! ## the condition is enough -/

theorem xfrmMigrateUserspace_eq (hfamily : rc.family2 = rc.family) (hdump : o.dumpSa = true) :
    xfrmMigrateUserspace rc o k
      = if (moveLoop rc o 0 (encapCollect rc k.sad) k.sad).2
        then ⟨(moveLoop rc o 0 (encapCollect rc k.sad) k.sad).1, k.spd, true⟩
        else migratePolicies rc o (moveLoop rc o 0 (encapCollect rc k.sad) k.sad).1 k.spd := by
  unfold xfrmMigrateUserspace
  rw [if_neg]
  rw [not_or, not_not, hdump]
  exact ⟨hfamily, by decide⟩

theorem AllDone.right (h : AllDone rc o k) : MigrateRight rc k (xfrmMigrateUserspace rc o k) := by
  have hsplit : k.sad.Perm (encapCollect rc k.sad ++ k.sad.filter fun x => !saMatches rc x) := by
    rw [h.sas]
    exact (List.filter_append_perm _ _).symm
  have hdone : ∀ j m, (encapCollect rc k.sad)[j]? = some m → saDone rc o k.sad (0 + j) m := by
    intro j m hj
    rw [Nat.zero_add]
    exact h.sasDone j m hj
  obtain ⟨sad', hloop, hperm⟩ :=
    moveLoop_all hsplit k.sadKeys (fun m hm => (mem_encapCollect hm).2) hdone
  rw [h.sas] at hperm
  have hend : xfrmMigrateUserspace rc o k = ⟨sad', k.spd.map (rewritePolicy rc), false⟩ := by
    rw [xfrmMigrateUserspace_eq h.family h.dumpSa, hloop, if_neg Bool.false_ne_true]
    unfold migratePolicies
    rw [h.dumpPolicy, policyLoop_all h.policies h.policiesDone]
    rfl
  rw [hend]
  exact ⟨fun _ => ⟨hperm.trans (perm_migrateSa rc k.sad), rfl⟩, fun hno => absurd hno Bool.false_ne_true⟩

/-- nothing was changed -/
theorem MigrateRight.of_kept {r : Migrated} (hfailed : r.failed = true) (hsad : r.sad.Perm k.sad)
    (hspd : r.spd = k.spd) : MigrateRight rc k r :=
  ⟨fun hno => absurd (hfailed.symm.trans hno) Bool.false_ne_true.symm, fun _ => ⟨hsad, hspd⟩⟩

theorem moveOne_firstRefused (hm : m ∈ k.sad) (h : firstRefused rc o k.sad m) :
    (moveOne rc o 0 m k.sad).2 = true ∧ (moveOne rc o 0 m k.sad).1.Perm k.sad := by
  cases hfits : moveFits rc m with
  | false =>
    unfold moveOne
    rw [hfits]
    exact ⟨rfl, .refl _⟩
  | true =>
    have h := h.resolve_left (fun hno => absurd (hfits.symm.trans hno) Bool.false_ne_true.symm)
    cases hkey : keyChanges rc with
    | true =>
      rw [if_pos hkey] at h
      unfold moveOne
      rw [hfits, hkey, newSa_refused h]
      exact ⟨rfl, .refl _⟩
    | false =>
      rw [hkey, if_neg Bool.false_ne_true, ← or_assoc] at h
      obtain hdel | ⟨hmark, hdel, hnew, hback⟩ := h
      · unfold moveOne
        rw [hfits, hkey, delSa_refused hdel]
        exact ⟨rfl, .refl _⟩
      · -- deleted, and put back
        have hdelKey : m.delKey = m.key := by
          unfold KernelSa.delKey KernelSa.key
          rw [hmark]
        have hfound : find KernelSa.key k.sad m.delKey ≠ none := by
          rw [hdelKey, k.sadKeys.find_of_mem hm]
          exact Option.some_ne_none _
        have hfree : find KernelSa.key (remove KernelSa.key k.sad m.key) m.key = none := by
          rw [find_remove, if_pos rfl]
        have hperm : k.sad.Perm (m :: k.sad.erase m) := List.perm_cons_erase hm
        have hdeleted : delSa k.sad m.delKey (o.del 0) = (remove KernelSa.key k.sad m.key, false) := by
          rw [hdel, delSa_done (by decide) hfound, hdelKey]
          rfl
        rw [moveOne_put_back hfits hkey hdeleted (newSa_refused (.inl hnew)), newSa_done hback hfree]
        refine ⟨rfl, ?_⟩
        exact (List.perm_append_singleton _ _).trans
          (((k.sadKeys.remove_perm hperm).cons m).trans hperm.symm)

theorem NothingDone.right (h : NothingDone rc o k) : MigrateRight rc k (xfrmMigrateUserspace rc o k) := by
  by_cases hearly : rc.family2 ≠ rc.family ∨ o.dumpSa = false
  · have hend : xfrmMigrateUserspace rc o k = ⟨k.sad, k.spd, true⟩ := if_pos hearly
    rw [hend]
    exact .of_kept rfl (.refl _) rfl
  · rw [not_or, not_not, Bool.not_eq_false] at hearly
    obtain hf | hdump | ⟨m, ms, hcol, hfirst⟩ | ⟨hcol, hpol⟩ := h
    · exact absurd hearly.1 hf
    · exact absurd (hearly.2.symm.trans hdump) Bool.false_ne_true.symm
    · have hm : m ∈ encapCollect rc k.sad := hcol ▸ List.mem_cons_self
      obtain ⟨hmem, hmatch⟩ := mem_encapCollect hm
      obtain ⟨hfail, hperm⟩ := moveOne_firstRefused hmem hfirst
      have hloop : moveLoop rc o 0 (encapCollect rc k.sad) k.sad = moveOne rc o 0 m k.sad := by
        rw [hcol, moveLoop_cons, if_pos hfail]
      rw [xfrmMigrateUserspace_eq hearly.1 hearly.2, hloop, if_pos hfail]
      exact .of_kept rfl hperm rfl
    · rw [xfrmMigrateUserspace_eq hearly.1 hearly.2, hcol]
      show MigrateRight rc k (migratePolicies rc o k.sad k.spd)
      unfold migratePolicies
      obtain hdump | ⟨hpol, hupd⟩ := hpol
      · rw [hdump]
        exact .of_kept rfl (.refl _) rfl
      · split
        · exact .of_kept rfl (.refl _) rfl
        · obtain ⟨p, ps, hps⟩ := List.exists_cons_of_ne_nil hpol
          have hloop : policyLoop rc o 0 (polCollect rc k.spd) k.spd = (k.spd, true) := by
            rw [hps]
            unfold policyLoop updPolicy
            rw [hupd]
            rfl
          rw [hloop]
          exact .of_kept rfl (.refl _) rfl

/-! ## the condition is needed -/

/-- the delete names the SA only if it has no mark -/
theorem mark_of_delKey (h : m.delKey = x.key) : x.mark = 0 :=
  (congrArg (fun k => k.2.2.2.2) h).symm

theorem delKey_of_mark (h : m.mark = 0) : m.delKey = m.key := by
  unfold KernelSa.delKey KernelSa.key
  rw [h]

theorem encapCollect_nodup (rc : MigrateRc) (k : Kernel) : (encapCollect rc k.sad).Nodup :=
  ((List.Nodup.of_map _ k.sadKeys).filter _).sublist (encapCollect_sublist rc k.sad)

/-- no delete of the loop names an SA at another destination -/
theorem delKey_ne_of_daddr {ms : List KernelSa} (hms : ∀ m ∈ ms, saMatches rc m = true)
    (hx : x.daddr ≠ rc.dst) (hm : m ∈ ms) : m.delKey ≠ x.key := by
  intro heq
  have hdst : m.daddr = x.daddr := congrArg (fun k => k.2.1) heq
  exact hx (hdst.symm.trans (saMatches_addrs (hms m hm)).2.2.2)

/-- once an SA is moved, the table is another one -/
theorem moveLoop_changes {ms : List KernelSa} (hne : (rc.src2, rc.dst2) ≠ (rc.src, rc.dst))
    (hcol : encapCollect rc k.sad = m :: ms) (h : (moveOne rc o 0 m k.sad).2 = false) :
    ¬ (moveLoop rc o 0 (m :: ms) k.sad).1.Perm k.sad := by
  have hms : ∀ m' ∈ m :: ms, m' ∈ k.sad ∧ saMatches rc m' = true := by
    intro m' hm'
    rw [← hcol] at hm'
    exact mem_encapCollect hm'
  obtain ⟨hmem, hmatch⟩ := hms m List.mem_cons_self
  rw [moveLoop_cons, h, if_neg Bool.false_ne_true]
  intro hperm
  obtain ⟨-, -, hchange, hplace⟩ := moveOne_complete h
  cases hkey : keyChanges rc with
  | true =>
    -- the new SA is there to stay
    have hdst : (moveSaTo rc m).daddr ≠ rc.dst := bne_iff_ne.mp hkey
    have hnever : ∀ m' ∈ m :: ms, m'.delKey ≠ (moveSaTo rc m).key :=
      fun m' hm' => delKey_ne_of_daddr (fun m' hm' => (hms m' hm').2) hdst hm'
    obtain ⟨hfree, hone⟩ := hchange hkey
    have hadded : moveSaTo rc m ∈ (moveOne rc o 0 m k.sad).1 := by
      rw [hone]
      apply delSa_mem (List.mem_append_right _ (List.mem_singleton_self _))
      intro heq
      exact absurd heq (hnever m List.mem_cons_self)
    have hend : moveSaTo rc m ∈ k.sad := by
      apply hperm.mem_iff.mp
      apply moveLoop_mem hadded
      intro j m' hj heq
      exact absurd heq (hnever m' (List.mem_cons_of_mem _ (List.mem_of_getElem? hj)))
    exact find_eq_none.mp hfree _ hend rfl
  | false =>
    -- the old SA is gone
    obtain ⟨-, -, hfree, hone⟩ := hplace hkey
    have hsame : (moveSaTo rc m).key = m.key := moveSaTo_key_place hkey hmatch
    have hgone : m.key = m.delKey := by
      by_contra hdiff
      exact find_eq_none.mp hfree m (remove_mem hmem hdiff) hsame.symm
    have hleft : ∀ m', m ≠ moveSaTo rc m' := by
      intro m' heq
      rw [heq, moveSaTo_left hne] at hmatch
      cases hmatch
    have hnodup := List.nodup_cons.mp (hcol ▸ encapCollect_nodup rc k)
    obtain hin | ⟨m', hm', heq | heq⟩ := mem_moveLoop (hperm.mem_iff.mpr hmem)
    · rw [hone] at hin
      obtain hin | hin := List.mem_append.mp hin
      · exact (mem_remove hin).2 hgone
      · exact hleft m (List.mem_singleton.mp hin)
    · exact hleft m' heq
    · exact hnodup.1 (heq ▸ hm')

theorem firstRefused_of_kept (hne : (rc.src2, rc.dst2) ≠ (rc.src, rc.dst)) (hm : m ∈ k.sad)
    (hmatch : saMatches rc m = true) (h : (moveOne rc o 0 m k.sad).2 = true)
    (hperm : (moveOne rc o 0 m k.sad).1.Perm k.sad) : firstRefused rc o k.sad m := by
  obtain ⟨-, hwhy⟩ | ⟨-, -, hone⟩ | ⟨hkey, hfound, hrest⟩ := moveOne_failed h
  · refine hwhy.imp_right fun hwhy => ?_
    split
    · rename_i hkey
      rwa [if_pos hkey] at hwhy
    · rename_i hkey
      rw [if_neg hkey] at hwhy
      exact hwhy.imp_right .inl
  · -- added although an error was reported
    have hlen := hperm.length_eq
    rw [hone, List.length_append] at hlen
    simp at hlen
  · -- `t` is the SA that was deleted
    obtain ⟨t, ht⟩ := Option.ne_none_iff_exists'.mp hfound
    obtain ⟨htmem, htkey⟩ := mem_of_find ht
    have hsame : (moveSaTo rc m).key = m.key := moveSaTo_key_place hkey hmatch
    have hleft : m ≠ moveSaTo rc m := by
      intro heq
      rw [heq, moveSaTo_left hne] at hmatch
      cases hmatch
    have htback : t ∈ (moveOne rc o 0 m k.sad).1 := hperm.mem_iff.mpr htmem
    have htgone : t ∉ remove KernelSa.key k.sad m.delKey := fun hin => (mem_remove hin).2 htkey
    obtain ⟨-, hone⟩ | ⟨hdel, hone, hnew⟩ := hrest
    · rw [hone] at htback
      exact absurd htback htgone
    · rw [hone] at htback
      have htm : t = m := by
        obtain hin | heq := mem_newSa htback
        · obtain hin | heq := mem_newSa hin
          · exact absurd hin htgone
          · refine List.inj_on_of_nodup_map k.sadKeys htmem hm ?_
            rw [heq, hsame]
        · exact heq
      subst htm
      have hmark : t.mark = 0 := mark_of_delKey htkey.symm
      have hfree : find KernelSa.key (remove KernelSa.key k.sad t.delKey) (moveSaTo rc t).key = none := by
        rw [find_remove, hsame, if_pos htkey]
      obtain ⟨hwhy, heq⟩ | ⟨-, -, heq⟩ := newSa_cases (remove KernelSa.key k.sad t.delKey) (moveSaTo rc t) (o.new 0)
      · have hrefused : o.new 0 = .refused := hwhy.resolve_right fun hno => hno hfree
        rw [heq] at htback
        right
        rw [hkey, if_neg Bool.false_ne_true]
        refine .inr (.inr ⟨hmark, hdel, hrefused, ?_⟩)
        intro hback
        rw [newSa_refused (.inl hback)] at htback
        exact htgone htback
      · have htaken : find KernelSa.key (remove KernelSa.key k.sad t.delKey ++ [moveSaTo rc t]) t.key ≠ none := by
          rw [find_append, ← hsame, hfree, if_pos rfl]
          exact Option.some_ne_none _
        rw [heq] at htback
        dsimp only at htback
        rw [newSa_refused (.inr htaken)] at htback
        obtain hin | hin := List.mem_append.mp htback
        · exact absurd hin htgone
        · exact absurd (List.mem_singleton.mp hin) hleft

/-- on success every SA with the old addresses was collected and deleted -/
theorem moveLoop_collects (hne : (rc.src2, rc.dst2) ≠ (rc.src, rc.dst))
    (hperm : (moveLoop rc o 0 (encapCollect rc k.sad) k.sad).1.Perm (k.sad.map (migrateSa rc)))
    (hx : x ∈ k.sad) (hmatch : saMatches rc x = true) :
    x.mark = 0 ∧ ∃ i, (encapCollect rc k.sad)[i]? = some x ∧ o.del i ≠ .refused := by
  have hdeleted : ∀ x ∈ k.sad, saMatches rc x = true →
      ∃ i m, (encapCollect rc k.sad)[i]? = some m ∧ m.delKey = x.key ∧ o.del i ≠ .refused := by
    intro x hx hmatch
    by_contra hno
    have hstay : x ∈ (moveLoop rc o 0 (encapCollect rc k.sad) k.sad).1 := by
      apply moveLoop_mem hx
      intro j m hj hkey
      by_contra hdel
      rw [Nat.zero_add] at hdel
      exact hno ⟨j, m, hj, hkey, hdel⟩
    obtain ⟨y, -, rfl⟩ := List.mem_map.mp (hperm.mem_iff.mp hstay)
    rw [migrateSa_left hne] at hmatch
    cases hmatch
  obtain ⟨i, m, hi, hkey, hdel⟩ := hdeleted x hx hmatch
  obtain ⟨hm, hmm⟩ := mem_encapCollect (List.mem_of_getElem? hi)
  obtain ⟨_, _, _, hmkey, _⟩ := hdeleted m hm hmm
  have hsame : m = x := by
    apply List.inj_on_of_nodup_map k.sadKeys hm hx
    rw [← hkey, delKey_of_mark (mark_of_delKey hmkey)]
  exact ⟨mark_of_delKey hkey, i, hsame ▸ hi, hdel⟩

theorem allDone_sas (hne : (rc.src2, rc.dst2) ≠ (rc.src, rc.dst))
    (hok : (moveLoop rc o 0 (encapCollect rc k.sad) k.sad).2 = false)
    (hperm : (moveLoop rc o 0 (encapCollect rc k.sad) k.sad).1.Perm (k.sad.map (migrateSa rc))) :
    encapCollect rc k.sad = k.sad.filter (saMatches rc) ∧
      ∀ i m, (encapCollect rc k.sad)[i]? = some m → saDone rc o k.sad i m := by
  have hnodup := encapCollect_nodup rc k
  constructor
  · apply (encapCollect_sublist rc k.sad).eq_of_length_le
    apply (List.subperm_of_subset ((List.Nodup.of_map _ k.sadKeys).filter _) _).length_le
    intro x hx
    obtain ⟨hmem, hmatch⟩ := List.mem_filter.mp hx
    obtain ⟨-, i, hi, -⟩ := moveLoop_collects hne hperm hmem hmatch
    exact List.mem_of_getElem? hi
  · intro i m hi
    obtain ⟨hmem, hmatch⟩ := mem_encapCollect (List.mem_of_getElem? hi)
    obtain ⟨hmark, i', hi', hdel⟩ := moveLoop_collects hne hperm hmem hmatch
    have hsame : i' = i := (List.getElem?_inj (List.getElem?_eq_some_iff.mp hi').1 hnodup).mp (hi'.trans hi.symm)
    have hdst : ∀ m ∈ encapCollect rc k.sad, m.daddr = rc.dst :=
      fun m hm => (saMatches_addrs (mem_encapCollect hm).2).2.2.2
    obtain ⟨hfits, hnew, hchange, hplace⟩ := moveLoop_complete hdst hok i m hi
    rw [Nat.zero_add] at hnew hplace
    refine ⟨hfits, hmark, hnew, ?_⟩
    split
    · rename_i hkey
      exact ⟨hchange hkey, hsame ▸ hdel⟩
    · rename_i hkey
      exact hplace (Bool.not_eq_true _ ▸ hkey)

theorem allDone_policies (hne : (rc.src2, rc.dst2) ≠ (rc.src, rc.dst))
    (hok : (policyLoop rc o 0 (polCollect rc k.spd) k.spd).2 = false)
    (hall : (policyLoop rc o 0 (polCollect rc k.spd) k.spd).1 = k.spd.map (rewritePolicy rc)) :
    polCollect rc k.spd = k.spd.filter (policyHit rc) ∧
      ∀ i, i < (polCollect rc k.spd).length → o.upd i = .ok := by
  have hupd := policyLoop_complete hok
  have hsub := polCollect_sublist rc k.spd
  have hnodup : (k.spd.filter (policyHit rc)).Nodup := (List.Nodup.of_map _ k.spdKeys).filter _
  rw [policyLoop_done k.spdKeys (hsub.trans List.filter_sublist).subset (hnodup.sublist hsub) hupd] at hall
  constructor
  · apply hsub.eq_of_length_le
    apply (List.subperm_of_subset hnodup _).length_le
    intro p hp
    obtain ⟨hmem, hhit⟩ := List.mem_filter.mp hp
    by_contra hno
    have hsame : (if p ∈ polCollect rc k.spd then rewritePolicy rc p else p) = rewritePolicy rc p :=
      List.map_inj_left.mp hall p hmem
    rw [if_neg hno] at hsame
    rw [hsame, rewritePolicy_left hne] at hhit
    cases hhit
  · intro i hi
    rw [← Nat.zero_add i]
    exact hupd i hi

theorem policyLoop_kept (hne : (rc.src2, rc.dst2) ≠ (rc.src, rc.dst))
    (hfail : (policyLoop rc o 0 (polCollect rc k.spd) k.spd).2 = true)
    (hkept : (policyLoop rc o 0 (polCollect rc k.spd) k.spd).1 = k.spd) :
    polCollect rc k.spd ≠ [] ∧ o.upd 0 = .refused := by
  cases hcol : polCollect rc k.spd with
  | nil =>
    rw [hcol] at hfail
    cases hfail
  | cons p ps =>
    refine ⟨List.cons_ne_nil _ _, ?_⟩
    have hp : p ∈ k.spd ∧ policyHit rc p = true :=
      List.mem_filter.mp ((polCollect_sublist rc k.spd).subset (hcol ▸ List.mem_cons_self))
    have hleft : ∀ q, p ≠ rewritePolicy rc q := by
      intro q heq
      have hhit := hp.2
      rw [heq, rewritePolicy_left hne] at hhit
      cases hhit
    by_contra hupd
    have hone : (updPolicy k.spd (rewritePolicy rc p) (o.upd 0)).1
        = replace KernelPolicy.key k.spd (rewritePolicy rc p) := by
      unfold updPolicy
      rw [if_neg hupd]
    have hgone : p ∉ (updPolicy k.spd (rewritePolicy rc p) (o.upd 0)).1 := by
      rw [hone]
      intro hin
      obtain heq | ⟨-, hdiff⟩ := mem_replace hin
      · exact hleft p heq
      · exact hdiff rfl
    have hend : p ∈ (policyLoop rc o 0 (p :: ps) k.spd).1 := by
      rw [← hcol, hkept]
      exact hp.1
    unfold policyLoop at hend
    dsimp only at hend
    split at hend
    · exact hgone hend
    · obtain hin | ⟨q, -, heq⟩ := mem_policyLoop hend
      · exact hgone hin
      · exact hleft q heq

theorem collect_nil_of_kept (hne : (rc.src2, rc.dst2) ≠ (rc.src, rc.dst))
    (hok : (moveLoop rc o 0 (encapCollect rc k.sad) k.sad).2 = false)
    (hperm : (moveLoop rc o 0 (encapCollect rc k.sad) k.sad).1.Perm k.sad) :
    encapCollect rc k.sad = [] := by
  cases hcol : encapCollect rc k.sad with
  | nil => rfl
  | cons m ms =>
    rw [hcol] at hok hperm
    cases hone : (moveOne rc o 0 m k.sad).2 with
    | false => exact absurd hperm (moveLoop_changes hne hcol hone)
    | true =>
      rw [moveLoop_cons, if_pos hone, hone] at hok
      cases hok

theorem MigrateRight.fits (hne : (rc.src2, rc.dst2) ≠ (rc.src, rc.dst))
    (h : MigrateRight rc k (xfrmMigrateUserspace rc o k)) : MigrateFits rc o k := by
  by_cases hfamily : rc.family2 = rc.family
  · cases hdump : o.dumpSa with
    | false => exact .inl (.inr (.inl hdump))
    | true =>
      rw [xfrmMigrateUserspace_eq hfamily hdump] at h
      cases hok : (moveLoop rc o 0 (encapCollect rc k.sad) k.sad).2 with
      | true =>
        rw [hok, if_pos rfl] at h
        obtain ⟨hperm, -⟩ := h.kept rfl
        dsimp only at hperm
        cases hcol : encapCollect rc k.sad with
        | nil =>
          rw [hcol] at hok
          cases hok
        | cons m ms =>
          obtain ⟨hm, hmatch⟩ := mem_encapCollect (hcol ▸ List.mem_cons_self)
          cases hone : (moveOne rc o 0 m k.sad).2 with
          | false =>
            rw [hcol] at hperm
            exact absurd hperm (moveLoop_changes hne hcol hone)
          | true =>
            rw [hcol, moveLoop_cons, if_pos hone] at hperm
            exact .inl (.inr (.inr (.inl ⟨m, ms, hcol, firstRefused_of_kept hne hm hmatch hone hperm⟩)))
      | false =>
        rw [hok, if_neg Bool.false_ne_true] at h
        unfold migratePolicies at h
        cases hpol : o.dumpPolicy with
        | false =>
          rw [hpol] at h
          obtain ⟨hperm, -⟩ := h.kept rfl
          exact .inl (.inr (.inr (.inr ⟨collect_nil_of_kept hne hok hperm, .inl hpol⟩)))
        | true =>
          rw [hpol] at h
          cases hend : (policyLoop rc o 0 (polCollect rc k.spd) k.spd).2 with
          | true =>
            obtain ⟨hperm, hspd⟩ := h.kept hend
            exact .inl (.inr (.inr (.inr ⟨collect_nil_of_kept hne hok hperm,
              .inr (policyLoop_kept hne hend hspd)⟩)))
          | false =>
            obtain ⟨hperm, hspd⟩ := h.moved hend
            obtain ⟨hsas, hdone⟩ := allDone_sas hne hok hperm
            obtain ⟨hpolicies, hupd⟩ := allDone_policies hne hend hspd
            exact .inr ⟨hfamily, hdump, hsas, hdone, hpol, hpolicies, hupd⟩
  · exact .inl (.inl hfamily)

/-- **the migration without the kernel's help.**  The condition is enough; when an address changes, there is
no other case in which it does what the kernel's migration does. -/
theorem migrate_userspace_right (rc : MigrateRc) (o : Replies) (k : Kernel) :
    (MigrateFits rc o k → MigrateRight rc k (xfrmMigrateUserspace rc o k)) ∧
    ((rc.src2, rc.dst2) ≠ (rc.src, rc.dst) →
      MigrateRight rc k (xfrmMigrateUserspace rc o k) → MigrateFits rc o k) := by
  constructor
  · rintro (h | h)
    · exact h.right
    · exact h.right
  · intro hne h
    exact h.fits hne

end

/-! two SAs to 10.0.0.2, the second with a mark or without one, move to 10.0.0.3 -/

def moveRc : MigrateRc :=
  ⟨2, [10, 0, 0, 1], [10, 0, 0, 2], 2, [10, 0, 0, 1], [10, 0, 0, 3], 50, 0, none, false⟩

def twoSas (mark : Nat) : List KernelSa :=
  [⟨2, [10, 0, 0, 1], [10, 0, 0, 2], 50, 256, 0, 1, [], [], none, []⟩,
   ⟨2, [10, 0, 0, 1], [10, 0, 0, 2], 50, 257, mark, 2, [], [], none, []⟩]

def onePolicy : List KernelPolicy := [⟨1, [⟨2, [10, 0, 0, 1], [10, 0, 0, 2], 1, []⟩], []⟩]

theorem twoSas_keys (mark : Nat) : Distinct KernelSa.key (twoSas mark) := by
  unfold Distinct
  simp [twoSas, KernelSa.key]

theorem onePolicy_keys : Distinct KernelPolicy.key onePolicy := List.nodup_singleton _

def twoSasKernel (mark : Nat) : Kernel := ⟨twoSas mark, onePolicy, twoSas_keys mark, onePolicy_keys⟩

/-- every request is carried out -/
def allCarriedOut : Replies := ⟨true, fun _ => .ok, fun _ => .ok, fun _ => .ok, true, fun _ => .ok⟩

theorem twoSas_allDone : AllDone moveRc allCarriedOut (twoSasKernel 0) where
  family := rfl
  dumpSa := rfl
  sas := by decide
  sasDone := by
    intro i m hi
    have hcol : encapCollect moveRc (twoSasKernel 0).sad = twoSas 0 := by decide
    rw [hcol] at hi
    have hm : ∀ m ∈ twoSas 0, moveFits moveRc m = true ∧ m.mark = 0 ∧
        find KernelSa.key (twoSas 0) (moveSaTo moveRc m).key = none := by decide
    obtain ⟨hfits, hmark, hfree⟩ := hm m (List.mem_of_getElem? hi)
    have hdel : allCarriedOut.del i ≠ .refused := by
      intro h
      cases h
    exact ⟨hfits, hmark, rfl, hfree, hdel⟩
  dumpPolicy := rfl
  policies := by decide
  policiesDone := fun _ _ => rfl

theorem migrate_userspace_right_two :
    MigrateRight moveRc (twoSasKernel 0) (xfrmMigrateUserspace moveRc allCarriedOut (twoSasKernel 0)) ∧
    MigrateFits moveRc allCarriedOut (twoSasKernel 0) := by
  have h := (migrate_userspace_right moveRc allCarriedOut (twoSasKernel 0)).1 (.inr twoSas_allDone)
  exact ⟨h, (migrate_userspace_right moveRc allCarriedOut (twoSasKernel 0)).2 (by decide) h⟩

/-- an SA with a mark is added on the new addresses and stays on the old ones -/
theorem migrate_userspace_leaves_marked :
    (xfrmMigrateUserspace moveRc allCarriedOut (twoSasKernel 7)).failed = false ∧
    ¬ MigrateRight moveRc (twoSasKernel 7) (xfrmMigrateUserspace moveRc allCarriedOut (twoSasKernel 7)) := by
  have hok : (xfrmMigrateUserspace moveRc allCarriedOut (twoSasKernel 7)).failed = false := by decide
  refine ⟨hok, ?_⟩
  intro h
  have hlen := (h.moved hok).1.length_eq
  revert hlen
  decide

end Xfrm
