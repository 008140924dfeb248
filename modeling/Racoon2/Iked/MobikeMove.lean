import Racoon2.Iked.Mobike

/-!
# When a move is complete or nothing

A move is right if after a success every kernel SA and every endpoint in memory is the new one, and after a
failure all is as before.  It is so if nothing was done before the first error, or if no request fails and
every kernel SA has a request that finds it.

* `OnNew`, `MoveRight`   what a right move is;
* `MoveFits`             the condition;
* `mobikeMigrateDir_sad`, `mobikeMigrateDir_none`   one request;
* `migrateDirs_ok`, `migrateDirs_onNew`, `migrateDirs_kept`   a list of them.
-/

set_option linter.unusedVariables false

namespace Ikev2
open Bytes

section
variable (e : MoveEnv)

/-! ## what a move is -/

/-- the kernel SA has the new endpoints -/
def ChildKernelSa.OnNew (x : ChildKernelSa) : Prop := (x.src, x.dst) = e.new x.dir

/-- everything has the new endpoints -/
structure OnNew (s : MoveState) : Prop where
  sad : ∀ x ∈ s.sad, x.OnNew e
  localEnd : sameEndpoint s.localEnd e.localEnd = true
  remote : sameEndpoint s.remote e.remote = true
  children : ∀ c ∈ s.children, sameEndpoint c.localEnd e.localEnd = true ∧ sameEndpoint c.remote e.remote = true
  transmitInfo : ∀ p, s.transmitInfo = some p →
    sameEndpoint p.1 e.localEnd = true ∧ sameEndpoint p.2 e.remote = true
  responseInfo : ∀ p, s.responseInfo = some p →
    sameEndpoint p.1 e.localEnd = true ∧ sameEndpoint p.2 e.remote = true

structure MoveRight (r : MoveState × Bool) : Prop where
  moved : r.2 = true → OnNew e r.1
  kept : r.2 = false → r.1 = e.state

/-! ## the condition -/

/-- a repetition of a request that was carried out fails; without a change of address there is
something to migrate each time -/
def LaterFails (reply : Nat → MigrateReply) : Prop :=
  ∃ j, 1 ≤ j ∧ j < (if e.again then 8 else 2) ∧ (∀ i < j, reply i = .ok) ∧ (reply j).fails = true

section
variable (replies : MigrateReplies) (c : Nat) (qs : List MigrateRequest) (sad : List ChildKernelSa)

/-- a request that is carried out finds the SA -/
def Covered (x : ChildKernelSa) : Prop :=
  ∃ i q, qs[i]? = some q ∧ replies (c + i) 0 = .ok ∧ q.hits e x = true

/-- a request finds an SA that no earlier one has moved -/
def Fresh (i : Nat) (q : MigrateRequest) : Prop :=
  ∃ x ∈ sad, q.hits e x = true ∧ (e.again = false →
    ∀ i' < i, ∀ q', qs[i']? = some q' → replies (c + i') 0 = .ok → q'.hits e x = false)

/-- no request fails -/
def Quiet : Prop :=
  ∀ i q, qs[i]? = some q → (replies (c + i) 0).fails = false ∧
    (replies (c + i) 0 = .ok → Fresh e replies c qs sad i q → ¬ LaterFails e (replies (c + i)))

/-- the first `n` requests find nothing or are refused because there is nothing -/
def Idle (n : Nat) : Prop :=
  ∀ i < n, ∀ q, qs[i]? = some q → (replies (c + i) 0).fails = false ∧
    (replies (c + i) 0 = .ok → ∀ x ∈ sad, q.hits e x = false)

/-- an error comes first -/
def FailsFirst : Prop :=
  ∃ n q, qs[n]? = some q ∧ Idle e replies c qs sad n ∧ (replies (c + n) 0).fails = true ∧
    ((replies (c + n) 0).carried = true → ∀ x ∈ sad, q.hits e x = false)

end

/-- the requests of a move -/
def moveRequests : List MigrateRequest := childrenRequests e.state.children []

/-- the kernel is not asked: the endpoints are the new ones -/
def MovesNothing (kind : MigrateKernel) : Prop :=
  kind ≠ .again ∧ sameEndpoint e.state.remote e.remote ∧ sameEndpoint e.state.localEnd e.localEnd

instance (kind : MigrateKernel) : Decidable (MovesNothing e kind) :=
  inferInstanceAs (Decidable (kind ≠ .again ∧ _ ∧ _))

/-- all requests are carried out, and find all SAs -/
structure AllMoved (replies : MigrateReplies) : Prop where
  quiet : Quiet e replies 0 (moveRequests e) e.state.sad
  covered : ∀ x ∈ e.state.sad, x.OnNew e ∨ Covered e replies 0 (moveRequests e) x
  some : moveRequests e = [] ∨ ∃ x ∈ e.state.sad, Covered e replies 0 (moveRequests e) x

/-- nothing is moved, and the move fails -/
def NothingMoved (replies : MigrateReplies) : Prop :=
  FailsFirst e replies 0 (moveRequests e) e.state.sad ∨
  moveRequests e ≠ [] ∧ Idle e replies 0 (moveRequests e) e.state.sad (moveRequests e).length

def MoveFits (kind : MigrateKernel) (replies : MigrateReplies) : Prop :=
  if MovesNothing e kind then OnNew e e.state
  else if kind = .no then ∀ x ∈ e.state.sad, x.OnNew e
  else NothingMoved e replies ∨ AllMoved e replies

end

/-! ## one SA -/

section
variable {e : MoveEnv} {q q' : MigrateRequest} {x : ChildKernelSa} {sad : List ChildKernelSa}

theorem hits_old (h : q.hits e x = true) : x.dir = q.dir ∧ (x.src, x.dst) = e.old x.dir := by
  simp only [MigrateRequest.hits, Bool.and_eq_true, beq_iff_eq] at h
  refine ⟨h.1.1.1.1, ?_⟩
  rw [h.1.1.1.1]
  exact h.2

theorem move_onNew (x : ChildKernelSa) : (x.move e).OnNew e := rfl

theorem again_old (h : e.again = true) (dir : PolicyDir) : e.new dir = e.old dir := by
  simp only [MoveEnv.again, Bool.and_eq_true, beq_iff_eq] at h
  cases dir
  · exact Prod.ext h.1 h.2
  · exact Prod.ext h.2 h.1
  · exact Prod.ext h.2 h.1

theorem old_ne_new (h : e.again = false) (dir : PolicyDir) : e.old dir ≠ e.new dir := by
  have hne : ¬ (e.localEnd.kernel = e.state.localEnd.kernel ∧ e.remote.kernel = e.state.remote.kernel) := by
    intro hsame
    simp [MoveEnv.again, hsame.1, hsame.2] at h
  intro heq
  cases dir
  · exact hne ⟨congrArg Prod.fst heq.symm, congrArg Prod.snd heq.symm⟩
  · exact hne ⟨congrArg Prod.snd heq.symm, congrArg Prod.fst heq.symm⟩
  · exact hne ⟨congrArg Prod.snd heq.symm, congrArg Prod.fst heq.symm⟩

theorem not_onNew_of_hits (hagain : e.again = false) (h : q.hits e x = true) : ¬ x.OnNew e := by
  intro hnew
  exact old_ne_new hagain x.dir ((hits_old h).2.symm.trans hnew)

theorem hits_move_changed (hagain : e.again = false) (x : ChildKernelSa) : q.hits e (x.move e) = false := by
  rw [← Bool.not_eq_true]
  intro h
  exact not_onNew_of_hits hagain h (move_onNew x)

/-- without a change of address the moved SA is found again -/
theorem hits_move_again (hagain : e.again = true) (h : q.hits e x = true) (q' : MigrateRequest) :
    q'.hits e (x.move e) = q'.hits e x := by
  have hsame : ((x.move e).src, (x.move e).dst) = (x.src, x.dst) := by
    show e.new x.dir = _
    rw [again_old hagain, (hits_old h).2]
  unfold MigrateRequest.hits
  rw [hsame]
  rfl

theorem apply_apply (r : EncapReq) (old : Option (Nat × Nat)) : r.apply (r.apply old) = r.apply old := by
  cases r <;> rfl

theorem move_move (x : ChildKernelSa) : (x.move e).move e = x.move e := by
  unfold ChildKernelSa.move
  dsimp only
  rw [apply_apply]

/-! ## one request -/

theorem migrateAll_idle (h : sad.any (q.hits e) = false) : migrateAll e q sad = sad := by
  unfold migrateAll
  rw [List.map_congr_left (g := id), List.map_id]
  intro x hx
  exact if_neg (List.any_eq_false.mp h x hx)

theorem migrateAll_twice : migrateAll e q (migrateAll e q sad) = migrateAll e q sad := by
  unfold migrateAll
  rw [List.map_map]
  apply List.map_congr_left
  intro x hx
  rw [Function.comp_apply]
  by_cases h : q.hits e x = true
  · rw [if_pos h, move_move, ite_self]
  · rw [if_neg h, if_neg h]

theorem any_hits_changed (hagain : e.again = false) : (migrateAll e q sad).any (q.hits e) = false := by
  rw [List.any_eq_false]
  intro y hy
  obtain ⟨x, -, rfl⟩ := List.mem_map.mp hy
  split
  · rw [hits_move_changed hagain]
    exact Bool.false_ne_true
  · rename_i h
    exact h

theorem any_hits_again (hagain : e.again = true) (q' : MigrateRequest) :
    (migrateAll e q sad).any (q'.hits e) = sad.any (q'.hits e) := by
  unfold migrateAll
  rw [List.any_map]
  congr 1
  funext x
  rw [Function.comp_apply]
  split
  · rename_i h
    exact hits_move_again hagain h q'
  · rfl

theorem carried_of_ok {r : MigrateReply} (h : r = .ok) : r.carried = true := by
  rw [h]
  rfl

theorem ok_of_carried {r : MigrateReply} (hfails : r.fails = false) (h : r.carried = true) : r = .ok := by
  cases r with
  | ok => rfl
  | error eno noData => cases h
  | lost => cases hfails

section
variable {reply : Nat → MigrateReply}

theorem migrateDirLoop_succ (fuel j : Nat) (sad : List ChildKernelSa) :
    migrateDirLoop e q reply (fuel + 1) j sad
      = if reply j = .ok ∧ sad.any (q.hits e) then migrateDirLoop e q reply fuel (j + 1) (migrateAll e q sad)
        else (if (reply j).carried then migrateAll e q sad else sad,
          if (reply j).fails then none else some j) := by
  rw [migrateDirLoop]
  split
  · rename_i h
    rw [carried_of_ok h.1, if_pos rfl]
  · split <;> rfl

theorem migrateDirLoop_fixed {fuel j : Nat} (h : migrateAll e q sad = sad) :
    (migrateDirLoop e q reply fuel j sad).1 = sad := by
  induction fuel generalizing j with
  | zero => rfl
  | succ fuel ih =>
    rw [migrateDirLoop_succ]
    split
    · rw [h]
      exact ih
    · dsimp only
      rw [h, ite_self]

/-- the SAs after the request: the first call decides -/
theorem mobikeMigrateDir_sad (sad : List ChildKernelSa) :
    (mobikeMigrateDir e q reply sad).1 = if (reply 0).carried then migrateAll e q sad else sad := by
  unfold mobikeMigrateDir
  rw [migrateDirLoop_succ]
  split
  · rename_i h
    rw [carried_of_ok h.1, if_pos rfl]
    exact migrateDirLoop_fixed migrateAll_twice
  · rfl

/-- the number of migrations does not go down -/
theorem migrateDirLoop_some {fuel j m : Nat} (h : (migrateDirLoop e q reply fuel j sad).2 = some m) : j ≤ m := by
  induction fuel generalizing j sad with
  | zero =>
    cases h
    exact Nat.le_refl _
  | succ fuel ih =>
    rw [migrateDirLoop_succ] at h
    split at h
    · exact Nat.le_of_succ_le (ih h)
    · dsimp only at h
      split at h
      · cases h
      · cases h
        exact Nat.le_refl _

theorem mobikeMigrateDir_some {m : Nat} (h : (mobikeMigrateDir e q reply sad).2 = some m) :
    0 < m ↔ reply 0 = .ok ∧ sad.any (q.hits e) = true := by
  unfold mobikeMigrateDir at h
  rw [migrateDirLoop_succ] at h
  split at h
  · rename_i hone
    exact ⟨fun _ => hone, fun _ => migrateDirLoop_some h⟩
  · rename_i hone
    dsimp only at h
    split at h
    · cases h
    · cases h
      exact ⟨fun hpos => absurd hpos (Nat.lt_irrefl 0), fun hno => absurd hno hone⟩

/-- without a change of address each repetition finds the same SAs -/
theorem migrateDirLoop_again (hagain : e.again = true) (hhit : sad.any (q.hits e) = true) (fuel j : Nat) :
    (migrateDirLoop e q reply fuel j sad).2 = none ↔
      ∃ n < fuel, (∀ i < n, reply (j + i) = .ok) ∧ (reply (j + n)).fails = true := by
  induction fuel generalizing j sad with
  | zero =>
    refine ⟨fun h => (nomatch h), ?_⟩
    rintro ⟨n, hn, -⟩
    exact absurd hn (Nat.not_lt_zero _)
  | succ fuel ih =>
    rw [migrateDirLoop_succ]
    split
    · rename_i hone
      rw [ih (by rw [any_hits_again hagain]; exact hhit)]
      constructor
      · rintro ⟨n, hn, hok, hfail⟩
        refine ⟨n + 1, Nat.succ_lt_succ hn, ?_, ?_⟩
        · intro i hi
          cases i with
          | zero => exact hone.1
          | succ i =>
            have h := hok i (Nat.lt_of_succ_lt_succ hi)
            rwa [Nat.add_right_comm] at h
        · rwa [Nat.add_right_comm] at hfail
      · rintro ⟨n, hn, hok, hfail⟩
        cases n with
        | zero =>
          rw [Nat.add_zero, hone.1] at hfail
          cases hfail
        | succ n =>
          refine ⟨n, Nat.lt_of_succ_lt_succ hn, ?_, ?_⟩
          · intro i hi
            rw [Nat.add_right_comm]
            exact hok (i + 1) (Nat.succ_lt_succ hi)
          · rw [Nat.add_right_comm]
            exact hfail
    · rename_i hone
      have hnot : reply j ≠ .ok := fun hok => hone ⟨hok, hhit⟩
      dsimp only
      constructor
      · intro h
        refine ⟨0, Nat.succ_pos _, fun i hi => absurd hi (Nat.not_lt_zero _), ?_⟩
        by_contra hno
        rw [Nat.add_zero] at hno
        rw [if_neg hno] at h
        cases h
      · rintro ⟨n, hn, hok, hfail⟩
        cases n with
        | zero => exact if_pos hfail
        | succ n => exact absurd (hok 0 (Nat.succ_pos _)) hnot

theorem mobikeMigrateDir_none (sad : List ChildKernelSa) :
    (mobikeMigrateDir e q reply sad).2 = none ↔ (reply 0).fails = true ∨
      reply 0 = .ok ∧ sad.any (q.hits e) = true ∧ LaterFails e reply := by
  by_cases hone : reply 0 = .ok ∧ sad.any (q.hits e) = true
  · have hnot : ¬ (reply 0).fails = true := by
      rw [hone.1]
      exact Bool.false_ne_true
    rw [or_iff_right hnot, and_iff_right hone.1, and_iff_right hone.2]
    cases hagain : e.again with
    | true =>
      unfold mobikeMigrateDir LaterFails
      rw [migrateDirLoop_again hagain hone.2, hagain, if_pos rfl]
      constructor
      · rintro ⟨n, hn, hok, hfail⟩
        simp only [Nat.zero_add] at hok hfail
        refine ⟨n, ?_, hn, hok, hfail⟩
        rw [Nat.one_le_iff_ne_zero]
        rintro rfl
        exact hnot hfail
      · rintro ⟨n, -, hn, hok, hfail⟩
        simp only [Nat.zero_add]
        exact ⟨n, hn, hok, hfail⟩
    | false =>
      -- nothing is left for the second call
      unfold mobikeMigrateDir LaterFails
      rw [migrateDirLoop_succ, if_pos hone, migrateDirLoop_succ, any_hits_changed hagain, hagain,
        if_neg (fun h => Bool.false_ne_true h.2), if_neg Bool.false_ne_true]
      dsimp only
      constructor
      · intro h
        refine ⟨1, Nat.le_refl _, by omega, ?_, ?_⟩
        · intro i hi
          rw [Nat.lt_one_iff.mp hi]
          exact hone.1
        · by_contra hno
          rw [if_neg hno] at h
          cases h
      · rintro ⟨n, hpos, hn, -, hfail⟩
        have hn1 : n = 1 := by omega
        subst hn1
        exact if_pos hfail
  · unfold mobikeMigrateDir
    rw [migrateDirLoop_succ, if_neg hone]
    dsimp only
    constructor
    · intro h
      left
      by_contra hno
      rw [if_neg hno] at h
      cases h
    · rintro (h | ⟨hok, hhit, -⟩)
      · exact if_pos h
      · exact absurd ⟨hok, hhit⟩ hone

end

/-! ## a list of requests -/

section
variable {replies : MigrateReplies} {c m : Nat} {qs : List MigrateRequest}

/-- the SAs after a request that does not fail -/
def afterRequest (e : MoveEnv) (q : MigrateRequest) (reply : MigrateReply) (sad : List ChildKernelSa) :
    List ChildKernelSa := if reply = .ok then migrateAll e q sad else sad

theorem mobikeMigrateDir_after {reply : Nat → MigrateReply} (h : (reply 0).fails = false) :
    (mobikeMigrateDir e q reply sad).1 = afterRequest e q (reply 0) sad := by
  rw [mobikeMigrateDir_sad]
  unfold afterRequest
  by_cases hok : reply 0 = .ok
  · rw [if_pos (carried_of_ok hok), if_pos hok]
  · rw [if_neg (fun hc => hok (ok_of_carried h hc)), if_neg hok]

theorem mem_afterRequest {reply : MigrateReply} {y : ChildKernelSa} :
    y ∈ afterRequest e q reply sad ↔
      ∃ x ∈ sad, (if reply = .ok ∧ q.hits e x = true then x.move e else x) = y := by
  unfold afterRequest
  by_cases hok : reply = .ok
  · rw [if_pos hok]
    unfold migrateAll
    rw [List.mem_map]
    simp only [hok, true_and]
  · rw [if_neg hok]
    simp only [hok, false_and, if_false, exists_eq_right]

/-- what the later requests find is what they would have found, less what the first has moved -/
theorem fresh_cons (i : Nat) (q' : MigrateRequest) :
    Fresh e replies c (q :: qs) sad (i + 1) q' ↔
      Fresh e replies (c + 1) qs (afterRequest e q (replies c 0) sad) i q' := by
  constructor
  · rintro ⟨x, hx, hhit, hearlier⟩
    by_cases hone : replies c 0 = .ok ∧ q.hits e x = true
    · cases hagain : e.again with
      | false =>
        have hno := hearlier hagain 0 (Nat.succ_pos _) q rfl hone.1
        rw [hone.2] at hno
        cases hno
      | true =>
        refine ⟨x.move e, mem_afterRequest.mpr ⟨x, hx, if_pos hone⟩, ?_, ?_⟩
        · rw [hits_move_again hagain hone.2]
          exact hhit
        · intro hno
          exact absurd (hno.symm.trans hagain) Bool.false_ne_true
    · refine ⟨x, mem_afterRequest.mpr ⟨x, hx, if_neg hone⟩, hhit, ?_⟩
      intro hagain i' hi' q'' hq'' hok
      rw [Nat.add_assoc, Nat.add_comm 1] at hok
      exact hearlier hagain (i' + 1) (Nat.succ_lt_succ hi') q'' hq'' hok
  · rintro ⟨y, hy, hhit, hearlier⟩
    obtain ⟨x, hx, rfl⟩ := mem_afterRequest.mp hy
    by_cases hone : replies c 0 = .ok ∧ q.hits e x = true
    · rw [if_pos hone] at hhit
      cases hagain : e.again with
      | false =>
        rw [hits_move_changed hagain] at hhit
        cases hhit
      | true =>
        rw [hits_move_again hagain hone.2] at hhit
        exact ⟨x, hx, hhit, fun hno => absurd (hno.symm.trans hagain) Bool.false_ne_true⟩
    · rw [if_neg hone] at hhit hearlier
      refine ⟨x, hx, hhit, ?_⟩
      intro hagain i' hi' q'' hq'' hok
      cases i' with
      | zero =>
        cases hq''
        rw [← Bool.not_eq_true]
        exact fun h => hone ⟨hok, h⟩
      | succ i' =>
        apply hearlier hagain i' (Nat.lt_of_succ_lt_succ hi') q'' hq''
        rw [Nat.add_assoc, Nat.add_comm 1]
        exact hok

theorem fresh_zero : Fresh e replies c (q :: qs) sad 0 q ↔ sad.any (q.hits e) = true := by
  rw [List.any_eq_true]
  constructor
  · rintro ⟨x, hx, hhit, -⟩
    exact ⟨x, hx, hhit⟩
  · rintro ⟨x, hx, hhit⟩
    exact ⟨x, hx, hhit, fun _ i hi => absurd hi (Nat.not_lt_zero _)⟩

theorem quiet_cons : Quiet e replies c (q :: qs) sad ↔
    (mobikeMigrateDir e q (replies c) sad).2 ≠ none ∧
      Quiet e replies (c + 1) qs (afterRequest e q (replies c 0) sad) := by
  have hhead : (mobikeMigrateDir e q (replies c) sad).2 ≠ none ↔ (replies c 0).fails = false ∧
      (replies c 0 = .ok → Fresh e replies c (q :: qs) sad 0 q → ¬ LaterFails e (replies c)) := by
    rw [ne_eq, mobikeMigrateDir_none, not_or, Bool.not_eq_true, fresh_zero]
    refine and_congr_right fun _ => ?_
    constructor
    · intro hno hok hhit hlater
      exact hno ⟨hok, hhit, hlater⟩
    · rintro hno ⟨hok, hhit, hlater⟩
      exact hno hok hhit hlater
  rw [hhead]
  constructor
  · intro h
    refine ⟨h 0 q rfl, ?_⟩
    intro i q' hq'
    have hnext := h (i + 1) q' hq'
    rw [fresh_cons, ← Nat.add_assoc, Nat.add_right_comm] at hnext
    exact hnext
  · rintro ⟨hfirst, hrest⟩ i q' hq'
    cases i with
    | zero =>
      cases hq'
      exact hfirst
    | succ i =>
      rw [fresh_cons, ← Nat.add_assoc, Nat.add_right_comm]
      exact hrest i q' hq'

/-- the requests go through exactly if none fails -/
theorem migrateDirs_ok (qs : List MigrateRequest) (sad : List ChildKernelSa) (m c : Nat) :
    (migrateDirs e replies qs ⟨sad, m, c⟩).2 = false ↔ Quiet e replies c qs sad := by
  induction qs generalizing sad m c with
  | nil =>
    refine ⟨fun _ i q hq => ?_, fun _ => rfl⟩
    simp at hq
  | cons q qs ih =>
    rw [quiet_cons]
    cases hone : (mobikeMigrateDir e q (replies c) sad).2 with
    | none =>
      rw [migrateDirs_none hone]
      exact ⟨fun h => (nomatch h), fun h => absurd rfl h.1⟩
    | some k =>
      have hnot : (replies c 0).fails = false := by
        rw [← Bool.not_eq_true]
        intro hfail
        rw [(mobikeMigrateDir_none sad).mpr (.inl hfail)] at hone
        cases hone
      rw [migrateDirs_some hone, ih, mobikeMigrateDir_after hnot]
      exact ⟨fun h => ⟨fun hno => (nomatch hno), h⟩, fun h => h.2⟩

/-- a run of requests without an error, request by request -/
theorem migrateDirs_step (h : (migrateDirs e replies (q :: qs) ⟨sad, m, c⟩).2 = false) :
    (replies c 0).fails = false ∧ ∃ k, (0 < k ↔ replies c 0 = .ok ∧ sad.any (q.hits e) = true) ∧
      migrateDirs e replies (q :: qs) ⟨sad, m, c⟩
        = migrateDirs e replies qs ⟨afterRequest e q (replies c 0) sad, m + k, c + 1⟩ := by
  cases hone : (mobikeMigrateDir e q (replies c) sad).2 with
  | none =>
    rw [migrateDirs_none hone] at h
    cases h
  | some k =>
    have hnot : (replies c 0).fails = false := by
      rw [← Bool.not_eq_true]
      intro hfail
      rw [(mobikeMigrateDir_none sad).mpr (.inl hfail)] at hone
      cases hone
    refine ⟨hnot, k, mobikeMigrateDir_some hone, ?_⟩
    rw [migrateDirs_some hone, mobikeMigrateDir_after hnot]

theorem covered_cons (x : ChildKernelSa) :
    Covered e replies c (q :: qs) x ↔ (replies c 0 = .ok ∧ q.hits e x = true) ∨ Covered e replies (c + 1) qs x := by
  constructor
  · rintro ⟨i, q', hq', hok, hhit⟩
    cases i with
    | zero =>
      cases hq'
      exact .inl ⟨hok, hhit⟩
    | succ i =>
      rw [← Nat.add_assoc, Nat.add_right_comm] at hok
      exact .inr ⟨i, q', hq', hok, hhit⟩
  · rintro (⟨hok, hhit⟩ | ⟨i, q', hq', hok, hhit⟩)
    · exact ⟨0, q, rfl, hok, hhit⟩
    · rw [Nat.add_right_comm, Nat.add_assoc] at hok
      exact ⟨i + 1, q', hq', hok, hhit⟩

theorem not_covered_nil (x : ChildKernelSa) : ¬ Covered e replies c [] x := by
  rintro ⟨i, q, hq, -⟩
  simp at hq

/-- after requests without an error all SAs have the new endpoints exactly if each had them or is found -/
theorem migrateDirs_onNew (h : (migrateDirs e replies qs ⟨sad, m, c⟩).2 = false) :
    (∀ x ∈ (migrateDirs e replies qs ⟨sad, m, c⟩).1.sad, x.OnNew e) ↔
      ∀ x ∈ sad, x.OnNew e ∨ Covered e replies c qs x := by
  induction qs generalizing sad m c with
  | nil =>
    refine forall₂_congr fun x hx => ?_
    rw [or_iff_left (not_covered_nil x)]
  | cons q qs ih =>
    obtain ⟨-, k, -, hstep⟩ := migrateDirs_step h
    rw [hstep] at h ⊢
    rw [ih h]
    constructor
    · intro hall x hx
      rw [covered_cons]
      by_cases hone : replies c 0 = .ok ∧ q.hits e x = true
      · exact .inr (.inl hone)
      · exact (hall x (mem_afterRequest.mpr ⟨x, hx, if_neg hone⟩)).imp_right .inr
    · intro hall y hy
      obtain ⟨x, hx, rfl⟩ := mem_afterRequest.mp hy
      by_cases hone : replies c 0 = .ok ∧ q.hits e x = true
      · rw [if_pos hone]
        exact .inl (move_onNew x)
      · rw [if_neg hone]
        have hx' := hall x hx
        rw [covered_cons, or_iff_right hone] at hx'
        exact hx'

theorem afterRequest_idle {reply : MigrateReply} (h : ¬ (reply = .ok ∧ sad.any (q.hits e) = true)) :
    afterRequest e q reply sad = sad := by
  unfold afterRequest
  split
  · rename_i hok
    exact migrateAll_idle (Bool.not_eq_true _ ▸ fun hhit => h ⟨hok, hhit⟩)
  · rfl

/-- nothing is counted exactly if nothing is found -/
theorem migrateDirs_moved (h : (migrateDirs e replies qs ⟨sad, m, c⟩).2 = false) :
    m ≤ (migrateDirs e replies qs ⟨sad, m, c⟩).1.moved ∧
    ((migrateDirs e replies qs ⟨sad, m, c⟩).1.moved = m ↔ ∀ x ∈ sad, ¬ Covered e replies c qs x) := by
  induction qs generalizing sad m c with
  | nil => exact ⟨Nat.le_refl _, ⟨fun _ x _ => not_covered_nil x, fun _ => rfl⟩⟩
  | cons q qs ih =>
    obtain ⟨-, k, hk, hstep⟩ := migrateDirs_step h
    rw [hstep] at h ⊢
    obtain ⟨hle, hiff⟩ := ih h
    refine ⟨Nat.le_trans (Nat.le_add_right _ _) hle, ?_⟩
    by_cases hone : replies c 0 = .ok ∧ sad.any (q.hits e) = true
    · have hpos := hk.mpr hone
      obtain ⟨x, hx, hhit⟩ := List.any_eq_true.mp hone.2
      constructor
      · intro heq
        rw [heq] at hle
        exact absurd hle (by omega)
      · intro hno
        exact absurd ((covered_cons x).mpr (.inl ⟨hone.1, hhit⟩)) (hno x hx)
    · have hzero : k = 0 := Nat.eq_zero_of_not_pos fun hpos => hone (hk.mp hpos)
      subst hzero
      rw [Nat.add_zero] at hiff ⊢
      rw [hiff, afterRequest_idle hone]
      refine forall₂_congr fun x hx => ?_
      rw [covered_cons, or_iff_right]
      rintro ⟨hok, hhit⟩
      exact hone ⟨hok, List.any_eq_true.mpr ⟨x, hx, hhit⟩⟩

/-- requests that find nothing -/
theorem migrateDirs_idle (h : Idle e replies c qs sad qs.length) :
    migrateDirs e replies qs ⟨sad, m, c⟩ = (⟨sad, m, c + qs.length⟩, false) := by
  induction qs generalizing c with
  | nil => rfl
  | cons q qs ih =>
    obtain ⟨hnot, hidle⟩ := h 0 (Nat.succ_pos _) q rfl
    have hone : ¬ (replies c 0 = .ok ∧ sad.any (q.hits e) = true) := by
      rintro ⟨hok, hhit⟩
      obtain ⟨x, hx, hhit⟩ := List.any_eq_true.mp hhit
      rw [hidle hok x hx] at hhit
      cases hhit
    have hdir : mobikeMigrateDir e q (replies c) sad = (sad, some 0) := by
      have hnot' : (replies c 0).fails = false := hnot
      refine Prod.ext ?_ ?_
      · rw [mobikeMigrateDir_after hnot', afterRequest_idle hone]
      · unfold mobikeMigrateDir
        rw [migrateDirLoop_succ, if_neg hone, hnot']
        rfl
    rw [migrateDirs_some (m := 0) (by rw [hdir]), hdir]
    dsimp only
    rw [Nat.add_zero, ih, List.length_cons, Nat.add_assoc, Nat.add_comm 1]
    intro i hi q' hq'
    rw [Nat.add_assoc, Nat.add_comm 1]
    exact h (i + 1) (Nat.succ_lt_succ hi) q' hq'

/-- the first request of the list fails, and nothing is changed -/
theorem migrateDirs_failsFirst (h : FailsFirst e replies c qs sad) :
    (migrateDirs e replies qs ⟨sad, m, c⟩).2 = true ∧ (migrateDirs e replies qs ⟨sad, m, c⟩).1.sad = sad := by
  obtain ⟨n, q, hq, hidle, hfail, hnone⟩ := h
  have hn : n < qs.length := (List.getElem?_eq_some_iff.mp hq).1
  have hlen : (qs.take n).length = n := List.length_take_of_le (Nat.le_of_lt hn)
  have hsplit : qs = qs.take n ++ q :: qs.drop (n + 1) := by
    rw [← (List.getElem?_eq_some_iff.mp hq).2, ← List.drop_eq_getElem_cons hn, List.take_append_drop]
  have hbefore : Idle e replies c (qs.take n) sad (qs.take n).length := by
    intro i hi q' hq'
    rw [hlen] at hi
    rw [List.getElem?_take_of_lt hi] at hq'
    exact hidle i hi q' hq'
  have hdir : (mobikeMigrateDir e q (replies (c + n)) sad).2 = none := (mobikeMigrateDir_none sad).mpr (.inl hfail)
  rw [hsplit, migrateDirs_append, migrateDirs_idle hbefore, if_neg Bool.false_ne_true, hlen,
    migrateDirs_none hdir]
  refine ⟨rfl, ?_⟩
  dsimp only
  rw [mobikeMigrateDir_sad]
  split
  · rename_i hcarried
    apply migrateAll_idle
    rw [List.any_eq_false]
    intro x hx
    rw [hnone hcarried x hx]
    exact Bool.false_ne_true
  · rfl

/-- an SA stays as it is or has the new endpoints -/
theorem migrateDirs_map (qs : List MigrateRequest) (w : Moves) :
    ∃ g : ChildKernelSa → ChildKernelSa, (migrateDirs e replies qs w).1.sad = w.sad.map g ∧
      ∀ x, g x = x ∨ (g x).OnNew e := by
  induction qs generalizing w with
  | nil => exact ⟨id, (List.map_id _).symm, fun x => .inl rfl⟩
  | cons q qs ih =>
    have hdir : ∃ g : ChildKernelSa → ChildKernelSa,
        (mobikeMigrateDir e q (replies w.calls) w.sad).1 = w.sad.map g ∧ ∀ x, g x = x ∨ (g x).OnNew e := by
      rw [mobikeMigrateDir_sad]
      split
      · refine ⟨_, rfl, fun x => ?_⟩
        split
        · exact .inr (move_onNew x)
        · exact .inl rfl
      · exact ⟨id, (List.map_id _).symm, fun x => .inl rfl⟩
    cases hone : (mobikeMigrateDir e q (replies w.calls) w.sad).2 with
    | none =>
      rw [migrateDirs_none hone]
      exact hdir
    | some k =>
      obtain ⟨g, hg, hnew⟩ := hdir
      rw [migrateDirs_some hone, hg]
      obtain ⟨g', hg', hnew'⟩ := ih ⟨w.sad.map g, w.moved + k, w.calls + 1⟩
      refine ⟨g' ∘ g, by rw [hg', List.map_map], fun x => ?_⟩
      obtain h | h := hnew' (g x)
      · rw [Function.comp_apply, h]
        exact hnew x
      · exact .inr h

/-- with a change of address, only requests that find nothing leave everything as it was -/
theorem migrateDirs_kept (hagain : e.again = false) (h : (migrateDirs e replies qs ⟨sad, m, c⟩).2 = true)
    (hkept : (migrateDirs e replies qs ⟨sad, m, c⟩).1.sad = sad) : FailsFirst e replies c qs sad := by
  induction qs generalizing m c with
  | nil => cases h
  | cons q qs ih =>
    -- no SA is found by a request that was carried out
    have hnone : (replies c 0).carried = true → ∀ x ∈ sad, q.hits e x = false := by
      intro hcarried x hx
      rw [← Bool.not_eq_true]
      intro hhit
      have hleft : ¬ x.OnNew e := not_onNew_of_hits hagain hhit
      have hdir : (mobikeMigrateDir e q (replies c) sad).1 = migrateAll e q sad := by
        rw [mobikeMigrateDir_sad, if_pos hcarried]
      have hmap : ∃ g : ChildKernelSa → ChildKernelSa,
          (migrateDirs e replies (q :: qs) ⟨sad, m, c⟩).1.sad = (migrateAll e q sad).map g ∧
            ∀ x, g x = x ∨ (g x).OnNew e := by
        cases hone : (mobikeMigrateDir e q (replies c) sad).2 with
        | none =>
          rw [migrateDirs_none hone]
          exact ⟨id, hdir.trans (List.map_id _).symm, fun x => .inl rfl⟩
        | some k =>
          rw [migrateDirs_some hone, hdir]
          exact migrateDirs_map qs _
      obtain ⟨g, hg, hnew⟩ := hmap
      unfold migrateAll at hg
      rw [hkept, List.map_map] at hg
      have hsame : sad.map id = sad.map (g ∘ fun x => if q.hits e x then x.move e else x) := by
        rw [List.map_id]
        exact hg
      have hx' : x = g (if q.hits e x then x.move e else x) := List.map_inj_left.mp hsame x hx
      rw [if_pos hhit] at hx'
      obtain heq | hon := hnew (x.move e)
      · rw [heq] at hx'
        exact hleft (hx' ▸ move_onNew x)
      · exact hleft (hx' ▸ hon)
    by_cases hfail : (replies c 0).fails = true
    · exact ⟨0, q, rfl, fun i hi => absurd hi (Nat.not_lt_zero _), hfail, hnone⟩
    · have hone : ¬ (replies c 0 = .ok ∧ sad.any (q.hits e) = true) := by
        rintro ⟨hok, hhit⟩
        obtain ⟨x, hx, hhit⟩ := List.any_eq_true.mp hhit
        rw [hnone (carried_of_ok hok) x hx] at hhit
        cases hhit
      cases hdir : (mobikeMigrateDir e q (replies c) sad).2 with
      | none =>
        obtain hno | ⟨hok, hhit, -⟩ := (mobikeMigrateDir_none sad).mp hdir
        · exact absurd hno hfail
        · exact absurd ⟨hok, hhit⟩ hone
      | some k =>
        rw [Bool.not_eq_true] at hfail
        rw [migrateDirs_some hdir, mobikeMigrateDir_after hfail, afterRequest_idle hone] at h hkept
        obtain ⟨n, q', hq', hidle, hfail', hnone'⟩ := ih h hkept
        rw [Nat.add_assoc, Nat.add_comm 1] at hfail' hnone'
        refine ⟨n + 1, q', hq', ?_, hfail', hnone'⟩
        intro i hi q'' hq''
        cases i with
        | zero =>
          cases hq''
          exact ⟨hfail, fun hok => hnone (carried_of_ok hok)⟩
        | succ i =>
          have h' := hidle i (Nat.lt_of_succ_lt_succ hi) q'' hq''
          rw [Nat.add_assoc, Nat.add_comm 1] at h'
          exact h'

end

end

/-! ## the move -/

section
variable {e : MoveEnv} {kind : MigrateKernel} {replies : MigrateReplies}

theorem mobikeMigrateChildren_requests (e : MoveEnv) (replies : MigrateReplies) :
    (mobikeMigrateChildren e replies).1
      = (migrateDirs e replies (moveRequests e) ⟨e.state.sad, 0, 0⟩).1.sad ∧
    ((mobikeMigrateChildren e replies).2 = true ↔
      (migrateDirs e replies (moveRequests e) ⟨e.state.sad, 0, 0⟩).2 = false ∧
        (moveRequests e = [] ∨ (migrateDirs e replies (moveRequests e) ⟨e.state.sad, 0, 0⟩).1.moved ≠ 0)) := by
  have hloop : ∃ seen, Carries e replies _ seen _
      (migrateChildrenLoop e replies e.state.children ⟨⟨e.state.sad, 0, 0⟩, [], false⟩) :=
    migrateChildrenLoop_requests e.state.children ⟨⟨e.state.sad, 0, 0⟩, [], false⟩
  obtain ⟨seen, hmoves, -, hsaw⟩ := hloop
  have hqs : childrenRequests e.state.children [] = moveRequests e := rfl
  rw [hqs] at hmoves hsaw
  unfold mobikeMigrateChildren
  dsimp only
  rw [← hmoves]
  refine ⟨rfl, ?_⟩
  dsimp only
  cases hfail : (migrateChildrenLoop e replies e.state.children ⟨⟨e.state.sad, 0, 0⟩, [], false⟩).2 with
  | true => simp
  | false =>
    have hsaw' := hsaw hfail
    simp only [Bool.false_eq_true, false_or] at hsaw'
    rw [and_iff_right rfl, Bool.false_or, Bool.not_eq_true', Bool.and_eq_false_iff, beq_eq_false_iff_ne]
    refine or_congr_left ?_
    rw [← Bool.not_eq_true, hsaw', not_not]

theorem sameEndpoint_refl (a : Endpoint) : sameEndpoint a a = true := by
  simp [sameEndpoint, sameAddr]

/-- in memory a committed move is complete -/
theorem commitMove_onNew {sad : List ChildKernelSa} :
    OnNew e (commitMove e sad) ↔ ∀ x ∈ sad, x.OnNew e := by
  constructor
  · intro h
    exact h.sad
  · intro h
    refine ⟨h, sameEndpoint_refl _, sameEndpoint_refl _, ?_, ?_, ?_⟩
    · intro c hc
      obtain ⟨c', -, rfl⟩ := List.mem_map.mp hc
      exact ⟨sameEndpoint_refl _, sameEndpoint_refl _⟩
    · intro p hp
      obtain ⟨p', -, rfl⟩ := Option.map_eq_some_iff.mp hp
      exact ⟨sameEndpoint_refl _, sameEndpoint_refl _⟩
    · intro p hp
      obtain ⟨p', -, rfl⟩ := Option.map_eq_some_iff.mp hp
      exact ⟨sameEndpoint_refl _, sameEndpoint_refl _⟩

theorem moveRight_ok {s : MoveState} : MoveRight e (s, true) ↔ OnNew e s :=
  ⟨fun h => h.moved rfl, fun h => ⟨fun _ => h, fun hno => (nomatch hno)⟩⟩

theorem moveRight_failed {sad : List ChildKernelSa} :
    MoveRight e ({ e.state with sad := sad }, false) ↔ sad = e.state.sad := by
  constructor
  · intro h
    exact congrArg MoveState.sad (h.kept rfl)
  · intro h
    refine ⟨fun hno => (nomatch hno), fun _ => ?_⟩
    rw [h]

/-- the kernel is asked, and the move reports success -/
theorem moved_iff (hok : (mobikeMigrateChildren e replies).2 = true) :
    (∀ x ∈ (mobikeMigrateChildren e replies).1, x.OnNew e) ↔ AllMoved e replies := by
  obtain ⟨hsad, hiff⟩ := mobikeMigrateChildren_requests e replies
  obtain ⟨hdirs, hsome⟩ := hiff.mp hok
  rw [hsad, migrateDirs_onNew hdirs]
  constructor
  · intro h
    refine ⟨(migrateDirs_ok _ _ _ _).mp hdirs, h, hsome.imp_right fun hmoved => ?_⟩
    by_contra hno
    apply hmoved
    rw [(migrateDirs_moved hdirs).2]
    intro x hx hcov
    exact hno ⟨x, hx, hcov⟩
  · intro h
    exact h.covered

theorem AllMoved.succeeds (h : AllMoved e replies) : (mobikeMigrateChildren e replies).2 = true := by
  have hdirs := (migrateDirs_ok (moveRequests e) e.state.sad 0 0).mpr h.quiet
  refine (mobikeMigrateChildren_requests e replies).2.mpr ⟨hdirs, h.some.imp_right ?_⟩
  rintro ⟨x, hx, hcov⟩ hmoved
  exact (migrateDirs_moved hdirs).2.mp hmoved x hx hcov

theorem NothingMoved.fails (h : NothingMoved e replies) :
    (mobikeMigrateChildren e replies).2 = false ∧ (mobikeMigrateChildren e replies).1 = e.state.sad := by
  obtain ⟨hsad, hiff⟩ := mobikeMigrateChildren_requests e replies
  rw [← Bool.not_eq_true, hiff, hsad]
  obtain h | ⟨hne, hidle⟩ := h
  · obtain ⟨hfail, hkept⟩ := migrateDirs_failsFirst (m := 0) h
    refine ⟨?_, hkept⟩
    rw [hfail]
    rintro ⟨hno, -⟩
    cases hno
  · rw [migrateDirs_idle hidle]
    refine ⟨?_, rfl⟩
    rintro ⟨-, hno | hno⟩
    · exact hne hno
    · exact hno rfl

/-- the kernel is asked, the move reports failure and nothing has changed -/
theorem nothingMoved_of_kept (hagain : e.again = false) (hfail : (mobikeMigrateChildren e replies).2 = false)
    (hkept : (mobikeMigrateChildren e replies).1 = e.state.sad) : NothingMoved e replies := by
  obtain ⟨hsad, hiff⟩ := mobikeMigrateChildren_requests e replies
  rw [hsad] at hkept
  cases hdirs : (migrateDirs e replies (moveRequests e) ⟨e.state.sad, 0, 0⟩).2 with
  | true => exact .inl (migrateDirs_kept hagain hdirs hkept)
  | false =>
    rw [← Bool.not_eq_true, hiff, hdirs, and_iff_right rfl, not_or, not_not] at hfail
    have hnone := (migrateDirs_moved hdirs).2.mp hfail.2
    have hquiet := (migrateDirs_ok _ _ _ _).mp hdirs
    refine .inr ⟨hfail.1, ?_⟩
    intro i hi q hq
    refine ⟨(hquiet i q hq).1, ?_⟩
    intro hok x hx
    rw [← Bool.not_eq_true]
    intro hhit
    exact hnone x hx ⟨i, q, hq, hok, hhit⟩

theorem moveSaImpl_nothing (h : MovesNothing e kind) : moveSaImpl e kind replies = (e.state, true) := if_pos h

theorem moveSaImpl_memory (h : ¬ MovesNothing e kind) (hno : kind = .no) :
    moveSaImpl e kind replies = (commitMove e e.state.sad, true) := (if_neg h).trans (if_pos hno)

theorem moveSaImpl_asks (h : ¬ MovesNothing e kind) (hno : kind ≠ .no) :
    moveSaImpl e kind replies
      = if (mobikeMigrateChildren e replies).2 then (commitMove e (mobikeMigrateChildren e replies).1, true)
        else ({ e.state with sad := (mobikeMigrateChildren e replies).1 }, false) :=
  (if_neg h).trans (if_neg hno)

theorem moveSaImpl_fits (h : MoveFits e kind replies) : MoveRight e (moveSaImpl e kind replies) := by
  unfold MoveFits at h
  split at h
  · rename_i hearly
    rw [moveSaImpl_nothing hearly]
    exact moveRight_ok.mpr h
  · rename_i hearly
    split at h
    · rename_i hno
      rw [moveSaImpl_memory hearly hno]
      exact moveRight_ok.mpr (commitMove_onNew.mpr h)
    · rename_i hno
      rw [moveSaImpl_asks hearly hno]
      obtain h | h := h
      · obtain ⟨hfail, hkept⟩ := h.fails
        rw [hfail, if_neg Bool.false_ne_true]
        exact moveRight_failed.mpr hkept
      · rw [if_pos h.succeeds]
        exact moveRight_ok.mpr (commitMove_onNew.mpr ((moved_iff h.succeeds).mpr h))

theorem moveFits_of_right (hagain : ¬ MovesNothing e kind → kind ≠ .no → e.again = false)
    (h : MoveRight e (moveSaImpl e kind replies)) : MoveFits e kind replies := by
  unfold MoveFits
  split
  · rename_i hearly
    rw [moveSaImpl_nothing hearly] at h
    exact moveRight_ok.mp h
  · rename_i hearly
    split
    · rename_i hno
      rw [moveSaImpl_memory hearly hno] at h
      exact commitMove_onNew.mp (moveRight_ok.mp h)
    · rename_i hno
      rw [moveSaImpl_asks hearly hno] at h
      cases hok : (mobikeMigrateChildren e replies).2 with
      | true =>
        rw [hok, if_pos rfl] at h
        exact .inr ((moved_iff hok).mp (commitMove_onNew.mp (moveRight_ok.mp h)))
      | false =>
        rw [hok, if_neg Bool.false_ne_true] at h
        exact .inl (nothingMoved_of_kept (hagain hearly hno) hok (moveRight_failed.mp h))

end

/-- what a move is about: the state, and the new endpoints with their ports -/
def moveEnv (s : MoveState) (remote localEnd : Endpoint) : MoveEnv :=
  ⟨s, natFloatPort s localEnd, natFloatPort s remote⟩

/-- **a move is complete or nothing.**  The condition is enough; unless the kernel is asked to migrate without
a change of address, there is no other case. -/
theorem move_sa_all_or_nothing (s : MoveState) (remote localEnd : Endpoint) (kind : MigrateKernel)
    (replies : MigrateReplies) :
    (MoveFits (moveEnv s remote localEnd) kind replies →
      MoveRight (moveEnv s remote localEnd) (ikeMoveSa s remote localEnd kind replies)) ∧
    ((¬ MovesNothing (moveEnv s remote localEnd) kind → kind ≠ .no → (moveEnv s remote localEnd).again = false) →
      MoveRight (moveEnv s remote localEnd) (ikeMoveSa s remote localEnd kind replies) →
      MoveFits (moveEnv s remote localEnd) kind replies) :=
  ⟨moveSaImpl_fits, moveFits_of_right⟩

/-! a tunnel with an SA in each direction, whose peer goes from 192.0.2.1 to 192.0.2.9 -/

def hereEnd : Endpoint := .v4 198 51 100 1 500
def peerOld : Endpoint := .v4 192 0 2 1 500
def peerNew : Endpoint := .v4 192 0 2 9 500

def lanAddr : SelAddr := ⟨.inet, [10, 1, 0, 0], 16⟩
def farAddr : SelAddr := ⟨.inet, [10, 2, 0, 0], 16⟩

def roamingChild : MoveChild := ⟨[⟨some .tunnel, some lanAddr, some farAddr, false, 1⟩], [], hereEnd, peerOld⟩

def roamingSa : MoveState where
  localEnd := hereEnd
  remote := peerOld
  children := [roamingChild]
  transmitInfo := none
  responseInfo := none
  behindNat := false
  peerBehindNat := false
  tcpEncap := false
  nattForce := false
  sad := [⟨.outbound, lanAddr, farAddr, 1, hereEnd.kernel, peerOld.kernel, none⟩,
    ⟨.inbound, farAddr, lanAddr, 1, peerOld.kernel, hereEnd.kernel, none⟩]

/-- every request is carried out -/
def allMigrate : MigrateReplies := fun _ _ => .ok

theorem move_sa_all_or_nothing_roaming :
    MoveFits (moveEnv roamingSa peerNew hereEnd) .yes allMigrate ∧
    MoveRight (moveEnv roamingSa peerNew hereEnd) (ikeMoveSa roamingSa peerNew hereEnd .yes allMigrate) := by
  have hmoved : ikeMoveSa roamingSa peerNew hereEnd .yes allMigrate
      = (commitMove (moveEnv roamingSa peerNew hereEnd)
          (roamingSa.sad.map (ChildKernelSa.move (moveEnv roamingSa peerNew hereEnd))), true) := by decide
  have hright : MoveRight (moveEnv roamingSa peerNew hereEnd)
      (ikeMoveSa roamingSa peerNew hereEnd .yes allMigrate) := by
    rw [hmoved]
    refine moveRight_ok.mpr (commitMove_onNew.mpr ?_)
    intro y hy
    obtain ⟨x, -, rfl⟩ := List.mem_map.mp hy
    exact move_onNew x
  have hfits := (move_sa_all_or_nothing roamingSa peerNew hereEnd .yes allMigrate).2 (fun _ _ => by decide) hright
  exact ⟨hfits, (move_sa_all_or_nothing roamingSa peerNew hereEnd .yes allMigrate).1 hfits⟩

/-- the inbound request is refused with EPERM: the move fails, with the outbound SA on the new endpoints -/
theorem move_sa_leaves_half :
    (ikeMoveSa roamingSa peerNew hereEnd .yes fun i _ => if i = 1 then .error 1 false else .ok).2 = false ∧
    ¬ MoveRight (moveEnv roamingSa peerNew hereEnd)
      (ikeMoveSa roamingSa peerNew hereEnd .yes fun i _ => if i = 1 then .error 1 false else .ok) := by
  have hfail : (ikeMoveSa roamingSa peerNew hereEnd .yes
      fun i _ => if i = 1 then .error 1 false else .ok).2 = false := by decide
  refine ⟨hfail, ?_⟩
  intro h
  have hkept := h.kept hfail
  revert hkept
  decide

end Ikev2
