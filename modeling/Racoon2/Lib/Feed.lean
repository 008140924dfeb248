import Mathlib.Data.List.Basic

/-!
# Machines that are fed a stream in pieces

A machine takes one symbol at a time: `step s a` is the state after `a`, and whether the machine goes
on.  A function that is handed whole pieces is a machine too, whose symbols are the pieces.

* `run step s as`    the machine on a string, up to the symbol it fails at;
* `run_append`       a string in two parts;
* `run_inv`          what a step that goes on keeps, a run that goes on keeps;
* `run_flatten`      a function that does with each piece what the machine does with its symbols does
                     with the pieces what the machine does with the stream, however it is cut.
-/

namespace Feed

variable {σ α : Type} (step : σ → α → σ × Bool)

def run : σ → List α → σ × Bool
  | s, [] => (s, true)
  | s, a :: as => if (step s a).2 then run (step s a).1 as else ((step s a).1, false)

theorem run_nil (s : σ) : run step s [] = (s, true) := rfl

variable {step}

theorem run_cons_on {s s' : σ} {a : α} (h : step s a = (s', true)) (as : List α) :
    run step s (a :: as) = run step s' as := by
  rw [run, h]
  rfl

theorem run_cons_off {s s' : σ} {a : α} (h : step s a = (s', false)) (as : List α) :
    run step s (a :: as) = (s', false) := by
  rw [run, h]
  rfl

theorem run_singleton (s : σ) (a : α) : run step s [a] = step s a := by
  rcases h : step s a with ⟨s', go⟩
  cases go with
  | true => rw [run_cons_on h, run_nil]
  | false => rw [run_cons_off h]

theorem run_append (as bs : List α) : ∀ s : σ, run step s (as ++ bs)
    = if (run step s as).2 then run step (run step s as).1 bs else run step s as := by
  induction as with
  | nil => exact fun s => rfl
  | cons a as ih =>
    intro s
    rcases h : step s a with ⟨s', go⟩
    cases go with
    | true => rw [List.cons_append, run_cons_on h, run_cons_on h, ih]
    | false =>
      rw [List.cons_append, run_cons_off h, run_cons_off h]
      rfl

theorem run_append_on {s s' : σ} {as : List α} (h : run step s as = (s', true)) (bs : List α) :
    run step s (as ++ bs) = run step s' bs := by
  rw [run_append, h]
  rfl

theorem run_append_off {s s' : σ} {as : List α} (h : run step s as = (s', false)) (bs : List α) :
    run step s (as ++ bs) = (s', false) := by
  rw [run_append, h]
  rfl

theorem run_inv (Inv : σ → Prop)
    (hstep : ∀ s a, Inv s → (step s a).2 = true → Inv (step s a).1) (as : List α) :
    ∀ s, Inv s → (run step s as).2 = true → Inv (run step s as).1 := by
  induction as with
  | nil => exact fun s hs _ => hs
  | cons a as ih =>
    intro s hs
    rcases h : step s a with ⟨s', go⟩
    cases go with
    | true =>
      rw [run_cons_on h]
      have hs' := hstep s a hs (by rw [h])
      rw [h] at hs'
      exact ih s' hs'
    | false =>
      rw [run_cons_off h]
      intro hoff
      cases hoff

theorem run_flatten (Inv : σ → Prop) {feed : σ → List α → σ × Bool}
    (hstep : ∀ s a, Inv s → (step s a).2 = true → Inv (step s a).1)
    (hfeed : ∀ s c, Inv s → feed s c = run step s c) (cs : List (List α)) :
    ∀ s, Inv s → run feed s cs = run step s cs.flatten := by
  induction cs with
  | nil => exact fun s _ => rfl
  | cons c cs ih =>
    intro s hs
    rcases h : run step s c with ⟨s', go⟩
    have hc : feed s c = (s', go) := (hfeed s c hs).trans h
    rw [List.flatten_cons]
    cases go with
    | true =>
      rw [run_cons_on hc, run_append_on h]
      have hs' := run_inv Inv hstep c s hs (by rw [h])
      rw [h] at hs'
      exact ih s' hs'
    | false => rw [run_cons_off hc, run_append_off h]

end Feed
