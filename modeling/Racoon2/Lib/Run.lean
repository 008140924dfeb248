import Mathlib.Data.List.Basic

/-!
# Runs of a step function

A system is a step function `step : σ → ε → σ`: the state after an event.

* `states step s es`    the states of a run, the first one included;
* `Meets step ok s es`  every event of the run comes in a state where `ok` allows it;
* `states_inv`          what one allowed event keeps, a run of allowed events keeps;
* `states_inv_all`      what every event keeps, every run keeps;
* `meets_concat`        one more event;
* `foldl_mem_states`    the last state of a run;
* `map_states`          a run seen through a function of the state;
* `foldl_refines`       the same for a run of allowed events, by an invariant.
-/

namespace Run

variable {σ ε : Type} (step : σ → ε → σ)

def states : σ → List ε → List σ
  | s, [] => [s]
  | s, e :: es => s :: states (step s e) es

def Meets (ok : σ → ε → Prop) : σ → List ε → Prop
  | _, [] => True
  | s, e :: es => ok s e ∧ Meets ok (step s e) es

instance Meets.decidable (ok : σ → ε → Prop) [∀ s e, Decidable (ok s e)] :
    ∀ (s : σ) (es : List ε), Decidable (Meets step ok s es)
  | _, [] => inferInstanceAs (Decidable True)
  | s, e :: es =>
    have := Meets.decidable ok (step s e) es
    inferInstanceAs (Decidable (ok s e ∧ Meets step ok (step s e) es))

variable {step} {ok : σ → ε → Prop} {Inv : σ → Prop}

theorem states_inv (hstep : ∀ s e, Inv s → ok s e → Inv (step s e)) (es : List ε) :
    ∀ s, Inv s → Meets step ok s es → ∀ s' ∈ states step s es, Inv s' := by
  induction es with
  | nil =>
    intro s h _ s' hmem
    rw [List.mem_singleton.mp hmem]
    exact h
  | cons e es ih =>
    intro s h hmeets s' hmem
    rcases List.mem_cons.mp hmem with rfl | hmem
    · exact h
    · exact ih (step s e) (hstep s e h hmeets.1) hmeets.2 s' hmem

theorem meets_of_forall (h : ∀ s e, ok s e) (es : List ε) : ∀ s, Meets step ok s es := by
  induction es with
  | nil => exact fun _ => trivial
  | cons e es ih => exact fun s => ⟨h s e, ih (step s e)⟩

theorem states_inv_all (hstep : ∀ s e, Inv s → Inv (step s e)) (es : List ε) {s : σ} (h : Inv s) :
    ∀ s' ∈ states step s es, Inv s' := by
  have hmeets : Meets step (fun _ _ => True) s es := meets_of_forall (fun _ _ => trivial) es s
  exact states_inv (fun s e hs _ => hstep s e hs) es s h hmeets

theorem meets_concat (e : ε) (es : List ε) :
    ∀ s, Meets step ok s (es ++ [e]) ↔ Meets step ok s es ∧ ok (es.foldl step s) e := by
  induction es with
  | nil =>
    intro s
    show ok s e ∧ True ↔ True ∧ ok s e
    rw [and_true, true_and]
  | cons e' es ih =>
    intro s
    show ok s e' ∧ Meets step ok (step s e') (es ++ [e]) ↔ (ok s e' ∧ Meets step ok (step s e') es) ∧ _
    rw [ih, and_assoc]
    rfl

theorem foldl_mem_states (es : List ε) : ∀ s, es.foldl step s ∈ states step s es := by
  induction es with
  | nil => exact fun s => List.mem_singleton_self s
  | cons e es ih => exact fun s => List.mem_cons_of_mem s (ih (step s e))

theorem map_states {τ : Type} {step' : τ → ε → τ} {f : σ → τ}
    (h : ∀ s e, f (step s e) = step' (f s) e) (es : List ε) :
    ∀ s, (states step s es).map f = states step' (f s) es := by
  induction es with
  | nil => exact fun s => rfl
  | cons e es ih =>
    intro s
    rw [states, states, List.map_cons, ih, h]

theorem foldl_refines {τ : Type} {step' : τ → ε → τ} {f : σ → τ}
    (hstep : ∀ s e, Inv s → ok s e → Inv (step s e) ∧ f (step s e) = step' (f s) e) (es : List ε) :
    ∀ s, Inv s → Meets step ok s es → f (es.foldl step s) = es.foldl step' (f s) := by
  induction es with
  | nil => exact fun s _ _ => rfl
  | cons e es ih =>
    intro s h hmeets
    obtain ⟨hinv, heq⟩ := hstep s e h hmeets.1
    rw [List.foldl_cons, List.foldl_cons, ih (step s e) hinv hmeets.2, heq]

end Run
