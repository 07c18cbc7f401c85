import Mathlib.Data.List.Induction
import Mathlib.Data.Option.Basic

/-!
# Runs of an executable transition system

A system is given by a step function `step : σ → ε → Option σ`: in state `s` the event `e`
either takes place and yields the next state, or is refused.  This file collects what every
later argument about whole runs needs:

* `run`, the state after a list of events, and how it composes (`run_append`, `run_concat`);
* `run_invariant`, the induction rule for a property that every step keeps, and `run_history` for
  one that speaks of the events as well;
* `Along`, "every step of the run meets a condition", and the matching rule
  `run_invariant_along` for a property that only such steps keep.
-/

namespace Run

variable {σ ε : Type*} (step : σ → ε → Option σ)

/-- The state after the events of a list, if none of them is refused. -/
def run : σ → List ε → Option σ
  | s, [] => some s
  | s, e :: es => (step s e).bind fun next => run next es

@[simp]
lemma run_nil (s : σ) : run step s [] = some s :=
  rfl

@[simp]
lemma run_cons (s : σ) (e : ε) (es : List ε) :
    run step s (e :: es) = (step s e).bind fun next => run step next es :=
  rfl

lemma run_append (s : σ) (es fs : List ε) :
    run step s (es ++ fs) = (run step s es).bind fun next => run step next fs := by
  induction es generalizing s with
  | nil =>
    rfl
  | cons _ _ ih =>
    simp only [List.cons_append, run_cons, Option.bind_assoc, ih]

lemma run_concat (s : σ) (es : List ε) (e : ε) :
    run step s (es ++ [e]) = (run step s es).bind fun next => step next e := by
  simp only [run_append, run_cons, run_nil, Option.bind_fun_some]

variable {step}

variable {s t : σ} {es : List ε}

/-- A run that ends with the event `e` passes through the state in which `e` took place. -/
lemma run_concat_eq_some {e : ε} (h : run step s (es ++ [e]) = some t) :
    ∃ r, run step s es = some r ∧ step r e = some t := by
  rw [run_concat] at h
  exact Option.bind_eq_some_iff.mp h

lemma run_append_eq_some {fs : List ε} (h : run step s (es ++ fs) = some t) :
    ∃ r, run step s es = some r ∧ run step r fs = some t := by
  rw [run_append] at h
  exact Option.bind_eq_some_iff.mp h

lemma run_cons_eq_some {e : ε} (h : run step s (e :: es) = some t) :
    ∃ r, step s e = some r ∧ run step r es = some t :=
  Option.bind_eq_some_iff.mp h

/-- **The invariant rule.**  What holds at the start and is kept by every step holds at the end
of every run. -/
lemma run_invariant {P : σ → Prop} (hstep : ∀ s e t, P s → step s e = some t → P t)
    {s t : σ} {es : List ε} (hs : P s) (h : run step s es = some t) : P t := by
  induction es generalizing s with
  | nil =>
    cases h
    exact hs
  | cons e _ ih =>
    obtain ⟨r, hr, ht⟩ := run_cons_eq_some h
    exact ih (hstep s e r hs hr) ht

/-- **The invariant rule with a history.**  As `run_invariant`, for a property of the events so far
and the state they lead to. -/
lemma run_history {P : List ε → σ → Prop}
    (hstep : ∀ es r e t, run step s es = some r → P es r → step r e = some t → P (es ++ [e]) t)
    (hs : P [] s) (h : run step s es = some t) : P es t := by
  induction es using List.reverseRecOn generalizing t with
  | nil =>
    cases h
    exact hs
  | append_singleton es e ih =>
    obtain ⟨r, hr, ht⟩ := run_concat_eq_some h
    exact hstep es r e t hr (ih hr) ht

variable (step)

/-- Every step of the run from `s` along the events meets the condition `C` on the state before
the step and the event. -/
def Along (C : σ → ε → Prop) : σ → List ε → Prop
  | _, [] => True
  | s, e :: es => C s e ∧ ∀ next ∈ step s e, Along C next es

instance Along.decidable {C : σ → ε → Prop} [∀ s e, Decidable (C s e)] :
    (s : σ) → (es : List ε) → Decidable (Along step C s es)
  | _, [] => isTrue trivial
  | s, e :: es =>
    have : ∀ next, Decidable (Along step C next es) := fun next => Along.decidable next es
    inferInstanceAs (Decidable (C s e ∧ ∀ next ∈ step s e, Along step C next es))

variable {step}

variable {C : σ → ε → Prop}

lemma along_of_forall (hC : ∀ s e, C s e) : Along step C s es := by
  induction es generalizing s with
  | nil => trivial
  | cons e _ ih => exact ⟨hC s e, fun _ _ => ih⟩

lemma Along.mono {C' : σ → ε → Prop} (hC : ∀ s e, C s e → C' s e)
    (h : Along step C s es) : Along step C' s es := by
  induction es generalizing s with
  | nil => trivial
  | cons e _ ih => exact ⟨hC s e h.1, fun next hnext => ih (h.2 next hnext)⟩

/-- **The invariant rule under a condition.**  What holds at the start and is kept by every step
that meets `C` holds at the end of every run whose steps all meet `C`. -/
lemma run_invariant_along {P : σ → Prop} (hstep : ∀ s e t, P s → C s e → step s e = some t → P t)
    {s t : σ} {es : List ε} (hs : P s) (hC : Along step C s es) (h : run step s es = some t) : P t := by
  induction es generalizing s with
  | nil =>
    cases h
    exact hs
  | cons e _ ih =>
    obtain ⟨r, hr, ht⟩ := run_cons_eq_some h
    exact ih (hstep s e r hs hC.1 hr) (hC.2 r hr) ht

/-- A run of good steps is one up to any point, and one from there on. -/
lemma Along.split {fs : List ε} (h : Along step C s (es ++ fs)) (ht : run step s es = some t) :
    Along step C s es ∧ Along step C t fs := by
  induction es generalizing s with
  | nil =>
    cases ht
    exact ⟨trivial, h⟩
  | cons _ _ ih =>
    obtain ⟨r, hr, hrest⟩ := run_cons_eq_some ht
    refine ⟨⟨h.1, fun next hnext => ?_⟩, (ih (h.2 r hr) hrest).2⟩
    cases hr.symm.trans hnext
    exact (ih (h.2 r hr) hrest).1

/-! ### Evaluating a run -/

section

variable {α : Type*} {o : Option α}

/-- What holds of the end of a run can be decided by running it. -/
instance decidableExistsSomeAnd {P : α → Prop} [DecidablePred P] : Decidable (∃ a, o = some a ∧ P a) :=
  inferInstanceAs (Decidable (∃ a ∈ o, P a))

/-- What was evaluated, with what follows from it. -/
lemma exists_some_and {P Q : α → Prop} (h : ∃ a, o = some a ∧ P a)
    (hQ : ∀ a, o = some a → P a → Q a) : ∃ a, o = some a ∧ P a ∧ Q a :=
  let ⟨a, ha, hP⟩ := h
  ⟨a, ha, hP, hQ a ha hP⟩

lemma exists_some_of {P Q : α → Prop} (h : ∃ a, o = some a ∧ P a)
    (hQ : ∀ a, o = some a → P a → Q a) : ∃ a, o = some a ∧ Q a :=
  (exists_some_and h hQ).imp fun _ h => ⟨h.1, h.2.2⟩

end

end Run
