import Mathlib.Data.List.Basic

/-!
# Functions that check and return

A function that checks its input and goes on, or returns an error, is a computation in `Except`.
`require` is one check. What a successful call says is read off step by step: `bind_eq_ok` for a
step with a result, `require_bind_eq_ok` for a check, and `foldlM_invariant` for a loop that may
return early.  A loop whose steps commute does not depend on the order of its items, `foldlM_perm`.
-/

namespace Checks

universe u

variable {ε : Type*} {α β σ : Type u}

/-- Go on if the condition holds, return the error otherwise. -/
def require (condition : Prop) [Decidable condition] (error : ε) : Except ε Unit :=
  if condition then .ok () else .error error

variable {x : Except ε α}

lemma bind_eq_ok {f : α → Except ε β} {b : β} :
    (x >>= f) = .ok b ↔ ∃ a, x = .ok a ∧ f a = .ok b := by
  cases x with
  | error => exact ⟨fun h => (nomatch h), fun ⟨_, h, _⟩ => (nomatch h)⟩
  | ok a => exact ⟨fun h => ⟨a, rfl, h⟩, fun ⟨_, h, hf⟩ => by cases h; exact hf⟩

lemma toOption_eq_some {a : α} : x.toOption = some a ↔ x = .ok a := by
  cases x with
  | error => exact ⟨fun h => (nomatch h), fun h => (nomatch h)⟩
  | ok => exact ⟨fun h => congrArg Except.ok (Option.some.inj h), fun h => by cases h; rfl⟩

/-- A call that is known to succeed, with its result. -/
lemma eq_ok_of_isSome (fallback : α) (h : x.toOption.isSome = true) :
    x = .ok (x.toOption.getD fallback) := by
  obtain ⟨_, ha⟩ := Option.isSome_iff_exists.mp h
  rw [ha, Option.getD_some, toOption_eq_some.mp ha]

lemma mapError_eq_ok {ε' : Type*} {f : ε → ε'} {a : α} : x.mapError f = .ok a ↔ x = .ok a := by
  cases x with
  | error => exact ⟨fun h => (nomatch h), fun h => (nomatch h)⟩
  | ok => exact ⟨fun h => by cases h; rfl, fun h => by cases h; rfl⟩

variable {condition : Prop}

lemma require_eq_ok [Decidable condition] {error : ε} {u : Unit} :
    require condition error = .ok u ↔ condition := by
  rw [require]
  split
  · exact iff_of_true rfl ‹_›
  · exact iff_of_false (fun h => nomatch h) ‹_›

/-- A check that passes can be left out. -/
lemma require_of_true [Decidable condition] {error : ε} {β : Type} {f : Unit → Except ε β}
    (h : condition) : (require condition error >>= f) = f () := by
  rw [require, if_pos h]
  rfl

lemma require_bind_eq_ok [Decidable condition] {error : ε} {β : Type} {f : Unit → Except ε β} {b : β} :
    (require condition error >>= f) = .ok b ↔ condition ∧ f () = .ok b := by
  rw [bind_eq_ok]
  exact ⟨fun ⟨_, h, hf⟩ => ⟨require_eq_ok.mp h, hf⟩, fun ⟨h, hf⟩ => ⟨(), require_eq_ok.mpr h, hf⟩⟩

/-- A loop that may return early keeps what each of its steps keeps. -/
theorem foldlM_invariant {step : σ → α → Except ε σ} {I : σ → Prop} {items : List α} {s t : σ}
    (hstep : ∀ a ∈ items, ∀ s t, I s → step s a = .ok t → I t) (hs : I s)
    (h : items.foldlM step s = .ok t) : I t := by
  induction items generalizing s with
  | nil =>
    rw [List.foldlM_nil] at h
    cases h
    exact hs
  | cons a _ ih =>
    rw [List.foldlM_cons, bind_eq_ok] at h
    obtain ⟨u, hfirst, hrest⟩ := h
    exact ih (fun b hb => hstep b (List.mem_cons_of_mem _ hb))
      (hstep a List.mem_cons_self s u hs hfirst) hrest

/-- Up to what `view` shows of a state, `step` commutes in the states that satisfy `I`. -/
structure Commutes {τ : Type*} (I : σ → Prop) (view : σ → τ) (step : σ → α → Except ε σ) : Prop where
  keeps : ∀ s a t, I s → step s a = .ok t → I t
  views : ∀ s s' a t, view s = view s' → step s a = .ok t →
    ∃ t', step s' a = .ok t' ∧ view t = view t'
  swap : ∀ s a b t u, I s → step s a = .ok t → step t b = .ok u →
    ∃ t' u', step s b = .ok t' ∧ step t' a = .ok u' ∧ view u = view u'

namespace Commutes

variable {τ : Type*} {I : σ → Prop} {view : σ → τ} {step : σ → α → Except ε σ} {items : List α}

lemma foldlM_views (hstep : Commutes I view step) {s s' t : σ} (hs : view s = view s')
    (h : items.foldlM step s = .ok t) : ∃ t', items.foldlM step s' = .ok t' ∧ view t = view t' := by
  induction items generalizing s s' with
  | nil =>
    cases h
    exact ⟨s', rfl, hs⟩
  | cons a _ ih =>
    rw [List.foldlM_cons, bind_eq_ok] at h
    obtain ⟨r, hr, h⟩ := h
    obtain ⟨r', hr', hviews⟩ := hstep.views s s' a r hs hr
    obtain ⟨t', ht', hlast⟩ := ih hviews h
    exact ⟨t', bind_eq_ok.mpr ⟨r', hr', ht'⟩, hlast⟩

theorem foldlM_perm (hstep : Commutes I view step) {items' : List α} (hperm : items.Perm items')
    {s t : σ} (hs : I s) (h : items.foldlM step s = .ok t) :
    ∃ t', items'.foldlM step s = .ok t' ∧ view t = view t' := by
  induction hperm generalizing s t with
  | nil => exact ⟨t, h, rfl⟩
  | cons a _ ih =>
    rw [List.foldlM_cons, bind_eq_ok] at h
    obtain ⟨r, hr, h⟩ := h
    obtain ⟨t', ht', hviews⟩ := ih (hstep.keeps s a r hs hr) h
    exact ⟨t', bind_eq_ok.mpr ⟨r, hr, ht'⟩, hviews⟩
  | swap a b =>
    simp only [List.foldlM_cons, bind_eq_ok] at h ⊢
    obtain ⟨r, hr, u, hu, h⟩ := h
    obtain ⟨r', u', hr', hu', hviews⟩ := hstep.swap s b a r u hs hr hu
    obtain ⟨t', ht', hlast⟩ := hstep.foldlM_views hviews h
    exact ⟨t', ⟨r', hr', u', hu', ht'⟩, hlast⟩
  | trans _ _ ih₁ ih₂ =>
    obtain ⟨_, ht₁, h₁⟩ := ih₁ hs h
    obtain ⟨t₂, ht₂, h₂⟩ := ih₂ hs ht₁
    exact ⟨t₂, ht₂, h₁.trans h₂⟩

end Commutes

end Checks
