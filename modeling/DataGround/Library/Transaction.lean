import Mathlib.Logic.Basic

/-!
# Transactions

A transaction over states of type `σ` reads and writes the state and either commits with a value
or fails; a failed transaction leaves nothing behind, because its intermediate states are lost
with it.  `Tx` is that monad, written out so that a committed transaction can be taken apart:

* `bind_eq_ok`, `require_bind_eq_ok`, `demand_bind_eq_ok`, `modify_eq_ok` … turn "this
  transaction commits" into what held at each of its statements;
* `Keeps` and its rules say that a transaction keeps a property of the state, statement by
  statement, without naming the intermediate states;
* `ReadOnly` and its rules are for the part of a transaction before its first write.
-/

namespace Transaction

/-- A transaction over `σ` that fails with `ε` or commits with a value of `α`. -/
def Tx (σ ε α : Type) : Type :=
  σ → Except ε (α × σ)

variable {σ ε α β : Type}

instance : Monad (Tx σ ε) where
  pure a := fun s => .ok (a, s)
  bind x f := fun s =>
    match x s with
    | .ok (a, t) => f a t
    | .error e => .error e

/-- Read the state. -/
def read : Tx σ ε σ :=
  fun s => .ok (s, s)

/-- Write the state. -/
def modify (f : σ → σ) : Tx σ ε Unit :=
  fun s => .ok ((), f s)

/-- Give up. -/
def fail (error : ε) : Tx σ ε α :=
  fun _ => .error error

/-- Go on only if the condition holds. -/
def require (condition : Prop) [Decidable condition] (error : ε) : Tx σ ε Unit :=
  if condition then pure () else fail error

/-- The one row of a query, or failure if there is none. -/
def demand (row : Option α) (error : ε) : Tx σ ε α :=
  match row with
  | some a => pure a
  | none => fail error

/-- The value of a computation outside of the state, or its error. -/
def ofExcept (value : Except ε α) : Tx σ ε α :=
  fun s => value.map (·, s)

/-! ### Taking a committed transaction apart -/

variable {s : σ}

lemma pure_eq_ok {a : α} {r : α × σ} : (pure a : Tx σ ε α) s = .ok r ↔ r = (a, s) := by
  constructor
  · intro h
    cases h
    rfl
  · rintro rfl
    rfl

variable {f : α → Tx σ ε β} {x : Tx σ ε α} {r : β × σ}

lemma bind_eq_ok : (x >>= f) s = .ok r ↔ ∃ a t, x s = .ok (a, t) ∧ f a t = .ok r := by
  constructor
  · intro h
    simp only [bind] at h
    split at h
    · rename_i a t hx
      exact ⟨a, t, hx, h⟩
    · cases h
  · rintro ⟨a, t, hx, hf⟩
    simp only [bind, hx, hf]

/-- A transaction whose value is thrown away. -/
lemma forget_eq_ok {u : Unit} {t : σ} :
    (do let _ ← x; pure () : Tx σ ε Unit) s = .ok (u, t) ↔ ∃ a, x s = .ok (a, t) := by
  rw [bind_eq_ok]
  constructor
  · rintro ⟨a, _, hx, hpure⟩
    cases pure_eq_ok.mp hpure
    exact ⟨a, hx⟩
  · rintro ⟨a, hx⟩
    exact ⟨a, t, hx, rfl⟩

@[simp]
lemma read_bind {f : σ → Tx σ ε β} : (read >>= f) s = f s s :=
  rfl

@[simp]
lemma modify_bind {g : σ → σ} {f : Unit → Tx σ ε β} : (modify g >>= f) s = f () (g s) :=
  rfl

lemma modify_eq_ok {g : σ → σ} {r : Unit × σ} :
    (modify g : Tx σ ε Unit) s = .ok r ↔ r = ((), g s) :=
  ⟨fun h => (Except.ok.inj h).symm, fun h => congrArg Except.ok h.symm⟩

variable {error : ε}

lemma fail_eq_ok {r : α × σ} : (fail error : Tx σ ε α) s = .ok r ↔ False := by
  simp only [fail, reduceCtorEq]

lemma require_eq_ok {condition : Prop} [Decidable condition] {r : Unit × σ} :
    (require condition error : Tx σ ε Unit) s = .ok r ↔ condition ∧ r = ((), s) := by
  unfold require
  split
  · rename_i h
    simp only [pure_eq_ok, h, true_and]
  · rename_i h
    simp only [fail_eq_ok, h, false_and]

lemma require_bind_eq_ok {condition : Prop} [Decidable condition] {f : Unit → Tx σ ε β} :
    (require condition error >>= f) s = .ok r ↔ condition ∧ f () s = .ok r := by
  rw [bind_eq_ok]
  constructor
  · rintro ⟨_, _, hrequire, hf⟩
    obtain ⟨hcondition, heq⟩ := require_eq_ok.mp hrequire
    cases heq
    exact ⟨hcondition, hf⟩
  · rintro ⟨hcondition, hf⟩
    exact ⟨(), s, require_eq_ok.mpr ⟨hcondition, rfl⟩, hf⟩

lemma demand_eq_ok {row : Option α} {r : α × σ} :
    (demand row error : Tx σ ε α) s = .ok r ↔ ∃ a, row = some a ∧ r = (a, s) := by
  cases row with
  | none =>
    simp only [demand, fail_eq_ok, reduceCtorEq, false_and, exists_false]
  | some =>
    simp only [demand, pure_eq_ok, Option.some.injEq, exists_eq_left']

lemma demand_bind_eq_ok {row : Option α} :
    (demand row error >>= f) s = .ok r ↔ ∃ a, row = some a ∧ f a s = .ok r := by
  rw [bind_eq_ok]
  constructor
  · rintro ⟨_, _, hdemand, hf⟩
    obtain ⟨a, hrow, heq⟩ := demand_eq_ok.mp hdemand
    cases heq
    exact ⟨_, hrow, hf⟩
  · rintro ⟨a, hrow, hf⟩
    exact ⟨a, s, demand_eq_ok.mpr ⟨a, hrow, rfl⟩, hf⟩

lemma ofExcept_bind_eq_ok {value : Except ε α} :
    (ofExcept value >>= f) s = .ok r ↔ ∃ a, value = .ok a ∧ f a s = .ok r := by
  cases value with
  | error =>
    simp only [ofExcept, bind_eq_ok, Except.map, reduceCtorEq, false_and, exists_false]
  | ok =>
    simp only [Except.ok.injEq, exists_eq_left']
    rfl

/-- A result that is kept only if there is one. -/
lemma toOption_eq_some {x : Except ε α} {a : α} : x.toOption = some a ↔ x = .ok a := by
  cases x with
  | error | ok => simp [Except.toOption]

/-! ### What a transaction keeps -/

/-- A transaction keeps `P`: from a state with `P` it commits only to states with `P`. -/
def Keeps (P : σ → Prop) (x : Tx σ ε α) : Prop :=
  ∀ s a t, P s → x s = .ok (a, t) → P t

namespace Keeps

variable {P : σ → Prop}

lemma pure (a : α) : Keeps P (pure a : Tx σ ε α) := by
  intro s b t hs h
  cases pure_eq_ok.mp h
  exact hs

lemma bind (hx : Keeps P x) (hf : ∀ a, Keeps P (f a)) : Keeps P (x >>= f) := by
  intro s b t hs h
  obtain ⟨a, r, hr, ht⟩ := bind_eq_ok.mp h
  exact hf a r b t (hx s a r hs hr) ht

lemma read : Keeps P (read : Tx σ ε σ) := by
  intro s b t hs h
  cases h
  exact hs

lemma modify {f : σ → σ} (hf : ∀ s, P s → P (f s)) : Keeps P (modify f : Tx σ ε Unit) := by
  intro s b t hs h
  cases modify_eq_ok.mp h
  exact hf s hs

lemma fail (error : ε) : Keeps P (fail error : Tx σ ε α) := by
  intro s b t _ h
  exact (fail_eq_ok.mp h).elim

lemma require (condition : Prop) [Decidable condition] (error : ε) :
    Keeps P (require condition error : Tx σ ε Unit) := by
  intro s b t hs h
  obtain ⟨-, heq⟩ := require_eq_ok.mp h
  cases heq
  exact hs

lemma demand (row : Option α) (error : ε) : Keeps P (demand row error : Tx σ ε α) := by
  intro s b t hs h
  obtain ⟨_, -, heq⟩ := demand_eq_ok.mp h
  cases heq
  exact hs

end Keeps

/-! ### Reads -/

/-- A transaction only reads: it commits in the state it started in. -/
def ReadOnly (x : Tx σ ε α) : Prop :=
  ∀ s a t, x s = .ok (a, t) → t = s

namespace ReadOnly

lemma pure (a : α) : ReadOnly (pure a : Tx σ ε α) := by
  intro s b t h
  cases pure_eq_ok.mp h
  rfl

lemma bind (hx : ReadOnly x) (hf : ∀ a, ReadOnly (f a)) : ReadOnly (x >>= f) := by
  intro s b t h
  obtain ⟨a, r, hr, ht⟩ := bind_eq_ok.mp h
  cases hx s a r hr
  exact hf a s b t ht

lemma read : ReadOnly (read : Tx σ ε σ) := by
  intro s b t h
  cases h
  rfl

lemma fail (error : ε) : ReadOnly (fail error : Tx σ ε α) := by
  intro s b t h
  exact (fail_eq_ok.mp h).elim

lemma require (condition : Prop) [Decidable condition] (error : ε) :
    ReadOnly (require condition error : Tx σ ε Unit) := by
  intro s b t h
  obtain ⟨-, heq⟩ := require_eq_ok.mp h
  cases heq
  rfl

lemma demand (row : Option α) (error : ε) : ReadOnly (demand row error : Tx σ ε α) := by
  intro s b t h
  obtain ⟨_, -, heq⟩ := demand_eq_ok.mp h
  cases heq
  rfl

/-- What follows a read starts where the read did. -/
lemma bind_eq_ok (hx : ReadOnly x) :
    (x >>= f) s = .ok r ↔ ∃ a, x s = .ok (a, s) ∧ f a s = .ok r := by
  rw [Transaction.bind_eq_ok]
  constructor
  · rintro ⟨a, t, hread, hf⟩
    cases hx s a t hread
    exact ⟨a, hread, hf⟩
  · rintro ⟨a, hread, hf⟩
    exact ⟨a, s, hread, hf⟩

end ReadOnly

end Transaction
