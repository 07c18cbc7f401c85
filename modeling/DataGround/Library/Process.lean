import Mathlib.Logic.Basic

/-!
# Processes that ask and wait

A process is a program seen from outside: either it is done, or it has made a request and goes on
once it has the reply.  Between a request and its reply anything may happen elsewhere, so a
process that is waiting is a state of a larger system.

A process always comes to an end when its requests are answered; what can be said about it is
said by recursion on it:

* `Meets allowed answers post` -- as long as the replies are among the `answers`, every request
  is `allowed`, and the result has `post`;
* `Never p` -- no request has `p`, whatever the replies;
* `Once p` -- after a request with `p` there is no other one;
* `Complies allowed moves post t` -- as `Meets`, but what is allowed depends on a state, which the
  replies move from `t` on.

`Triple P x Q` is the same for a program that may fail: from a state with `P` it complies, and a
value that it returns has `Q`; a failure promises nothing.

`Runs x trace y` says that `x` has come to `y` with the requests and replies of `trace`.  `embed` runs
a process as a part of one with more requests.
-/

universe u v w

/-- A program that makes requests of type `ι`, with replies to `i : ι` of type `ρ i`. -/
inductive Process (ι : Type u) (ρ : ι → Type v) (α : Type w) where
  | done (a : α)
  | request (i : ι) (next : ρ i → Process ι ρ α)

namespace Process

variable {ι : Type u} {ρ : ι → Type v} {α β : Type w}

/-- One process after another. -/
def andThen (f : α → Process ι ρ β) : Process ι ρ α → Process ι ρ β
  | .done a => f a
  | .request i next => .request i fun reply => andThen f (next reply)

instance : Monad (Process ι ρ) where
  pure := .done
  bind x f := andThen f x

/-- Make one request and return its reply. -/
def ask {ρ : ι → Type w} (i : ι) : Process ι ρ (ρ i) :=
  .request i .done

/-- As long as the replies are among the `answers`, every request of the process is `allowed`;
and if it comes to an end, then with a result that has `post`. -/
def Meets (allowed : ι → Prop) (answers : (i : ι) → ρ i → Prop) (post : α → Prop) :
    Process ι ρ α → Prop
  | .done a => post a
  | .request i next => allowed i ∧ ∀ reply, answers i reply → Meets allowed answers post (next reply)

/-- No request of the process has `p`, whatever the replies. -/
def Never (p : ι → Prop) (x : Process ι ρ α) : Prop :=
  x.Meets (fun i => ¬p i) (fun _ _ => True) fun _ => True

/-- After a request with `p` the process makes no other one. -/
def Once (p : ι → Prop) : Process ι ρ α → Prop
  | .done _ => True
  | .request i next => (p i → ∀ reply, Never p (next reply)) ∧ ∀ reply, Once p (next reply)

/-! ### Rules -/

variable {f : α → Process ι ρ β}

namespace Meets

variable {allowed : ι → Prop} {answers : (i : ι) → ρ i → Prop} {mid : α → Prop} {post : β → Prop}

lemma pure {a : β} (h : post a) : Meets allowed answers post (pure a : Process ι ρ β) :=
  h

lemma bind {x : Process ι ρ α} (hx : x.Meets allowed answers mid)
    (hf : ∀ a, mid a → (f a).Meets allowed answers post) : (x >>= f).Meets allowed answers post := by
  induction x with
  | done a => exact hf a hx
  | request _ _ ih => exact ⟨hx.1, fun reply hreply => ih reply (hx.2 reply hreply)⟩

lemma ask {ρ : ι → Type w} {answers : (i : ι) → ρ i → Prop} {i : ι} (h : allowed i) :
    (ask i : Process ι ρ (ρ i)).Meets allowed answers (answers i) :=
  ⟨h, fun _ hreply => hreply⟩

lemma mono {allowed' : ι → Prop} {answers' : (i : ι) → ρ i → Prop} {post' : β → Prop}
    {x : Process ι ρ β} (h : x.Meets allowed answers post) (hallowed : ∀ i, allowed i → allowed' i)
    (hanswers : ∀ i reply, answers' i reply → answers i reply) (hpost : ∀ a, post a → post' a) :
    x.Meets allowed' answers' post' := by
  induction x with
  | done a => exact hpost a h
  | request i _ ih =>
    exact ⟨hallowed i h.1, fun reply hreply => ih reply (h.2 reply (hanswers i reply hreply))⟩

end Meets

namespace Never

variable {p : ι → Prop}

lemma pure (a : α) : Never p (pure a : Process ι ρ α) :=
  trivial

lemma ask {ρ : ι → Type w} {i : ι} (h : ¬p i) : Never p (ask i : Process ι ρ (ρ i)) :=
  ⟨h, fun _ _ => trivial⟩

lemma bind {x : Process ι ρ α} (hx : x.Never p) (hf : ∀ a, (f a).Never p) : (x >>= f).Never p :=
  Meets.bind hx fun a _ => hf a

/-- What never makes such a request makes it at most once. -/
lemma once {x : Process ι ρ α} (h : x.Never p) : x.Once p := by
  induction x with
  | done => trivial
  | request _ _ ih =>
    exact ⟨fun hi => (h.1 hi).elim, fun reply => ih reply (h.2 reply trivial)⟩

end Never

namespace Once

variable {p : ι → Prop}

lemma ask {ρ : ι → Type w} (i : ι) : Once p (ask i : Process ι ρ (ρ i)) :=
  ⟨fun _ _ => trivial, fun _ => trivial⟩

/-- At most one such request in the first part, and none in the second. -/
lemma bind_never {x : Process ι ρ α} (hx : x.Once p) (hf : ∀ a, (f a).Never p) : (x >>= f).Once p := by
  induction x with
  | done a => exact (hf a).once
  | request _ _ ih =>
    exact ⟨fun hi reply => (hx.1 hi reply).bind hf, fun reply => ih reply (hx.2 reply)⟩

/-- None in the first part, and at most one in the second. -/
lemma never_bind {x : Process ι ρ α} (hx : x.Never p) (hf : ∀ a, (f a).Once p) : (x >>= f).Once p := by
  induction x with
  | done a => exact hf a
  | request _ _ ih =>
    exact ⟨fun hi => (hx.1 hi).elim, fun reply => ih reply (hx.2 reply trivial)⟩

end Once

/-! ### Processes along a state -/

section

variable {τ : Type*} (allowed : τ → ι → Prop) (moves : τ → (i : ι) → ρ i → τ → Prop)

/-- From the state `t` on, every request of the process is allowed in the state it is made in; and
if it comes to an end, then with a result that has `post` there.  A reply moves the state. -/
def Complies (post : τ → α → Prop) : τ → Process ι ρ α → Prop
  | t, .done a => post t a
  | t, .request i next =>
    allowed t i ∧ ∀ reply t', moves t i reply t' → Complies post t' (next reply)

variable {allowed moves} {mid : τ → α → Prop} {post : τ → β → Prop}

namespace Complies

variable {t : τ}

lemma pure {a : β} (h : post t a) : Complies allowed moves post t (pure a : Process ι ρ β) :=
  h

lemma bind {x : Process ι ρ α} (hx : Complies allowed moves mid t x)
    (hf : ∀ t a, mid t a → Complies allowed moves post t (f a)) :
    Complies allowed moves post t (x >>= f) := by
  induction x generalizing t with
  | done a => exact hf t a hx
  | request _ _ ih => exact ⟨hx.1, fun reply t' ht' => ih reply (hx.2 reply t' ht')⟩

/-- A request and what follows its reply. -/
lemma ask_bind {ρ : ι → Type w} {moves : τ → (i : ι) → ρ i → τ → Prop} {i : ι}
    {f : ρ i → Process ι ρ β} (h : allowed t i)
    (hf : ∀ reply t', moves t i reply t' → Complies allowed moves post t' (f reply)) :
    Complies allowed moves post t (Process.ask i >>= f) :=
  ⟨h, hf⟩

variable {x : Process ι ρ β}

lemma mono {post' : τ → β → Prop} (hx : Complies allowed moves post t x)
    (hpost : ∀ t a, post t a → post' t a) :
    Complies allowed moves post' t x := by
  induction x generalizing t with
  | done a => exact hpost t a hx
  | request _ _ ih => exact ⟨hx.1, fun reply t' ht' => ih reply (hx.2 reply t' ht')⟩

/-- A process whose requests are always allowed complies from any state. -/
lemma of_meets {always : ι → Prop} (hx : x.Meets always (fun _ _ => True) fun _ => True)
    (hallowed : ∀ t i, always i → allowed t i) :
    Complies allowed moves (fun _ _ => True) t x := by
  induction x generalizing t with
  | done => trivial
  | request i _ ih =>
    exact ⟨hallowed t i hx.1, fun reply t' _ => ih reply (hx.2 reply trivial)⟩

/-- Any process will do if everything is allowed and nothing is promised. -/
lemma trivially : Complies (fun _ _ => True) moves (fun _ _ => True) t x := by
  induction x generalizing t with
  | done => trivial
  | request _ _ ih => exact ⟨trivial, fun reply t' _ => ih reply⟩

lemma of_moves {moves' : τ → (i : ι) → ρ i → τ → Prop} (hx : Complies allowed moves post t x)
    (h : ∀ t i reply t', allowed t i → moves' t i reply t' → moves t i reply t') :
    Complies allowed moves' post t x := by
  induction x generalizing t with
  | done => exact hx
  | request i _ ih =>
    exact ⟨hx.1, fun reply t' ht' => ih reply (hx.2 reply t' (h t i reply t' hx.1 ht'))⟩

/-- A state that allows as much, and moves only where the first one may, will do as well. -/
lemma weaken {u : τ} (le : τ → τ → Prop) (hx : Complies allowed moves post t x) (hle : le t u)
    (hallowed : ∀ t u i, le t u → allowed t i → allowed u i)
    (hmoves : ∀ t u i reply u', le t u → moves u i reply u' → ∃ t', moves t i reply t' ∧ le t' u')
    (hpost : ∀ t u a, le t u → post t a → post u a) : Complies allowed moves post u x := by
  induction x generalizing t u with
  | done a => exact hpost t u a hle hx
  | request i _ ih =>
    refine ⟨hallowed t u i hle hx.1, fun reply u' hu' => ?_⟩
    obtain ⟨t', ht', hle'⟩ := hmoves t u i reply u' hle hu'
    exact ih reply (hx.2 reply t' ht') hle'

end Complies

end

/-! ### Programs that may fail -/

/-- One request whose reply may be a failure, which is passed on as `wrap` says. -/
def attemptWith {ε : Type w} {V : ι → Type w} (wrap : ε → ε) (i : ι) :
    ExceptT ε (Process ι fun i => Except ε (V i)) (V i) :=
  ExceptT.mk do
    match ← ask i with
    | .ok value => pure (.ok value)
    | .error error => pure (.error (wrap error))

/-- Go on only if the condition holds. -/
def ensure {ε : Type w} (condition : Prop) [Decidable condition] (error : ε) :
    ExceptT ε (Process ι ρ) PUnit :=
  if condition then pure ⟨⟩ else throw error

/-- The value, if there is one. -/
def demand {ε : Type w} (value : Option α) (error : ε) : ExceptT ε (Process ι ρ) α :=
  match value with
  | some a => pure a
  | none => throw error

section

variable {τ : Type*} (allowed : τ → ι → Prop) (moves : τ → (i : ι) → ρ i → τ → Prop) {ε : Type w}

/-- From every state with `P` the program complies, and a value that it returns has `Q`. -/
def Triple (P : τ → Prop) (x : ExceptT ε (Process ι ρ) α) (Q : α → τ → Prop) : Prop :=
  ∀ t, P t → Complies allowed moves (fun t result => ∀ a, result = .ok a → Q a t) t x.run

variable {allowed moves} {P P' : τ → Prop} {Q Q' : α → τ → Prop} {R : β → τ → Prop}

namespace Triple

lemma pure {a : α} (h : ∀ t, P t → Q a t) :
    Triple allowed moves P (pure a : ExceptT ε (Process ι ρ) α) Q := by
  intro t ht a' ha
  cases ha
  exact h t ht

lemma throw {e : ε} :
    Triple allowed moves P (MonadExcept.throw e : ExceptT ε (Process ι ρ) α) Q := by
  intro t ht a ha
  cases ha

variable {x : ExceptT ε (Process ι ρ) α}

lemma bind {f : α → ExceptT ε (Process ι ρ) β} (hx : Triple allowed moves P x Q)
    (hf : ∀ a, Triple allowed moves (Q a) (f a) R) :
    Triple allowed moves P (x >>= f) R := by
  intro t ht
  refine Complies.bind (hx t ht) fun t' result hresult => ?_
  cases result with
  | error =>
    intro a ha
    cases ha
  | ok a => exact hf a t' (hresult a rfl)

lemma map {f : α → β} (hx : Triple allowed moves P x fun a => R (f a)) :
    Triple allowed moves P (f <$> x) R := by
  intro t ht
  refine Complies.bind (hx t ht) fun t' result hresult => ?_
  cases result with
  | error =>
    intro b hb
    cases hb
  | ok a =>
    intro b hb
    cases hb
    exact hresult a rfl

lemma conseq (hx : Triple allowed moves P x Q) (hP : ∀ t, P' t → P t) (hQ : ∀ a t, Q a t → Q' a t) :
    Triple allowed moves P' x Q' :=
  fun t ht => (hx t (hP t ht)).mono fun t _ h a ha => hQ a t (h a ha)

/-- The rule of consequence, for the precondition alone. -/
lemma pre (hx : Triple allowed moves P x Q) (hP : ∀ t, P' t → P t) : Triple allowed moves P' x Q :=
  hx.conseq hP fun _ _ h => h

/-- The rule of consequence, for the postcondition alone. -/
lemma post (hx : Triple allowed moves P x Q) (hQ : ∀ a t, Q a t → Q' a t) : Triple allowed moves P x Q' :=
  hx.conseq (fun _ h => h) hQ

/-- A part of the precondition that does not depend on the state. -/
lemma intro {p : Prop} (h : p → Triple allowed moves P x Q) : Triple allowed moves (fun t => p ∧ P t) x Q :=
  fun t ht => h ht.1 t ht.2

lemma ensure {condition : Prop} [Decidable condition] {error : ε} :
    Triple allowed moves P (Process.ensure condition error : ExceptT ε (Process ι ρ) PUnit)
      (fun _ t => condition ∧ P t) := by
  unfold Process.ensure
  split
  · rename_i h
    exact pure fun t ht => ⟨h, ht⟩
  · exact throw

/-- What comes behind a check may use it. -/
lemma ensure_bind {condition : Prop} [Decidable condition] {error : ε}
    {f : PUnit → ExceptT ε (Process ι ρ) β} (h : condition → Triple allowed moves P (f ⟨⟩) R) :
    Triple allowed moves P (Process.ensure condition error >>= f) R :=
  .bind ensure fun _ => .intro h

lemma demand {value : Option α} {error : ε} :
    Triple allowed moves P (Process.demand value error : ExceptT ε (Process ι ρ) α)
      (fun a t => value = some a ∧ P t) := by
  unfold Process.demand
  split
  · exact pure fun t ht => ⟨rfl, ht⟩
  · exact throw

lemma lift {x : Process ι ρ α} (hx : ∀ t, P t → Complies allowed moves (fun t a => Q a t) t x) :
    Triple allowed moves P (ExceptT.lift x : ExceptT ε (Process ι ρ) α) Q := by
  intro t ht
  refine Complies.bind (hx t ht) fun t' a ha b hb => ?_
  cases hb
  exact ha

lemma adapt {ε' : Type w} {f : ε → ε'} (hx : Triple allowed moves P x Q) :
    Triple allowed moves P (ExceptT.adapt f x) Q := by
  intro t ht
  refine Complies.bind (hx t ht) fun t' result hresult a ha => ?_
  cases result with
  | error => cases ha
  | ok =>
    cases ha
    exact hresult _ rfl

lemma attempt {V : ι → Type w} {moves : τ → (i : ι) → Except ε (V i) → τ → Prop} {wrap : ε → ε}
    {i : ι} {Q : V i → τ → Prop} (hallowed : ∀ t, P t → allowed t i)
    (hQ : ∀ t value t', P t → moves t i (.ok value) t' → Q value t') :
    Triple allowed moves P (attemptWith wrap i) Q := by
  intro t ht
  refine Complies.ask_bind (hallowed t ht) fun reply t' hmoves => ?_
  cases reply with
  | error =>
    intro value hvalue
    cases hvalue
  | ok value =>
    intro value' hvalue
    cases hvalue
    exact hQ t value t' ht hmoves

end Triple

end

/-! ### Traces and parts -/

/-- The process has come from `x` to another one with these requests and replies. -/
inductive Runs (x : Process ι ρ α) : List ((i : ι) × ρ i) → Process ι ρ α → Prop
  | nil : Runs x [] x
  | concat {trace : List ((i : ι) × ρ i)} {i : ι} {next : ρ i → Process ι ρ α}
      (h : Runs x trace (.request i next)) (reply : ρ i) : Runs x (trace ++ [⟨i, reply⟩]) (next reply)

/-- The replies determine how far a process comes. -/
lemma Runs.unique {x y z : Process ι ρ α} {trace : List ((i : ι) × ρ i)} (hy : Runs x trace y)
    (hz : Runs x trace z) : y = z := by
  induction hy generalizing z with
  | nil =>
    generalize htrace : ([] : List ((i : ι) × ρ i)) = trace at hz
    cases hz with
    | nil => rfl
    | concat => simp at htrace
  | @concat trace i _ _ reply ih =>
    generalize htrace : trace ++ [(⟨i, reply⟩ : (i : ι) × ρ i)] = whole at hz
    cases hz with
    | nil => simp at htrace
    | @concat _ _ _ h' =>
      obtain ⟨rfl, hlast⟩ := List.append_inj' htrace rfl
      obtain ⟨rfl, hreply⟩ := Sigma.mk.inj (List.cons.inj hlast).1
      cases hreply
      cases ih h'
      rfl

/-- The process as a part of one with more requests. -/
def embed {κ : Type u} {ρ : κ → Type v} (f : ι → κ) :
    Process ι (fun i => ρ (f i)) α → Process κ ρ α
  | .done a => .done a
  | .request i next => .request (f i) fun reply => embed f (next reply)

/-- A part complies as the whole does with its requests. -/
lemma Complies.embed {κ : Type u} {ρ : κ → Type v} {τ : Type*} {f : ι → κ} {allowed : τ → κ → Prop}
    {moves : τ → (k : κ) → ρ k → τ → Prop} {post : τ → α → Prop}
    {x : Process ι (fun i => ρ (f i)) α} {t : τ}
    (hx : Complies (fun t i => allowed t (f i)) (fun t i => moves t (f i)) post t x) :
    Complies allowed moves post t (x.embed f) := by
  induction x generalizing t with
  | done => exact hx
  | request _ _ ih => exact ⟨hx.1, fun reply t' ht' => ih reply (hx.2 reply t' ht')⟩

end Process
