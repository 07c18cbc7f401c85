import DataGround.Library.Sessions
import Mathlib.Logic.Relation

/-!
# Threads that share a state

A thread is a process whose requests are indivisible steps on a state that all threads share: a
critical section, an operation on a channel, or something that the environment decides.  The steps of
different threads interleave in every possible way; a step that is not possible yet waits.

Properties of all interleavings are proved one thread at a time.  Every thread keeps an invariant and
promises the others what its steps do; what it knows may rest on the promises of the others.

* `Thread.Safe` -- a thread keeps its promises from a state on, whatever the others do between its steps;
* `Thread.Triple`, with a rule for each way to compose threads;
* `threads_consistent` -- if every thread is safe when it starts, then the invariant holds in every state
  of every run, and what a thread promises of its result holds when it is done.

A step may have a label.  Runs can be restricted to those in which labelled steps take place in good
states only.
-/

/-- One indivisible step of a thread. -/
structure ThreadAction (σ A L : Type) where
  label : L
  Reply : Type
  run : ℕ → A → σ → Option (Reply × σ)

/-- A program of such steps. -/
abbrev Thread (σ A L α : Type) :=
  Process (ThreadAction σ A L) ThreadAction.Reply α

/-- The thread that takes one step. -/
def Thread.act {σ A L α : Type} (label : L) (run : ℕ → A → σ → Option (α × σ)) : Thread σ A L α :=
  Process.ask (⟨label, α, run⟩ : ThreadAction σ A L)

/-- Threads at their state, as a server. -/
def threads {σ A L N α : Type} (start : N → Thread σ A L α) :
    Server σ N A N (ThreadAction σ A L) ThreadAction.Reply α where
  start input := (input, start input)
  serve s id tx action answer := (action.run id answer s).map fun (reply, t) => (reply, tx, t)
  release s _ _ := s

namespace Thread

variable {σ A L N α β : Type}

section

variable (I : σ → Prop) (G : ℕ → σ → σ → Prop) (ok : σ → L → Prop)

/-- A step of a thread other than this one. -/
def Elsewhere (id : ℕ) (s t : σ) : Prop :=
  I s ∧ I t ∧ ∃ other, other ≠ id ∧ G other s t

/-- Steps of others do not change that `P` holds. -/
def Stable (id : ℕ) (P : σ → Prop) : Prop :=
  ∀ s t, Elsewhere I G id s t → P s → P t

/-- From `s` on, every step that the thread takes in a good state keeps the invariant and the promise;
and its result has `Q`.  Others may take steps before each of its own. -/
def Safe (id : ℕ) (Q : α → σ → Prop) : Thread σ A L α → σ → Prop
  | .done a, s => ∀ t, Relation.ReflTransGen (Elsewhere I G id) s t → Q a t
  | .request action next, s => ∀ t, Relation.ReflTransGen (Elsewhere I G id) s t → I t →
      ok t action.label → ∀ answer reply u, action.run id answer t = some (reply, u) →
        I u ∧ G id t u ∧ Safe id Q (next reply) u

/-- From every state with `P` the thread is safe, with `Q` for its result. -/
def Triple (id : ℕ) (P : σ → Prop) (x : Thread σ A L α) (Q : α → σ → Prop) : Prop :=
  ∀ s, I s → P s → Safe I G ok id Q x s

end

variable {I : σ → Prop} {G : ℕ → σ → σ → Prop} {ok : σ → L → Prop} {id : ℕ}

/-! ### Rules -/

lemma Stable.later {P : σ → Prop} (h : Stable I G id P) {s t : σ}
    (hst : Relation.ReflTransGen (Elsewhere I G id) s t) (hs : P s) : P t := by
  induction hst with
  | refl => exact hs
  | tail _ hstep ih => exact h _ _ hstep ih

lemma stable_const (p : Prop) : Stable I G id fun _ => p :=
  fun _ _ _ h => h

lemma Stable.and {P Q : σ → Prop} (hP : Stable I G id P) (hQ : Stable I G id Q) :
    Stable I G id fun s => P s ∧ Q s :=
  fun s t hst h => ⟨hP s t hst h.1, hQ s t hst h.2⟩

variable {x : Thread σ A L α}

/-- Steps of others keep a thread safe. -/
lemma Safe.later {Q : α → σ → Prop} {s t : σ} (h : Safe I G ok id Q x s) (hst : Elsewhere I G id s t) :
    Safe I G ok id Q x t := by
  cases x with
  | done | request => exact fun u hu => h u (.head hst hu)

lemma Safe.bind {Q : α → σ → Prop} {R : β → σ → Prop} {f : α → Thread σ A L β} {s : σ} (hs : I s)
    (hx : Safe I G ok id Q x s) (hf : ∀ a, Triple I G ok id (Q a) (f a) R) :
    Safe I G ok id R (x >>= f) s := by
  induction x generalizing s with
  | done a => exact hf a s hs (hx s .refl)
  | request _ _ ih =>
    intro t ht hI hok answer reply u hu
    obtain ⟨hIu, hG, hnext⟩ := hx t ht hI hok answer reply u hu
    exact ⟨hIu, hG, ih reply hIu hnext⟩

/-- What all promises keep may take the place of the condition on steps. -/
lemma Safe.under {J : σ → Prop} (hJ : ∀ id s t, G id s t → J s → J t)
    (hok : ∀ s label, J s → ok s label) {Q : α → σ → Prop} {s : σ} (h : Safe I G ok id Q x s) :
    Safe (fun s => I s ∧ J s) G (fun _ _ => True) id Q x s := by
  have hothers : Relation.ReflTransGen (Elsewhere (fun s => I s ∧ J s) G id) ≤
      Relation.ReflTransGen (Elsewhere I G id) :=
    Relation.ReflTransGen.mono fun _ _ hst => ⟨hst.1.1, hst.2.1.1, hst.2.2⟩
  induction x generalizing s with
  | done => exact fun t ht => h t (hothers s t ht)
  | request _ _ ih =>
    intro t ht hI _ answer reply u hu
    obtain ⟨hIu, hG, hnext⟩ := h t (hothers s t ht) hI.1 (hok t _ hI.2) answer reply u hu
    exact ⟨⟨hIu, hJ id t u hG hI.2⟩, hG, ih reply hnext⟩

namespace Triple

variable {P P' : σ → Prop} {Q Q' : α → σ → Prop} {R : β → σ → Prop}

lemma pure {a : α} (hQ : Stable I G id (Q a)) (h : ∀ s, P s → Q a s) :
    Triple I G ok id P (pure a : Thread σ A L α) Q :=
  fun s _ hs _ ht => hQ.later ht (h s hs)

lemma bind {f : α → Thread σ A L β} (hx : Triple I G ok id P x Q)
    (hf : ∀ a, Triple I G ok id (Q a) (f a) R) : Triple I G ok id P (x >>= f) R :=
  fun s hI hs => Safe.bind hI (hx s hI hs) hf

/-- **The rule for one step.**  What it needs to know must be stable, and so must be what is known after
it. -/
lemma step {label : L} {run : ℕ → A → σ → Option (α × σ)} (hP : Stable I G id P)
    (hQ : ∀ reply, Stable I G id (Q reply))
    (h : ∀ s answer reply t, I s → P s → ok s label → run id answer s = some (reply, t) →
      I t ∧ G id s t ∧ Q reply t) :
    Triple I G ok id P (act label run) Q := by
  intro s _ hs t ht hIt hok answer reply u hu
  obtain ⟨hIu, hG, hQu⟩ := h t answer reply u hIt (hP.later ht hs) hok hu
  exact ⟨hIu, hG, fun v hv => (hQ reply).later hv hQu⟩

lemma pre (hx : Triple I G ok id P x Q) (hP : ∀ s, I s → P' s → P s) : Triple I G ok id P' x Q :=
  fun s hI hs => hx s hI (hP s hI hs)

lemma post (hx : Triple I G ok id P x Q) (hQ' : ∀ a, Stable I G id (Q' a))
    (hQ : ∀ a s, Q a s → Q' a s) : Triple I G ok id P x Q' := by
  intro s hI hs
  have hbind := Safe.bind hI (hx s hI hs) (f := Process.done)
    (fun a => Triple.pure (P := Q a) (hQ' a) (hQ a))
  have hself : ∀ y : Thread σ A L α, y >>= Process.done = y := by
    intro y
    induction y with
    | done => rfl
    | request action _ ih => exact congrArg (Process.request action) (funext ih)
  rwa [hself] at hbind

end Triple

/-! ### Runs -/

section

variable (ok)

/-- The label of the step that a thread is about to take. -/
def nextLabel (sys : Server.State σ N (ThreadAction σ A L) ThreadAction.Reply α) (id : ℕ) : Option L :=
  match sys.sessions id with
  | some ⟨_, .request action _, _⟩ => some action.label
  | _ => none

/-- Labelled steps take place in good states only. -/
def Good (sys : Server.State σ N (ThreadAction σ A L) ThreadAction.Reply α) : Server.Event A N → Prop
  | .answer id _ => ∀ label ∈ nextLabel sys id, ok sys.shared label
  | _ => True

instance [∀ s label, Decidable (ok s label)]
    (sys : Server.State σ N (ThreadAction σ A L) ThreadAction.Reply α) :
    (event : Server.Event A N) → Decidable (Good ok sys event)
  | .start _ _ => isTrue trivial
  | .answer id _ => inferInstanceAs (Decidable (∀ label ∈ nextLabel sys id, ok sys.shared label))
  | .close _ => isTrue trivial

variable (I G)

/-- The invariant holds, and every thread is safe from where it is. -/
structure Consistent (Q : N → ℕ → α → σ → Prop)
    (sys : Server.State σ N (ThreadAction σ A L) ThreadAction.Reply α) : Prop where
  invariant : I sys.shared
  safe : ∀ id session, sys.sessions id = some session →
    Safe I G ok id (Q session.tx id) session.rest sys.shared

end

variable {start : N → Thread σ A L α} {Q : N → ℕ → α → σ → Prop}
  {sys sys' : Server.State σ N (ThreadAction σ A L) ThreadAction.Reply α}

lemma Consistent.step (h : Consistent I G ok Q sys)
    (hstart : ∀ id input s, I s → Safe I G ok id (Q input id) (start input) s)
    {event : Server.Event A N} (hgood : Good ok sys event)
    (hstep : (threads start).step sys event = some sys') : Consistent I G ok Q sys' := by
  cases Server.step_moved hstep with
  | @started _ input =>
    refine ⟨h.invariant, fun k session hk => ?_⟩
    obtain ⟨rfl, rfl⟩ | ⟨-, hold⟩ := Server.session_update hk
    · exact hstart k input sys.shared h.invariant
    · exact h.safe k session hold
  | @answered id answer _ _ action _ reply shared session served =>
    obtain ⟨⟨_, _⟩, hrun, heq⟩ := Option.map_eq_some_iff.mp served
    cases heq
    have hlabel : nextLabel sys id = some action.label := by rw [nextLabel, session]
    have hok : ok sys.shared action.label := hgood action.label hlabel
    obtain ⟨hI, hG, hnext⟩ := h.safe id _ session sys.shared .refl h.invariant hok answer reply
      shared hrun
    refine ⟨hI, fun k other hk => ?_⟩
    obtain ⟨rfl, rfl⟩ | ⟨hne, hold⟩ := Server.session_update hk
    · exact hnext
    · exact (h.safe k other hold).later ⟨h.invariant, hI, id, hne.symm, hG⟩
  | @closed _ tx rest session =>
    refine ⟨h.invariant, fun k other hk => ?_⟩
    obtain ⟨rfl, rfl⟩ | ⟨-, hold⟩ := Server.session_update hk
    · exact h.safe k ⟨tx, rest, true⟩ session
    · exact h.safe k other hold

/-- **Threads that are safe when they start keep the invariant**, in every state of every run whose
labelled steps take place in good states. -/
theorem consistent_of_run (hstart : ∀ id input s, I s → Safe I G ok id (Q input id) (start input) s)
    {s : σ} (hs : I s) {events : List (Server.Event A N)}
    (hgood : Run.Along (threads start).step (Good ok) (Server.initial s) events)
    (h : Run.run (threads start).step (Server.initial s) events = some sys) :
    Consistent I G ok Q sys := by
  refine Run.run_invariant_along (fun _ _ _ hsys hgood hstep => hsys.step hstart hgood hstep) ?_
    hgood h
  exact ⟨hs, fun id session hsession => (by cases hsession)⟩

end Thread
