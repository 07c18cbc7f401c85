import DataGround.Library.Process
import DataGround.Library.Run

/-!
# Sessions at a server

Any number of processes are served by one server.  Each has a session of its own -- what the
server keeps for it alone, such as the uncommitted part of a transaction -- and all share what the
server keeps for everybody.  One event starts a session, answers the request that one process
waits with, or ends a session; so the requests of different processes interleave in every possible
way, and a process may be cut off at any point.  A request that cannot be answered yet waits.

* `Server.step_moved` -- what an event did, case by case;
* `Server.Complying`, `Complying.step` -- if every process complies with its session at the start,
  it does so at every point of every run;
* `Server.Discipline`, `Discipline.of_run` -- what is shared stays sound, and what the sessions know
  of it stays so, if this is kept by every request that the processes may make; `Discipline.of_facts`
  for sessions that note facts which never change.
-/

/-- A server: how a session starts, what a request does to the session and to what is shared if
it is answered in some way, and what ending a session does. -/
structure Server (S T A N : Type*) (ι : Type*) (ρ : ι → Type*) (α : Type*) where
  start : N → T × Process ι ρ α
  serve : S → ℕ → T → (i : ι) → A → Option (ρ i × T × S)
  release : S → ℕ → T → S

namespace Server

variable {S T A N ι : Type*} {ρ : ι → Type*} {α : Type*}

/-- One process at the server. -/
structure Session (T : Type*) (ι : Type*) (ρ : ι → Type*) (α : Type*) where
  tx : T
  rest : Process ι ρ α
  isOpen : Bool

/-- What is shared, and the sessions so far. -/
structure State (S T : Type*) (ι : Type*) (ρ : ι → Type*) (α : Type*) where
  shared : S
  sessions : ℕ → Option (Session T ι ρ α)

/-- One event at the server. -/
inductive Event (A N : Type*) where
  | start (id : ℕ) (input : N)
  | answer (id : ℕ) (answer : A)
  | close (id : ℕ)

/-- No session yet. -/
def initial (s : S) : State S T ι ρ α :=
  ⟨s, fun _ => none⟩

variable (server : Server S T A N ι ρ α)

/-- One step of the server. -/
def step (sys : State S T ι ρ α) : Event A N → Option (State S T ι ρ α)
  | .start id input =>
    match sys.sessions id with
    | some _ => none
    | none =>
      let (tx, rest) := server.start input
      some { sys with sessions := Function.update sys.sessions id (some ⟨tx, rest, true⟩) }
  | .answer id answer =>
    match sys.sessions id with
    | some ⟨tx, .request i next, true⟩ =>
      (server.serve sys.shared id tx i answer).map fun (reply, tx', shared) =>
        ⟨shared, Function.update sys.sessions id (some ⟨tx', next reply, true⟩)⟩
    | _ => none
  | .close id =>
    match sys.sessions id with
    | some ⟨tx, rest, true⟩ =>
      some ⟨server.release sys.shared id tx,
        Function.update sys.sessions id (some ⟨tx, rest, false⟩)⟩
    | _ => none

/-- **What an event did.** -/
inductive Moved (sys : State S T ι ρ α) : Event A N → State S T ι ρ α → Prop
  | started {id : ℕ} {input : N} (fresh : sys.sessions id = none) :
      Moved sys (.start id input) ⟨sys.shared, Function.update sys.sessions id
        (some ⟨(server.start input).1, (server.start input).2, true⟩)⟩
  | answered {id : ℕ} {answer : A} {tx tx' : T} {i : ι} {next : ρ i → Process ι ρ α} {reply : ρ i}
      {shared : S} (session : sys.sessions id = some ⟨tx, .request i next, true⟩)
      (served : server.serve sys.shared id tx i answer = some (reply, tx', shared)) :
      Moved sys (.answer id answer)
        ⟨shared, Function.update sys.sessions id (some ⟨tx', next reply, true⟩)⟩
  | closed {id : ℕ} {tx : T} {rest : Process ι ρ α}
      (session : sys.sessions id = some ⟨tx, rest, true⟩) :
      Moved sys (.close id) ⟨server.release sys.shared id tx,
        Function.update sys.sessions id (some ⟨tx, rest, false⟩)⟩

variable {server} {sys sys' : State S T ι ρ α}

variable {event : Event A N}

lemma step_moved (h : server.step sys event = some sys') : Moved server sys event sys' := by
  unfold step at h
  split at h
  · split at h
    · cases h
    · rename_i hfresh
      cases h
      exact .started hfresh
  · split at h
    · rename_i hsession
      obtain ⟨⟨_, _, _⟩, hserved, rfl⟩ := Option.map_eq_some_iff.mp h
      exact .answered hsession hserved
    · cases h
  · split at h
    · rename_i hsession
      cases h
      exact .closed hsession
    · cases h

variable {session : Session T ι ρ α} {id : ℕ}

/-- A session once another one, or the same, has changed. -/
lemma session_update {sessions : ℕ → Option (Session T ι ρ α)} {k : ℕ} {new : Session T ι ρ α}
    (h : Function.update sessions id (some new) k = some session) :
    (k = id ∧ session = new) ∨ (k ≠ id ∧ sessions k = some session) := by
  by_cases hk : k = id
  · subst hk
    rw [Function.update_self] at h
    exact .inl ⟨rfl, (Option.some.inj h).symm⟩
  · rw [Function.update_of_ne hk] at h
    exact .inr ⟨hk, h⟩

/-! ### Processes that comply with their sessions -/

variable {allowed : T → ι → Prop} {moves : T → (i : ι) → ρ i → T → Prop} {post : T → α → Prop}

/-- Every process complies with its session, from where it is. -/
def Complying (allowed : T → ι → Prop) (moves : T → (i : ι) → ρ i → T → Prop)
    (post : T → α → Prop) (sys : State S T ι ρ α) : Prop :=
  ∀ id session, sys.sessions id = some session → session.rest.Complies allowed moves post session.tx

lemma complying_initial (s : S) : Complying allowed moves post (initial s : State S T ι ρ α) := by
  intro id session h
  cases h

/-- **Compliance lasts.**  It is enough that every process complies with its session when it
starts, and that the server moves the sessions of this state as `moves` says. -/
lemma Complying.step (hsys : Complying allowed moves post sys)
    (hstart : ∀ input, (server.start input).2.Complies allowed moves post (server.start input).1)
    (hserve : ∀ id tx i next answer reply tx' s',
      sys.sessions id = some ⟨tx, .request i next, true⟩ →
      server.serve sys.shared id tx i answer = some (reply, tx', s') → moves tx i reply tx')
    (h : server.step sys event = some sys') :
    Complying allowed moves post sys' := by
  cases step_moved h with
  | @started _ input =>
    intro k session hk
    obtain ⟨-, rfl⟩ | ⟨-, hold⟩ := session_update hk
    · exact hstart input
    · exact hsys k session hold
  | @answered id _ _ tx' _ _ reply _ session served =>
    intro k other hk
    obtain ⟨-, rfl⟩ | ⟨-, hold⟩ := session_update hk
    · exact (hsys id _ session).2 reply tx' (hserve _ _ _ _ _ _ _ _ session served)
    · exact hsys k other hold
  | @closed id tx rest session =>
    intro k other hk
    obtain ⟨-, rfl⟩ | ⟨-, hold⟩ := session_update hk
    · exact hsys id ⟨tx, rest, true⟩ session
    · exact hsys k other hold

/-! ### Invariants that requests keep if they are allowed -/

variable {events : List (Event A N)}

section

variable (Sound : S → Prop) (Agrees : T → S → ℕ → Bool → Prop)

/-- A request can move a session this way, in a sound state that the session agrees with. -/
def Moves (serve : S → ℕ → T → (i : ι) → A → Option (ρ i × T × S)) (tx : T) (i : ι) (reply : ρ i)
    (tx' : T) : Prop :=
  ∃ s id answer s', Sound s ∧ Agrees tx s id true ∧ serve s id tx i answer = some (reply, tx', s')

/-- What one session does keeps the state sound, is known to the session, and leaves what the others
know as it is. -/
structure Keeps (s s' : S) (id : ℕ) (tx' : T) (isOpen : Bool) : Prop where
  sound : Sound s'
  agrees : Agrees tx' s' id isOpen
  others : ∀ other tx isOpen, other ≠ id → Agrees tx s other isOpen → Agrees tx s' other isOpen

/-- Requests that are allowed keep the state sound, and the sessions in agreement with it. -/
structure Discipline (server : Server S T A N ι ρ α) (allowed : T → ι → Prop) : Prop where
  serve : ∀ s id tx i answer reply tx' s', Sound s → Agrees tx s id true → allowed tx i →
    server.serve s id tx i answer = some (reply, tx', s') → Keeps Sound Agrees s s' id tx' true
  release : ∀ s id tx, Sound s → Agrees tx s id true →
    Keeps Sound Agrees s (server.release s id tx) id tx false

/-- The state is sound, and every process complies with a session that agrees with it; so does one
that has not started yet. -/
structure Consistent (server : Server S T A N ι ρ α) (allowed : T → ι → Prop) (post : T → α → Prop)
    (sys : State S T ι ρ α) : Prop where
  sound : Sound sys.shared
  sessions : ∀ id session, sys.sessions id = some session →
    Agrees session.tx sys.shared id session.isOpen
  fresh : ∀ id input, sys.sessions id = none → Agrees (server.start input).1 sys.shared id true
  complying : Complying allowed (Moves Sound Agrees server.serve) post sys

variable {Sound Agrees}

lemma Consistent.moved {s' : S} (hsys : Consistent Sound Agrees server allowed post sys)
    (h : Keeps Sound Agrees sys.shared s' id session.tx session.isOpen)
    (hcomplying : Complying allowed (Moves Sound Agrees server.serve) post
      (⟨s', Function.update sys.sessions id (some session)⟩ : State S T ι ρ α)) :
    Consistent Sound Agrees server allowed post
      ⟨s', Function.update sys.sessions id (some session)⟩ where
  sound := h.sound
  sessions k other hk := by
    obtain ⟨rfl, rfl⟩ | ⟨hne, hold⟩ := session_update hk
    · exact h.agrees
    · exact h.others k _ _ hne (hsys.sessions k other hold)
  fresh k input hk := by
    obtain ⟨hne, hold⟩ : k ≠ id ∧ sys.sessions k = none := by
      by_cases hsame : k = id
      · simp [hsame] at hk
      · exact ⟨hsame, (Function.update_of_ne hsame _ _).symm.trans hk⟩
    exact h.others k _ _ hne (hsys.fresh k input hold)
  complying := hcomplying

/-- **Every step keeps the invariant.** -/
lemma Discipline.step (hserver : Discipline Sound Agrees server allowed)
    (hstart : ∀ input, (server.start input).2.Complies allowed (Moves Sound Agrees server.serve) post
      (server.start input).1)
    (hsys : Consistent Sound Agrees server allowed post sys)
    (h : server.step sys event = some sys') :
    Consistent Sound Agrees server allowed post sys' := by
  have hcomplying := hsys.complying.step hstart
    (fun id tx i next answer reply tx' s' hsession hserved =>
      ⟨sys.shared, id, answer, s', hsys.sound, hsys.sessions id _ hsession, hserved⟩) h
  cases step_moved h with
  | @started id input fresh =>
    exact hsys.moved ⟨hsys.sound, hsys.fresh id input fresh, fun _ _ _ _ h => h⟩ hcomplying
  | @answered id _ _ _ _ _ _ _ session served =>
    exact hsys.moved (hserver.serve _ _ _ _ _ _ _ _ hsys.sound (hsys.sessions id _ session)
      (hsys.complying id _ session).1 served) hcomplying
  | @closed id _ _ session =>
    exact hsys.moved (hserver.release _ _ _ hsys.sound (hsys.sessions id _ session)) hcomplying

/-- **It holds at the end of every run** from a sound state that new sessions agree with. -/
lemma Discipline.of_run (hserver : Discipline Sound Agrees server allowed)
    (hstart : ∀ input, (server.start input).2.Complies allowed (Moves Sound Agrees server.serve) post
      (server.start input).1) {s : S} (hs : Sound s)
    (hfresh : ∀ id input, Agrees (server.start input).1 s id true)
    (h : Run.run server.step (initial s) events = some sys) :
    Consistent Sound Agrees server allowed post sys := by
  refine Run.run_invariant (fun _ _ _ hsys hstep => hserver.step hstart hsys hstep) ?_ h
  exact ⟨hs, fun id session hsession => (by cases hsession), fun id input _ => hfresh id input,
    complying_initial s⟩

/-- **Sessions that note what stays true.**  If a fact that holds goes on to hold, and what a session
notes holds, then it is enough that allowed requests keep the state sound. -/
lemma Discipline.of_facts {F : Type*} {Holds : S → F → Prop} {facts : T → List F}
    (hgrows : ∀ s id tx i answer reply tx' s', server.serve s id tx i answer = some (reply, tx', s') →
      ∀ fact, Holds s fact → Holds s' fact)
    (hnotes : ∀ s id tx i answer reply tx' s', server.serve s id tx i answer = some (reply, tx', s') →
      ∀ fact ∈ facts tx', fact ∈ facts tx ∨ Holds s' fact)
    (hsound : ∀ s id tx i answer reply tx' s', Sound s → (∀ fact ∈ facts tx, Holds s fact) →
      allowed tx i → server.serve s id tx i answer = some (reply, tx', s') → Sound s')
    (hrelease : ∀ s id tx, server.release s id tx = s) :
    Discipline Sound (fun tx s _ _ => ∀ fact ∈ facts tx, Holds s fact) server allowed where
  serve s id tx i answer reply tx' s' hs hagrees hallowed hserved := by
    have hgrow := hgrows s id tx i answer reply tx' s' hserved
    refine ⟨hsound s id tx i answer reply tx' s' hs hagrees hallowed hserved, fun fact hfact => ?_,
      fun _ other _ _ hother fact hfact => hgrow fact (hother fact hfact)⟩
    rcases hnotes s id tx i answer reply tx' s' hserved fact hfact with hold | hnew
    · exact hgrow fact (hagrees fact hold)
    · exact hnew
  release s id tx hs hagrees := by
    rw [hrelease]
    exact ⟨hs, hagrees, fun _ _ _ _ hother => hother⟩

end

/-! ### Which input a session was started with -/

/-- What serving never changes of a session is what it was started with. -/
lemma session_of_start {β : Type*} {f : T → β}
    (hserve : ∀ s id tx i answer reply tx' s',
      server.serve s id tx i answer = some (reply, tx', s') → f tx' = f tx) {s : S}
    (h : Run.run server.step (initial s) events = some sys) {input : N}
    (hstart : .start id input ∈ events) :
    ∃ session, sys.sessions id = some session ∧ f session.tx = f (server.start input).1 := by
  induction events using List.reverseRecOn generalizing sys with
  | nil => cases hstart
  | append_singleton _ _ ih =>
    obtain ⟨_, hrun, hstep⟩ := Run.run_concat_eq_some h
    rcases List.mem_append.mp hstart with hbefore | hlast
    · obtain ⟨session, hsession, hf⟩ := ih hrun hbefore
      cases step_moved hstep with
      | @started k _ fresh =>
        refine ⟨session, ?_, hf⟩
        have hne : id ≠ k := by
          rintro rfl
          rw [hsession] at fresh
          cases fresh
        exact (Function.update_of_ne hne _ _).trans hsession
      | @answered k _ _ _ _ _ _ _ hk served =>
        by_cases hne : id = k
        · subst hne
          refine ⟨_, Function.update_self _ _ _, ?_⟩
          cases hsession.symm.trans hk
          exact (hserve _ _ _ _ _ _ _ _ served).trans hf
        · exact ⟨session, (Function.update_of_ne hne _ _).trans hsession, hf⟩
      | @closed k _ _ hk =>
        by_cases hne : id = k
        · subst hne
          refine ⟨_, Function.update_self _ _ _, ?_⟩
          cases hsession.symm.trans hk
          exact hf
        · exact ⟨session, (Function.update_of_ne hne _ _).trans hsession, hf⟩
    · cases List.mem_singleton.mp hlast
      cases step_moved hstep with
      | started => exact ⟨_, Function.update_self _ _ _, rfl⟩

/-- Every session was started. -/
lemma start_of_session {β : Type*} {f : T → β}
    (hserve : ∀ s id tx i answer reply tx' s',
      server.serve s id tx i answer = some (reply, tx', s') → f tx' = f tx) {s : S}
    (h : Run.run server.step (initial s) events = some sys)
    (hsession : sys.sessions id = some session) :
    ∃ input, .start id input ∈ events ∧ f session.tx = f (server.start input).1 := by
  induction events using List.reverseRecOn generalizing sys session with
  | nil =>
    cases h
    cases hsession
  | append_singleton events event ih =>
    obtain ⟨sys₀, hrun, hstep⟩ := Run.run_concat_eq_some h
    have hbefore : ∀ session₀, sys₀.sessions id = some session₀ → f session.tx = f session₀.tx →
        ∃ input, .start id input ∈ events ++ [event] ∧ f session.tx = f (server.start input).1 := by
      intro session₀ hsession₀ hf
      obtain ⟨input, hmem, hinput⟩ := ih hrun hsession₀
      exact ⟨input, List.mem_append_left _ hmem, hf.trans hinput⟩
    cases step_moved hstep with
    | @started _ input =>
      obtain ⟨rfl, rfl⟩ | ⟨-, hold⟩ := session_update hsession
      · exact ⟨input, List.mem_append_right _ List.mem_cons_self, rfl⟩
      · exact hbefore session hold rfl
    | @answered _ _ _ _ _ _ _ _ hk served =>
      obtain ⟨rfl, rfl⟩ | ⟨-, hold⟩ := session_update hsession
      · exact hbefore _ hk (hserve _ _ _ _ _ _ _ _ served)
      · exact hbefore session hold rfl
    | @closed _ _ _ hk =>
      obtain ⟨rfl, rfl⟩ | ⟨-, hold⟩ := session_update hsession
      · exact hbefore _ hk rfl
      · exact hbefore session hold rfl

end Server
