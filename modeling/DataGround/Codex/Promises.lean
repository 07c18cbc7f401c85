import DataGround.Codex.Calls

/-!
# What the goroutines of a client keep and promise

Two things are kept by all goroutines at once.  Every handle has its native key among the requests that
are known, and no other handle has that key.  And once an event that ends the turn has been queued, no
other event follows.

Neither holds without a condition on the run, and the two conditions have nothing to do with each other;
`p` stands for the first one and `q` for the second, and what follows is proved for both together.
-/

namespace DataGround.Codex

open Thread

/-! ### Handles and events -/

/-- The live handles, with their native keys. -/
def Client.handles (s : Client) : List (Handle × String) :=
  (s.approvals.entries.map fun entry => (.approval entry.1, entry.2.nativeKey)) ++
    s.questions.entries.map fun entry => (.question entry.1, entry.2.nativeKey)

lemma Client.approval_mem_handles {s : Client} {id key : String} :
    (.approval id, key) ∈ s.handles ↔
      ∃ pending, s.approvals.lookup id = some pending ∧ pending.nativeKey = key := by
  simp [handles, ← AList.mem_lookup_iff]

lemma Client.question_mem_handles {s : Client} {id key : String} :
    (.question id, key) ∈ s.handles ↔
      ∃ pending, s.questions.lookup id = some pending ∧ pending.nativeKey = key := by
  simp [handles, ← AList.mem_lookup_iff]

/-- A handle after an approval is stored is its own, or it was there before. -/
lemma Client.handles_insert_approval (s : Client) (id : String) (approval : Approval) :
    Client.handles { s with approvals := s.approvals.insert id approval } ⊆
      (.approval id, approval.nativeKey) :: s.handles :=
  List.cons_subset_cons _ (((List.kerase_sublist _ _).map _).append_right _).subset

lemma Client.handles_insert_question (s : Client) (id : String) (question : PendingQuestion) :
    Client.handles { s with questions := s.questions.insert id question } ⊆
      (.question id, question.nativeKey) :: s.handles :=
  List.Subset.trans List.perm_middle.subset
    (List.cons_subset_cons _ (((List.kerase_sublist _ _).map _).append_left _).subset)

/-- Every live handle has its native key among the known requests, and no two have the same. -/
structure Client.Registered (s : Client) : Prop where
  present : ∀ entry ∈ s.handles, entry.2 ∈ s.nativeRequests
  unique : ∀ one ∈ s.handles, ∀ other ∈ s.handles, one.2 = other.2 → one = other

/-- An event that ends the turn has been queued. -/
def Client.Ended (s : Client) : Prop :=
  ∃ event ∈ s.queued, event.type.isTerminal = true

instance (s : Client) : Decidable s.Ended :=
  inferInstanceAs (Decidable (∃ event ∈ s.queued, event.type.isTerminal = true))

/-- Nothing comes after an event that ends the turn. -/
def Final (events : List Event) : Prop :=
  ∀ before event after, events = before ++ event :: after → event.type.isTerminal = true → after = []

/-- A notification that is turned into an event without a look at whether the turn has ended. -/
def WireMessage.isLoud (message : WireMessage) : Bool :=
  message.id = "" && match message.method with
    | .turnStarted | .agentMessageDelta | .turnCompleted | .error => true
    | _ => false

/-- `ResolveApproval` removes a native key only if no handle but its own has it. -/
def KeysNotReused (s : Client) : CodexLabel → Prop
  | .cleanup approvalId nativeKey => s.sequential = true ∨
      ∀ entry ∈ s.handles, entry.2 = nativeKey → entry.1 = .approval approvalId
  | _ => True

/-- Once the turn of a client without a session has ended, no loud notification is handled. -/
def QuietAfterEnd (s : Client) : CodexLabel → Prop
  | .dispatch message => s.sequential = true ∨ message.isLoud = false ∨ ¬s.Ended
  | _ => True

instance (s : Client) : (label : CodexLabel) → Decidable (KeysNotReused s label)
  | .plain => isTrue trivial
  | .dispatch _ => isTrue trivial
  | .cleanup approvalId nativeKey => inferInstanceAs (Decidable (s.sequential = true ∨
      ∀ entry ∈ s.handles, entry.2 = nativeKey → entry.1 = .approval approvalId))

instance (s : Client) : (label : CodexLabel) → Decidable (QuietAfterEnd s label)
  | .plain => isTrue trivial
  | .dispatch message => inferInstanceAs (Decidable (s.sequential = true ∨ message.isLoud = false ∨
      ¬s.Ended))
  | .cleanup _ _ => isTrue trivial

/-! ### The invariant and the promise -/

/-- What is kept about handles.  In a session no native key comes twice. -/
structure Client.HandlesSound (s : Client) : Prop extends s.Registered where
  issued : ∀ entry ∈ s.handles, entry ∈ s.issued
  once : s.sequential = true → s.issued.Pairwise fun one other => one.2 ≠ other.2
  seen : s.sequential = true → ∀ entry ∈ s.issued, entry.2 ∈ s.seenRequests

/-- What is kept about events. -/
structure Client.EventsSound (s : Client) : Prop where
  final : Final s.queued
  ended : s.Ended → s.interactionsClosed = true
  settled : s.dispatching = none → s.Ended → s.terminalDone = true

section

variable (p q : Prop)

/-- The condition on the run. -/
def Fine (s : Client) (label : CodexLabel) : Prop :=
  (p → KeysNotReused s label) ∧ (q → QuietAfterEnd s label)

/-- The invariant. -/
structure Client.Sound (s : Client) : Prop where
  handles : p → s.HandlesSound
  events : q → s.EventsSound

/-- **What a goroutine promises the others**: what the handler of messages works on is left to it, and
what is closed stays so. -/
structure Client.Promise (id : ℕ) (s t : Client) : Prop where
  sequential : t.sequential = s.sequential
  closed : s.interactionsClosed = true → t.interactionsClosed = true
  issued : ∀ entry ∈ s.issued, entry ∈ t.issued
  exclusive : ∀ k, s.dispatching = some k → k ≠ id → t.dispatching = some k ∧
    t.queued = s.queued ∧ t.terminalDone = s.terminalDone ∧ t.issued = s.issued ∧
    t.seenRequests = s.seenRequests

/-- Interactions may be closed, but nothing else changes that the handler of messages works on. -/
structure Client.Same (s t : Client) : Prop where
  sequential : t.sequential = s.sequential
  closed : s.interactionsClosed = true → t.interactionsClosed = true
  dispatching : t.dispatching = s.dispatching
  queued : t.queued = s.queued
  terminalDone : t.terminalDone = s.terminalDone
  issued : t.issued = s.issued
  seenRequests : t.seenRequests = s.seenRequests

/-- **What most steps do**: besides, handles may go. -/
structure Client.Calm (s t : Client) : Prop extends s.Same t where
  kept : p → ∀ entry ∈ t.handles, entry ∈ s.handles ∧ entry.2 ∈ t.nativeRequests

end

variable {p q : Prop} {s t : Client} {id : ℕ}

lemma ended_congr (h : t.queued = s.queued) : t.Ended ↔ s.Ended := by
  rw [Client.Ended, Client.Ended, h]

namespace Client

/-- Handles may go as long as the native keys of the others stay. -/
lemma HandlesSound.later (hs : s.HandlesSound) (hsequential : t.sequential = s.sequential)
    (hissued : t.issued = s.issued) (hseen : t.seenRequests = s.seenRequests)
    (hkept : ∀ entry ∈ t.handles, entry ∈ s.handles ∧ entry.2 ∈ t.nativeRequests) :
    t.HandlesSound where
  present entry hentry := (hkept entry hentry).2
  unique one hone other hother := hs.unique one (hkept one hone).1 other (hkept other hother).1
  issued entry hentry := hissued ▸ hs.issued entry (hkept entry hentry).1
  once hmode := hissued ▸ hs.once (hsequential ▸ hmode)
  seen hmode := by
    rw [hissued, hseen]
    exact hs.seen (hsequential ▸ hmode)

lemma EventsSound.later (hs : s.EventsSound) (hqueued : t.queued = s.queued)
    (hclosed : s.interactionsClosed = true → t.interactionsClosed = true)
    (hdispatching : t.dispatching = none → s.dispatching = none)
    (hterminal : t.terminalDone = s.terminalDone) : t.EventsSound where
  final := hqueued ▸ hs.final
  ended hended := hclosed (hs.ended ((ended_congr hqueued).mp hended))
  settled hfree hended := by
    rw [hterminal]
    exact hs.settled (hdispatching hfree) ((ended_congr hqueued).mp hended)

lemma Calm.promise (h : s.Calm p t) : s.Promise id t where
  sequential := h.sequential
  closed := h.closed
  issued _ hentry := h.issued ▸ hentry
  exclusive _ hk _ := ⟨h.dispatching.trans hk, h.queued, h.terminalDone, h.issued, h.seenRequests⟩

/-- Calm steps keep the invariant. -/
lemma Sound.calm (hs : s.Sound p q) (h : s.Calm p t) : t.Sound p q where
  handles hp := (hs.handles hp).later h.sequential h.issued h.seenRequests (h.kept hp)
  events hq := (hs.events hq).later h.queued h.closed (fun hfree => h.dispatching ▸ hfree)
    h.terminalDone

/-- A step that at most removes handles. -/
lemma Sound.calm_of_handles (hs : s.Sound p q) (hsame : s.Same t)
    (hrequests : t.nativeRequests = s.nativeRequests)
    (hhandles : ∀ entry ∈ t.handles, entry ∈ s.handles) : s.Calm p t where
  toSame := hsame
  kept hp entry hentry :=
    ⟨hhandles entry hentry, hrequests ▸ (hs.handles hp).present entry (hhandles entry hentry)⟩

lemma Sound.calm_of_removed (hs : s.Sound p q) (hsame : s.Same t) {key : String}
    (hrequests : t.nativeRequests = s.nativeRequests.filter (· ≠ key))
    (hhandles : p → ∀ entry ∈ t.handles, entry ∈ s.handles ∧ entry.2 ≠ key) : s.Calm p t where
  toSame := hsame
  kept hp entry hentry := by
    obtain ⟨hold, hne⟩ := hhandles hp entry hentry
    rw [hrequests]
    exact ⟨hold, List.mem_filter.mpr ⟨(hs.handles hp).present entry hold, by simpa using hne⟩⟩

end Client

/-- What is known lasts through steps of others, and through calm ones of one's own. -/
structure Kept (p q : Prop) (id : ℕ) (P : Client → Prop) : Prop where
  stable : Stable (Client.Sound p q) Client.Promise id P
  calm : ∀ s t, s.Calm p t → P s → P t

/-- Goroutines of a client, with what they know. -/
abbrev ClientTriple (p q : Prop) (id : ℕ) {α : Type} (P : Client → Prop) (x : ClientThread α)
    (Q : α → Client → Prop) : Prop :=
  Triple (Client.Sound p q) Client.Promise (Fine p q) id P x Q

namespace Kept

variable {P Q : Client → Prop}

lemma const (c : Prop) : Kept p q id fun _ => c :=
  ⟨stable_const c, fun _ _ _ h => h⟩

lemma imp {c : Prop} (hP : Kept p q id P) : Kept p q id fun s => c → P s :=
  ⟨fun s t hst hs hc => hP.stable s t hst (hs hc), fun s t hst hs hc => hP.calm s t hst (hs hc)⟩

lemma all {β : Type} {P : β → Client → Prop} (hP : ∀ b, Kept p q id (P b)) :
    Kept p q id fun s => ∀ b, P b s :=
  ⟨fun s t hst hs b => (hP b).stable s t hst (hs b), fun s t hst hs b => (hP b).calm s t hst (hs b)⟩

lemma and (hP : Kept p q id P) (hQ : Kept p q id Q) : Kept p q id fun s => P s ∧ Q s :=
  ⟨hP.stable.and hQ.stable, fun s t h hs => ⟨hP.calm s t h hs.1, hQ.calm s t h hs.2⟩⟩

end Kept

/-! ### Calm steps -/

section

variable {α : Type} {P : Client → Prop} {Q : α → Client → Prop}

variable {run : ℕ → CodexAnswer → Client → Option (α × Client)}

lemma act_triple {label : CodexLabel} (hP : Kept p q id P) (hQ : ∀ reply, Kept p q id (Q reply))
    (h : ∀ s answer reply t, s.Sound p q → P s → Fine p q s label →
      run id answer s = some (reply, t) → s.Calm p t ∧ Q reply s) :
    ClientTriple p q id P (act label run) Q := by
  refine Triple.step hP.stable (fun reply => (hQ reply).stable) ?_
  intro s answer reply t hs hPs hfine hrun
  obtain ⟨hcalm, hreply⟩ := h s answer reply t hs hPs hfine hrun
  exact ⟨hs.calm hcalm, hcalm.promise, (hQ reply).calm s t hcalm hreply⟩

lemma section_learns {f : Client → α × Client} (hP : Kept p q id P)
    (hQ : ∀ reply, Kept p q id (Q reply))
    (h : ∀ s, s.Sound p q → P s → s.Calm p (f s).2 ∧ Q (f s).1 s) :
    ClientTriple p q id P (inSection f) Q := by
  refine act_triple hP hQ fun s answer reply t hs hPs _ hrun => ?_
  have hlearned := h s hs hPs
  rw [Option.some.inj hrun] at hlearned
  exact hlearned

lemma section_triple {f : Client → α × Client} (hP : Kept p q id P)
    (h : ∀ s : Client, s.Sound p q → s.Calm p (f s).2) :
    ClientTriple p q id P (inSection f) fun _ => P :=
  section_learns hP (fun _ => hP) fun s hs hPs => ⟨h s hs, hPs⟩

lemma calm_refl (hs : s.Sound p q) : s.Calm p s :=
  hs.calm_of_handles ⟨rfl, fun h => h, rfl, rfl, rfl, rfl, rfl⟩ rfl fun _ h => h

lemma reading_learns {f : Client → α} (hP : Kept p q id P) (hQ : ∀ reply, Kept p q id (Q reply))
    (h : ∀ s, s.Sound p q → P s → Q (f s) s) : ClientTriple p q id P (reading f) Q :=
  section_learns hP hQ fun s hs hPs => ⟨calm_refl hs, h s hs hPs⟩

lemma reading_triple {f : Client → α} (hP : Kept p q id P) :
    ClientTriple p q id P (reading f) fun _ => P :=
  section_triple hP fun _ hs => calm_refl hs

lemma updating_triple {f : Client → Client} (hP : Kept p q id P)
    (h : ∀ s : Client, s.Sound p q → s.Calm p (f s)) : ClientTriple p q id P (updating f) fun _ => P :=
  section_triple hP h

lemma pure_triple {a : α} (hP : Kept p q id P) :
    ClientTriple p q id P (pure a : ClientThread α) fun _ => P :=
  .pure hP.stable fun _ h => h

/-- A step that the environment decides. -/
lemma environment_triple (hP : Kept p q id P)
    (h : ∀ s answer reply t, run id answer s = some (reply, t) → t = s) :
    ClientTriple p q id P (act .plain run) fun _ => P := by
  refine act_triple hP (fun _ => hP) fun s answer reply t hs hPs _ hrun => ?_
  cases h s answer reply t hrun
  exact ⟨calm_refl hs, hPs⟩

end

section

variable {P : Client → Prop}

lemma readClock_triple (hP : Kept p q id P) : ClientTriple p q id P readClock fun _ => P := by
  refine environment_triple hP fun s answer reply t h => ?_
  cases answer <;> simp_all

lemma contextDone_triple (hP : Kept p q id P) : ClientTriple p q id P contextDone fun _ => P := by
  refine environment_triple hP fun s answer reply t h => ?_
  cases answer <;> simp_all

lemma awaitDone_triple (hP : Kept p q id P) : ClientTriple p q id P awaitDone fun _ => P := by
  refine environment_triple hP fun s answer reply t h => ?_
  split_ifs at h
  cases h
  rfl

lemma awaitWriter_triple (hP : Kept p q id P) : ClientTriple p q id P awaitWriter fun _ => P := by
  refine environment_triple hP fun s answer reply t h => ?_
  split at h <;> (try split_ifs at h) <;> cases h <;> rfl

lemma writeInput_triple (hP : Kept p q id P) : ClientTriple p q id P writeInput fun _ => P := by
  refine environment_triple hP fun s answer reply t h => ?_
  split at h <;> (try split_ifs at h) <;> cases h <;> rfl

lemma failure_triple (hP : Kept p q id P) : ClientTriple p q id P failure fun _ => P :=
  reading_triple hP

/-- Closing the interactions is calm: all handles go. -/
lemma calm_closeInteractions (s : Client) : s.Calm p s.closeInteractions where
  toSame := ⟨rfl, fun _ => rfl, rfl, rfl, rfl, rfl, rfl⟩
  kept _ entry hentry := by
    have hnone : s.closeInteractions.handles = [] := rfl
    rw [hnone] at hentry
    cases hentry

/-- All that matters of a client. -/
def Client.watched (s : Client) :=
  (s.sequential, s.interactionsClosed, s.dispatching, s.queued, s.terminalDone, s.issued,
    s.seenRequests, s.nativeRequests, s.handles)

lemma calm_plain (hs : s.Sound p q) (h : t.watched = s.watched) : s.Calm p t := by
  simp only [Client.watched, Prod.mk.injEq] at h
  obtain ⟨h₁, h₂, h₃, h₄, h₅, h₆, h₇, h₈, h₉⟩ := h
  exact hs.calm_of_handles ⟨h₁, fun hclosed => h₂.trans hclosed, h₃, h₄, h₅, h₆, h₇⟩ h₈
    fun entry hentry => h₉ ▸ hentry

lemma fail_triple (hP : Kept p q id P) (error : CodexError) :
    ClientTriple p q id P (fail error) fun _ => P := by
  unfold fail
  refine .bind (section_triple hP fun s hs => ?_) fun first => ?_
  · exact calm_plain hs rfl
  cases first with
  | false => exact awaitDone_triple hP
  | true =>
    refine .bind (reading_triple hP) fun active => ?_
    have hrest : ClientTriple p q id P (do
        updating fun s => { s with err := some error }
        updating fun s => { s with done := true }) fun _ => P := by
      refine .bind (updating_triple hP fun s hs => ?_) fun _ => updating_triple hP fun s hs => ?_
      · exact calm_plain hs rfl
      · exact calm_plain hs rfl
    cases active with
    | false => exact hrest
    | true => exact .bind (updating_triple hP fun s _ => calm_closeInteractions s) fun _ => hrest

lemma protocolFailure_triple (hP : Kept p q id P) (message : String) :
    ClientTriple p q id P (protocolFailure message) fun _ => P :=
  .bind (fail_triple hP _) fun _ => pure_triple hP

lemma writeFailure_triple (hP : Kept p q id P) (step : WriteStep) :
    ClientTriple p q id P (writeFailure step) fun _ => P := by
  cases step with
  | proceed | rejected => exact pure_triple hP
  | broken =>
    exact .bind (fail_triple hP _) fun _ => .bind (failure_triple hP) fun _ => pure_triple hP
  | abandoned => exact .bind (failure_triple hP) fun _ => pure_triple hP
  | cancelled => exact .bind (fail_triple hP _) fun _ => pure_triple hP

lemma writeGuarded_triple (hP : Kept p q id P) {libraries : CodexLibraries} {message : Json}
    {guard : ClientThread (Option CodexError)} (hguard : ClientTriple p q id P guard fun _ => P) :
    ClientTriple p q id P (writeGuarded libraries message guard) fun _ => P := by
  unfold writeGuarded
  refine .bind (contextDone_triple hP) fun cancelled => ?_
  cases cancelled with
  | true => exact pure_triple hP
  | false =>
    cases libraries.frameSize message with
    | none => exact pure_triple hP
    | some =>
      simp only [Bool.false_eq_true, if_false]
      split_ifs with hsize
      · exact .bind (protocolFailure_triple hP _) fun _ => pure_triple hP
      · refine .bind (awaitWriter_triple hP) fun step => ?_
        cases step with
        | proceed =>
          refine .bind hguard fun error => ?_
          cases error with
          | some => exact pure_triple hP
          | none => exact .bind (writeInput_triple hP) fun step => writeFailure_triple hP step
        | rejected | broken | abandoned | cancelled => exact writeFailure_triple hP _

lemma write_triple (hP : Kept p q id P) (libraries : CodexLibraries) (message : Json) :
    ClientTriple p q id P (write libraries message) fun _ => P :=
  writeGuarded_triple hP (pure_triple hP)

lemma failWith_triple (hP : Kept p q id P) (error : Option CodexError) :
    ClientTriple p q id P (failWith error) fun _ => P := by
  cases error with
  | none => exact pure_triple hP
  | some error => exact fail_triple hP error

lemma refuse_triple (hP : Kept p q id P) (libraries : CodexLibraries) (request : String) (code : ℤ)
    (message : String) : ClientTriple p q id P (refuse libraries request code message) fun _ => P :=
  .bind (write_triple hP _ _) fun _ => failWith_triple hP _

end

/-! ### What goroutines know -/

section

variable (p q) (id)

/-- The handler has `dispatchMu`, and the end of the turn, if it was queued, has been noted. -/
def Settled (s : Client) : Prop :=
  s.dispatching = some id ∧ (q → s.Ended → s.terminalDone = true)

/-- The handler has `dispatchMu`, and the turn has not ended. -/
def Live (s : Client) : Prop :=
  s.dispatching = some id ∧ (q → ¬s.Ended)

/-- The handler may emit an event of this type. -/
def Ready (type : EventType) (s : Client) : Prop :=
  Live q id s ∧ (q → type.isTerminal = true → s.interactionsClosed = true)

/-- What is known after an attempt to emit an event of this type. -/
def Emitted (type : EventType) (emitted : Bool) (s : Client) : Prop :=
  s.dispatching = some id ∧ (q → type.isTerminal = false ∨ emitted = false → ¬s.Ended)

/-- The handler has `dispatchMu`, and in a session this native key has been seen, but no handle has had
it. -/
def Unused (nativeKey : String) (s : Client) : Prop :=
  s.dispatching = some id ∧ (p → s.sequential = true →
    nativeKey ∈ s.seenRequests ∧ ∀ entry ∈ s.issued, entry.2 ≠ nativeKey)

end

/-- What the handler knows while it has `dispatchMu`: others leave it alone. -/
lemma Kept.of_same {P : Client → Prop} (hlock : ∀ s, P s → s.dispatching = some id)
    (h : ∀ s t, s.Same t → P s → P t) : Kept p q id P where
  stable s t hst hs := by
    obtain ⟨-, -, _, hne, hpromise⟩ := hst
    have hlocked := hlock s hs
    obtain ⟨h₁, h₂, h₃, h₄, h₅⟩ := hpromise.exclusive id hlocked hne.symm
    exact h s t ⟨hpromise.sequential, hpromise.closed, h₁.trans hlocked.symm, h₂, h₃, h₄, h₅⟩ hs
  calm s t hst hs := h s t hst.toSame hs

lemma kept_settled : Kept p q id (Settled q id) := by
  refine .of_same (fun _ hs => hs.1) fun s t hst hs => ?_
  refine ⟨hst.dispatching.trans hs.1, fun hq hended => ?_⟩
  rw [hst.terminalDone]
  exact hs.2 hq ((ended_congr hst.queued).mp hended)

lemma kept_emitted (type : EventType) (emitted : Bool) : Kept p q id (Emitted q id type emitted) :=
  .of_same (fun _ hs => hs.1) fun _ _ hst hs => ⟨hst.dispatching.trans hs.1,
    fun hq hnot hended => hs.2 hq hnot ((ended_congr hst.queued).mp hended)⟩

lemma Live.same (hst : s.Same t) (hs : Live q id s) : Live q id t :=
  ⟨hst.dispatching.trans hs.1, fun hq hended => hs.2 hq ((ended_congr hst.queued).mp hended)⟩

lemma kept_live : Kept p q id (Live q id) :=
  .of_same (fun _ hs => hs.1) fun _ _ hst hs => hs.same hst

lemma kept_ready (type : EventType) : Kept p q id (Ready q id type) :=
  .of_same (fun _ hs => hs.1.1) fun _ _ hst hs =>
    ⟨hs.1.same hst, fun hq hterminal => hst.closed (hs.2 hq hterminal)⟩

lemma kept_unused (nativeKey : String) : Kept p q id (Unused p id nativeKey) := by
  refine .of_same (fun _ hs => hs.1) fun s t hst hs => ?_
  refine ⟨hst.dispatching.trans hs.1, fun hp hmode => ?_⟩
  rw [hst.issued, hst.seenRequests]
  exact hs.2 hp (hst.sequential ▸ hmode)

lemma kept_sequential (mode : Bool) : Kept p q id fun s => s.sequential = mode where
  stable s t hst hs := by
    obtain ⟨-, -, _, -, hpromise⟩ := hst
    exact hpromise.sequential.trans hs
  calm s t hst hs := hst.sequential.trans hs

lemma kept_issued (entry : Handle × String) : Kept p q id fun s => entry ∈ s.issued where
  stable s t hst hs := by
    obtain ⟨-, -, _, -, hpromise⟩ := hst
    exact hpromise.issued entry hs
  calm s t hst hs := hst.issued ▸ hs

lemma Live.settled (h : Live q id s) : Settled q id s :=
  ⟨h.1, fun hq hended => (h.2 hq hended).elim⟩

variable {type : EventType}

lemma Emitted.live (htype : type.isTerminal = false) {emitted : Bool}
    (h : Emitted q id type emitted s) : Live q id s :=
  ⟨h.1, fun hq => h.2 hq (.inl htype)⟩

lemma Live.ready (htype : type.isTerminal = false) (h : Live q id s) : Ready q id type s := by
  refine ⟨h, fun _ hterminal => ?_⟩
  rw [htype] at hterminal
  cases hterminal

/-! ### Events -/

lemma final_concat {events : List Event} {event : Event}
    (h : ∀ e ∈ events, ¬e.type.isTerminal = true) : Final (events ++ [event]) := by
  intro before e after heq hterminal
  rcases List.eq_nil_or_concat after with rfl | ⟨rest, last, rfl⟩
  · rfl
  · rw [List.concat_eq_append, ← List.cons_append, ← List.append_assoc] at heq
    have hmem : e ∈ events := by
      rw [(List.append_inj' heq rfl).1]
      simp
    exact absurd hterminal (h e hmem)

/-- **Sending an event** keeps the invariant if the turn has not ended. -/
lemma send_triple {sequence size : ℕ} {payload : Json} :
    ClientTriple p q id (Ready q id type) (send ⟨sequence, type, payload⟩ size)
      fun step => Emitted q id type (step = .sent) := by
  refine Triple.step (kept_ready type).stable (fun _ => (kept_emitted type _).stable) ?_
  intro s answer step t hs hready _ hrun
  have hquiet : ∀ step : SendStep, step ≠ .sent →
      s.Sound p q ∧ s.Promise id s ∧ Emitted q id type (step = .sent) s := by
    intro step hstep
    exact ⟨hs, (calm_refl hs).promise, hready.1.1, fun hq _ => hready.1.2 hq⟩
  cases answer with
  | send choice =>
    cases choice with
    | sent =>
      simp only at hrun
      split_ifs at hrun with hroom
      cases hrun
      have hended : ∀ e ∈ s.queued ++ [⟨sequence, type, payload⟩], e.type.isTerminal = true →
          q → type.isTerminal = true := by
        intro e he hterminal hq
        rcases List.mem_append.mp he with hold | hnew
        · exact (hready.1.2 hq ⟨e, hold, hterminal⟩).elim
        · cases List.mem_singleton.mp hnew
          exact hterminal
      refine ⟨⟨fun hp => ?_, fun hq => ⟨?_, ?_, ?_⟩⟩, ⟨rfl, fun h => h, fun _ h => h, ?_⟩, ?_⟩
      · exact (hs.handles hp).later rfl rfl rfl fun entry hentry =>
          ⟨hentry, (hs.handles hp).present entry hentry⟩
      · exact final_concat fun e he hterminal => hready.1.2 hq ⟨e, he, hterminal⟩
      · rintro ⟨e, he, hterminal⟩
        exact hready.2 hq (hended e he hterminal hq)
      · intro hfree
        exact absurd (hfree.symm.trans hready.1.1) (by simp)
      · intro k hk hne
        exact absurd (Option.some.inj (hk.symm.trans hready.1.1)) hne
      · refine ⟨hready.1.1, ?_⟩
        rintro hq (hplain | hfalse) ⟨e, he, hterminal⟩
        · rw [hended e he hterminal hq] at hplain
          cases hplain
        · simp at hfalse
    | done | closed | full =>
      simp only at hrun
      split_ifs at hrun
      cases hrun
      exact hquiet _ (by decide)
  | _ => simp at hrun

lemma Ready.emitted (h : Ready q id type s) : Emitted q id type false s :=
  ⟨h.1.1, fun hq _ => h.1.2 hq⟩

lemma calm_account (hs : s.Sound p q) : s.Calm p s.account.2 := by
  unfold Client.account
  split_ifs
  · exact calm_refl hs
  · exact calm_plain hs rfl

variable (libraries : CodexLibraries)

lemma queueEvent_triple (type : EventType) (payload : Json) :
    ClientTriple p q id (Ready q id type) (queueEvent libraries type payload)
      fun result => Emitted q id type result.isNone := by
  have hready : Kept p q id (Ready q id type) := kept_ready type
  have hrefused : ∀ error : CodexError, ClientTriple p q id (Ready q id type)
      (pure (some error) : ClientThread (Option CodexError))
      fun result => Emitted q id type result.isNone :=
    fun error => .pure (kept_emitted type _).stable fun _ h => h.emitted
  unfold queueEvent
  refine .bind (reading_triple hready) fun ⟨done, closed⟩ => ?_
  cases done with
  | true => exact .bind (failure_triple hready) fun error => hrefused error
  | false =>
    cases closed with
    | true => exact hrefused _
    | false =>
      refine .bind (section_triple hready fun s hs => calm_account hs) fun accounted => ?_
      cases accounted with
      | false => exact hrefused _
      | true =>
        refine .bind (reading_triple hready) fun sequence => ?_
        refine .bind (reading_triple hready) fun eventBytes => ?_
        cases libraries.eventSize ⟨sequence, type, payload⟩ with
        | none => exact hrefused _
        | some =>
          simp only
          split_ifs with hsize
          · exact hrefused _
          · refine .bind send_triple fun step => ?_
            cases step with
            | sent =>
              refine .bind (updating_triple (kept_emitted type true) fun s hs => ?_)
                fun _ => .pure (kept_emitted type true).stable fun _ h => h
              exact calm_plain hs rfl
            | done =>
              exact .bind (failure_triple (kept_emitted type false)) fun error =>
                .pure (kept_emitted type false).stable fun _ h => h
            | closed | full => exact .pure (kept_emitted type false).stable fun _ h => h

/-- **Emitting an event**, if the turn has not ended. -/
lemma emit_triple (type : EventType) (payload : Json) :
    ClientTriple p q id (Ready q id type) (emit libraries type payload)
      fun emitted => Emitted q id type emitted := by
  refine .bind (queueEvent_triple libraries type payload) fun result => ?_
  cases result with
  | some error =>
    exact .bind (fail_triple (kept_emitted type false) error) fun _ =>
      .pure (kept_emitted type false).stable fun _ h => h
  | none => exact .pure (kept_emitted type true).stable fun _ h => h

/-- An event that does not end the turn. -/
lemma publish_triple (htype : type.isTerminal = false) (payload : Json) :
    ClientTriple p q id (Live q id) (publish libraries type payload) fun _ => Live q id := by
  refine .bind ((emit_triple libraries type payload).pre fun s _ h => h.ready htype) fun _ => ?_
  exact .pure kept_live.stable fun s h => h.live htype

end DataGround.Codex
