import DataGround.Codex.Handlers

/-!
# Turns of a client

All goroutines of a client are safe, and so two things hold in every run.

* `handles_registered` -- no native request has two handles;
* `turn_ends_once` -- nothing is queued after the event that ends a turn;
* `session_in_order` -- in a session, both.

The first two need conditions.  `ResolveApproval` removes its native key after its write, when the
server may have used the key for another request already; and some notifications become events even after
the end of the turn.  A session is safe from both.
-/

namespace DataGround.Codex

open Thread

variable {p q : Prop} {s t : Client} {id : ℕ}

/-! ### The calls -/

section

variable {libraries : CodexLibraries} {decoding : StartLibraries}

lemma kept_true : Kept p q id fun _ => True :=
  .const True

/-- Calls that know nothing. -/
abbrev Quiet (p q : Prop) (id : ℕ) {α : Type} (x : ClientThread α) : Prop :=
  ClientTriple p q id (fun _ => True) x fun _ _ => True

variable {approvalId : String}

/-- The handles after the approvals have changed without a change of native keys. -/
lemma calm_approvals (hs : s.Sound p q) {current : Approval} {resolving : Bool} {commands : ℤ}
    (h : s.approvals.lookup approvalId = some current) :
    s.Calm p { s with
      inFlightCommands := commands
      approvals := s.approvals.insert approvalId { current with resolving := resolving } } := by
  refine hs.calm_of_handles ⟨rfl, fun h => h, rfl, rfl, rfl, rfl, rfl⟩ rfl ?_
  intro entry hentry
  rcases List.mem_cons.mp (s.handles_insert_approval _ _ hentry) with rfl | hold
  · exact Client.approval_mem_handles.mpr ⟨current, h, rfl⟩
  · exact hold

variable {questionId : String}

lemma calm_questions (hs : s.Sound p q) {current : PendingQuestion} {resolving : Bool} {commands : ℤ}
    (h : s.questions.lookup questionId = some current) :
    s.Calm p { s with
      inFlightCommands := commands
      questions := s.questions.insert questionId { current with resolving := resolving } } := by
  refine hs.calm_of_handles ⟨rfl, fun h => h, rfl, rfl, rfl, rfl, rfl⟩ rfl ?_
  intro entry hentry
  rcases List.mem_cons.mp (s.handles_insert_question _ _ hentry) with rfl | hold
  · exact Client.question_mem_handles.mpr ⟨current, h, rfl⟩
  · exact hold

lemma finishCommand_triple {P : Client → Prop} (hP : Kept p q id P) :
    ClientTriple p q id P (updating Client.finishCommand) fun _ => P :=
  updating_triple hP fun _ hs => calm_plain hs rfl

/-- An approval that is being resolved was given out. -/
lemma beginResolve_triple :
    ClientTriple p q id (fun _ => True) (inSection (Client.beginResolve approvalId))
      fun result s => ∀ pending, result = some pending → p →
        (.approval approvalId, pending.nativeKey) ∈ s.issued := by
  refine section_learns kept_true (fun result => .all fun pending => .imp (.imp (kept_issued _))) ?_
  intro s hs _
  unfold Client.beginResolve
  cases hlookup : s.approvals.lookup approvalId with
  | none => exact ⟨calm_refl hs, fun pending h => (by cases h)⟩
  | some current =>
    dsimp only
    split_ifs with hbusy
    · exact ⟨calm_refl hs, fun pending h => (by cases h)⟩
    · refine ⟨calm_approvals hs hlookup, fun pending h hp => ?_⟩
      cases h
      exact (hs.handles hp).issued _ (Client.approval_mem_handles.mpr ⟨current, hlookup, rfl⟩)

lemma calm_releaseApproval (hs : s.Sound p q) (approvalId nativeKey : String) :
    s.Calm p (s.releaseApproval approvalId nativeKey) := by
  unfold Client.releaseApproval
  cases hlookup : s.approvals.lookup approvalId with
  | none => exact calm_refl hs
  | some =>
    dsimp only
    split_ifs
    · exact calm_approvals hs hlookup
    · exact calm_refl hs

/-- **The end of `ResolveApproval` is calm** if no other handle has its native key, and in a session none
can have it. -/
lemma calm_removeApproval (hs : s.Sound p q) {approvalId nativeKey : String}
    (hfine : p → KeysNotReused s (.cleanup approvalId nativeKey))
    (hissued : p → (.approval approvalId, nativeKey) ∈ s.issued) :
    s.Calm p (s.removeApproval approvalId nativeKey) := by
  refine hs.calm_of_removed ⟨rfl, fun h => h, rfl, rfl, rfl, rfl, rfl⟩ rfl fun hp entry hentry => ?_
  have howner : ∀ other ∈ s.handles, other.2 = nativeKey → other.1 = .approval approvalId := by
    intro other hother hkey
    rcases hfine hp with hmode | hkeys
    · have hdistinct : ∀ one two : Handle × String, one ∈ s.issued → two ∈ s.issued →
          one ≠ two → one.2 ≠ two.2 := by
        intro one two hone htwo hne
        have hsymm : Std.Symm fun one two : Handle × String => one.2 ≠ two.2 := ⟨fun _ _ h => h.symm⟩
        exact ((hs.handles hp).once hmode).forall hone htwo hne
      by_contra hne
      exact hdistinct other (.approval approvalId, nativeKey) ((hs.handles hp).issued other hother)
        (hissued hp) (fun heq => hne (congrArg Prod.fst heq)) hkey
    · exact hkeys other hother hkey
  have hold : entry ∈ s.handles ∧ entry.1 ≠ .approval approvalId := by
    obtain ⟨handle | handle, _⟩ := entry
    · rw [Client.approval_mem_handles] at hentry
      obtain ⟨pending, hlookup, rfl⟩ := hentry
      obtain ⟨hid, hlookup⟩ := Table.lookup_erase_cases hlookup
      exact ⟨Client.approval_mem_handles.mpr ⟨pending, hlookup, rfl⟩, by simpa using hid⟩
    · rw [Client.question_mem_handles] at hentry
      exact ⟨Client.question_mem_handles.mpr hentry, by simp⟩
  exact ⟨hold.1, fun hkey => hold.2 (howner entry hold.1 hkey)⟩

lemma writeDecision_triple {decision : Decision} {pending : Approval} :
    ClientTriple p q id (fun s => p → (.approval approvalId, pending.nativeKey) ∈ s.issued)
      (writeDecision libraries approvalId decision pending) fun _ _ => True := by
  have hkept : Kept p q id fun s => p → (.approval approvalId, pending.nativeKey) ∈ s.issued :=
    .imp (kept_issued _)
  unfold writeDecision
  split_ifs with hmethod
  · exact .pure kept_true.stable fun _ _ => trivial
  · refine .bind (writeGuarded_triple hkept (reading_triple hkept)) fun result => ?_
    cases result with
    | some =>
      refine .bind (updating_triple hkept fun s hs => calm_releaseApproval hs _ _) fun _ => ?_
      exact .pure kept_true.stable fun _ _ => trivial
    | none =>
      refine .bind (act_triple hkept (fun _ => hkept) fun s answer reply t hs hissued hfine hrun => ?_)
        fun _ => .pure kept_true.stable fun _ _ => trivial
      cases hrun
      exact ⟨calm_removeApproval hs hfine.1 hissued, hissued⟩

lemma resolveApproval_quiet {decision : Decision} :
    Quiet p q id (resolveApproval libraries approvalId decision) := by
  unfold resolveApproval
  split_ifs with hdecision
  · exact pure_triple kept_true
  · refine .bind beginResolve_triple fun result => ?_
    cases result with
    | none => exact .pure kept_true.stable fun _ _ => trivial
    | some pending =>
      refine .bind (writeDecision_triple.pre fun s _ h => h pending rfl) fun _ => ?_
      exact .bind (finishCommand_triple kept_true) fun _ => pure_triple kept_true

lemma calm_beginAnswer (hs : s.Sound p q) (questionId : String) (answers : Json) (now : ℤ) :
    s.Calm p (s.beginAnswer libraries questionId answers now).2 := by
  unfold Client.beginAnswer
  cases hlookup : s.questions.lookup questionId with
  | none => exact calm_refl hs
  | some =>
    dsimp only
    split_ifs
    · exact calm_refl hs
    · exact calm_refl hs
    · split
      · exact calm_refl hs
      · exact calm_questions hs hlookup

lemma calm_releaseQuestion (hs : s.Sound p q) (questionId : String) (pointer : ℕ) :
    s.Calm p (s.releaseQuestion questionId pointer) := by
  unfold Client.releaseQuestion
  cases hlookup : s.questions.lookup questionId with
  | none => exact calm_refl hs
  | some =>
    dsimp only
    split_ifs
    · exact calm_questions hs hlookup
    · exact calm_refl hs

/-- **The end of `AnswerQuestion` is calm**: it looks whether the handle is still its own. -/
lemma calm_removeQuestion (hs : s.Sound p q) (questionId : String) (pointer : ℕ) :
    s.Calm p (s.removeQuestion questionId pointer) := by
  unfold Client.removeQuestion
  cases hcurrent : s.questions.lookup questionId with
  | none => exact calm_refl hs
  | some current =>
    dsimp only
    split_ifs
    · refine hs.calm_of_removed ⟨rfl, fun h => h, rfl, rfl, rfl, rfl, rfl⟩ rfl fun hp entry hentry => ?_
      have hown : (.question questionId, current.nativeKey) ∈ s.handles :=
        Client.question_mem_handles.mpr ⟨current, hcurrent, rfl⟩
      have hold : entry ∈ s.handles ∧ entry ≠ (.question questionId, current.nativeKey) := by
        obtain ⟨handle | handle, _⟩ := entry
        · rw [Client.approval_mem_handles] at hentry
          exact ⟨Client.approval_mem_handles.mpr hentry, by simp⟩
        · rw [Client.question_mem_handles] at hentry
          obtain ⟨pending, hlookup, rfl⟩ := hentry
          obtain ⟨hid, hlookup⟩ := Table.lookup_erase_cases hlookup
          exact ⟨Client.question_mem_handles.mpr ⟨pending, hlookup, rfl⟩, by simp [hid]⟩
      exact ⟨hold.1, fun hkey => hold.2 ((hs.handles hp).unique entry hold.1 _ hown hkey)⟩
    · exact calm_refl hs

lemma answerQuestion_quiet {answers : Json} :
    Quiet p q id (answerQuestion libraries questionId answers) := by
  unfold answerQuestion
  refine .bind (contextDone_triple kept_true) fun cancelled => ?_
  cases cancelled with
  | true => exact pure_triple kept_true
  | false =>
    refine .bind (readClock_triple kept_true) fun now => ?_
    refine .bind (section_triple kept_true fun s hs => calm_beginAnswer hs _ _ _) fun result => ?_
    cases result with
    | error => exact pure_triple kept_true
    | ok pending =>
      have hwrite : Quiet p q id (writeAnswers libraries questionId answers pending) := by
        refine .bind (writeGuarded_triple kept_true (.bind (readClock_triple kept_true) fun now =>
          reading_triple kept_true)) fun result => ?_
        cases result with
        | some =>
          exact .bind (updating_triple kept_true fun s hs => calm_releaseQuestion hs _ _)
            fun _ => pure_triple kept_true
        | none =>
          exact .bind (updating_triple kept_true fun s hs => calm_removeQuestion hs _ _)
            fun _ => pure_triple kept_true
      exact .bind hwrite fun _ => .bind (finishCommand_triple kept_true) fun _ =>
        pure_triple kept_true

/-- Closing the interactions while a command starts. -/
lemma calm_closing (s : Client) (commands : ℤ) :
    s.Calm p { s.closeInteractions with inFlightCommands := commands } :=
  ⟨⟨rfl, fun _ => rfl, rfl, rfl, rfl, rfl, rfl⟩, (calm_closeInteractions s).kept⟩

lemma questionTimer_quiet {pointer : ℕ} : Quiet p q id (questionTimer questionId pointer) := by
  refine .bind (section_triple kept_true fun s hs => ?_) fun expired => ?_
  · unfold Client.expire
    split
    · exact calm_refl hs
    · split_ifs
      · exact calm_closing s _
      · exact calm_refl hs
  · cases expired with
    | false => exact pure_triple kept_true
    | true =>
      exact .bind (fail_triple kept_true _) fun _ => .bind (finishCommand_triple kept_true)
        fun _ => pure_triple kept_true

lemma request_quiet {method : String} {params : Json} :
    Quiet p q id (request libraries method params) := by
  refine .bind (write_triple kept_true _ _) fun result => ?_
  cases result with
  | some => exact pure_triple kept_true
  | none =>
    refine .bind (environment_triple kept_true fun s answer reply t h => ?_) fun response => ?_
    · split at h <;> (try split_ifs at h) <;> cases h <;> rfl
    · cases response with
      | result | error => exact pure_triple kept_true
      | done => exact .bind (failure_triple kept_true) fun _ => pure_triple kept_true
      | cancelled => exact .bind (fail_triple kept_true _) fun _ => pure_triple kept_true

lemma interrupt_quiet : Quiet p q id (interrupt libraries) := by
  refine .bind (section_triple kept_true fun s hs => ?_) fun result => ?_
  · unfold Client.beginInterrupt
    split_ifs
    · exact calm_refl hs
    · exact calm_closing s _
  · cases result with
    | none => exact pure_triple kept_true
    | some turn =>
      obtain ⟨threadId, turnId⟩ := turn
      have hrequest : Quiet p q id (requestInterrupt libraries threadId turnId) := by
        unfold requestInterrupt
        split_ifs
        · exact pure_triple kept_true
        · refine .bind request_quiet fun result => ?_
          cases result with
          | error | ok => exact pure_triple kept_true
      exact .bind hrequest fun _ => .bind (finishCommand_triple kept_true) fun _ =>
        pure_triple kept_true

lemma protocolFailed_quiet {text : String} : Quiet p q id (protocolFailed text) :=
  .bind (protocolFailure_triple kept_true text) fun _ => pure_triple kept_true

lemma startTurn_quiet {params : Json} : Quiet p q id (startTurn libraries decoding params) := by
  unfold startTurn
  refine .bind request_quiet fun result => ?_
  cases result with
  | error => exact pure_triple kept_true
  | ok text =>
    dsimp only
    cases decoding.decodeTurn text with
    | none => exact protocolFailed_quiet
    | some =>
      refine .bind (reading_triple kept_true) fun ⟨sequential, retired⟩ => ?_
      dsimp only
      split_ifs
      · exact protocolFailed_quiet
      · refine .bind (section_triple kept_true fun s hs => ?_) fun begun => ?_
        · unfold Client.beginTurn
          split_ifs
          · exact calm_refl hs
          · exact calm_plain hs rfl
        · cases begun with
          | true => exact pure_triple kept_true
          | false => exact protocolFailed_quiet

lemma startClient_quiet {start : StartRequest} :
    Quiet p q id (startClient libraries decoding start) := by
  unfold startClient
  refine .bind (section_triple kept_true fun s hs => ?_) fun begun => ?_
  · unfold Client.begin
    split_ifs
    · exact calm_refl hs
    · exact calm_plain hs rfl
  · cases begun with
    | false => exact pure_triple kept_true
    | true =>
      refine .bind request_quiet fun initialized => ?_
      cases initialized with
      | error => exact pure_triple kept_true
      | ok =>
        refine .bind (write_triple kept_true _ _) fun notified => ?_
        cases notified with
        | some => exact pure_triple kept_true
        | none =>
          refine .bind request_quiet fun result => ?_
          cases result with
          | error => exact pure_triple kept_true
          | ok text =>
            dsimp only
            cases decoding.decodeThread text with
            | none => exact protocolFailed_quiet
            | some found =>
              refine .bind (reading_triple kept_true) fun sequential => ?_
              split_ifs
              · exact protocolFailed_quiet
              · cases workingDirectory decoding start.workingDir found.2 with
                | none => exact protocolFailed_quiet
                | some =>
                  refine .bind (updating_triple kept_true fun s hs => ?_) fun _ => startTurn_quiet
                  exact calm_plain hs rfl

lemma close_quiet : Quiet p q id close := by
  refine .bind (section_triple kept_true fun s hs => ?_) fun claimed => ?_
  · unfold Client.claimClose
    split_ifs
    · exact calm_refl hs
    · exact calm_plain hs rfl
  · cases claimed with
    | true => exact .bind (fail_triple kept_true _) fun _ => pure_triple kept_true
    | false => exact pure_triple kept_true

lemma receive_quiet : Quiet p q id receive := by
  refine act_triple kept_true (fun _ => kept_true) fun s answer reply t hs _ _ hrun => ?_
  cases hevents : s.events with
  | nil => simp [hevents] at hrun
  | cons =>
    simp only [hevents, Option.some.injEq, Prod.mk.injEq] at hrun
    obtain ⟨-, rfl⟩ := hrun
    exact ⟨calm_plain hs rfl, trivial⟩

/-- **Whoever takes `dispatchMu` finds the end of the turn noted**, if it was queued. -/
lemma lock_keeps (hs : s.Sound p q) (hfree : s.dispatching = none) :
    Client.Sound p q { s with dispatching := some id } ∧
      s.Promise id { s with dispatching := some id } ∧
      Settled q id { s with dispatching := some id } := by
  refine ⟨⟨fun hp => ?_, fun hq => ?_⟩, ⟨rfl, fun h => h, fun _ h => h, fun k hk _ => ?_⟩, rfl,
    fun hq => (hs.events hq).settled hfree⟩
  · exact (hs.handles hp).later rfl rfl rfl fun entry hentry =>
      ⟨hentry, (hs.handles hp).present entry hentry⟩
  · exact ⟨(hs.events hq).final, (hs.events hq).ended, fun h => (by cases h)⟩
  · exact absurd (hfree.symm.trans hk) (by simp)

lemma unlockDispatch_triple : ClientTriple p q id (Settled q id) unlockDispatch fun _ _ => True := by
  refine Triple.step kept_settled.stable (fun _ => kept_true.stable) ?_
  intro s answer reply t hs hsettled _ hrun
  cases hrun
  refine ⟨⟨fun hp => ?_, fun hq => ?_⟩, ⟨rfl, fun h => h, fun _ h => h, fun k hk hne => ?_⟩, trivial⟩
  · exact (hs.handles hp).later rfl rfl rfl fun entry hentry =>
      ⟨hentry, (hs.handles hp).present entry hentry⟩
  · exact ⟨(hs.events hq).final, (hs.events hq).ended, fun _ hended => hsettled.2 hq hended⟩
  · exact absurd (Option.some.inj (hk.symm.trans hsettled.1)) hne

lemma nextTurn_quiet : Quiet p q id nextTurn := by
  refine .bind (reading_triple kept_true) fun ⟨terminal, inFlight⟩ => ?_
  dsimp only
  split_ifs
  · exact pure_triple kept_true
  · refine .bind (reading_triple kept_true) fun pending => ?_
    split_ifs
    · exact pure_triple kept_true
    · refine .bind (Q := fun _ => Settled q id) ?_ fun _ => ?_
      · refine Triple.step kept_true.stable (fun _ => kept_settled.stable) ?_
        intro s answer reply t hs _ _ hrun
        split_ifs at hrun with hfree
        cases hrun
        exact lock_keeps hs hfree
      · refine .bind (section_triple kept_settled fun s hs => ?_) fun error => ?_
        · unfold Client.retire
          split_ifs
          · exact calm_refl hs
          · exact calm_refl hs
          · exact calm_plain hs rfl
        · exact .bind unlockDispatch_triple fun _ => pure_triple kept_true

/-- **A message is taken**: in a session, or if the turn has not ended, or if it is not a loud one. -/
lemma dispatch_triple {message : WireMessage} : ClientTriple p q id (fun _ => True)
    (dispatch message) fun _ => Taken q id message := by
  refine Triple.step kept_true.stable (fun _ => kept_taken.stable) ?_
  intro s answer reply t hs _ hfine hrun
  split_ifs at hrun with hfree
  cases hrun
  obtain ⟨hsound, hpromise, hsettled⟩ := lock_keeps hs hfree.1
  refine ⟨hsound, hpromise, hsettled, ?_⟩
  by_cases hmode : s.sequential = true
  · exact .inl hmode
  · refine .inr fun hloud => ⟨rfl, fun hq hended => ?_⟩
    rcases hfine.2 hq with hsequential | hquiet | hrunning
    · exact hmode hsequential
    · rw [hloud] at hquiet
      cases hquiet
    · exact hrunning hended

lemma inbound_quiet {message : WireMessage} : Quiet p q id (inbound libraries message) :=
  .bind dispatch_triple fun _ => .bind handleInbound_triple fun _ => .bind unlockDispatch_triple
    fun _ => pure_triple kept_true

/-- **Every goroutine is safe.** -/
lemma program_quiet (call : CodexCall) : Quiet p q id (call.program libraries decoding) := by
  cases call with
  | inbound => exact inbound_quiet
  | resolveApproval => exact resolveApproval_quiet
  | answerQuestion => exact answerQuestion_quiet
  | questionTimer => exact questionTimer_quiet
  | interrupt => exact interrupt_quiet
  | start => exact startClient_quiet
  | nextTurn => exact nextTurn_quiet
  | close => exact close_quiet
  | fail error => exact .bind (fail_triple kept_true error) fun _ => pure_triple kept_true
  | receive => exact receive_quiet

end

/-! ### Runs -/

/-- A client at the start of its turn; it may have been configured. -/
structure Client.Fresh (s : Client) : Prop where
  approvals : s.approvals = ∅
  questions : s.questions = ∅
  issued : s.issued = []
  queued : s.queued = []
  dispatching : s.dispatching = none

lemma Client.Fresh.sound (hs : s.Fresh) : s.Sound p q := by
  have hnone : ∀ entry, entry ∉ s.handles := by
    rw [Client.handles, hs.approvals, hs.questions]
    exact fun _ => List.not_mem_nil
  have hended : ¬s.Ended := by
    rintro ⟨event, hevent, -⟩
    rw [hs.queued] at hevent
    cases hevent
  refine ⟨fun _ => ⟨⟨fun _ h => (hnone _ h).elim, fun _ h => (hnone _ h).elim⟩,
    fun _ h => (hnone _ h).elim, ?_, ?_⟩, fun _ => ⟨?_, fun h => (hended h).elim,
    fun _ h => (hended h).elim⟩⟩
  · rw [hs.issued]
    exact fun _ => List.Pairwise.nil
  · rw [hs.issued]
    exact fun _ _ h => (by cases h)
  · rw [hs.queued]
    intro before event after h
    exact absurd h.symm (by simp)

section

variable {libraries : CodexLibraries} {decoding : StartLibraries}
  {events : List (Server.Event CodexAnswer CodexCall)} {sys : CodexSystem}

/-- The invariant holds in every run that meets the conditions. -/
lemma sound_of_run (hs : s.Fresh)
    (h : Run.run (codexThreads libraries decoding).step (Server.initial s) events = some sys)
    (hfine : Run.Along (codexThreads libraries decoding).step (Good (Fine p q)) (Server.initial s)
      events) : sys.shared.Sound p q :=
  (consistent_of_run (Q := fun _ _ _ _ => True) (fun _ call _ hsound =>
    program_quiet call _ hsound trivial) hs.sound hfine h).invariant

lemma good_mono {ok ok' : Client → CodexLabel → Prop} (h : ∀ s label, ok s label → ok' s label)
    (sys : CodexSystem) (event : Server.Event CodexAnswer CodexCall) (hgood : Good ok sys event) :
    Good ok' sys event := by
  cases event with
  | start | close => trivial
  | answer => exact fun label hlabel => h _ label (hgood label hlabel)

lemma Final.countP_le {queued : List Event} (h : Final queued) :
    queued.countP (fun event => event.type.isTerminal) ≤ 1 := by
  induction queued with
  | nil => simp
  | cons event rest ih =>
    have hrest : Final rest := by
      intro before e after heq
      exact h (event :: before) e after (by rw [heq, List.cons_append])
    by_cases hterminal : event.type.isTerminal = true
    · have hnil : rest = [] := h [] event rest rfl hterminal
      rw [hnil, List.countP_singleton, if_pos hterminal]
    · rw [List.countP_cons, if_neg hterminal]
      exact ih hrest

end

/-- **One native request has one handle.**  In every run of a client in which `ResolveApproval` removes a
native key only if no other handle has it -- which is always so in a session -- every live handle has its
native key among the known requests, and no two have the same. -/
theorem handles_registered (libraries : CodexLibraries) (decoding : StartLibraries) {s : Client}
    (hs : s.Fresh) {events : List (Server.Event CodexAnswer CodexCall)} {sys : CodexSystem}
    (h : Run.run (codexThreads libraries decoding).step (Server.initial s) events = some sys)
    (hkeys : Run.Along (codexThreads libraries decoding).step (Good KeysNotReused) (Server.initial s)
      events) : sys.shared.Registered := by
  have hfine := hkeys.mono (good_mono fun s label (hlabel : KeysNotReused s label) =>
    (⟨fun _ => hlabel, fun hfalse => hfalse.elim⟩ : Fine True False s label))
  exact ((sound_of_run hs h hfine).handles trivial).toRegistered

/-- **A turn ends once.**  In every run of a client in which, outside of a session, no notification that
nothing guards is handled after the end of the turn, no event follows one that ends the turn; so there is
at most one of those. -/
theorem turn_ends_once (libraries : CodexLibraries) (decoding : StartLibraries) {s : Client}
    (hs : s.Fresh) {events : List (Server.Event CodexAnswer CodexCall)} {sys : CodexSystem}
    (h : Run.run (codexThreads libraries decoding).step (Server.initial s) events = some sys)
    (hquiet : Run.Along (codexThreads libraries decoding).step (Good QuietAfterEnd) (Server.initial s)
      events) :
    Final sys.shared.queued ∧
      sys.shared.queued.countP (fun event => event.type.isTerminal) ≤ 1 := by
  have hfine := hquiet.mono (good_mono fun s label (hlabel : QuietAfterEnd s label) =>
    (⟨fun hfalse => hfalse.elim, fun _ => hlabel⟩ : Fine False True s label))
  have hfinal := ((sound_of_run hs h hfine).events trivial).final
  exact ⟨hfinal, hfinal.countP_le⟩

/-- **In a session nothing depends on care.**  In every run of a client in a session, whatever the order of
its goroutines, no native request ever gets a second handle, live handles are known, nothing follows an event
that ends the turn, and interactions are closed from then on. -/
theorem session_in_order (libraries : CodexLibraries) (decoding : StartLibraries) {s : Client}
    (hs : s.Fresh) (hsession : s.sequential = true) {events : List (Server.Event CodexAnswer CodexCall)}
    {sys : CodexSystem}
    (h : Run.run (codexThreads libraries decoding).step (Server.initial s) events = some sys) :
    sys.shared.issued.Pairwise (fun one other => one.2 ≠ other.2) ∧ sys.shared.Registered ∧
      Final sys.shared.queued ∧ (sys.shared.Ended → sys.shared.interactionsClosed = true) := by
  have hfine : ∀ (s : Client) label, s.sequential = true → Fine True True s label := by
    intro s label hsequential
    cases label <;> simp [Fine, KeysNotReused, QuietAfterEnd, hsequential]
  have hrun := consistent_of_run (Q := fun _ _ _ _ => True) (fun _ call _ hstart =>
    (program_quiet call _ hstart.1 trivial).under
      (fun _ _ _ hpromise hsequential => hpromise.sequential.trans hsequential) hfine)
    ⟨hs.sound, hsession⟩ (Run.along_of_forall fun _ event => by cases event <;> simp [Good]) h
  obtain ⟨hsound, hsequential⟩ := hrun.invariant
  have hhandles := hsound.handles trivial
  have hevents := hsound.events trivial
  exact ⟨hhandles.once hsequential, hhandles.toRegistered, hevents.final, hevents.ended⟩

namespace Scenario

/-- Libraries for which all parameters of a kind say the same. -/
def libraries : CodexLibraries where
  trimSpace text := text
  decodeString _ := none
  decodeInt64 _ := some 7
  decodeScope _ := some ⟨"thread", "turn", ""⟩
  decodeTurn _ := some ⟨"thread", "turn", "completed"⟩
  decodeDelta _ := none
  decodeItem _ := none
  decodeUsage _ := none
  decodePlan _ := none
  decodeResolved _ := some ("thread", "7")
  normalizeItem _ _ _ := .error ""
  validQuestionText _ := false
  decodeQuestion _ := none
  validQuestionNativeId _ := false
  normalizeQuestions _ := .error ""
  validateAnswers _ _ := none
  nativeAnswers _ _ _ := .null
  formatTime _ := ""
  eventSize _ := some 1
  frameSize _ := some 1

def decoding : StartLibraries where
  decodeThread _ := some ("thread", "")
  decodeTurn _ := some "turn"
  validWorkingDirectory _ := true

/-- A new client. -/
def client (sequential : Bool) : Client :=
  newTurnClient ⟨true, none, [], [], false, none, false, false⟩ sequential

/-- A goroutine starts, and takes its steps with these answers. -/
def thread (id : ℕ) (call : CodexCall) (answers : List CodexAnswer) :
    List (Server.Event CodexAnswer CodexCall) :=
  .start id call :: answers.map fun answer => .answer id answer

/-- The answers for a write that succeeds. -/
def written : List CodexAnswer :=
  [.context false, .write .proceed, .write .proceed]

/-- `Start` succeeds. -/
def startup : List (Server.Event CodexAnswer CodexCall) :=
  thread 0 (.start ⟨.interactive, .disabled, 0, "", .null⟩)
    ([.go] ++ written ++ [.response (.result "")] ++ written ++ written ++ [.response (.result ""), .go, .go]
      ++ written ++ [.response (.result ""), .go, .go])

/-- The notification that the turn is over. -/
def turnCompleted (id : ℕ) : List (Server.Event CodexAnswer CodexCall) :=
  thread id (.inbound ⟨"", .turnCompleted, ""⟩)
    [.go, .go, .go, .go, .go, .go, .go, .go, .send .sent, .go, .go, .go]

/-- A request for an approval, which gets a handle. -/
def requested (id : ℕ) : List (Server.Event CodexAnswer CodexCall) :=
  thread id (.inbound ⟨"7", .requestCommandApproval, ""⟩)
    [.go, .go, .go, .go, .go, .go, .go, .go, .go, .go, .send .sent, .go, .go]

/-- The server says that the request is resolved. -/
def resolved (id : ℕ) : List (Server.Event CodexAnswer CodexCall) :=
  thread id (.inbound ⟨"", .resolved, ""⟩) [.go, .go, .go, .go]

/-- `ResolveApproval` up to the end of its write. -/
def answered (id : ℕ) : List (Server.Event CodexAnswer CodexCall) :=
  thread id (.resolveApproval "approval-1" .approve)
    [.go, .context false, .write .proceed, .go, .write .proceed]

/-- The request is answered and resolved, and its identifier comes again before `ResolveApproval` is over;
and then once more. -/
def reused : List (Server.Event CodexAnswer CodexCall) :=
  startup ++ requested 1 ++ answered 2 ++ resolved 3 ++ requested 4 ++ [.answer 2 .go, .answer 2 .go]
    ++ requested 5

/-- The request is answered, and its identifier comes again after that. -/
def reusedLater : List (Server.Event CodexAnswer CodexCall) :=
  startup ++ requested 1 ++ answered 2 ++ resolved 3 ++ [.answer 2 .go, .answer 2 .go] ++ requested 4

end Scenario

open Scenario in
/-- **Two handles for one request**: `ResolveApproval` removes a native key that has another handle by
then, and so the key may get a third one. -/
theorem two_handles_for_one_request :
    ∃ sys, Run.run (codexThreads libraries decoding).step (Server.initial (client false)) reused = some sys ∧
      sys.shared.handles = [(.approval "approval-3", "integer:7"), (.approval "approval-2", "integer:7")] ∧
      ¬sys.shared.Registered := by
  refine Run.exists_some_and (by decide +kernel) fun sys _ hhandles hregistered => ?_
  have hunique := hregistered.unique (.approval "approval-3", "integer:7") (by simp [hhandles])
    (.approval "approval-2", "integer:7") (by simp [hhandles]) rfl
  revert hunique
  decide

open Scenario in
/-- If the identifier comes again only after `ResolveApproval` is over, there is one handle for it. -/
theorem handles_registered_later :
    ∃ sys, Run.run (codexThreads libraries decoding).step (Server.initial (client false)) reusedLater =
        some sys ∧
      sys.shared.handles = [(.approval "approval-2", "integer:7")] ∧ sys.shared.Registered := by
  refine Run.exists_some_and (by decide +kernel) fun sys hsys _ =>
    handles_registered libraries decoding ⟨rfl, rfl, rfl, rfl, rfl⟩ hsys ?_
  decide +kernel

open Scenario in
/-- **A turn that ends twice**: nothing keeps a second `turn/completed` from being queued. -/
theorem turn_ends_twice :
    ∃ sys, Run.run (codexThreads libraries decoding).step (Server.initial (client false))
        (startup ++ turnCompleted 1 ++ turnCompleted 2) = some sys ∧
      sys.shared.queued.map (fun event => event.type) = [.lifecycleSucceeded, .lifecycleSucceeded] ∧
      ¬Final sys.shared.queued := by
  refine Run.exists_some_and (by decide +kernel) fun sys _ htypes hfinal => ?_
  obtain ⟨one, rest, hqueued, hone, hrest⟩ := List.map_eq_cons_iff.mp htypes
  have hnil := hfinal [] one rest hqueued (by rw [hone]; rfl)
  rw [hnil] at hrest
  cases hrest

open Scenario in
/-- An approval is asked for, and then the turn ends. -/
theorem turn_ends_once_completed :
    ∃ sys, Run.run (codexThreads libraries decoding).step (Server.initial (client false))
        (startup ++ requested 1 ++ turnCompleted 2) = some sys ∧
      sys.shared.queued.map (fun event => event.type) = [.approvalRequested, .lifecycleSucceeded] ∧
      Final sys.shared.queued ∧
        sys.shared.queued.countP (fun event => event.type.isTerminal) ≤ 1 := by
  refine Run.exists_some_and (by decide +kernel) fun sys hsys _ =>
    turn_ends_once libraries decoding ⟨rfl, rfl, rfl, rfl, rfl⟩ hsys ?_
  decide +kernel

open Scenario in
/-- An approval is asked for in a session, and then the turn ends. -/
theorem session_in_order_completed :
    ∃ sys, Run.run (codexThreads libraries decoding).step (Server.initial (client true)) (startup ++
        thread 1 (.inbound ⟨"7", .requestCommandApproval, ""⟩)
          (List.replicate 12 .go ++ [.send .sent, .go, .go]) ++
        thread 2 (.inbound ⟨"", .turnCompleted, ""⟩)
          (List.replicate 10 .go ++ [.send .sent, .go, .go, .go])) = some sys ∧
      (sys.shared.Ended ∧ sys.shared.issued.length = 1) ∧ Final sys.shared.queued ∧
      sys.shared.interactionsClosed = true := by
  refine Run.exists_some_and (by decide +kernel) fun sys hsys hended => ?_
  obtain ⟨-, -, hfinal, hclosed⟩ :=
    session_in_order libraries decoding ⟨rfl, rfl, rfl, rfl, rfl⟩ rfl hsys
  exact ⟨hfinal, hclosed hended.1⟩

end DataGround.Codex
