import DataGround.Codex.Promises

/-!
# The handlers keep their promises

The handler of messages knows whether the turn has ended: from `terminalDone`, from the mode of a session,
from an interaction that is still open -- or, for the notifications that nothing guards, from the condition
on the run.
-/

namespace DataGround.Codex

open Thread

variable {p q : Prop} {s t : Client} {id : ℕ}

/-! ### Requests of the server -/

variable {libraries : CodexLibraries} {message : WireMessage} {nativeKey : String}

/-- **A new handle keeps the invariant**: its native key was not known, and in a session it never had a
handle. -/
lemma Client.HandlesSound.insert {entry : Handle × String} (hs : s.HandlesSound)
    (hnew : entry.2 ∉ s.nativeRequests)
    (hunused : s.sequential = true → ∀ other ∈ s.issued, other.2 ≠ entry.2)
    (hsequential : t.sequential = s.sequential) (hissued : t.issued = entry :: s.issued)
    (hseen : t.seenRequests = s.seenRequests) (hkey : s.sequential = true → entry.2 ∈ s.seenRequests)
    (hrequests : t.nativeRequests = entry.2 :: s.nativeRequests)
    (hhandles : ∀ other ∈ t.handles, other = entry ∨ other ∈ s.handles) : t.HandlesSound where
  present other hother := by
    rw [hrequests, List.mem_cons]
    rcases hhandles other hother with rfl | hold
    · exact .inl rfl
    · exact .inr (hs.present other hold)
  unique one hone other hother hsame := by
    rcases hhandles one hone with rfl | hone <;> rcases hhandles other hother with rfl | hother
    · rfl
    · exact absurd (hsame ▸ hs.present other hother) hnew
    · exact absurd (hsame ▸ hs.present one hone) hnew
    · exact hs.unique one hone other hother hsame
  issued other hother := by
    rw [hissued, List.mem_cons]
    exact (hhandles other hother).imp_right (hs.issued other)
  once hmode := by
    rw [hissued, List.pairwise_cons]
    rw [hsequential] at hmode
    exact ⟨fun other hother => (hunused hmode other hother).symm, hs.once hmode⟩
  seen hmode other hother := by
    rw [hsequential] at hmode
    rw [hissued, List.mem_cons] at hother
    rw [hseen]
    rcases hother with rfl | hold
    · exact hkey hmode
    · exact hs.seen hmode other hold

/-- What is known after a section that may make a handle. -/
def Offered (q : Prop) (id : ℕ) {α : Type} : Option α → Client → Prop
  | some _ => Live q id
  | none => Settled q id

lemma kept_offered {α : Type} (result : Option α) : Kept p q id (Offered q id result) := by
  cases result with
  | none => exact kept_settled
  | some => exact kept_live

/-- A section that makes a handle, or does nothing.  Interactions are open then, so that the turn has not
ended. -/
lemma register_triple {α : Type} {f : Client → Option α × Client} {nativeKey : String}
    (h : ∀ s : Client, (f s = (none, s)) ∨ ∃ a entry, (f s).1 = some a ∧ entry.2 = nativeKey ∧
      s.interactionsClosed = false ∧ entry.2 ∉ s.nativeRequests ∧
      (f s).2.sequential = s.sequential ∧ (f s).2.interactionsClosed = s.interactionsClosed ∧
      (f s).2.dispatching = s.dispatching ∧ (f s).2.queued = s.queued ∧
      (f s).2.terminalDone = s.terminalDone ∧ (f s).2.issued = entry :: s.issued ∧
      (f s).2.seenRequests = s.seenRequests ∧
      (f s).2.nativeRequests = entry.2 :: s.nativeRequests ∧
      ∀ other ∈ (f s).2.handles, other = entry ∨ other ∈ s.handles) :
    ClientTriple p q id (fun s => Unused p id nativeKey s ∧ Settled q id s) (inSection f)
      (Offered q id) := by
  refine Triple.step ((kept_unused nativeKey).and kept_settled).stable
    (fun result => (kept_offered result).stable) ?_
  rintro s answer result t hs ⟨hunused, hsettled⟩ - hrun
  have heq : f s = (result, t) := Option.some.inj hrun
  rcases h s with hnone | ⟨a, entry, ha, hkey, hopen, hnew, h₁, h₂, h₃, h₄, h₅, h₆, h₇, h₈, h₉⟩
  · cases heq.symm.trans hnone
    exact ⟨hs, (calm_refl hs).promise, hsettled⟩
  · rw [heq] at ha h₁ h₂ h₃ h₄ h₅ h₆ h₇ h₈ h₉
    refine ⟨⟨fun hp => ?_, fun hq => ?_⟩, ⟨h₁, fun hclosed => h₂.trans hclosed, ?_, ?_⟩, ?_⟩
    · refine (hs.handles hp).insert hnew (fun hmode => ?_) h₁ h₆ h₇ (fun hmode => ?_) h₈ h₉
      · rw [hkey]
        exact (hunused.2 hp hmode).2
      · rw [hkey]
        exact (hunused.2 hp hmode).1
    · exact (hs.events hq).later h₄ (fun hclosed => h₂.trans hclosed) (fun hfree => h₃ ▸ hfree) h₅
    · intro other hother
      rw [h₆]
      exact List.mem_cons_of_mem _ hother
    · intro k hk hne
      exact absurd (Option.some.inj (hk.symm.trans hsettled.1)) hne
    · cases (show result = some a from ha)
      refine ⟨h₃.trans hsettled.1, fun hq hended => ?_⟩
      have := (hs.events hq).ended ((ended_congr h₄).mp hended)
      rw [hopen] at this
      cases this

variable {request : String}

lemma registerApproval_triple {method : Method} :
    ClientTriple p q id (fun s => Unused p id nativeKey s ∧ Settled q id s)
      (inSection (Client.registerApproval request method nativeKey)) (Offered q id) := by
  refine register_triple fun s => ?_
  unfold Client.registerApproval
  split_ifs with hknown
  · exact .inl rfl
  · push Not at hknown
    exact .inr ⟨_, (.approval _, nativeKey), rfl, rfl, by simpa using hknown.2, hknown.1, rfl, rfl, rfl,
      rfl, rfl, rfl, rfl, rfl, fun _ h => List.mem_cons.mp (s.handles_insert_approval _ _ h)⟩

lemma registerQuestion_triple {nativeIds : List String} {prompts : Json} {now : ℤ} :
    ClientTriple p q id (fun s => Unused p id nativeKey s ∧ Settled q id s)
      (inSection (Client.registerQuestion request nativeKey nativeIds prompts now)) (Offered q id) := by
  refine register_triple fun s => ?_
  unfold Client.registerQuestion
  split_ifs with hknown
  · exact .inl rfl
  · push Not at hknown
    exact .inr ⟨_, (.question _, nativeKey), rfl, rfl, by simpa using hknown.1, hknown.2.1, rfl, rfl,
      rfl, rfl, rfl, rfl, rfl, rfl, fun _ h => List.mem_cons.mp (s.handles_insert_question _ _ h)⟩

lemma kept_handling : Kept p q id fun s => Unused p id nativeKey s ∧ Settled q id s :=
  (kept_unused nativeKey).and kept_settled

lemma refuse_settled {code : ℤ} {text : String} :
    ClientTriple p q id (fun s => Unused p id nativeKey s ∧ Settled q id s)
      (refuse libraries request code text) fun _ => Settled q id :=
  (refuse_triple kept_settled libraries request code text).pre fun _ _ h => h.2

lemma publish_settled {type : EventType} (htype : type.isTerminal = false) {payload : Json} :
    ClientTriple p q id (Live q id) (publish libraries type payload) fun _ => Settled q id :=
  (publish_triple libraries htype payload).post (fun _ => kept_settled.stable) fun _ _ h => h.settled

lemma handleQuestionRequest_triple :
    ClientTriple p q id (fun s => Unused p id nativeKey s ∧ Settled q id s)
      (handleQuestionRequest libraries message nativeKey) fun _ => Settled q id := by
  unfold handleQuestionRequest
  refine .bind (reading_triple kept_handling) fun enabled => ?_
  split_ifs with henabled hvalid
  · exact refuse_settled
  · exact refuse_settled
  · cases libraries.decodeQuestion message.params with
    | none => exact refuse_settled
    | some params =>
      refine .bind (reading_triple kept_handling) fun current => ?_
      split_ifs with hscope
      · exact refuse_settled
      · cases libraries.normalizeQuestions params.questions with
        | error => exact refuse_settled
        | ok questions =>
          obtain ⟨_, _⟩ := questions
          refine .bind (readClock_triple kept_handling) fun now => ?_
          refine .bind registerQuestion_triple fun result => ?_
          cases result with
          | none => exact refuse_triple kept_settled _ _ _ _
          | some => exact publish_settled rfl

lemma handleApprovalRequest_triple {action : String} :
    ClientTriple p q id (fun s => Unused p id nativeKey s ∧ Settled q id s)
      (handleApprovalRequest libraries message nativeKey action) fun _ => Settled q id := by
  unfold handleApprovalRequest
  refine .bind (reading_triple kept_handling) fun ⟨locked, closed⟩ => ?_
  cases closed with
  | true => exact refuse_settled
  | false =>
    cases locked with
    | true =>
      exact .bind ((write_triple kept_settled libraries _).pre fun _ _ h => h.2) fun result =>
        failWith_triple kept_settled result
    | false =>
      refine .bind (reading_triple kept_handling) fun current => ?_
      split_ifs with hscope
      · exact refuse_settled
      · refine .bind registerApproval_triple fun result => ?_
        cases result with
        | none => exact refuse_triple kept_settled _ _ _ _
        | some => exact publish_settled rfl

/-- The handler of a request knows that its native key is unused. -/
def Prepared (p q : Prop) (id : ℕ) (libraries : CodexLibraries) (message : WireMessage) (s : Client) :
    Prop :=
  Settled q id s ∧ ∀ key, nativeRequestKey libraries message.id = some key → Unused p id key s

lemma kept_prepared : Kept p q id (Prepared p q id libraries message) :=
  kept_settled.and (.all fun key => .imp (kept_unused key))

lemma handleServerRequest_triple :
    ClientTriple p q id (Prepared p q id libraries message) (handleServerRequest libraries message)
      fun _ => Settled q id := by
  unfold handleServerRequest
  cases hkey : nativeRequestKey libraries message.id with
  | none => exact (fail_triple kept_settled _).pre fun _ _ h => h.1
  | some key =>
    have hpre : ∀ s, s.Sound p q → Prepared p q id libraries message s →
        Unused p id key s ∧ Settled q id s := fun s _ h => ⟨h.2 key hkey, h.1⟩
    refine Triple.pre ?_ hpre
    refine .bind (reading_triple kept_handling) fun duplicate => ?_
    cases duplicate with
    | true => exact refuse_settled
    | false =>
      simp only [Bool.false_eq_true, if_false]
      split
      · exact handleQuestionRequest_triple
      · exact handleApprovalRequest_triple
      · exact handleApprovalRequest_triple
      · exact refuse_settled

/-! ### Notifications -/

lemma unlessTerminal_triple {next : ClientThread Unit}
    (h : ClientTriple p q id (Live q id) next fun _ => Settled q id) :
    ClientTriple p q id (Settled q id) (unlessTerminal next) fun _ => Settled q id := by
  refine .bind (Q := fun terminal s => Settled q id s ∧ (terminal = false → Live q id s))
    (reading_learns kept_settled (fun terminal => kept_settled.and (.imp kept_live)) ?_) fun terminal => ?_
  · intro s hs hsettled
    refine ⟨hsettled, fun hfalse => ⟨hsettled.1, fun hq hended => ?_⟩⟩
    have := hsettled.2 hq hended
    rw [hfalse] at this
    cases this
  · cases terminal with
    | true => exact .pure kept_settled.stable fun _ h => h.1
    | false => exact h.pre fun _ _ h => h.2 rfl

lemma fail_settled {error : CodexError} :
    ClientTriple p q id (Live q id) (fail error) fun _ => Settled q id :=
  (fail_triple kept_live error).post (fun _ => kept_settled.stable) fun _ _ h => h.settled

lemma pure_settled : ClientTriple p q id (Live q id) (pure () : ClientThread Unit)
    fun _ => Settled q id :=
  .pure kept_settled.stable fun _ h => h.settled

lemma calm_resolveRequest (hs : s.Sound p q) (threadId : String) (key : Option String) :
    s.Calm p (s.resolveRequest threadId key).2 := by
  unfold Client.resolveRequest
  cases key with
  | none => exact calm_refl hs
  | some =>
    dsimp only
    split_ifs with hscope
    · exact calm_refl hs
    · refine hs.calm_of_removed ⟨rfl, fun h => h, rfl, rfl, rfl, rfl, rfl⟩ rfl fun _ => ?_
      rintro ⟨handle | handle, _⟩ hentry
      · rw [Client.approval_mem_handles, Table.lookup_deleteWhere] at hentry
        obtain ⟨pending, hlookup, rfl⟩ := hentry
        rw [Option.filter_eq_some_iff] at hlookup
        exact ⟨Client.approval_mem_handles.mpr ⟨pending, hlookup.1, rfl⟩, by simpa using hlookup.2⟩
      · rw [Client.question_mem_handles, Table.lookup_deleteWhere] at hentry
        obtain ⟨pending, hlookup, rfl⟩ := hentry
        rw [Option.filter_eq_some_iff] at hlookup
        exact ⟨Client.question_mem_handles.mpr ⟨pending, hlookup.1, rfl⟩, by simpa using hlookup.2⟩

lemma handleResolvedRequest_triple : ClientTriple p q id (Settled q id)
    (handleResolvedRequest libraries message) fun _ => Settled q id := by
  unfold handleResolvedRequest
  cases libraries.decodeResolved message.params with
  | none => exact fail_triple kept_settled _
  | some params =>
    obtain ⟨_, _⟩ := params
    refine .bind (section_triple kept_settled fun s hs => calm_resolveRequest hs _ _) fun valid => ?_
    cases valid with
    | true => exact pure_triple kept_settled
    | false => exact fail_triple kept_settled _

lemma handleTurnStarted_triple : ClientTriple p q id (Live q id)
    (handleTurnStarted libraries message) fun _ => Settled q id := by
  unfold handleTurnStarted
  refine .bind (reading_triple kept_live) fun sequential => ?_
  cases libraries.decodeTurn message.params with
  | none => exact fail_settled
  | some =>
    refine .bind (reading_triple kept_live) fun retired => ?_
    split_ifs with hinvalid
    · exact fail_settled
    · refine .bind (section_triple kept_live fun s hs => ?_) fun started => ?_
      · unfold Client.startTurn
        split_ifs
        · exact calm_refl hs
        · exact calm_plain hs rfl
      · cases started with
        | true => exact publish_settled rfl
        | false => exact fail_settled

lemma handleDelta_triple : ClientTriple p q id (Live q id) (handleDelta libraries message)
    fun _ => Settled q id := by
  unfold handleDelta
  cases libraries.decodeDelta message.params with
  | none => exact fail_settled
  | some =>
    refine .bind (reading_triple kept_live) fun current => ?_
    split_ifs
    · exact fail_settled
    · exact fail_settled
    · exact publish_settled rfl

lemma handlePlanUpdated_triple : ClientTriple p q id (Settled q id)
    (handlePlanUpdated libraries message) fun _ => Settled q id := by
  refine unlessTerminal_triple ?_
  cases libraries.decodePlan message.params with
  | none => exact fail_settled
  | some =>
    refine .bind (reading_triple kept_live) fun current => ?_
    split
    · exact fail_settled
    · refine .bind (reading_triple kept_live) fun ⟨updates, lastDigest⟩ => ?_
      dsimp only
      split_ifs with hsame hlimit
      · exact pure_settled
      · exact fail_settled
      · refine .bind ((emit_triple libraries .planUpdated _).pre fun s _ h => h.ready rfl)
          fun emitted => ?_
        refine Triple.pre (P := Live q id) ?_ fun s _ h => h.live rfl
        cases emitted with
        | false => exact pure_settled
        | true =>
          refine Triple.post (updating_triple kept_live fun s hs => ?_)
            (fun _ => kept_settled.stable) fun _ _ h => h.settled
          exact calm_plain hs rfl

lemma handleTokenUsage_triple : ClientTriple p q id (Settled q id)
    (handleTokenUsage libraries message) fun _ => Settled q id := by
  refine unlessTerminal_triple ?_
  cases libraries.decodeUsage message.params with
  | none => exact fail_settled
  | some =>
    refine .bind (reading_triple kept_live) fun current => ?_
    split_ifs with hinvalid
    · exact fail_settled
    · refine .bind (reading_triple kept_live) fun sequential => ?_
      refine publish_settled ?_
      cases sequential <;> rfl

lemma publishSome_triple {type : EventType} (htype : type.isTerminal = false)
    (payload : Option Json) :
    ClientTriple p q id (Live q id) (publishSome libraries type payload) fun _ => Live q id := by
  cases payload with
  | none => exact pure_triple kept_live
  | some payload => exact publish_triple libraries htype payload

lemma handleCompletedItem_triple {kind : ItemKind} {item : String} :
    ClientTriple p q id (Live q id) (handleCompletedItem libraries kind item)
      fun _ => Settled q id := by
  unfold handleCompletedItem
  refine .bind (reading_triple kept_live) fun workingDir => ?_
  cases libraries.normalizeItem kind workingDir item with
  | error => exact fail_settled
  | ok =>
    refine .bind (section_triple kept_live fun s hs => ?_) fun found => ?_
    · unfold Client.recordItem
      split
      · exact calm_refl hs
      · split
        · exact calm_refl hs
        · exact calm_plain hs rfl
    · cases found with
      | known => exact pure_settled
      | changed | exhausted => exact fail_settled
      | recorded =>
        refine .bind (publishSome_triple (by cases kind <;> rfl) _) fun _ => ?_
        exact Triple.post (publishSome_triple (by cases kind <;> rfl) _)
          (fun _ => kept_settled.stable) fun _ _ h => h.settled

lemma handleItemLifecycle_triple : ClientTriple p q id (Settled q id)
    (handleItemLifecycle libraries message) fun _ => Settled q id := by
  refine unlessTerminal_triple ?_
  cases libraries.decodeItem message.params with
  | none => exact fail_settled
  | some params =>
    refine .bind (reading_triple kept_live) fun current => ?_
    by_cases hscope : params.type = "" ∨ current = false
    · rw [if_pos hscope]
      exact fail_settled
    · rw [if_neg hscope]
      cases if message.method = .itemCompleted then itemKind params.type else none with
      | some => exact handleCompletedItem_triple
      | none =>
        cases normalizeItemType params.type with
        | none => exact pure_settled
        | some =>
          refine publish_settled ?_
          split_ifs <;> rfl

/-- The end of the turn is noted by the handler that has `dispatchMu`. -/
lemma setTerminal_keeps {error : Option CodexError} (hs : s.Sound p q) (hlock : s.dispatching = some id) :
    (s.setTerminal error).Sound p q ∧ s.Promise id (s.setTerminal error) ∧
      Settled q id (s.setTerminal error) := by
  unfold Client.setTerminal
  split_ifs with hterminal
  · exact ⟨hs, (calm_refl hs).promise, hlock, fun _ _ => hterminal⟩
  · refine ⟨⟨fun hp => ?_, fun hq => ?_⟩, ⟨rfl, fun h => h, fun _ h => h, ?_⟩, hlock, fun _ _ => rfl⟩
    · exact (hs.handles hp).later rfl rfl rfl fun entry hentry =>
        ⟨hentry, (hs.handles hp).present entry hentry⟩
    · exact ⟨(hs.events hq).final, (hs.events hq).ended, fun _ _ => rfl⟩
    · intro k hk hne
      exact absurd (Option.some.inj (hk.symm.trans hlock)) hne

/-- **The end of a turn**: interactions are closed before the event is queued, and the end is noted after
it. -/
lemma handleTurnCompleted_triple : ClientTriple p q id (Live q id)
    (handleTurnCompleted libraries message) fun _ => Settled q id := by
  unfold handleTurnCompleted
  cases libraries.decodeTurn message.params with
  | none => exact fail_settled
  | some params =>
    refine .bind (reading_triple kept_live) fun current => ?_
    split_ifs with hscope
    · exact fail_settled
    · cases terminalEvent params.status with
      | none => exact fail_settled
      | some ending =>
        obtain ⟨type, payload, _⟩ := ending
        refine .bind (Q := fun _ => Ready q id type) ?_ fun _ => ?_
        · refine Triple.step kept_live.stable (fun _ => (kept_ready type).stable) ?_
          intro s answer reply t hs hlive _ hrun
          cases hrun
          have hcalm := calm_closeInteractions (p := p) s
          exact ⟨hs.calm hcalm, hcalm.promise, kept_live.calm _ _ hcalm hlive, fun _ _ => rfl⟩
        · refine .bind (emit_triple libraries type payload) fun emitted => ?_
          cases emitted with
          | false =>
            exact .pure kept_settled.stable fun s h =>
              ⟨h.1, fun hq hended => (h.2 hq (.inr rfl) hended).elim⟩
          | true =>
            refine Triple.step (kept_emitted type true).stable (fun _ => kept_settled.stable) ?_
            intro s answer reply t hs hemitted _ hrun
            cases hrun
            exact setTerminal_keeps hs hemitted.1

lemma handleError_triple : ClientTriple p q id (Live q id) (handleError libraries message)
    fun _ => Settled q id := by
  unfold handleError
  refine .bind (reading_triple kept_live) fun sequential => ?_
  refine .bind (reading_triple kept_live) fun current => ?_
  split_ifs
  · exact fail_settled
  · exact publish_settled rfl

/-- The handler of a notification knows that the turn has not ended if it is a loud one. -/
def Heard (q : Prop) (id : ℕ) (message : WireMessage) (s : Client) : Prop :=
  Settled q id s ∧ (message.isLoud = true → Live q id s)

lemma kept_heard : Kept p q id (Heard q id message) :=
  kept_settled.and (.imp kept_live)

lemma handleNotification_triple (hid : message.id = "") :
    ClientTriple p q id (Heard q id message) (handleNotification libraries message)
      fun _ => Settled q id := by
  have hsettled : ∀ {x : ClientThread Unit},
      ClientTriple p q id (Settled q id) x (fun _ => Settled q id) →
        ClientTriple p q id (Heard q id message) x fun _ => Settled q id :=
    fun hx => hx.pre fun _ _ h => h.1
  have hlive : ∀ {x : ClientThread Unit}, message.isLoud = true →
      ClientTriple p q id (Live q id) x (fun _ => Settled q id) →
        ClientTriple p q id (Heard q id message) x fun _ => Settled q id :=
    fun hloud hx => hx.pre fun _ _ h => h.2 hloud
  unfold handleNotification
  split
  · exact hsettled handleResolvedRequest_triple
  · rename_i hmethod
    exact hlive (by simp [WireMessage.isLoud, hid, hmethod]) handleTurnStarted_triple
  · rename_i hmethod
    exact hlive (by simp [WireMessage.isLoud, hid, hmethod]) handleDelta_triple
  · exact hsettled handlePlanUpdated_triple
  · exact hsettled handleTokenUsage_triple
  · exact hsettled handleItemLifecycle_triple
  · exact hsettled handleItemLifecycle_triple
  · rename_i hmethod
    exact hlive (by simp [WireMessage.isLoud, hid, hmethod]) handleTurnCompleted_triple
  · rename_i hmethod
    exact hlive (by simp [WireMessage.isLoud, hid, hmethod]) handleError_triple
  · exact hsettled (pure_triple kept_settled)

/-! ### Messages -/

/-- What the handler knows when it looks at the kind of a message. -/
def Handling (p q : Prop) (id : ℕ) (libraries : CodexLibraries) (message : WireMessage) (s : Client) :
    Prop :=
  (message.id ≠ "" → Prepared p q id libraries message s) ∧ Heard q id message s

lemma kept_handling_message : Kept p q id (Handling p q id libraries message) :=
  (Kept.imp kept_prepared).and kept_heard

lemma handleMessage_triple : ClientTriple p q id (Handling p q id libraries message)
    (handleMessage libraries message) fun _ => Settled q id := by
  unfold handleMessage
  by_cases hid : message.id = ""
  · rw [if_neg (not_not.mpr hid)]
    exact (handleNotification_triple hid).pre fun _ _ h => h.2
  · rw [if_pos hid]
    exact handleServerRequest_triple.pre fun _ _ h => h.1 hid

lemma handleScoped_triple : ClientTriple p q id (Handling p q id libraries message)
    (handleScoped libraries message) fun _ => Settled q id := by
  unfold handleScoped
  refine .bind (reading_triple kept_handling_message) fun retired => ?_
  cases retired with
  | false => exact handleMessage_triple
  | true =>
    simp only [if_true]
    split_ifs with hid
    · exact (refuse_triple kept_settled _ _ _ _).pre fun _ _ h => h.2.1
    · exact (pure_triple kept_settled).pre fun _ _ h => h.2.1

/-- **The native key of a request is new in a session**, or the connection fails. -/
lemma registerSessionRequest_triple : ClientTriple p q id (Settled q id)
    (registerSessionRequest libraries message) fun registered s => Settled q id s ∧
      (registered = true → Prepared p q id libraries message s) := by
  have hfailed : ∀ {error : CodexError}, ClientTriple p q id (Settled q id) (do
      fail error
      pure false) fun registered s => Settled q id s ∧
        (registered = true → Prepared p q id libraries message s) :=
    fun {error} => .bind (fail_triple kept_settled error) fun _ =>
      .pure (kept_settled.and (.imp kept_prepared)).stable fun s h => ⟨h, fun h => (by cases h)⟩
  unfold registerSessionRequest
  cases hkey : nativeRequestKey libraries message.id with
  | none => exact hfailed
  | some key =>
    dsimp only
    split_ifs with hlong
    · exact hfailed
    · refine .bind (Q := fun seen s => Settled q id s ∧ (seen = true → Unused p id key s)) ?_
        fun seen => ?_
      · refine Triple.step kept_settled.stable
          (fun seen => (kept_settled.and (.imp (kept_unused key))).stable) ?_
        intro s answer seen t hs hsettled _ hrun
        have heq : s.seeRequest key = (seen, t) := Option.some.inj hrun
        unfold Client.seeRequest at heq
        split_ifs at heq with hknown
        · cases heq
          exact ⟨hs, (calm_refl hs).promise, hsettled, fun h => (by cases h)⟩
        · cases heq
          push Not at hknown
          refine ⟨⟨fun hp => ?_, fun hq => ?_⟩, ⟨rfl, fun h => h, fun _ h => h, ?_⟩, hsettled,
            fun _ => ⟨hsettled.1, fun hp hmode => ⟨List.mem_cons_self, ?_⟩⟩⟩
          · have hhandles := hs.handles hp
            exact ⟨⟨hhandles.present, hhandles.unique⟩, hhandles.issued, hhandles.once,
              fun hmode entry hentry => List.mem_cons_of_mem _ (hhandles.seen hmode entry hentry)⟩
          · exact (hs.events hq).later rfl (fun h => h) (fun h => h) rfl
          · intro k hk hne
            exact absurd (Option.some.inj (hk.symm.trans hsettled.1)) hne
          · rintro entry hentry rfl
            exact hknown.1 ((hs.handles hp).seen hmode entry hentry)
      · cases seen with
        | false => exact hfailed.pre fun _ _ h => h.1
        | true =>
          refine .pure (kept_settled.and (.imp kept_prepared)).stable fun s h => ⟨h.1, fun _ => ?_⟩
          refine ⟨h.1, fun key' hkey' => ?_⟩
          cases hkey.symm.trans hkey'
          exact h.2 rfl

/-- What the handler knows when it has taken a message. -/
def Taken (q : Prop) (id : ℕ) (message : WireMessage) (s : Client) : Prop :=
  Settled q id s ∧ (s.sequential = true ∨ (message.isLoud = true → Live q id s))

lemma kept_taken : Kept p q id (Taken q id message) where
  stable s t hst hs := by
    refine ⟨kept_settled.stable s t hst hs.1, ?_⟩
    rcases hs.2 with hmode | hlive
    · exact .inl ((kept_sequential true).stable s t hst hmode)
    · exact .inr fun hloud => kept_live.stable s t hst (hlive hloud)
  calm s t hst hs := by
    refine ⟨kept_settled.calm s t hst hs.1, ?_⟩
    rcases hs.2 with hmode | hlive
    · exact .inl (hst.sequential.trans hmode)
    · exact .inr fun hloud => kept_live.calm s t hst (hlive hloud)

lemma handleInbound_triple : ClientTriple p q id (Taken q id message)
    (handleInbound libraries message) fun _ => Settled q id := by
  unfold handleInbound
  refine .bind (Q := fun sequential s => Taken q id message s ∧ s.sequential = sequential)
    (reading_learns kept_taken (fun sequential => kept_taken.and (kept_sequential sequential))
      fun s _ h => ⟨h, rfl⟩) fun sequential => ?_
  cases sequential with
  | false =>
    refine handleMessage_triple.pre ?_
    rintro s - ⟨⟨hsettled, hloud⟩, hmode⟩
    have hunused : ∀ key, Unused p id key s := by
      refine fun key => ⟨hsettled.1, fun _ hsequential => ?_⟩
      rw [hmode] at hsequential
      cases hsequential
    refine ⟨fun _ => ⟨hsettled, fun key _ => hunused key⟩, hsettled, hloud.resolve_left ?_⟩
    rw [hmode]
    exact Bool.false_ne_true
  | true =>
    simp only [Bool.true_eq_false, if_false]
    by_cases hid : message.id = ""
    · rw [if_neg (not_not.mpr hid)]
      refine Triple.pre ?_ fun s _ h => h.1.1
      refine unlessTerminal_triple (handleScoped_triple.pre fun s _ h => ?_)
      exact ⟨fun hne => (hne hid).elim, h.settled, fun _ => h⟩
    · rw [if_pos hid]
      refine .bind (registerSessionRequest_triple.pre fun s _ h => h.1.1) fun registered => ?_
      cases registered with
      | false => exact .pure kept_settled.stable fun _ h => h.1
      | true =>
        refine handleScoped_triple.pre fun s _ h => ⟨fun _ => h.2 rfl, h.1, fun hloud => ?_⟩
        simp [WireMessage.isLoud, hid] at hloud

end DataGround.Codex
