import DataGround.Runtime.AttemptLife

/-!
# A workspace is prepared before its turn

The rows of preparations are written once, those of completions are added for a preparation that is
there, and neither is added once the operation has an attempt.  So an attempt whose plan selects a
source comes after the preparation of that source, and after its completion, for one owner and token.

And what is cleaned up afterwards is what was prepared (`cleanup_of_prepared`).
-/

namespace DataGround

open Transaction Repository

/-! ### The two tables across a step -/

/-- The call prepares a workspace, under the owner. -/
def RuntimeCall.Prepares (key : PreparationKey) (owner : String) : RuntimeCall → Prop
  | .prepareWorkspace _ claim _ _ _ => claim.preparationKey = key ∧ claim.leaseOwner = owner
  | _ => False

/-- The call completes the preparation of a workspace, under the owner. -/
def RuntimeCall.Completes (key : PreparationKey) (owner : String) : RuntimeCall → Prop
  | .completeWorkspace _ claim _ _ _ => claim.preparationKey = key ∧ claim.leaseOwner = owner
  | _ => False

variable {key : PreparationKey}

namespace RuntimeStore

variable {env : RuntimeEnvironment} {s t : RuntimeStore} {call : RuntimeCall}

lemma Framed.preparations (h : s.Framed t) :
    t.preparations = s.preparations ∧ t.completions = s.completions := by
  obtain ⟨_, -, -, rfl⟩ := h
  exact ⟨rfl, rfl⟩

/-- What `BeginInvocationWorkspacePreparation` returns has been found under the owner of the claim. -/
lemma prepared_owner {m : Moment} {claim : Claim} {effect : EffectRecord} {expected : ResourceKey}
    {generation : Int}
    (h : s.step env (.prepareWorkspace m claim effect expected generation) = some t) :
    ∃ row, t.preparations.lookup claim.preparationKey = some row ∧
      row.leaseOwner = claim.leaseOwner := by
  obtain ⟨_, h⟩ := RuntimeStore.step_eq_some.mp h
  obtain ⟨_, h⟩ := discard_eq_ok.mp h
  simp only [recordWorkspacePreparation, (readOnly_lockWorkspaceExecution _ _).bind_eq_ok,
    require_bind_eq_ok] at h
  obtain ⟨⟨_, _⟩, -, -, h⟩ := h
  obtain ⟨_, _, -, h⟩ := bind_eq_ok.mp h
  simp only [(readOnly_verifyWorkspacePreparation _ _ _).bind_eq_ok] at h
  obtain ⟨_, hverify, h⟩ := h
  obtain ⟨_, _, haudit, hpure⟩ := bind_eq_ok.mp h
  cases pure_eq_ok.mp hpure
  obtain ⟨row, hrow, -, howner, -⟩ := verifyWorkspacePreparation_eq_ok hverify
  exact ⟨row, (auditIf_framed haudit).preparations.1 ▸ hrow, howner⟩

/-- A row of a preparation stays, and a new one is that of the owner who prepares. -/
lemma step_preparations (h : s.step env call = some t) (key : PreparationKey) :
    t.preparations.lookup key = s.preparations.lookup key ∨
      (s.preparations.lookup key = none ∧ ∃ row, t.preparations.lookup key = some row ∧
        call.Prepares key row.leaseOwner) := by
  cases step_did h with
  | @prepared _ claim _ _ _ _ _ _ _ change framed =>
    rw [framed.preparations.1]
    obtain rfl | ⟨-, rfl⟩ := change
    · exact .inl rfl
    by_cases hkey : key = claim.preparationKey
    · subst hkey
      cases hold : s.preparations.lookup claim.preparationKey with
      | some => exact .inl (Table.lookup_insertIfAbsent_of_some hold)
      | none =>
        obtain ⟨found, hfound, howner⟩ := prepared_owner h
        rw [framed.preparations.1] at hfound
        exact .inr ⟨rfl, found, hfound, rfl, howner.symm⟩
    · exact .inl (Table.lookup_insertIfAbsent_ne hkey)
  | completed _ _ _ _ framed | intended _ framed | confirmed _ _ framed =>
    exact .inl (by rw [framed.preparations.1])
  | _ => exact .inl rfl

lemma preparation_stays (h : s.step env call = some t) {row : WorkspacePreparation}
    (hrow : s.preparations.lookup key = some row) :
    t.preparations.lookup key = some row := by
  obtain hsame | ⟨hnone, -⟩ := step_preparations h key
  · rw [hsame, hrow]
  · cases hnone.symm.trans hrow

/-- A new completion is that of a preparation, under its owner. -/
lemma step_completions (h : s.step env call = some t) (hkey : key ∈ t.completions) :
    key ∈ s.completions ∨ ∃ row, s.preparations.lookup key = some row ∧
      call.Completes key row.leaseOwner := by
  cases step_did h with
  | prepared _ change framed =>
    rw [framed.preparations.2] at hkey
    obtain rfl | ⟨-, rfl⟩ := change <;> exact .inl hkey
  | @completed _ _ _ _ _ _ row _ _ found leaseOwner _ framed =>
      rw [framed.preparations.2, Table.mem_insertIfAbsent] at hkey
      obtain rfl | hold := hkey
      · exact .inr ⟨row, found, rfl, leaseOwner.symm⟩
      · exact .inl hold
  | intended _ framed | confirmed _ _ framed => exact .inl (framed.preparations.2 ▸ hkey)
  | _ => exact .inl hkey

end RuntimeStore

/-! ### Whole runs -/

/-- In the run there is a call that left the row, which `P` says something about. -/
def RowFrom (env : RuntimeEnvironment) (calls : List RuntimeCall) (P : RuntimeCall → Prop)
    (key : PreparationKey) (row : WorkspacePreparation) : Prop :=
  ∃ before call after r, calls = before ++ call :: after ∧ P call ∧
    Run.run (RuntimeStore.step env) .empty (before ++ [call]) = some r ∧
    r.preparations.lookup key = some row

/-- Every preparation was recorded in the run, and every completion was recorded after that. -/
structure Readied (env : RuntimeEnvironment) (calls : List RuntimeCall) (s : RuntimeStore) : Prop where
  prepared : ∀ key row, s.preparations.lookup key = some row →
    RowFrom env calls (RuntimeCall.Prepares key row.leaseOwner) key row
  completed : ∀ key ∈ s.completions, ∃ row before call after,
    s.preparations.lookup key = some row ∧ calls = before ++ call :: after ∧
    call.Completes key row.leaseOwner ∧
    RowFrom env before (RuntimeCall.Prepares key row.leaseOwner) key row

variable {env : RuntimeEnvironment} {calls : List RuntimeCall} {s : RuntimeStore}

lemma RowFrom.later {P : RuntimeCall → Prop} {row : WorkspacePreparation}
    (h : RowFrom env calls P key row) (call : RuntimeCall) : RowFrom env (calls ++ [call]) P key row := by
  obtain ⟨before, first, after, r, rfl, hfirst⟩ := h
  exact ⟨before, first, after ++ [call], r, by simp, hfirst⟩

/-- **Where the rows of the two tables come from**, in every run. -/
lemma readied_of_run (h : Run.run (RuntimeStore.step env) .empty calls = some s) :
    Readied env calls s := by
  refine Run.run_history (P := Readied env) (fun calls r call t hrun ih hstep => ?_) ?_ h
  · refine ⟨fun key row hrow => ?_, fun key hkey => ?_⟩
    · obtain hsame | ⟨-, found, hfound, hprepares⟩ := RuntimeStore.step_preparations hstep key
      · exact (ih.prepared key row (hsame ▸ hrow)).later call
      · cases hfound.symm.trans hrow
        have hall : Run.run (RuntimeStore.step env) .empty (calls ++ [call]) = some t := by
          rw [Run.run_concat, hrun]
          exact hstep
        exact ⟨calls, call, [], t, rfl, hprepares, hall, hrow⟩
    · obtain hold | ⟨row, hrow, hcompletes⟩ := RuntimeStore.step_completions hstep hkey
      · obtain ⟨row, before, first, after, hrow, rfl, hfirst⟩ := ih.completed key hold
        exact ⟨row, before, first, after ++ [call], RuntimeStore.preparation_stays hstep hrow, by simp,
          hfirst⟩
      · exact ⟨row, calls, call, [], RuntimeStore.preparation_stays hstep hrow, rfl, hcompletes,
          ih.prepared key row hrow⟩
  · exact ⟨fun key row hrow => (by cases hrow), fun key hkey => (by cases hkey)⟩

/-- **A turn starts in a prepared workspace.**  In every run, a call that reserves the attempt of an
operation whose plan selects a source finds the preparation of that source, for its owner and token and
for the effect, the execution and the plan of the operation, recorded by one earlier call and completed
by a later one; and once the operation has an attempt, no call prepares or completes its workspace. -/
theorem workspace_prepared_first (env : RuntimeEnvironment) (calls : List RuntimeCall)
    (s : RuntimeStore) (hs : Run.run (RuntimeStore.step env) .empty calls = some s)
    (call : RuntimeCall) (t : RuntimeStore) (h : s.step env call = some t) (key : ResourceKey) :
    (key ∉ s.attempts → key ∈ t.attempts → (∃ plan ∈ s.plan key, plan.workspaceSource ≠ none) →
      ∃ clock claim effect row, call = .beginAttempt clock claim effect ∧ claim.operationKey = key ∧
        t.attempts.lookup key = some (.reservedBy claim effect.key.id) ∧
        s.PreparedFor claim effect.key.id row ∧
        ∃ before complete after, calls = before ++ complete :: after ∧
          complete.Completes claim.preparationKey claim.leaseOwner ∧
          RowFrom env before (RuntimeCall.Prepares claim.preparationKey claim.leaseOwner)
            claim.preparationKey row) ∧
    (key ∈ s.attempts → ∀ token owner,
      ¬ call.Prepares ⟨key, token⟩ owner ∧ ¬ call.Completes ⟨key, token⟩ owner) := by
  refine ⟨fun hnone hsome hsource => ?_, fun hattempt token owner => ?_⟩
  · have hattempt := RuntimeStore.step_attempt h key
    rw [AList.lookup_eq_none.mpr hnone] at hattempt
    obtain ⟨_, hlookup⟩ := Option.isSome_iff_exists.mp (AList.lookup_isSome.mpr hsome)
    rw [hlookup] at hattempt
    cases hattempt with
    | @reserved clock claim effect valid at_key =>
      subst at_key
      cases RuntimeStore.step_did h with
      | reserved _ _ prepared =>
        obtain ⟨row, hrow⟩ := prepared hsource
        obtain ⟨found, before, complete, after, hfound, hcalls, hcompletes, hfrom⟩ :=
          (readied_of_run hs).completed _ hrow.completed
        cases hrow.found.symm.trans hfound
        rw [hrow.leaseOwner] at hcompletes hfrom
        exact ⟨clock, claim, effect, row, rfl, rfl, hlookup, hrow, before, complete, after, hcalls,
          hcompletes, hfrom⟩
  · constructor
    · intro hprepares
      cases RuntimeStore.step_did h with
      | prepared noAttempt =>
        obtain rfl := congrArg PreparationKey.operation hprepares.1
        exact noAttempt hattempt
      | _ => exact hprepares
    · intro hcompletes
      cases RuntimeStore.step_did h with
      | completed noAttempt =>
        obtain rfl := congrArg PreparationKey.operation hcompletes.1
        exact noAttempt hattempt
      | _ => exact hcompletes

namespace Scenario

/-- A source of a workspace. -/
def source : SourceRecord where
  schemaVersion := "dataground.workspace-source/v1"
  isolationDomainId := "iso"
  workspaceId := "wsp"
  id := "src"
  archiveDigest := "archive"
  storageProfileDigest := "profile"
  archiveBytes := 1024
  entryCount := 1
  sourceBytes := 10

/-- The claim that runs the turn. -/
def turnClaim : Claim :=
  claim "one" 3 5 .running

/-- The invocation is started, as far as its effects tell. -/
def startedEffect : List Call :=
  [.insertEffect ⟨5, 5, ""⟩ turnClaim .startInvocation "request",
    .recordEffect ⟨5, 5, ""⟩ (turnClaim.effectKey hosting.toEnvironment .startInvocation) .succeeded
      none ""]

/-- The source is selected, prepared and completed. -/
def readied : List RuntimeCall :=
  [.stored (.setRevision ⟨"iso", "rev"⟩ { revision with state := .draft }),
    .bindExecutionPlan ⟨"iso", "rev"⟩ ⟨some source, "plan"⟩] ++
  (toEffect ++ startedEffect).map .stored ++
  [.saveExecution turnClaim.operationKey ⟨"exe", .ready⟩,
    .prepareWorkspace ⟨6, 6, "audit-3"⟩ turnClaim (runEffect turnClaim) ⟨"iso", "exe"⟩ 1,
    .completeWorkspace ⟨6, 6, "audit-4"⟩ turnClaim (runEffect turnClaim)
      ⟨⟨"iso", "exe"⟩, source, "plan", 1, 0⟩ (some "decision")]

end Scenario

open Scenario

/-- The turn of the scenario starts after the preparation and its completion. -/
theorem workspace_prepared_first_source : ∃ s t row before complete after,
    Run.run (RuntimeStore.step hosting) .empty readied = some s ∧
    s.step hosting (.beginAttempt 6 turnClaim
      (runEffect turnClaim)) = some t ∧
    readied = before ++ complete :: after ∧
    complete.Completes turnClaim.preparationKey "one" ∧
    RowFrom hosting before
      (RuntimeCall.Prepares turnClaim.preparationKey "one")
      turnClaim.preparationKey row := by
  obtain ⟨s, hs, t, ht, hnone, hsome, hplan⟩ : ∃ s,
      Run.run (RuntimeStore.step hosting) .empty readied = some s ∧
      ∃ t, s.step hosting (.beginAttempt 6 turnClaim (runEffect turnClaim)) = some t ∧
      turnClaim.operationKey ∉ s.attempts ∧ turnClaim.operationKey ∈ t.attempts ∧
      s.plan turnClaim.operationKey = some ⟨some source, "plan"⟩ := by
    decide +kernel
  obtain ⟨clock, claim, effect, row, hcall, -, -, -, before, complete, after, hcalls, hcompletes,
    hfrom⟩ := (workspace_prepared_first _ _ s hs _ t ht turnClaim.operationKey).1 hnone
      hsome ⟨_, hplan, nofun⟩
  cases hcall
  exact ⟨s, t, row, before, complete, after, hs, ht, hcalls, hcompletes, hfrom⟩

/-! ### Confirmed cleanup -/

namespace RuntimeStore

variable {s t : RuntimeStore}

/-- What the record of a cleanup names was prepared under its token, and completed. -/
def WasPrepared (s : RuntimeStore) (key : ResourceKey) (value : WorkspaceQuiescence) : Prop :=
  ⟨key, value.runtimeToken⟩ ∈ s.completions ∧
    ∃ row, s.preparations.lookup ⟨key, value.runtimeToken⟩ = some row ∧
      row.leaseOwner = value.runtimeOwner ∧ row.effectId = value.effectId ∧
      row.executionId = value.executionId ∧ row.planDigest = value.planDigest ∧
      row.sourceRecord = value.source

/-- Intents to clean up are about what was prepared, and only intents are confirmed. -/
structure CleansUp (s : RuntimeStore) : Prop where
  intents : ∀ key value, s.intents.lookup key = some value → s.WasPrepared key value
  confirmations : ∀ key ∈ s.confirmations, key ∈ s.intents

lemma wasPrepared_of_locked {clock expires : Time} {key : ResourceKey} {token : Nat}
    {owner actor correlation : String} {value : WorkspaceQuiescence}
    (h : lockWorkspaceQuiescenceClaim s clock key owner token actor correlation value = some expires) :
    s.WasPrepared key value := by
  obtain ⟨rows, hrows, h⟩ := Option.bind_eq_some_iff.mp h
  obtain ⟨⟨⟨-, -, -, -, -, -, -, -, -, -, -, -, heffect, hexecution, hsource, hplan, howner, htoken, -⟩, -⟩,
    -⟩ := Option.ite_none_right_eq_some.mp h
  simp only [workspaceRows, Option.bind_eq_bind, Option.bind_eq_some_iff,
    Option.ite_none_right_eq_some] at hrows
  obtain ⟨_, -, _, -, _, -, _, -, row, hrow, _, hcompleted, _, -, _, -, hjoin, heq⟩ := hrows
  cases heq
  rw [WasPrepared, htoken]
  exact ⟨Table.mem_of_lookup hcompleted, row, hrow, hjoin.2.1.trans howner.symm,
    hjoin.2.2.1.trans heffect.symm, hjoin.2.2.2.symm.trans hexecution.symm, hplan.symm, hsource.symm⟩

lemma CleansUp.step {call : RuntimeCall} (hs : s.CleansUp) (h : s.step env call = some t) :
    t.CleansUp := by
  cases step_did h with
  | prepared _ change framed =>
    obtain ⟨_, -, -, rfl⟩ := framed
    obtain rfl | ⟨-, rfl⟩ := change
    · exact ⟨hs.intents, hs.confirmations⟩
    · refine ⟨fun key value hvalue => ?_, hs.confirmations⟩
      obtain ⟨hcompleted, row, hrow, hnames⟩ := hs.intents key value hvalue
      exact ⟨hcompleted, row, Table.lookup_insertIfAbsent_of_some hrow, hnames⟩
  | completed _ _ _ _ framed =>
    obtain ⟨_, -, -, rfl⟩ := framed
    refine ⟨fun key value hvalue => ?_, hs.confirmations⟩
    obtain ⟨hcompleted, hrow⟩ := hs.intents key value hvalue
    exact ⟨Table.mem_insertIfAbsent.mpr (.inr hcompleted), hrow⟩
  | intended locked framed =>
    have hprepared := wasPrepared_of_locked locked
    obtain ⟨_, -, -, rfl⟩ := framed
    refine ⟨fun key value hvalue => ?_, fun key hkey =>
      Table.mem_insertIfAbsent.mpr (.inr (hs.confirmations key hkey))⟩
    -- The first intent of an operation is the one that stays.
    unfold Table.insertIfAbsent at hvalue
    split at hvalue
    · exact hs.intents key value hvalue
    · obtain ⟨rfl, rfl⟩ | hold := Table.lookup_insert_cases hvalue
      · exact hprepared
      · exact hs.intents key value hold
  | confirmed found _ framed =>
    obtain ⟨_, -, -, rfl⟩ := framed
    refine ⟨hs.intents, fun key hkey => ?_⟩
    obtain rfl | hold := (AList.mem_insert _).mp hkey
    · exact Table.mem_of_lookup found
    · exact hs.confirmations key hold
  | _ => exact ⟨hs.intents, hs.confirmations⟩

end RuntimeStore

/-- **A cleanup is about what was prepared.**  In every run, the intent to clean up a workspace names the
owner, the effect, the execution, the plan and the source of the completed preparation under its token,
and only intents are confirmed. -/
theorem cleanup_of_prepared (env : RuntimeEnvironment) (calls : List RuntimeCall) (s : RuntimeStore)
    (h : Run.run (RuntimeStore.step env) .empty calls = some s) : s.CleansUp :=
  Run.run_invariant (fun _ _ _ hs hstep => hs.step hstep)
    ⟨fun key value hvalue => (by cases hvalue), fun key hkey => (by cases hkey)⟩ h

namespace Scenario

/-- An identifier that `readWorkspaceQuiescence` accepts. -/
def long (tag : String) : String :=
  tag ++ "_00000000000000000000"

def zeros : String :=
  "sha256:" ++ String.ofList (List.replicate 64 '0')

/-- A source that it accepts. -/
def readable : SourceRecord :=
  { source with
    isolationDomainId := long "iso", workspaceId := long "wsp", id := long "src"
    archiveDigest := zeros, storageProfileDigest := zeros }

/-- The invocation, in the domain of that source. -/
def longInput : AcceptInvocationInput :=
  { input with isolationDomainId := long "iso" }

def longKey : OperationKey :=
  longInput.operationKey hosting.toEnvironment

def longClaim (n : Nat) (now : Time) (state : State) : Claim :=
  { claim "one" n now state with key := longKey }

def longClaiming (now : Time) : List Call :=
  [.claimSnapshot (request "one" now), .claimUpdate ⟨request "one" now, longKey⟩]

/-- The claim that cleans up. -/
def cleaner : Claim :=
  longClaim 3 5 .running

def cleanerEffect : EffectRecord :=
  runEffect cleaner

/-- What it is to clean up. -/
def intent : WorkspaceQuiescence :=
  ⟨workspaceQuiescenceContract, readable, "inv", cleaner.key.id, cleanerEffect.key.id, "exe", "plan",
    zeros, "one", 3, "caller", "request"⟩

/-- The invocation comes to run, with both of its effects. -/
def toCleaner : List Call :=
  [.setRevision ⟨long "iso", "rev"⟩ revision, .setAlias ⟨long "iso", "svc", "live"⟩ ⟨"rev", none⟩,
    .acceptInvocation ⟨0, 0, "audit-0"⟩ longInput] ++ longClaiming 1 ++
  [.advance ⟨2, 2, "audit-1"⟩ (longClaim 1 1 .queued) .starting none] ++ longClaiming 3 ++
  [.advance ⟨4, 4, "audit-2"⟩ (longClaim 2 3 .starting) .running none] ++ longClaiming 5 ++
  [.insertEffect ⟨5, 5, ""⟩ cleaner .runInvocation "request",
    .insertEffect ⟨5, 5, ""⟩ cleaner .startInvocation "request",
    .recordEffect ⟨5, 5, ""⟩ (cleaner.effectKey hosting.toEnvironment .startInvocation) .succeeded
      none ""]

/-- The source is prepared, the turn starts, and what was prepared is cleaned up. -/
def cleaned : List RuntimeCall :=
  [.stored (.setRevision ⟨long "iso", "rev"⟩ { revision with state := .draft }),
    .bindExecutionPlan ⟨long "iso", "rev"⟩ ⟨some readable, "plan"⟩] ++ toCleaner.map .stored ++
  [.saveExecution cleaner.operationKey ⟨"exe", .ready⟩,
    .prepareWorkspace ⟨6, 6, "audit-3"⟩ cleaner cleanerEffect ⟨long "iso", "exe"⟩ 1,
    .completeWorkspace ⟨6, 6, "audit-4"⟩ cleaner cleanerEffect
      ⟨⟨long "iso", "exe"⟩, readable, "plan", 1, 0⟩ (some "decision"),
    .beginAttempt 6 cleaner cleanerEffect, .beginQuiescence ⟨7, 7, "audit-5"⟩ cleaner intent,
    .completeQuiescence ⟨7, 7, "audit-6"⟩ cleaner intent]

end Scenario

theorem cleanup_of_prepared_confirmed :
    ∃ s, Run.run (RuntimeStore.step hosting) .empty cleaned = some s ∧
      (cleaner.operationKey ∈ s.confirmations ∧
        s.intents.lookup cleaner.operationKey = some intent) ∧
      s.WasPrepared cleaner.operationKey intent :=
  Run.exists_some_and (by decide +kernel) fun s hs h =>
    (cleanup_of_prepared _ _ s hs).intents _ _ h.2

end DataGround
