import DataGround.Persistence.Fenced

/-!
# The database's clock and governed publications

`advance` fences every transition by the clock of its worker.  For governed publications its `UPDATE`
also compares lease and deadline with the clock of the database, so that a worker whose clock is
late cannot act on them; the versions for which it does so are listed in the statement once more.
-/

namespace DataGround

/-- In every store of a run, an `Advance` of a publication of this version that commits a state other
than failed or cancelled finds lease and deadline live by the database's clock. -/
def AdvancesWhileLive (version : ℕ) : Prop :=
  ∀ (env : Environment) (calls : List Call) (s t : Store) (m : Moment) (claim : Claim) (next : State)
    (result : Option Json) (op row : Operation),
    Run.run (Store.step env) Store.empty calls = some s →
    s.step env (.advance m claim next result) = some t →
    claim.key.kind = .publication → s.db.operations.lookup claim.key = some op →
    op.stateMachineVersion = version → t.db.operations.lookup claim.key = some row →
    row.observedState ∉ [State.failed, .cancelled] →
    op.LeaseLive m.clock ∧ m.clock < op.deadlineAt

section

variable {env : Environment} {s t : Store} {m : Moment} {claim : Claim} {next : State}
  {result : Option Json} {op row : Operation}

/-- The row that a committed `Advance` of a publication found, and what it made of it. -/
lemma step_advance_publication (h : s.step env (.advance m claim next result) = some t)
    (hkind : claim.key.kind = .publication) (hop : s.db.operations.lookup claim.key = some op)
    (hrow : t.db.operations.lookup claim.key = some row) :
    ∃ made, op.advance claim m.now m.clock made = some row := by
  have hadvanced : ∃ transition u, Repository.advanceTo env m claim transition s = .ok (u, t) := by
    obtain ⟨u, h⟩ := Store.step_eq_some.mp h
    simp only [Call.method, Repository.advance] at h
    split at h
    · exact ⟨_, u, h⟩
    · exact ⟨_, u, h⟩
  obtain ⟨_, _, h⟩ := hadvanced
  obtain ⟨made, row', -, -, -, -, hupdate, hcore⟩ := advanceTo_eq_ok h
  have hoperations : (s.advanced m claim made row').db.operations.lookup claim.key = some row' := by
    simp only [Store.advanced, Database.follow, hkind]
    split <;> exact Store.lookup_putRow_self s claim.key (.advanced claim m.now m.clock made) row'
  rw [hcore.operations, hoperations] at hrow
  cases hrow
  rw [hop] at hupdate
  exact ⟨made, hupdate⟩

/-- A publication that the guard is about advances while it is live. -/
lemma Operation.GovernedGuard.live (h : op.GovernedGuard .publication next m.clock)
    (hversion : op.stateMachineVersion ∈ [3, 4, 5]) (hnext : next ∉ [State.failed, .cancelled]) :
    op.LeaseLive m.clock ∧ m.clock < op.deadlineAt := by
  rcases h with hkind | hother | ⟨-, hlease, hend | hdeadline⟩
  · exact (hkind rfl).elim
  · exact (hother hversion).elim
  · exact (hnext hend).elim
  · exact ⟨hlease, hdeadline⟩

lemma advancesWhileLive_of_mem {version : ℕ} (h : version ∈ [3, 4, 5]) :
    AdvancesWhileLive version := by
  intro env calls s t m claim next result op row _ hstep hkind hop hversion hrow hstate
  obtain ⟨made, hadvance⟩ := step_advance_publication hstep hkind hop hrow
  have hguard : op.GovernedGuard claim.key.kind made.next m.clock :=
    (Option.ite_none_right_eq_some.mp hadvance).1.2
  have hnext : row.observedState = made.next := by rw [(Operation.advance_eq_some hadvance).2]
  rw [hkind] at hguard
  exact hguard.live (hversion ▸ h) (hnext ▸ hstate)

/-- A completion checks both by the database's clock, whatever the version. -/
lemma step_complete_live {input : DevelopmentPublicationInput} {verified : VerifiedPublication}
    {version : ℕ}
    (h : s.step env (.completeDevelopmentPublication m claim input verified version) = some t)
    (hop : s.db.operations.lookup claim.key = some op) :
    op.LeaseLive m.clock ∧ m.clock < op.deadlineAt := by
  obtain ⟨_, h⟩ := Store.step_eq_some.mp h
  obtain ⟨_, -, -, hupdate, -⟩ := completeDevelopmentPublication_eq_ok h
  rw [hop] at hupdate
  obtain ⟨⟨-, -, -, -, -, -, hheld, hdeadline⟩, -⟩ := Operation.completePublication_eq_some hupdate
  exact ⟨hheld.2.2.2, hdeadline⟩

end

namespace Scenario

/-- A draft of a governed revision. -/
def governedDraft : ServiceRevision :=
  { revision with
    state := .draft, runtimeProfile := governedRuntimeProfile
    requiredCapabilities := [governedRuntimeProfile] }

/-- Its publication with an owned workspace. -/
def ownedPublication : DevelopmentPublicationInput where
  contract := .ownedWorkspace
  isolationDomainId := "iso"
  serviceId := "svc"
  revisionId := "rev"
  runtimeProfile := governedRuntimeProfile
  expectedVersion := 1
  planDigest := "plan"
  policyDigest := "policy"
  verificationDigest := "verification"
  actorId := "operator"
  correlationId := "request"

/-- The operation of the publication. -/
def publicationKey : OperationKey :=
  ⟨.publication, "iso", derived env "op" "iso:rev:authorized-publication:v3"⟩

/-- The claim of the publication at 10. -/
def publicationClaim : Claim :=
  { claim "late" 1 10 .queued with
    key := publicationKey, resourceId := "rev", command := .publish, stateMachineVersion := 6
    actorId := "operator" }

/-- A worker claims the publication at 10, for thirty units of time. -/
def publicationRequest : ClaimRequest :=
  { request "late" 10 with kind := .publication }

/-- The publication is queued with its deadline at 1000, and claimed. -/
def publicationClaimed : List Call :=
  [.setRevision ⟨"iso", "rev"⟩ governedDraft,
    .queueDevelopmentPublication ⟨0, 0, "audit-0"⟩ ownedPublication 1000 6,
    .claimSnapshot publicationRequest, .claimUpdate ⟨publicationRequest, publicationKey⟩]

/-- The publication is taken on to validating at 5000 by the database's clock, long after its lease
and its deadline: the clock of the worker still shows 20. -/
lemma advanced_late : ∃ s t op row,
    Run.run (Store.step env) Store.empty publicationClaimed = some s ∧
    s.step env (.advance ⟨20, 5000, "audit-1"⟩ publicationClaim .validating none) = some t ∧
    s.db.operations.lookup publicationKey = some op ∧
    t.db.operations.lookup publicationKey = some row ∧
    op.stateMachineVersion = 6 ∧ op.deadlineAt = 1000 ∧ row.observedState = .validating := by
  simp only [exists_and_left]
  decide +kernel

end Scenario

/-- A publication of version 6 that advances after its deadline. -/
lemma not_advancesWhileLive_six : ¬AdvancesWhileLive 6 := by
  intro hlive
  obtain ⟨s, t, op, row, hs, ht, hop, hrow, hversion, hdeadline, hstate⟩ := Scenario.advanced_late
  have hlate := (hlive _ _ s t _ _ _ _ op row hs ht rfl hop hversion hrow (by simp [hstate])).2
  rw [hdeadline] at hlate
  exact absurd hlate (by decide)

/-- A publication of version 6 advances after its deadline. -/
theorem owned_publication_advances_late : ¬AdvancesWhileLive 6 :=
  not_advancesWhileLive_six

/-- **Which governed publications are fenced by the database's clock.**  Of the four governed versions
those other than 6 advance only while lease and deadline are live by the database's clock, in every
run and whatever the clocks of workers show; and a completion, which publishes the revision, commits
only then in every version. -/
theorem governed_advances_live_iff (version : ℕ) (h : version ∈ [3, 4, 5, 6]) :
    (AdvancesWhileLive version ↔ version ≠ 6) ∧
    ∀ (env : Environment) (s t : Store) (m : Moment) (claim : Claim)
      (input : DevelopmentPublicationInput) (verified : VerifiedPublication) (op : Operation),
      s.step env (.completeDevelopmentPublication m claim input verified version) = some t →
      s.db.operations.lookup claim.key = some op →
      op.LeaseLive m.clock ∧ m.clock < op.deadlineAt := by
  refine ⟨⟨?_, fun hother => advancesWhileLive_of_mem ?_⟩,
    fun env s t m claim input verified op => step_complete_live⟩
  · rintro hlive rfl
    exact not_advancesWhileLive_six hlive
  · simp only [List.mem_cons, List.not_mem_nil, or_false] at h ⊢
    omega

/-- Publications of version 5 are fenced. -/
theorem governed_advances_live_workspace : AdvancesWhileLive 5 :=
  (governed_advances_live_iff 5 (by decide)).1.mpr (by decide)

end DataGround
