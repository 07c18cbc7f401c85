import DataGround.Persistence.Command

/-!
# Governed publications

Three methods publish a governed revision: `queueDevelopmentPublication` accepts an operation of
one of the versions 3 to 6, `completeDevelopmentPublication` publishes it under its claim, and
`PublishDevelopmentRevision` does both at once without queued work (version 2).

What they verify in tables outside this model -- authorization policies, execution plans,
credential grants and acceptance evidence -- can only refuse a call; it enters as the
`VerifiedPublication` that a verification which succeeded returns.
-/

namespace DataGround

open Transaction

/-- The publication contracts. -/
inductive PublicationContract where
  | development
  | workspaceDevelopment
  | ownedWorkspace
  deriving DecidableEq

/-- `DevelopmentPublicationInput`: the target, the reviewed pins, and who asks. -/
structure DevelopmentPublicationInput where
  contract : PublicationContract
  (isolationDomainId serviceId revisionId runtimeProfile : String)
  expectedVersion : Nat
  (planDigest policyDigest verificationDigest actorId correlationId : String)
  deriving DecidableEq

/-- `verifiedDevelopmentPublication`, with the identifier drawn for its own audit record. -/
structure VerifiedPublication where
  now : Time
  acceptanceId : String
  acceptanceGeneration : Nat
  acceptanceExpiresAt : Time
  grantGeneration : Nat
  auditId : String
  deriving DecidableEq

/-- `GovernedInvocationRuntimeProfile`, the one capability a governed revision requires. -/
def governedRuntimeProfile : String := "codex.app-server/v1"

/-- The text of a contract. -/
def PublicationContract.text : PublicationContract → String
  | .development => "dataground.development-publication/v1"
  | .workspaceDevelopment => "dataground.development-publication/v2"
  | .ownedWorkspace => "dataground.development-publication/v3"

/-- `matchesQueuedPublicationVersion`. -/
def PublicationContract.matchesVersion : PublicationContract → Nat → Bool
  | .development, version => version = 3 || version = 4
  | .workspaceDevelopment, version => version = 5
  | .ownedWorkspace, version => version = 6

/-- The suffix of the derived operation identifier of a queued publication. -/
def queuedPublicationSuffix (version : Nat) : String :=
  if version = 5 then ":authorized-publication:v2"
  else if version = 6 then ":authorized-publication:v3"
  else if version = 4 then ":authorized-publication:v1"
  else ":governed-publication:v1"

/-- The suffix of the derived operation identifier of an atomic publication. -/
def PublicationContract.atomicSuffix : PublicationContract → String
  | .development => ":development-publication:v1"
  | .workspaceDevelopment => ":development-publication:v2"
  | .ownedWorkspace => ":development-publication:v3"

/-- Twenty-four hours, the longest a queued publication may wait. -/
def publicationHorizon : Time := 24 * 60 * 60 * 1000000000

namespace DevelopmentPublicationInput

/-- The revision that is published. -/
def key (input : DevelopmentPublicationInput) : ResourceKey :=
  ⟨input.isolationDomainId, input.revisionId⟩

/-- The draft revision must be exactly the reviewed one. -/
def Matches (input : DevelopmentPublicationInput) (revision : ServiceRevision) : Prop :=
  revision.serviceId = input.serviceId ∧ revision.state = .draft ∧
    revision.version = input.expectedVersion ∧
    revision.runtimeProfile = input.runtimeProfile ∧
    revision.requiredCapabilities = [governedRuntimeProfile]

instance (input : DevelopmentPublicationInput) (revision : ServiceRevision) :
    Decidable (input.Matches revision) :=
  inferInstanceAs (Decidable (_ ∧ _ ∧ _ ∧ _ ∧ _))

/-- The receipt of a publication. -/
def receipt (input : DevelopmentPublicationInput) (operationId : String) : Json :=
  .ofMembers [("certificationEligible", .bool false), ("contract", .string input.contract.text),
    ("isolationDomainId", .string input.isolationDomainId),
    ("operationId", .string operationId), ("revisionId", .string input.revisionId),
    ("serviceId", .string input.serviceId), ("state", .string "published")]

/-- The audit record of the acceptance itself. -/
def acceptance (input : DevelopmentPublicationInput) (operationId : String)
    (verified : VerifiedPublication) : AuditRecord where
  isolationDomainId := input.isolationDomainId
  actorId := input.actorId
  action := "development-publication.accept"
  resourceType := "service-revision"
  resourceId := input.revisionId
  outcome := "accepted"
  correlationId := input.correlationId
  operationId := some operationId
  safeMetadata := .ofMembers (
    [("acceptanceExpiresAt", .string (toString verified.acceptanceExpiresAt)),
      ("acceptanceGeneration", .number verified.acceptanceGeneration),
      ("acceptanceId", .string verified.acceptanceId),
      ("planDigest", .string input.planDigest), ("policyDigest", .string input.policyDigest),
      ("providerGrantGeneration", .number verified.grantGeneration)] ++
    (if input.contract = .development then []
      else [("publicationContract", .string input.contract.text)]) ++
    [("verificationDigest", .string input.verificationDigest)])
  occurredAt := verified.now

/-- The outbox and audit arguments for the operation of a publication. -/
def write (input : DevelopmentPublicationInput) (operationId event outcome : String) :
    OutboxWrite where
  isolationDomainId := input.isolationDomainId
  resourceType := OperationKind.publication.text
  resourceId := operationId
  eventType := "service-publication." ++ event
  actorId := input.actorId
  correlationId := input.correlationId
  outcome := outcome
  operationId := operationId

end DevelopmentPublicationInput

/-- `ErrDevelopmentPublicationUnavailable`. -/
def publicationUnavailable : RepositoryError :=
  .refused "development publication is unavailable"

def recordDevelopmentPublication (env : Environment) (m : Moment)
    (input : DevelopmentPublicationInput) (operationId : String)
    (verified : VerifiedPublication) : Method Unit := do
  let s ← read
  require (verified.auditId ∉ s.db.audit) publicationUnavailable
  modify fun s => { s with
    db := { s.db with
      revisions := s.db.revisions.updateAt input.key fun revision =>
        { revision with
          state := .published, publishedAt := some verified.now
          generation := revision.generation + 1, version := revision.version + 1
          updatedAt := verified.now }
      audit := s.db.audit.insert verified.auditId (input.acceptance operationId verified) } }
  writeOutboxAndAudit env { m with now := verified.now }
    (input.write operationId "published" "succeeded")

namespace Repository

def queueDevelopmentPublication (env : Environment) (m : Moment)
    (input : DevelopmentPublicationInput) (deadline : Time) (version : Nat) : Method Unit := do
  require (input.contract.matchesVersion version = true) publicationUnavailable
  let s ← read
  let revision ← demand (s.db.revisions.lookup input.key) .noRows
  require (input.Matches revision) publicationUnavailable
  require (validateRevisionSchemas env revision.inputSchema revision.outputSchema = none)
    publicationUnavailable
  require (m.clock < deadline ∧ deadline ≤ m.clock + publicationHorizon) publicationUnavailable
  require (hasOperation s.db .publication input.key = false) publicationUnavailable
  let operationId := derived env "op"
    (input.isolationDomainId ++ ":" ++ input.revisionId ++ queuedPublicationSuffix version)
  commitRow ⟨.publication, input.isolationDomainId, operationId⟩
    (.accepted (.queued input.revisionId .publish .published version deadline
      input.correlationId input.actorId m.clock)) publicationUnavailable
  writeOutboxAndAudit env { m with now := m.clock } (input.write operationId "accepted" "accepted")

def completeDevelopmentPublication (env : Environment) (m : Moment) (claim : Claim)
    (input : DevelopmentPublicationInput) (verified : VerifiedPublication) (version : Nat) :
    Method Unit := do
  require (input.contract.matchesVersion version = true ∧ claim.key.kind = .publication ∧
    claim.stateMachineVersion = version ∧ claim.observedState = .validating ∧
    (claim.command = .publish ∨ claim.command = .repair) ∧ claim.resource = input.key ∧
    claim.actorId = input.actorId ∧ claim.correlationId = input.correlationId)
    publicationUnavailable
  let s ← read
  let revision ← demand (s.db.revisions.lookup input.key) publicationUnavailable
  require (input.Matches revision ∧
    validateRevisionSchemas env revision.inputSchema revision.outputSchema = none)
    publicationUnavailable
  commitRow claim.key
    (.completed claim verified.now m.clock (input.receipt claim.key.id)) .leaseLost
  recordDevelopmentPublication env m input claim.key.id verified

/-- `PublishDevelopmentRevision`: the atomic publication, version 2. -/
def publishDevelopmentRevision (env : Environment) (m : Moment)
    (input : DevelopmentPublicationInput) (verified : VerifiedPublication) : Method Unit := do
  let s ← read
  let revision ← demand (s.db.revisions.lookup input.key) publicationUnavailable
  require (input.Matches revision ∧
    validateRevisionSchemas env revision.inputSchema revision.outputSchema = none)
    publicationUnavailable
  require (hasOperation s.db .publication input.key = false) publicationUnavailable
  let operationId := derived env "op"
    (input.isolationDomainId ++ ":" ++ input.revisionId ++ input.contract.atomicSuffix)
  commitRow ⟨.publication, input.isolationDomainId, operationId⟩
    (.accepted { Operation.queued input.revisionId .publish .published
        Publication.atomicDevelopmentVersion verified.acceptanceExpiresAt input.correlationId
        input.actorId verified.now with
      observedState := .published, attempt := 1
      terminalResult := some (input.receipt operationId) }) publicationUnavailable
  recordDevelopmentPublication env m input operationId verified

end Repository

/-! ### Taking a publication apart -/

section

variable {env : Environment} {m : Moment} {s t : Store} {u : Unit}
  {input : DevelopmentPublicationInput} {verified : VerifiedPublication}

lemma recordDevelopmentPublication_core {operationId : String}
    (h : recordDevelopmentPublication env m input operationId verified s = .ok (u, t)) :
    Store.Core s t := by
  simp only [recordDevelopmentPublication, read_bind, require_bind_eq_ok, modify_bind] at h
  exact { writeOutboxAndAudit_core h.2 with }

/-- **What a committed `completeDevelopmentPublication` did.** -/
lemma completeDevelopmentPublication_eq_ok {claim : Claim} {version : Nat}
    (h : Repository.completeDevelopmentPublication env m claim input verified version s =
      .ok (u, t)) :
    ∃ row, claim.key.kind = .publication ∧ (s.life claim.key).Issued claim ∧
      (RowCommit.completed claim verified.now m.clock (input.receipt claim.key.id)).apply
        claim.key (s.db.operations.lookup claim.key) = some row ∧
      Store.Core (s.putRow claim.key
        (.completed claim verified.now m.clock (input.receipt claim.key.id)) row) t := by
  simp only [Repository.completeDevelopmentPublication, require_bind_eq_ok, read_bind,
    demand_bind_eq_ok] at h
  obtain ⟨⟨-, hkind, -⟩, _, -, -, hrest⟩ := h
  obtain ⟨_, _, hcommit, hrecord⟩ := bind_eq_ok.mp hrest
  obtain ⟨row, hissued, happly, rfl⟩ := commitRow_eq_ok hcommit
  exact ⟨row, hkind, hissued claim rfl, happly, recordDevelopmentPublication_core hrecord⟩

end

end DataGround
