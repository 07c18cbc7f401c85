import DataGround.Execution.Plan
import DataGround.Workspace.Records

/-!
# Records of artifacts

Three kinds of records tell where an immutable object is stored, how long it is and what its digest is:
artifacts of invocations, change sets of workspaces, which become such artifacts, and enforcement
bundles of revisions.  The key of an object is made of the other fields, so that a record in normal form
has no choice of it.
-/

namespace DataGround.Artifact

open Workspace (isTrimmed bareDigest)

/-! ### Artifacts of invocations -/

structure Record where
  (schemaVersion isolationDomainId id invocationId operationId effectId name kind : String)
  mediaType : String
  sizeBytes : ℤ
  digest : String
  sensitive : Bool
  objectKey : String
  deriving DecidableEq

structure Binding where
  record : Record
  (actorId correlationId leaseOwner : String)
  (fencingToken stateMachineVersion : ℤ)
  deriving DecidableEq

/-- `validPortableValue` of the package. -/
def validPortableValue (value : String) (limit : ℕ) : Bool :=
  value ≠ "" && value.utf8ByteSize ≤ limit && isTrimmed value &&
    value.toList.all fun c => c ≠ '\x00' && c ≠ '\n' && c ≠ '\r'

def validKind (kind : String) : Bool :=
  kind ∈ ["file", "structured-output", "event-payload", "log", "other"]

def objectKey (record : Record) : String :=
  "/".intercalate ["invocation-artifacts/v1", record.isolationDomainId, record.invocationId, record.id,
    bareDigest record.digest]

/-- The checks of `NormalizeRecord`. -/
def validRecord (record : Record) : Bool :=
  record.schemaVersion = "dataground.invocation-artifact/v1" &&
    Writer.idMatches "iso" record.isolationDomainId && Writer.idMatches "art" record.id &&
    Writer.idMatches "inv" record.invocationId && Writer.idMatches "op" record.operationId &&
    Writer.idMatches "eff" record.effectId && validPortableValue record.name 255 &&
    validPortableValue record.mediaType 255 && validKind record.kind && 0 ≤ record.sizeBytes &&
    sha256Matches record.digest && (record.objectKey = "" || record.objectKey = objectKey record)

def normalizeRecord (record : Record) : Option Record :=
  if validRecord record then some { record with objectKey := objectKey record } else none

/-- `NormalizeBinding`; every error is the same one. -/
def normalizeBinding (binding : Binding) : Option Binding :=
  match normalizeRecord binding.record with
  | none => none
  | some record =>
    if validPortableValue binding.actorId 256 && validPortableValue binding.correlationId 256 &&
        validPortableValue binding.leaseOwner 256 && 0 < binding.fencingToken &&
        binding.stateMachineVersion = 2 then
      some { binding with record := record }
    else none

/-- `verifyContent`, with the digest of the bytes in hexadecimal. -/
def verifyContent (sha256Hex : Bytes → String) (content : Bytes) (digest : String) : Bool :=
  sha256Matches digest && "sha256:" ++ sha256Hex content = digest

/-! ### Change sets of workspaces -/

structure ChangeExportRecord where
  schemaVersion : String
  source : SourceRecord
  (invocationId operationId effectId executionId planDigest : String)
  changes : Workspace.ChangeSetReceipt
  deriving DecidableEq

structure ChangeExportBinding where
  record : ChangeExportRecord
  (actorId correlationId leaseOwner : String)
  (fencingToken stateMachineVersion : ℤ)
  deriving DecidableEq

structure ChangeExportEntry where
  record : ChangeExportRecord
  ready : Bool
  deriving DecidableEq

variable (env : Environment)

/-- The fields of `ArtifactRecord` besides the key. -/
def ChangeExportRecord.artifactFields (record : ChangeExportRecord) : Record where
  schemaVersion := "dataground.invocation-artifact/v1"
  isolationDomainId := record.source.isolationDomainId
  id := derived env "art"
    (record.source.isolationDomainId ++ ":" ++ record.operationId ++ ":workspace-changes:v1")
  invocationId := record.invocationId
  operationId := record.operationId
  effectId := record.effectId
  name := "Workspace changes"
  kind := "file"
  mediaType := "application/vnd.dataground.workspace-changes+json"
  sizeBytes := record.changes.sizeBytes
  digest := record.changes.digest
  sensitive := true
  objectKey := ""

def ChangeExportRecord.artifactRecord (record : ChangeExportRecord) : Record :=
  { record.artifactFields env with objectKey := objectKey (record.artifactFields env) }

/-- `ValidChangeExportRecord`; the numbers of a receipt are natural numbers here. -/
def validChangeExportRecord (record : ChangeExportRecord) : Bool :=
  record.schemaVersion = "dataground.invocation-workspace-change-export/v1" &&
    validSourceRecord record.source && Writer.idMatches "exe" record.executionId &&
    sha256Matches record.planDigest && record.changes.schemaVersion = Workspace.changeSetContract &&
    record.changes.baseArchiveDigest = record.source.archiveDigest &&
    sha256Matches record.changes.resultArchiveDigest && 0 < record.changes.sizeBytes &&
    record.changes.sizeBytes ≤ Workspace.maximumChangeSetBytes &&
    record.changes.changeCount ≤ 2 * Workspace.maximumEntries &&
    record.changes.entryCount ≤ Workspace.maximumEntries &&
    record.changes.sourceBytes ≤ Workspace.maximumSourceBytes &&
    (normalizeRecord (record.artifactRecord env)).isSome &&
    record.effectId = derived env "eff" (record.source.isolationDomainId ++ ":invocation-execution:" ++
      record.operationId ++ ":run-invocation")

def ChangeExportBinding.artifactBinding (binding : ChangeExportBinding) : Binding where
  record := binding.record.artifactRecord env
  actorId := binding.actorId
  correlationId := binding.correlationId
  leaseOwner := binding.leaseOwner
  fencingToken := binding.fencingToken
  stateMachineVersion := binding.stateMachineVersion

def validChangeExportBinding (binding : ChangeExportBinding) : Bool :=
  validChangeExportRecord env binding.record &&
    Workspace.validSourceInstallation ⟨binding.record.source, binding.actorId, binding.correlationId⟩ &&
    (normalizeBinding (binding.artifactBinding env)).isSome

/-! ### Enforcement bundles -/

structure EnforcementBundleProvenance where
  (producer sourceRevision compilerVersion catalogVersion targetContractVersion mode : String)
  (inputDigest bindingDigest : String)
  deriving DecidableEq

structure EnforcementBundleRecord where
  (schemaVersion isolationDomainId id revisionId digest mediaType : String)
  sizeBytes : ℤ
  objectKey : String
  provenance : EnforcementBundleProvenance
  deriving DecidableEq

structure EnforcementBundleBinding where
  record : EnforcementBundleRecord
  (actorId correlationId : String)
  deriving DecidableEq

def maximumEnforcementPolicyBytes : ℕ := 4 * 2 ^ 20

/-- `sourceRevisionPattern`. -/
def sourceRevisionMatches (text : String) : Bool :=
  text.length = 40 && text.toList.all fun c => ('0' ≤ c && c ≤ '9') || ('a' ≤ c && c ≤ 'f')

variable (record : EnforcementBundleRecord)

def enforcementBundleObjectKey : String :=
  "/".intercalate ["enforcement-bundles/v1", record.isolationDomainId, record.revisionId, record.id,
    bareDigest record.digest ++ ".yaml"]

/-- The checks of the provenance. -/
def validProvenance (provenance : EnforcementBundleProvenance) : Bool :=
  provenance.producer = "rosetta" && sourceRevisionMatches provenance.sourceRevision &&
    Execution.validPortableValue provenance.compilerVersion 128 &&
    Execution.validPortableValue provenance.catalogVersion 128 &&
    Execution.validPortableValue provenance.targetContractVersion 128 &&
    provenance.mode = "strict" && sha256Matches provenance.inputDigest &&
    sha256Matches provenance.bindingDigest

/-- The checks of `NormalizeEnforcementBundleRecord`, in order, each with its message. -/
def enforcementBundleChecks : List (Bool × String) :=
  [(record.schemaVersion = "dataground.enforcement-bundle/v1",
      "unsupported enforcement bundle schema version"),
    (Writer.idMatches "iso" record.isolationDomainId && Writer.idMatches "rev" record.revisionId,
      "invalid enforcement bundle scope"),
    (Execution.opaqueIdentifierMatches record.id && sha256Matches record.digest,
      "invalid enforcement bundle identity"),
    (record.mediaType = "application/yaml" && 0 < record.sizeBytes &&
        record.sizeBytes ≤ maximumEnforcementPolicyBytes,
      "invalid enforcement bundle object metadata"),
    (validProvenance record.provenance, "invalid enforcement bundle provenance"),
    (record.objectKey = "" || record.objectKey = enforcementBundleObjectKey record,
      "invalid enforcement bundle object key")]

/-- The message of the first check that fails. -/
def firstFailure (checks : List (Bool × String)) : Option String :=
  (checks.find? fun check => !check.1).map (·.2)

def normalizeEnforcementBundleRecord : Except String EnforcementBundleRecord :=
  match firstFailure (enforcementBundleChecks record) with
  | some message => .error message
  | none => .ok { record with objectKey := enforcementBundleObjectKey record }

def normalizeEnforcementBundleBinding (binding : EnforcementBundleBinding) :
    Except String EnforcementBundleBinding :=
  match normalizeEnforcementBundleRecord binding.record with
  | .error message => .error message
  | .ok record =>
    if !Execution.validPortableValue binding.actorId 256 then
      .error "invalid enforcement bundle actor"
    else if !Execution.validPortableValue binding.correlationId 256 then
      .error "invalid enforcement bundle correlation identifier"
    else .ok { binding with record := record }

def verifyEnforcementPolicy (sha256Hex : Bytes → String) (content : Bytes) (digest : String) : Bool :=
  content ≠ [] && content.length ≤ maximumEnforcementPolicyBytes && sha256Matches digest &&
    "sha256:" ++ sha256Hex content = digest

/-! ### Normal forms -/

/-- A record in normal form stays as it is. -/
lemma normalizeRecord_normal {record normal : Record} (h : normalizeRecord record = some normal) :
    normalizeRecord normal = some normal := by
  unfold normalizeRecord at h
  split_ifs at h with hvalid
  cases h
  have hkey : objectKey { record with objectKey := objectKey record } = objectKey record := rfl
  have hnormal : validRecord { record with objectKey := objectKey record } = true := by
    simp only [validRecord, Bool.and_eq_true] at hvalid ⊢
    exact ⟨hvalid.1, by rw [hkey]; simp⟩
  rw [normalizeRecord, if_pos hnormal, hkey]

lemma firstFailure_eq_none {checks : List (Bool × String)} :
    firstFailure checks = none ↔ ∀ check ∈ checks, check.1 = true := by
  simp [firstFailure]

lemma normalizeEnforcementBundleRecord_normal {record normal : EnforcementBundleRecord}
    (h : normalizeEnforcementBundleRecord record = .ok normal) :
    normalizeEnforcementBundleRecord normal = .ok normal := by
  unfold normalizeEnforcementBundleRecord at h
  cases hfailure : firstFailure (enforcementBundleChecks record) with
  | some =>
    rw [hfailure] at h
    cases h
  | none =>
    rw [hfailure] at h
    cases h
    have hkey : enforcementBundleObjectKey
        { record with objectKey := enforcementBundleObjectKey record } =
        enforcementBundleObjectKey record := rfl
    have hchecks : firstFailure (enforcementBundleChecks
        { record with objectKey := enforcementBundleObjectKey record }) = none := by
      rw [firstFailure_eq_none] at hfailure ⊢
      simp only [enforcementBundleChecks, List.mem_cons, List.not_mem_nil, or_false, forall_eq_or_imp,
        forall_eq, hkey] at hfailure ⊢
      obtain ⟨hversion, hscope, hidentity, hobject, hprovenance, -⟩ := hfailure
      exact ⟨hversion, hscope, hidentity, hobject, hprovenance, by simp⟩
    rw [normalizeEnforcementBundleRecord, hchecks, hkey]

end DataGround.Artifact
