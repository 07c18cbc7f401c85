import DataGround.Artifact.Records

/-!
# Finalizers

A finalizer stores content under the key of a record, reads it back whatever the answer to the write was,
and then binds the record in a catalog.  There are two, one for artifacts of invocations and one for
enforcement bundles, and they go through the same steps: `finalize` is these steps, and `Finalizing` what
differs.  `RetainChanges` runs the first one with a catalog and a writer of its own.

Everything that a finalizer asks for may fail, and the context may be done at any time.
-/

namespace DataGround.Artifact

open Process (ask)

/-! ### What a finalizer asks for -/

/-- The errors of finalizers, catalogs and object stores. -/
inductive StorageError where
  /-- The error of the context. -/
  | cancelled
  /-- `ErrInvocationArtifactInvalid`. -/
  | invalid
  /-- `ErrInvocationArtifactMissing`, `ErrEnforcementBundleMissing`. -/
  | missing
  /-- `ErrInvocationArtifactConflict`, `ErrEnforcementBundleConflict`. -/
  | conflict
  /-- `ErrInvocationArtifactUnavailable`, `ErrEnforcementBundleUnavailable`. -/
  | unavailable
  /-- `ErrEnforcementBundleMismatch`. -/
  | mismatch
  /-- `ErrEnforcementBundleRevisionMissing`. -/
  | revisionMissing
  /-- `ErrInvocationArtifactObjectMissing`, `ErrEnforcementObjectMissing`. -/
  | objectMissing
  /-- `ErrInvocationArtifactObjectConflict`, `ErrEnforcementObjectConflict`. -/
  | objectConflict
  /-- `ErrChangeExportMissing`. -/
  | exportMissing
  /-- `ErrChangeExportConflict`. -/
  | exportConflict
  /-- `ErrChangeExportUnavailable`. -/
  | exportUnavailable
  /-- `ErrChangesInvalid`. -/
  | changesInvalid
  /-- A record that is not valid, with the message. -/
  | refused (message : String)
  /-- Any other error of a catalog or a store. -/
  | other
  deriving DecidableEq

/-- The requests. -/
inductive Statement where
  /-- `ctx.Err()`. -/
  | isCancelled
  | getArtifact (isolationDomainId id : String)
  | bindArtifact (binding : Binding)
  | getBundle (isolationDomainId id : String)
  | bindBundle (binding : EnforcementBundleBinding)
  | prepareExport (binding : ChangeExportBinding)
  | completeExport (binding : ChangeExportBinding)
  | getExport (isolationDomainId operationId : String)
  /-- The conditional write. -/
  | putObject (key : String) (content : Bytes)
  /-- Opening an object and reading it to its end. -/
  | openObject (key : String)
  deriving DecidableEq

/-- What comes back. -/
def Statement.Reply : Statement → Type
  | .isCancelled => Bool
  | .getArtifact _ _ | .bindArtifact _ => Except StorageError Record
  | .getBundle _ _ | .bindBundle _ => Except StorageError EnforcementBundleRecord
  | .prepareExport _ | .completeExport _ | .getExport _ _ => Except StorageError ChangeExportEntry
  | .putObject _ _ => Except StorageError Unit
  | .openObject _ => Except StorageError Bytes

/-- A program. -/
abbrev Program (α : Type) :=
  Process Statement Statement.Reply α

/-- An error, unless the context is done. -/
def failUnlessCancelled {α : Type} (error : StorageError) : Program (Except StorageError α) := do
  match (← ask Statement.isCancelled : Bool) with
  | true => pure (.error .cancelled)
  | false => pure (.error error)

/-! ### The steps of a finalizer -/

/-- What the two finalizers differ in: their records, their errors and where they get what they need. -/
structure Finalizing (ρ : Type) where
  /-- The record to be bound, in normal form, and its content. -/
  record : ρ
  content : Bytes
  /-- The record as it comes back from the catalog. -/
  normalize : ρ → Option ρ
  key : ρ → String
  /-- How much is read of an object, and whether this is the content of a record. -/
  limit : ℕ
  isContent : ρ → Bytes → Bool
  /-- The error for an object that is not the content of its record. -/
  mismatch : StorageError
  /-- The errors of binding that are returned as they are. -/
  passes : StorageError → Bool
  getRecord : Program (Except StorageError ρ)
  putObject : Program (Except StorageError Unit)
  openObject : String → Program (Except StorageError Bytes)
  bind : Program (Except StorageError ρ)

variable {ρ : Type} [DecidableEq ρ] (f : Finalizing ρ)

/-- `readObject`, `readEnforcementObject`. -/
def Finalizing.readObject (record : ρ) : Program (Except StorageError Bytes) := do
  match ← f.openObject (f.key record) with
  | .error _ => failUnlessCancelled .unavailable
  | .ok object =>
    if f.isContent record (object.take f.limit) then pure (.ok (object.take f.limit))
    else pure (.error f.mismatch)

/-- The end of `preflight`: there is the same record. -/
def Finalizing.readExisting (existing : ρ) : Program (Except StorageError (Option ρ)) := do
  match ← f.readObject existing with
  | .error error => pure (.error error)
  | .ok persisted =>
    if persisted = f.content then pure (.ok (some existing)) else pure (.error .conflict)

/-- `preflight`: the record, if it is bound already. -/
def Finalizing.preflight : Program (Except StorageError (Option ρ)) := do
  match ← f.getRecord with
  | .error error =>
    if error = .missing then
      match (← ask Statement.isCancelled : Bool) with
      | true => pure (.error .cancelled)
      | false => pure (.ok none)
    else failUnlessCancelled .unavailable
  | .ok existing =>
    if f.normalize existing = some f.record then f.readExisting f.record
    else pure (.error .conflict)

/-- The record is bound. -/
def Finalizing.bindRecord : Program (Except StorageError ρ) := do
  match ← f.bind with
  | .error error => failUnlessCancelled (if f.passes error then error else .unavailable)
  | .ok bound =>
    if f.normalize bound = some f.record then pure (.ok f.record) else pure (.error .conflict)

/-- The object is read back, whatever was said about the write. -/
def Finalizing.readBack (written : Except StorageError Unit) : Program (Except StorageError ρ) := do
  match ← f.readObject f.record with
  | .error error =>
    failUnlessCancelled
      (if error = f.mismatch ∨ written = .error .objectConflict then .conflict else .unavailable)
  | .ok persisted =>
    if persisted = f.content then f.bindRecord else pure (.error .conflict)

/-- The object is written. -/
def Finalizing.write : Program (Except StorageError ρ) := do
  let written ← f.putObject
  match (← ask Statement.isCancelled : Bool) with
  | true => pure (.error .cancelled)
  | false => f.readBack written

/-- `Finalize`, once the binding and the content are checked. -/
def Finalizing.finalize : Program (Except StorageError ρ) := do
  match ← f.preflight with
  | .error error => pure (.error error)
  | .ok (some existing) => pure (.ok existing)
  | .ok none => f.write

/-! ### Artifacts of invocations -/

/-- What `artifact.Finalizer` is made of, besides the object reader. -/
structure ArtifactDependencies where
  getRecord : (isolationDomainId id : String) → Program (Except StorageError Record)
  bind : Binding → Program (Except StorageError Record)
  putObject : Record → Bytes → Program (Except StorageError Unit)

/-- The catalog and the object store themselves. -/
def artifactDependencies : ArtifactDependencies where
  getRecord isolationDomainId id := ask (Statement.getArtifact isolationDomainId id)
  bind binding := ask (Statement.bindArtifact binding)
  putObject record content := ask (Statement.putObject record.objectKey content)

variable (sha256Hex : Bytes → String)

/-- `artifact.Finalizer`, for a binding in normal form. -/
def artifactFinalizing (maximumBytes : ℕ) (dependencies : ArtifactDependencies) (binding : Binding)
    (content : Bytes) : Finalizing Record where
  record := binding.record
  content := content
  normalize := normalizeRecord
  key := Record.objectKey
  limit := maximumBytes + 1
  isContent record content := content.length ≤ maximumBytes && content.length = record.sizeBytes &&
    verifyContent sha256Hex content record.digest
  mismatch := .conflict
  passes error := error = .conflict
  getRecord := dependencies.getRecord binding.record.isolationDomainId binding.record.id
  putObject := dependencies.putObject binding.record content
  openObject key := ask (Statement.openObject key)
  bind := dependencies.bind binding

/-- `Finalize` of `artifact.Finalizer`. -/
def finalizeArtifact (maximumBytes : ℕ) (dependencies : ArtifactDependencies) (binding : Binding)
    (content : Bytes) :
    Program (Except StorageError Record) :=
  match normalizeBinding binding with
  | none => pure (.error .invalid)
  | some binding =>
    if maximumBytes < binding.record.sizeBytes ∨ maximumBytes < content.length then
      pure (.error .invalid)
    else if content.length ≠ binding.record.sizeBytes ∨
        verifyContent sha256Hex content binding.record.digest = false then
      pure (.error .invalid)
    else (artifactFinalizing sha256Hex maximumBytes dependencies binding content).finalize

/-! ### Change sets of workspaces -/

/-- `changeArtifactCatalog.GetInvocationArtifactRecord`. -/
def getChangeArtifact (env : Environment) (binding : ChangeExportBinding)
    (isolationDomainId id : String) : Program (Except StorageError Record) :=
  if isolationDomainId ≠ binding.record.source.isolationDomainId ∨
      id ≠ (binding.record.artifactRecord env).id then pure (.error .exportConflict)
  else do
    match ← ask (Statement.getExport isolationDomainId binding.record.operationId) with
    | .error error => pure (.error (if error = .exportMissing then .missing else error))
    | .ok entry =>
      if entry.record ≠ binding.record then pure (.error .exportConflict)
      else if entry.ready = false then pure (.error .missing)
      else pure (.ok (entry.record.artifactRecord env))

/-- `changeArtifactCatalog.BindInvocationArtifact`. -/
def bindChangeArtifact (env : Environment) (binding : ChangeExportBinding) (bound : Binding) :
    Program (Except StorageError Record) :=
  if bound ≠ binding.artifactBinding env then pure (.error .exportConflict)
  else do
    match ← ask (Statement.completeExport binding) with
    | .error error => pure (.error error)
    | .ok entry =>
      if entry.ready = false ∨ entry.record ≠ binding.record then pure (.error .exportConflict)
      else pure (.ok (entry.record.artifactRecord env))

/-- The write of `changeObjectWriter`, once the object is known to be missing: the intent is checked
again right before it. -/
def prepareAndPut (binding : ChangeExportBinding) (key : String) (content : Bytes) :
    Program (Except StorageError Unit) := do
  match ← ask (Statement.prepareExport binding) with
  | .error error => pure (.error error)
  | .ok entry =>
    if entry.record ≠ binding.record then pure (.error .exportConflict)
    else if entry.ready then pure (.ok ())
    else ask (Statement.putObject key content)

/-- `changeObjectWriter.PutInvocationArtifactObjectIfAbsent`. -/
def putChangeObject (env : Environment) (binding : ChangeExportBinding) (record : Record)
    (content : Bytes) : Program (Except StorageError Unit) :=
  let expected := binding.record.artifactRecord env
  if record.objectKey ≠ expected.objectKey ∨ record.sizeBytes ≠ expected.sizeBytes ∨
      record.digest ≠ expected.digest ∨ record.mediaType ≠ expected.mediaType then
    pure (.error .exportConflict)
  else do
    match ← ask (Statement.openObject record.objectKey) with
    | .ok object =>
      let data := object.take (record.sizeBytes.toNat + 1)
      if data.length = record.sizeBytes ∧ "sha256:" ++ sha256Hex data = record.digest then
        pure (.ok ())
      else pure (.error .objectConflict)
    | .error error =>
      if error = .objectMissing then prepareAndPut binding record.objectKey content
      else pure (.error .exportUnavailable)

/-- What `RetainChanges` gives to the finalizer. -/
def changeDependencies (env : Environment) (binding : ChangeExportBinding) : ArtifactDependencies where
  getRecord := getChangeArtifact env binding
  bind := bindChangeArtifact env binding
  putObject := putChangeObject sha256Hex env binding

/-- `RetainChanges`, once the intent is there. -/
def finalizeChanges (env : Environment) (binding : ChangeExportBinding)
    (changes : Workspace.ChangeSet) : Program (Except StorageError ChangeExportEntry) := do
  let result ← finalizeArtifact sha256Hex Workspace.maximumChangeSetBytes
    (changeDependencies sha256Hex env binding) (binding.artifactBinding env) changes.encoded
  match result with
  | .error error => pure (.error error)
  | .ok record =>
    if record = binding.record.artifactRecord env then pure (.ok ⟨binding.record, true⟩)
    else pure (.error .exportConflict)

/-- `changes.Write` to a buffer: it looks at the context. -/
def writeChanges (changes : Workspace.ChangeSet) : Program (Except StorageError Unit) :=
  if changes.encoded = [] then pure (.error .changesInvalid)
  else do
    match (← ask Statement.isCancelled : Bool) with
    | true => pure (.error .cancelled)
    | false => pure (.ok ())

/-- `RetainChanges`, with a valid binding: the intent comes first. -/
def prepareAndRetain (env : Environment) (binding : ChangeExportBinding)
    (changes : Workspace.ChangeSet) : Program (Except StorageError ChangeExportEntry) := do
  match ← ask (Statement.prepareExport binding) with
  | .error error => pure (.error error)
  | .ok entry =>
    if entry.record ≠ binding.record then pure (.error .exportConflict)
    else
      match ← writeChanges changes with
      | .error error => pure (.error error)
      | .ok () => finalizeChanges sha256Hex env binding changes

def retainChanges (env : Environment) (binding : ChangeExportBinding) (changes : Workspace.ChangeSet) :
    Program (Except StorageError ChangeExportEntry) :=
  if validChangeExportBinding env binding = false ∨ changes.receipt ≠ binding.record.changes then
    pure (.error .exportConflict)
  else do
    match (← ask Statement.isCancelled : Bool) with
    | true => pure (.error .cancelled)
    | false => prepareAndRetain sha256Hex env binding changes

/-! ### Enforcement bundles -/

/-- `EnforcementBundleFinalizer`, for a binding in normal form. -/
def bundleFinalizing (binding : EnforcementBundleBinding) (content : Bytes) :
    Finalizing EnforcementBundleRecord where
  record := binding.record
  content := content
  normalize record := (normalizeEnforcementBundleRecord record).toOption
  key := EnforcementBundleRecord.objectKey
  limit := maximumEnforcementPolicyBytes + 1
  isContent record content := content.length = record.sizeBytes &&
    content.length ≤ maximumEnforcementPolicyBytes &&
    verifyEnforcementPolicy sha256Hex content record.digest
  mismatch := .mismatch
  passes error := error = .conflict || error = .revisionMissing
  getRecord := ask (Statement.getBundle binding.record.isolationDomainId binding.record.id)
  putObject := ask (Statement.putObject binding.record.objectKey content)
  openObject key := ask (Statement.openObject key)
  bind := ask (Statement.bindBundle binding)

/-- `Finalize` of `EnforcementBundleFinalizer`. -/
def finalizeBundle (binding : EnforcementBundleBinding) (content : Bytes) :
    Program (Except StorageError EnforcementBundleRecord) :=
  match normalizeEnforcementBundleBinding binding with
  | .error message => pure (.error (.refused message))
  | .ok binding =>
    if content.length ≠ binding.record.sizeBytes ∨
        verifyEnforcementPolicy sha256Hex content binding.record.digest = false then
      pure (.error .mismatch)
    else (bundleFinalizing sha256Hex binding content).finalize

end DataGround.Artifact
