import DataGround.Artifact.Finalizer

/-!
# Object store and catalogs

The object store keeps what is stored first under a key, and the catalogs keep what is bound first.  A
request may fail, it may take place without its acknowledgement, and a write to a key that has an object
is refused, or accepted if the content is the same.

What finalizers learn from replies are facts that stay true (`Fact.Holds`, `Changed.holds`): a session
notes them, and besides them whether its write was refused although the object has its content
(`Tx.refused`), and whether it failed to read an object after that (`Tx.unread`).
-/

namespace DataGround.Artifact

/-! ### What is stored -/

/-- The object store and the catalogs. -/
structure Storage where
  objects : Table String Bytes := ∅
  artifacts : Table (String × String) Record := ∅
  bundles : Table (String × String) EnforcementBundleRecord := ∅
  exports : Table (String × String) ChangeExportEntry := ∅

/-- The keys of the catalogs. -/
def Record.catalogKey (record : Record) : String × String :=
  (record.isolationDomainId, record.id)

def EnforcementBundleRecord.catalogKey (record : EnforcementBundleRecord) : String × String :=
  (record.isolationDomainId, record.id)

def ChangeExportRecord.catalogKey (record : ChangeExportRecord) : String × String :=
  (record.source.isolationDomainId, record.operationId)

/-- What can be known of it once and for all. -/
inductive Fact where
  | object (key : String) (content : Bytes)
  | artifact (key : String × String) (record : Record)
  | bundle (key : String × String) (record : EnforcementBundleRecord)
  | exported (key : String × String) (record : ChangeExportRecord)
  deriving DecidableEq

/-- What a fact says. -/
def Fact.Holds (s : Storage) : Fact → Prop
  | .object key content => s.objects.lookup key = some content
  | .artifact key record => s.artifacts.lookup key = some record
  | .bundle key record => s.bundles.lookup key = some record
  | .exported key record => (s.exports.lookup key).map ChangeExportEntry.record = some record

/-- What becomes of a request. -/
inductive Answer where
  | context (isCancelled : Bool)
  | executed
  /-- A write that finds its own content, and is accepted. -/
  | adopted
  /-- It takes place, but the acknowledgement is lost. -/
  | lost
  | failed (error : StorageError)
  deriving DecidableEq

/-- The errors of a request that did not take place. -/
def StorageError.isFailure : StorageError → Bool
  | .cancelled | .unavailable | .revisionMissing | .exportUnavailable | .other => true
  | _ => false

/-! ### Requests -/

section

variable {ρ : Type} [DecidableEq ρ]

/-- A row is read; what it holds never changes. -/
def readRow (s : Storage) (row : Option ρ) (facts : ρ → List Fact) (error : StorageError) :
    Except StorageError ρ × List Fact × Storage :=
  match row with
  | some record => (.ok record, facts record, s)
  | none => (.error error, [], s)

/-- A row is bound, unless there is one; then it has to be the same. -/
def bindRow (s : Storage) (row : Option ρ) (record : ρ) (fact : ρ → Fact) (bound : Storage) :
    Except StorageError ρ × List Fact × Storage :=
  match row with
  | some existing =>
    (if existing = record then .ok existing else .error .conflict, [fact existing], s)
  | none => (.ok record, [fact record], bound)

end

/-- `BindInvocationArtifact`. -/
def bindArtifact (s : Storage) (binding : Binding) :
    Except StorageError Record × List Fact × Storage :=
  bindRow s (s.artifacts.lookup binding.record.catalogKey) binding.record
    (.artifact binding.record.catalogKey)
    { s with artifacts := s.artifacts.insert binding.record.catalogKey binding.record }

/-- `BindEnforcementBundle`. -/
def bindBundle (s : Storage) (binding : EnforcementBundleBinding) :
    Except StorageError EnforcementBundleRecord × List Fact × Storage :=
  bindRow s (s.bundles.lookup binding.record.catalogKey) binding.record
    (.bundle binding.record.catalogKey)
    { s with bundles := s.bundles.insert binding.record.catalogKey binding.record }

/-- `PrepareWorkspaceChangeExport`. -/
def prepareExport (s : Storage) (binding : ChangeExportBinding) :
    Except StorageError ChangeExportEntry × List Fact × Storage :=
  match s.exports.lookup binding.record.catalogKey with
  | some entry =>
    (if entry.record = binding.record then .ok entry else .error .exportConflict,
      [.exported binding.record.catalogKey entry.record], s)
  | none =>
    (.ok ⟨binding.record, false⟩, [.exported binding.record.catalogKey binding.record],
      { s with exports := s.exports.insert binding.record.catalogKey ⟨binding.record, false⟩ })

variable (env : Environment)

/-- An export is completed, and its artifact is bound. -/
def complete (s : Storage) (binding : ChangeExportBinding) : Storage :=
  let record := binding.record.artifactRecord env
  { s with
    artifacts := s.artifacts.insert record.catalogKey record
    exports := s.exports.insert binding.record.catalogKey ⟨binding.record, true⟩ }

/-- `CompleteWorkspaceChangeExport`. -/
def completeExport (s : Storage) (binding : ChangeExportBinding) :
    Except StorageError ChangeExportEntry × List Fact × Storage :=
  match s.exports.lookup binding.record.catalogKey with
  | none => (.error .exportConflict, [], s)
  | some entry =>
    if entry.record ≠ binding.record then (.error .exportConflict, [], s)
    else if entry.ready then (.ok entry, [], s)
    else if (binding.record.artifactRecord env).catalogKey ∈ s.artifacts then
      (.error .exportConflict, [], s)
    else (.ok ⟨binding.record, true⟩, [], complete env s binding)

/-- The conditional write. -/
def putObject (s : Storage) (key : String) (content : Bytes) :
    Except StorageError Unit × List Fact × Storage :=
  match s.objects.lookup key with
  | some existing => (.error .objectConflict, [.object key existing], s)
  | none => (.ok (), [.object key content], { s with objects := s.objects.insert key content })

/-- What a request does that takes place: the reply, what can be known from it, and what is stored
then. -/
def perform (s : Storage) :
    (statement : Statement) → Option (statement.Reply × List Fact × Storage)
  | .isCancelled => none
  | .getArtifact isolationDomainId id =>
    some (readRow s (s.artifacts.lookup (isolationDomainId, id))
      (fun record => [.artifact (isolationDomainId, id) record]) .missing)
  | .getBundle isolationDomainId id =>
    some (readRow s (s.bundles.lookup (isolationDomainId, id))
      (fun record => [.bundle (isolationDomainId, id) record]) .missing)
  | .getExport isolationDomainId operationId =>
    some (readRow s (s.exports.lookup (isolationDomainId, operationId)) (fun _ => []) .exportMissing)
  | .openObject key =>
    some (readRow s (s.objects.lookup key) (fun content => [.object key content]) .objectMissing)
  | .bindArtifact binding => some (bindArtifact s binding)
  | .bindBundle binding => some (bindBundle s binding)
  | .prepareExport binding => some (prepareExport s binding)
  | .completeExport binding => some (completeExport env s binding)
  | .putObject key content => some (putObject s key content)

/-- The reply to a request that fails. -/
def Statement.fail (error : StorageError) : (statement : Statement) → Option statement.Reply
  | .isCancelled => none
  | .getArtifact _ _ | .bindArtifact _ => some (.error error)
  | .getBundle _ _ | .bindBundle _ => some (.error error)
  | .prepareExport _ | .completeExport _ | .getExport _ _ => some (.error error)
  | .putObject _ _ => some (.error error)
  | .openObject _ => some (.error error)

/-- A write that finds its own content. -/
def adopt (s : Storage) : (statement : Statement) → Option (statement.Reply × List Fact × Storage)
  | .putObject key content =>
    if s.objects.lookup key = some content then some (.ok (), [.object key content], s) else none
  | _ => none

/-- What the context says. -/
def context (s : Storage) (value : Bool) :
    (statement : Statement) → Option (statement.Reply × List Fact × Storage)
  | .isCancelled => some (value, [], s)
  | _ => none

/-- What becomes of a request. -/
def execute (s : Storage) (statement : Statement) :
    Answer → Option (statement.Reply × List Fact × Storage)
  | .context isCancelled => context s isCancelled statement
  | .executed => perform env s statement
  | .adopted => adopt s statement
  | .lost => do
    let (_, _, t) ← perform env s statement
    let reply ← statement.fail .other
    pure (reply, [], t)
  | .failed error =>
    if error.isFailure then (statement.fail error).map fun reply => (reply, [], s) else none

/-! ### Sessions -/

/-- A call. -/
inductive Call where
  | artifact (maximumBytes : ℕ) (binding : Binding) (content : Bytes)
  | changes (binding : ChangeExportBinding) (changeSet : Workspace.ChangeSet)
  | bundle (binding : EnforcementBundleBinding) (content : Bytes)
  deriving DecidableEq

/-- What a call returns. -/
inductive Result where
  | artifact (result : Except StorageError Record)
  | changes (result : Except StorageError ChangeExportEntry)
  | bundle (result : Except StorageError EnforcementBundleRecord)

/-- The program of a call. -/
def Call.program (sha256Hex : Bytes → String) (env : Environment) : Call → Program Result
  | .artifact maximumBytes binding content => do
    let result ← finalizeArtifact sha256Hex maximumBytes artifactDependencies binding content
    pure (.artifact result)
  | .changes binding changeSet => do
    let result ← retainChanges sha256Hex env binding changeSet
    pure (.changes result)
  | .bundle binding content => do
    let result ← finalizeBundle sha256Hex binding content
    pure (.bundle result)

/-- What a session knows. -/
structure Tx where
  call : Call
  facts : List Fact := []
  /-- A write was refused, although the object has the content that was to be written. -/
  refused : Bool := false
  /-- After that, an object could not be read. -/
  unread : Bool := false

/-- A write is refused although the object has its content. -/
def isRefusal : (statement : Statement) → statement.Reply → List Fact → Bool
  | .putObject key content, .error .objectConflict, facts => .object key content ∈ facts
  | _, _, _ => false

/-- An object could not be read. -/
def isFailedRead : (statement : Statement) → statement.Reply → Bool
  | .openObject _, .error _ => true
  | _, _ => false

/-- A reply is noted. -/
def Tx.note (tx : Tx) (statement : Statement) (reply : statement.Reply) (facts : List Fact) : Tx where
  call := tx.call
  facts := facts ++ tx.facts
  refused := tx.refused || isRefusal statement reply facts
  unread := tx.unread || (tx.refused && isFailedRead statement reply)

/-- A request of a session. -/
def serve (s : Storage) (_ : ℕ) (tx : Tx) (statement : Statement) (answer : Answer) :
    Option (statement.Reply × Tx × Storage) :=
  (execute env s statement answer).map fun (reply, facts, t) =>
    (reply, tx.note statement reply facts, t)

/-- Finalizers at their object store and catalogs. -/
def server (sha256Hex : Bytes → String) (env : Environment) :
    Server Storage Tx Answer Call Statement Statement.Reply Result where
  start call := (⟨call, [], false, false⟩, call.program sha256Hex env)
  serve := serve env
  release s _ _ := s

end DataGround.Artifact
