import DataGround.Workspace.Source

/-!
# Workspace change sets

`Compare` describes the difference between a base snapshot and a result as a JSON document: for every
name at which they differ, the digest of the entry before and the entry after.  `ApplyChanges` checks
such a document against a base, byte by byte and change by change, and rebuilds the result;
`InspectChanges` applies and compares again.

Go's maps are read in sorted order or by sums and conjunctions, so the order of a map does not show.
The checks for nil arguments are not modelled: a snapshot here has its entries.
-/

namespace DataGround.Workspace

open SlashPath Checks

def changeSetContract : String := "dataground.workspace-changes/v1"

def maximumChangeSetBytes : ℕ := 64 * 2 ^ 20

structure ChangeNode where
  kind : String
  executable : Bool := false
  content : Bytes := []
  target : String := ""
  deriving DecidableEq

structure FileChange where
  path : String
  before : String := ""
  after : Option ChangeNode := none
  deriving DecidableEq

/-- `changeDocument`; `Changes` may be a nil slice. -/
structure ChangeDocument where
  (contract baseArchiveDigest resultArchiveDigest : String)
  changes : Option (List FileChange)
  deriving DecidableEq

structure ChangeSetReceipt where
  (schemaVersion digest : String)
  sizeBytes : ℕ
  (baseArchiveDigest resultArchiveDigest : String)
  (changeCount entryCount sourceBytes : ℕ)
  deriving DecidableEq

structure ChangeSet where
  encoded : Bytes
  receipt : ChangeSetReceipt
  deriving DecidableEq

/-- What the change sets take from the standard library besides the tar reader and the digest: the
tar writer, closed, with `none` for an error on the way, and `encoding/json` on documents.
`unmarshal` refuses unknown fields. -/
structure ChangeLibrary extends SourceLibrary where
  writeTar : List TarItem → Option Bytes
  marshal : ChangeDocument → Option Bytes
  unmarshal : Bytes → Option ChangeDocument

/-! ### Entries and nodes -/

def nodeFromEntry (entry : SourceEntry) : ChangeNode :=
  match entry.kind with
  | .file => { kind := "file", executable := entry.executable, content := entry.content }
  | .directory => { kind := "directory" }
  | .symlink => { kind := "symlink", target := entry.target }

def entryFromNode (name : String) (node : ChangeNode) : Option SourceEntry :=
  if node.kind = "file" then
    if node.target ≠ "" then none
    else some { name, kind := .file, content := node.content, executable := node.executable }
  else if node.kind = "directory" then
    if node.target ≠ "" ∨ node.executable ∨ node.content ≠ [] then none
    else some { name, kind := .directory }
  else if node.kind = "symlink" then
    if ¬ validLinkText node.target ∨ node.executable ∨ node.content ≠ [] then none
    else some { name, kind := .symlink, target := node.target }
  else none

def sameSourceEntry (left right : SourceEntry) : Bool :=
  left.kind = right.kind && left.executable = right.executable && left.target = right.target &&
    left.content = right.content

/-- `sourceEntry.kind` as a tar type. -/
def EntryKind.typeflag : EntryKind → TarType
  | .file => .reg
  | .directory => .dir
  | .symlink => .symlink

/-- `sourceEntry.kind` as the byte it is. -/
def EntryKind.byte : EntryKind → UInt8
  | .file => 48
  | .directory => 53
  | .symlink => 50

def sourceEntryDigest (library : SourceLibrary) (entry : SourceEntry) : String :=
  workspaceDigest library
    ("dataground.workspace-node/v1\x00".toUTF8.toList ++ [entry.kind.byte] ++
      [if entry.executable then 1 else 0] ++ entry.target.toUTF8.toList ++ [0] ++ entry.content)

/-- The bytes that `sourceEntryDigest` hashes. -/
def hashedBytes (entry : SourceEntry) : Bytes :=
  "dataground.workspace-node/v1\x00".toUTF8.toList ++ [entry.kind.byte] ++
    [if entry.executable then 1 else 0] ++ entry.target.toUTF8.toList ++ [0] ++ entry.content

/-! ### The canonical archive -/

/-- The header and content that are written for an entry. -/
def SourceEntry.item (name : String) (entry : SourceEntry) : TarItem where
  header :=
    { name := some name, typeflag := entry.kind.typeflag
      mode := if entry.kind = .directory ∨ entry.executable then 0o700 else 0o600
      linkname := some entry.target, size := entry.content.length, paxRecords := [] }
  content := some entry.content

/-- The items of the canonical archive, in the order of the names. -/
def canonicalItems (entries : Entries) : List TarItem :=
  (sortedNames entries).filterMap fun name => (entries.lookup name).map (SourceEntry.item name)

/-- Every entry stands under its name, which is valid. -/
def namesValid (entries : Entries) : Bool :=
  entries.entries.all fun entry => validSourcePath entry.1 && entry.2.name = entry.1

variable (library : ChangeLibrary)

/-- `snapshotFromEntries`.  The archive only grows while it is written, so that its length at the end
decides all the checks of its length. -/
def snapshotFromEntries (entries : Entries) : Except WorkspaceError Snapshot := do
  require (Table.size entries ≤ maximumEntries) .changesInvalid
  require (namesValid entries) .changesInvalid
  require (contentBytes entries ≤ maximumSourceBytes) .changesInvalid
  match library.writeTar (canonicalItems entries) with
  | none => .error .changesInvalid
  | some archive =>
    require (archive.length ≤ maximumArchiveBytes) .changesInvalid
    let result ← inspect library.toSourceLibrary archive
      (workspaceDigest library.toSourceLibrary archive)
    require (Table.size result.entries = Table.size entries) .changesInvalid
    return result

/-- `snapshotFromEntries` where its callers replace the error. -/
def rebuild (entries : Entries) : Except WorkspaceError Snapshot :=
  (snapshotFromEntries library entries).mapError fun _ => .changesInvalid

/-! ### Comparing -/

/-- The change at one name, `none` where the entries are the same. -/
def changeAt (library : SourceLibrary) (base result : Entries) (name : String) :
    Option FileChange :=
  let before := base.lookup name
  let after := result.lookup name
  if before.any fun b => after.any fun a => sameSourceEntry b a then none
  else some { path := name, before := before.elim "" (sourceEntryDigest library)
              after := after.map nodeFromEntry }

/-- The names of two maps, sorted. -/
def allNames (base result : Entries) : List String :=
  (base.keys ++ result.keys).dedup.insertionSort (· ≤ ·)

def changeReceipt (library : SourceLibrary) (encoded : Bytes) (document : ChangeDocument)
    (result : Receipt) : ChangeSetReceipt :=
  { schemaVersion := changeSetContract, digest := workspaceDigest library encoded
    sizeBytes := encoded.length, baseArchiveDigest := document.baseArchiveDigest
    resultArchiveDigest := document.resultArchiveDigest
    changeCount := (document.changes.getD []).length, entryCount := result.entryCount
    sourceBytes := result.sourceBytes }

def compare (base result : Snapshot) : Except WorkspaceError ChangeSet := do
  let canonical ← rebuild library result.entries
  let changes := (allNames base.entries result.entries).filterMap
    (changeAt library.toSourceLibrary base.entries result.entries)
  let document : ChangeDocument :=
    { contract := changeSetContract, baseArchiveDigest := base.receipt.archiveDigest
      resultArchiveDigest := canonical.receipt.archiveDigest, changes := some changes }
  match library.marshal document with
  | none => .error .changesInvalid
  | some encoded =>
    require (encoded.length ≤ maximumChangeSetBytes) .changesInvalid
    return { encoded
             receipt := changeReceipt library.toSourceLibrary encoded document canonical.receipt }

/-! ### Applying -/

/-- The local variables of the loop over the changes. -/
structure Applying where
  entries : Entries
  previous : String := ""
  replacementBytes : ℕ := 0

/-- One turn of the loop over the changes. -/
def Applying.next (library : SourceLibrary) (base : Entries) (applying : Applying)
    (change : FileChange) : Except WorkspaceError Applying := do
  require (validSourcePath change.path ∧ applying.previous < change.path) .changesInvalid
  let before := base.lookup change.path
  require (change.before = before.elim "" (sourceEntryDigest library)) .changesInvalid
  require (before.isSome ∨ change.after.isSome) .changesInvalid
  match change.after with
  | none => return { applying with entries := applying.entries.erase change.path
                                   previous := change.path }
  | some node =>
    match entryFromNode change.path node with
    | none => .error .changesInvalid
    | some after =>
      require ((before.any fun b => sameSourceEntry b after) = false) .changesInvalid
      let replacementBytes := applying.replacementBytes + after.content.length
      require (replacementBytes ≤ maximumSourceBytes) .changesInvalid
      return { entries := applying.entries.insert change.path after
               previous := change.path, replacementBytes }

def applyChanges (base : Snapshot) (encoded : Bytes) (expectedDigest : String) :
    Except WorkspaceError Snapshot := do
  require (encoded ≠ [] ∧ encoded.length ≤ maximumChangeSetBytes ∧
    workspaceDigest library.toSourceLibrary encoded = expectedDigest) .changesInvalid
  match library.unmarshal encoded with
  | none => .error .changesInvalid
  | some document =>
    match document.changes with
    | none => .error .changesInvalid
    | some changes =>
      require (document.contract = changeSetContract ∧
        document.baseArchiveDigest = base.receipt.archiveDigest ∧
        changes.length ≤ 2 * maximumEntries) .changesInvalid
      require (library.marshal document = some encoded) .changesInvalid
      let applied ← changes.foldlM (Applying.next library.toSourceLibrary base.entries)
        { entries := base.entries }
      let result ← rebuild library applied.entries
      require (result.receipt.archiveDigest = document.resultArchiveDigest) .changesInvalid
      return result

def inspectChanges (base : Snapshot) (encoded : Bytes) (expectedDigest : String) :
    Except WorkspaceError ChangeSet := do
  let result ← applyChanges library base encoded expectedDigest
  let changes ← compare library base result
  require (changes.receipt.digest = expectedDigest) .changesInvalid
  return changes

end DataGround.Workspace
