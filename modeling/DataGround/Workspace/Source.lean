import DataGround.Base.Domain
import DataGround.Library.Checks
import DataGround.Library.SlashPaths
import DataGround.Library.Table
import Mathlib.Data.List.Sort
import Mathlib.Data.String.Basic

/-!
# Workspace sources

`Inspect` verifies a source archive before anything of it reaches a file system, and keeps what it
verified as a snapshot: the archive, its entries by name, their sorted names and a receipt.

The tar reader and the digest are those of the standard library.  They are parameters: a tar reader
is known by what it yields for the bytes of an archive.
-/

namespace DataGround.Workspace

open SlashPath Checks

def maximumArchiveBytes : ℕ := 32 * 2 ^ 20

def maximumSourceBytes : ℕ := 24 * 2 ^ 20

def maximumEntries : ℕ := 4096

/-- The errors of the package that its validators return. -/
inductive WorkspaceError where
  /-- `ErrSourceInvalid`. -/
  | sourceInvalid
  /-- `ErrChangesInvalid`. -/
  | changesInvalid
  deriving DecidableEq

/-- The text of an error. -/
def WorkspaceError.text : WorkspaceError → String
  | .sourceInvalid => "workspace source archive is invalid"
  | .changesInvalid => "workspace change set is invalid"

/-! ### The standard library -/

/-- `tar.Header.Typeflag`. -/
inductive TarType where
  | reg
  | regA
  | dir
  | symlink
  | xGlobalHeader
  | other (flag : UInt8)
  deriving DecidableEq

/-- The fields of `tar.Header` that are read.  A name or link name that is not valid UTF-8 is
`none`: such a text is refused wherever it is looked at. -/
structure TarHeader where
  name : Option String
  typeflag : TarType
  mode : ℤ
  linkname : Option String
  size : ℤ
  paxRecords : List (Bytes × Bytes)
  deriving DecidableEq

/-- A header with what reading its content, up to one byte more than its size, yields; `none` is a
failed read. -/
structure TarItem where
  header : TarHeader
  content : Option Bytes
  deriving DecidableEq

/-- What the tar reader does on an archive: the headers that `Next` returns one after the other, and
the offset of the underlying reader before the call that returns `io.EOF`.  The offset is `none` if
`Next` ends in another error. -/
structure TarStream where
  items : List TarItem
  ending : Option ℕ
  deriving DecidableEq

/-- `archive/tar`'s reader, and `crypto/sha256` with `encoding/hex`. -/
structure SourceLibrary where
  readTar : Bytes → TarStream
  sha256Hex : Bytes → String

def workspaceDigest (library : SourceLibrary) (data : Bytes) : String :=
  "sha256:" ++ library.sha256Hex data

/-! ### Entries -/

/-- `sourceEntry.kind`: `tar.TypeReg`, `tar.TypeDir` or `tar.TypeSymlink`. -/
inductive EntryKind where
  | file
  | directory
  | symlink
  deriving DecidableEq

structure SourceEntry where
  name : String
  kind : EntryKind
  executable : Bool := false
  content : Bytes := []
  target : String := ""
  deriving DecidableEq

/-- The map from names to entries. -/
abbrev Entries := Table String SourceEntry

/-- The number of bytes of content. -/
def contentBytes (entries : Entries) : ℕ :=
  (entries.entries.map fun entry => entry.2.content.length).sum

structure Receipt where
  (schemaVersion archiveDigest : String)
  (entryCount sourceBytes : ℕ)
  deriving DecidableEq

structure Snapshot where
  archive : Bytes
  entries : Entries
  names : List String
  receipt : Receipt

/-- `validLinkText`, for a text that is valid UTF-8. -/
def validLinkText (value : String) : Bool :=
  value ≠ "" && value.utf8ByteSize ≤ 4096 && !value.toList.contains '\\' && !isAbs value &&
    value.toList.all fun c => !isControl c

/-- `strings.EqualFold(part, ".git")`: no letter outside ASCII folds to one of these. -/
def isGit (part : String) : Bool :=
  part.toList.map Char.toLower = ['.', 'g', 'i', 't']

def validSourcePath (name : String) : Bool :=
  name ≠ "" && name ≠ "." && name.utf8ByteSize ≤ 4096 && !isAbs name && clean name = name &&
    validLinkText name && (parts name).length ≤ 64 &&
    (parts name).all fun part => part ≠ ".." && !isGit part && part.utf8ByteSize ≤ 255

def zeroBytes (data : Bytes) : Bool :=
  data.all fun value => value = 0

/-! ### Headers -/

/-- `strings.TrimSuffix(name, "/")`. -/
def trimSlash (name : String) : String :=
  if name.toList.getLast? = some '/' then String.ofList name.toList.dropLast else name

/-- `"comment"`. -/
def commentKey : Bytes :=
  [99, 111, 109, 109, 101, 110, 116]

/-- `"GNU.sparse"`. -/
def sparseKey : Bytes :=
  [71, 78, 85, 46, 115, 112, 97, 114, 115, 101]

/-- `header.Mode & 0111 != 0`. -/
def isExecutable (mode : ℤ) : Bool :=
  mode.toNat &&& 0o111 ≠ 0

/-- The case of an ordinary file. -/
def TarItem.fileEntry (name : String) (sourceBytes : ℕ) (item : TarItem) :
    Except WorkspaceError SourceEntry := do
  require (0 ≤ item.header.size ∧ item.header.size ≤ maximumSourceBytes - sourceBytes)
    .sourceInvalid
  match item.content with
  | none => .error .sourceInvalid
  | some content =>
    require (content.length = item.header.size) .sourceInvalid
    return { name, kind := .file, executable := isExecutable item.header.mode, content }

/-- The case of a symbolic link. -/
def TarItem.linkEntry (name : String) (item : TarItem) : Except WorkspaceError SourceEntry :=
  match item.header.linkname with
  | none => .error .sourceInvalid
  | some target => do
    require (item.header.size = 0 ∧ validLinkText target) .sourceInvalid
    return { name, kind := .symlink, target }

/-- The part of the loop that depends on the type of the header: the entry under its name. -/
def TarItem.entry (name : String) (sourceBytes : ℕ) (item : TarItem) :
    Except WorkspaceError SourceEntry :=
  match item.header.typeflag with
  | .reg | .regA => item.fileEntry name sourceBytes
  | .dir => do
    require (item.header.size = 0) .sourceInvalid
    return { name, kind := .directory }
  | .symlink => item.linkEntry name
  | .xGlobalHeader | .other _ => .error .sourceInvalid

/-- The local variables of the loop over the headers. -/
structure Reading where
  headers : ℕ := 0
  entries : Entries := ∅
  sourceBytes : ℕ := 0

/-- One turn of the loop over the headers. -/
def Reading.next (reading : Reading) (item : TarItem) : Except WorkspaceError Reading := do
  let headers := reading.headers + 1
  require (headers ≤ maximumEntries ∧ Table.size reading.entries < maximumEntries) .sourceInvalid
  if item.header.typeflag = .xGlobalHeader then
    require (∀ record ∈ item.header.paxRecords, record.1 = commentKey ∧ record.2.length ≤ 1024)
      .sourceInvalid
    return { reading with headers }
  else
    match item.header.name with
    | none => .error .sourceInvalid
    | some text =>
      let name := if item.header.typeflag = .dir then trimSlash text else text
      require (validSourcePath name ∧ 0 ≤ item.header.mode ∧ item.header.mode ≤ 0o777)
        .sourceInvalid
      require (name ∉ reading.entries) .sourceInvalid
      require (∀ record ∈ item.header.paxRecords, ¬ sparseKey <+: record.1) .sourceInvalid
      let entry ← item.entry name reading.sourceBytes
      -- The content of an entry is as long as its header says.
      return { headers, entries := reading.entries.insert name entry
               sourceBytes := reading.sourceBytes + entry.content.length }

/-! ### Parents and links -/

/-- One turn of the loop that inserts the parent directories of a name. -/
def addParent (entries : Entries) (parent : String) : Except WorkspaceError Entries :=
  match entries.lookup parent with
  | some entry => do
    require (entry.kind = .directory) .sourceInvalid
    return entries
  | none => do
    require (Table.size entries < maximumEntries) .sourceInvalid
    return entries.insert parent { name := parent, kind := .directory }

/-- The proper parents of the names of the archive, in the order of the two loops.  The inner loop
ends after as many turns as the name has parts, `mem_ancestors`. -/
def parentNames (names : List String) : List String :=
  names.flatMap fun name => ancestors (parts name).length name

/-- Implicit parents are inserted once; an archive that would write through a file or a link is
refused. -/
def insertParents (entries : Entries) : Except WorkspaceError Entries :=
  (parentNames entries.keys).foldlM addParent entries

/-- The loop of `containedLink`, with the number of turns that are left. -/
def resolveLink (entries : Entries) : ℕ → List String → List String → List String → Bool
  | _, _, _, [] => true
  | 0, _, _, _ :: _ => false
  | turns + 1, seen, resolved, part :: pending =>
    if 40 < seen.length ∨ 4096 < (part :: pending).length then false
    else if part = "" ∨ part = "." then resolveLink entries turns seen resolved pending
    else if part = ".." then
      if resolved = [] then false
      else resolveLink entries turns seen resolved.dropLast pending
    else
      let name := join (resolved ++ [part])
      match entries.lookup name with
      | none => false
      | some entry =>
        if entry.kind = .symlink then
          if name ∈ seen then false
          else resolveLink entries turns (name :: seen) resolved (parts entry.target ++ pending)
        else if pending ≠ [] ∧ entry.kind ≠ .directory then false
        else resolveLink entries turns seen (resolved ++ [part]) pending

def containedLink (entries : Entries) (link : SourceEntry) : Bool :=
  resolveLink entries 4096 [link.name] [] (parts (dir link.name) ++ parts link.target)

/-- The check of all links. -/
def linksContained (entries : Entries) : Bool :=
  entries.entries.all fun entry => entry.2.kind ≠ .symlink || containedLink entries entry.2

/-! ### Inspection -/

/-- `sort.Strings` of the names of a map. -/
def sortedNames (entries : Entries) : List String :=
  entries.keys.insertionSort (· ≤ ·)

/-- The end of the archive that the tar reader found: two blocks of zeros at least, and nothing
else. -/
def endsInZeros (archive : Bytes) (offset : ℕ) : Bool :=
  let ending := (offset + 511) / 512 * 512
  ending + 1024 ≤ archive.length && zeroBytes (archive.drop ending)

def inspect (library : SourceLibrary) (archive : Bytes) (expectedDigest : String) :
    Except WorkspaceError Snapshot := do
  require (archive.length ≤ maximumArchiveBytes ∧ 1024 ≤ archive.length ∧ archive.length % 512 = 0)
    .sourceInvalid
  let digest := workspaceDigest library archive
  require (digest = expectedDigest) .sourceInvalid
  let stream := library.readTar archive
  let reading ← stream.items.foldlM Reading.next {}
  require (stream.ending.any (endsInZeros archive)) .sourceInvalid
  let entries ← insertParents reading.entries
  require (linksContained entries) .sourceInvalid
  let names := sortedNames entries
  return { archive, entries, names
           receipt :=
            { schemaVersion := "dataground.workspace-source-materialization/v1"
              archiveDigest := digest, entryCount := names.length
              sourceBytes := reading.sourceBytes } }

end DataGround.Workspace
