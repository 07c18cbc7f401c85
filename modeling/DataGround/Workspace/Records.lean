import DataGround.Runtime.Quiescence
import DataGround.Workspace.Changes

/-!
# Records of sources and of exported changes

The catalog binds archives to workspaces (`SourceInstallation`) and change sets to invocations
(`ChangeExportBinding`).  Here is what makes such a record valid, and where its object is stored.
-/

namespace DataGround.Workspace

/-- `strings.TrimSpace` leaves the text as it is. -/
def isTrimmed (text : String) : Bool :=
  !(text.toList.head?.any isSpace || text.toList.getLast?.any isSpace)

/-- A digest without `sha256:` in front. -/
def bareDigest (digest : String) : String :=
  if digest.toList.take 7 = "sha256:".toList then String.ofList (digest.toList.drop 7) else digest

/-! ### Sources -/

structure SourceInstallation where
  record : SourceRecord
  (actorId correlationId : String)
  deriving DecidableEq

def validSourceInstallation (installation : SourceInstallation) : Bool :=
  validSourceRecord installation.record && Writer.idMatches "cor" installation.correlationId &&
    installation.actorId ≠ "" && installation.actorId.utf8ByteSize ≤ 256 &&
    isTrimmed installation.actorId && installation.actorId.toList.all fun c => !isControl c

end DataGround.Workspace
