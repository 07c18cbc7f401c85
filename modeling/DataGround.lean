import DataGround.Access.ProofReplay
import DataGround.Access.RateBound
import DataGround.Api.EventReplay
import DataGround.Artifact.Conflicts
import DataGround.Audit.Pages
import DataGround.Codex.Turns
import DataGround.Execution.PostgresStore
import DataGround.Execution.Reservations
import DataGround.Native.Wire
import DataGround.Outbox.Dispatcher
import DataGround.Persistence.DueClaims
import DataGround.Persistence.GovernedClock
import DataGround.Persistence.Idempotency
import DataGround.Persistence.Outbox
import DataGround.Runtime.ApprovalSystem
import DataGround.Runtime.Deltas
import DataGround.Runtime.Hosting
import DataGround.Runtime.Preparation
import DataGround.Security.CanaryScan
import DataGround.Workspace.Order
import DataGround.Workspace.RoundTrip
