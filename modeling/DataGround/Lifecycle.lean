import Mathlib.Logic.Basic

/-!
# The operation state machines

Publication operations and invocation operations share one store and one vocabulary of states;
each kind has its own table of transitions, its own terminal states and its own rule for the
external effects a state allows.
-/

namespace DataGround

/-- The two kinds of durable operation. -/
inductive OperationKind where
  | publication
  | invocation
  deriving DecidableEq

/-- `OperationKindPublication` and `OperationKindInvocation`. -/
def OperationKind.text : OperationKind → String
  | .publication => "service-publication"
  | .invocation => "invocation-execution"

/-- The observed states of both kinds. -/
inductive State where
  | queued
  | validating
  | applying
  | starting
  | running
  | waiting
  | cancelling
  | observing
  | published
  | succeeded
  | failed
  | cancelled
  deriving DecidableEq

/-- The text a state is stored under. -/
def State.text : State → String
  | .queued => "queued"
  | .validating => "validating"
  | .applying => "applying"
  | .starting => "starting"
  | .running => "running"
  | .waiting => "waiting"
  | .cancelling => "cancelling"
  | .observing => "observing"
  | .published => "published"
  | .succeeded => "succeeded"
  | .failed => "failed"
  | .cancelled => "cancelled"

/-- The commands of both kinds. -/
inductive Command where
  | publish
  | invoke
  | cancel
  | repair
  deriving DecidableEq

/-- The classifications of a recorded error. -/
inductive ErrorClassification where
  | retryable
  | terminal
  | cancelled
  | unknown
  deriving DecidableEq

/-- The phases of an operation in which it acts on the outside. -/
inductive Phase where
  | publishRevision
  | cancelPublication
  | startInvocation
  | runInvocation
  | cancelInvocation
  deriving DecidableEq

/-- The text a phase is stored under. -/
def Phase.text : Phase → String
  | .publishRevision => "publish-revision"
  | .cancelPublication => "cancel-publication"
  | .startInvocation => "start-invocation"
  | .runInvocation => "run-invocation"
  | .cancelInvocation => "cancel-invocation"

namespace Invocation

def stateMachineVersion : Nat := 2

def isTerminal : State → Bool
  | .succeeded | .failed | .cancelled => true
  | _ => false

/-- The table `allowed` of `invocation.CanTransition`. -/
def allowed : State → List State
  | .queued => [.starting, .cancelling, .failed]
  | .starting => [.running, .observing, .failed, .cancelling]
  | .running => [.waiting, .observing, .succeeded, .failed, .cancelling]
  | .waiting => [.running, .failed, .cancelling]
  | .cancelling => [.observing, .cancelled, .failed]
  | .observing => [.running, .succeeded, .failed, .cancelled, .cancelling]
  | .failed => [.queued]
  | _ => []

def canTransition (source target : State) : Bool :=
  (source = target && !isTerminal source) || target ∈ allowed source

def allowsEffect (command : Command) (state : State) (phase : Phase) : Bool :=
  if isTerminal state then false
  else if command = .cancel || state = .cancelling then phase = .cancelInvocation
  else if command ≠ .invoke && command ≠ .repair then false
  else (state = .starting && phase = .startInvocation)
    || (state = .running && phase = .runInvocation)

end Invocation

namespace Publication

/-- `publication.StateMachineVersion`: the reference machine with an external effect. -/
def stateMachineVersion : Nat := 1

def atomicDevelopmentVersion : Nat := 2

def queuedDevelopmentVersion : Nat := 3

/-- `publication.IsAuthorizedDevelopmentVersion`: versions 4, 5 and 6. -/
def isAuthorizedDevelopmentVersion (version : Nat) : Bool :=
  version = 4 || version = 5 || version = 6

def isTerminal : State → Bool
  | .published | .failed | .cancelled => true
  | _ => false

/-- The table `allowed` of `publication.CanTransition`. -/
def allowed : State → List State
  | .queued => [.validating, .failed, .cancelled]
  | .validating => [.applying, .failed, .cancelled]
  | .applying => [.observing, .failed, .cancelled]
  | .observing => [.applying, .published, .failed, .cancelled]
  | .failed => [.queued]
  | _ => []

def canTransition (source target : State) : Bool :=
  (source = target && !isTerminal source) || target ∈ allowed source

def allowsEffect (command : Command) (state : State) (phase : Phase) : Bool :=
  if isTerminal state then false
  else if command = .cancel then phase = .cancelPublication
  else (command = .publish || command = .repair) && state = .applying && phase = .publishRevision

end Publication

/-! ### By kind -/

/-- `validateTransition` of the store: the transition table of the kind. -/
def canTransition : OperationKind → State → State → Bool
  | .publication => Publication.canTransition
  | .invocation => Invocation.canTransition

/-- `IsTerminal` of the kind. -/
def isTerminal : OperationKind → State → Bool
  | .publication => Publication.isTerminal
  | .invocation => Invocation.isTerminal

/-- `effectAllowed` of the reconciler: `AllowsEffect` of the kind. -/
def effectAllowed : OperationKind → Command → State → Phase → Bool
  | .publication => Publication.allowsEffect
  | .invocation => Invocation.allowsEffect

/-- A terminal state is never its own successor, and only a failed operation leaves a terminal
state, back to the queue. -/
lemma canTransition_of_isTerminal (kind : OperationKind) {source target : State}
    (hterminal : isTerminal kind source = true) (h : canTransition kind source target = true) :
    source = .failed ∧ target = .queued := by
  cases kind <;> cases source <;>
    simp_all [canTransition, isTerminal, Invocation.canTransition, Invocation.isTerminal,
      Invocation.allowed, Publication.canTransition, Publication.isTerminal, Publication.allowed]

end DataGround
