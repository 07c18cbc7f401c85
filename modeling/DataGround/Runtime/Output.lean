import DataGround.Runtime.Attempt

/-!
# The output of a runtime

While a turn goes on, the driver keeps what may become the declared output of the invocation: the
text of the last completed message that is not commentary, and the artifact it was retained as if
it was too large for the journal.  At the end of the turn `Result` makes the result of the attempt
from it.  A structured output is parsed with its numbers kept as they are written, and validated
against the output schema of the revision.
-/

namespace DataGround

/-- `runtime.Event`. -/
structure RuntimeEvent where
  eventType : String
  sequence : Nat
  payload : Members
  deriving DecidableEq

/-- `invocationRuntimeOutput`; a structured one has the schema of its validator. -/
structure InvocationRuntimeOutput where
  outputSchema : Option Json
  text : String
  artifact : Option MessageArtifact
  messageSequence : Nat
  sawDelta : Bool
  seen : List Nat
  invalid : Bool
  deriving DecidableEq

def maximumInvocationRuntimeOutputBytes : Nat := 196608

def maximumInvocationRuntimeOutputEvents : Nat := 4096

def newInvocationRuntimeOutput (env : Environment) (outputSchema : Option Json) :
    Option InvocationRuntimeOutput :=
  if outputSchema.all env.schemaCompiles then
    some ⟨outputSchema, "", none, 0, false, [], false⟩
  else none

namespace InvocationRuntimeOutput

/-- `Observe`: a completed message replaces the text before it, unless it is commentary. -/
def observe (event : RuntimeEvent) (output : InvocationRuntimeOutput) : InvocationRuntimeOutput :=
  if event.eventType = "output.text.delta" then { output with sawDelta := true }
  else if event.eventType ≠ "output.message.completed" then output
  else if event.sequence ∈ output.seen then output
  else if maximumInvocationRuntimeOutputEvents ≤ output.seen.length then
    { output with invalid := true }
  else
    let output := { output with seen := event.sequence :: output.seen }
    match parseCompletedMessage event.payload with
    | none => { output with invalid := true }
    | some message =>
      if event.sequence = 0 then { output with invalid := true }
      else if message.phase ≠ "commentary" ∧ output.messageSequence < event.sequence then
        { output with text := message.text, messageSequence := event.sequence }
      else output

/-- What `runTurn` does with an event that was recorded, as an artifact or not. -/
def consume (event : RuntimeEvent) (reference : Option MessageArtifact)
    (output : InvocationRuntimeOutput) : InvocationRuntimeOutput :=
  let output := output.observe event
  if event.eventType = "output.message.completed" ∧ output.messageSequence = event.sequence then
    { output with artifact := reference }
  else output

section

variable (env : RuntimeEnvironment) (parse : String → Option Json) (output : InvocationRuntimeOutput)

/-- The value that the runtime emitted.  `parse` is the decoder that keeps numbers as written. -/
def value : Option Json :=
  match output.outputSchema with
  | none => some (.ofMembers [("text", .string output.text)])
  | some schema =>
    if output.messageSequence = 0 ∨ output.text = "" then none
    else (parse output.text).filter (env.schemaAccepts schema)

/-- The result of an attempt whose output is in the result itself. -/
def inlineResult (value : Json) : Members :=
  .cons "output" value <| .cons "status" (.string "succeeded") .nil

/-- The result of an attempt whose output is in an artifact. -/
def artifactResult (artifact : MessageArtifact) : Members :=
  .cons "outputArtifact" (.ofMembers
      [("artifactId", .string artifact.artifactId), ("digest", .string artifact.digest),
        ("mediaType", .string "text/plain; charset=utf-8"),
        ("sizeBytes", .number artifact.sizeBytes)]) <|
    .cons "schemaVersion" (.string "dataground.invocation-artifact-result/v1") <|
      .cons "status" (.string "succeeded") .nil

def result : Option Members :=
  if output.invalid ∨
      (output.messageSequence = 0 ∧ (output.sawDelta = true ∨ 0 < output.seen.length)) then none
  else
    (output.value env parse).bind fun value =>
      match output.artifact with
      | some artifact => some (artifactResult artifact)
      | none =>
        if env.encodedLength (.object (inlineResult value)) ≤ maximumInvocationRuntimeOutputBytes
        then some (inlineResult value)
        else none

end

variable {env : RuntimeEnvironment} {parse : String → Option Json} {output : InvocationRuntimeOutput}

end InvocationRuntimeOutput

end DataGround
