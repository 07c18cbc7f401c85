import DataGround.Persistence.Columns
import DataGround.Persistence.Fenced
import DataGround.Runtime.System

/-!
# The life of a runtime attempt

Whatever calls interleave, an operation's attempt is reserved once, is finished once, and succeeds
only for the claim that reserved it; a frozen attempt keeps its result, and any later claim may take
it over and fail it with that result.
-/

namespace DataGround

open Transaction Repository

/-! ### One attempt across a step -/

/-- The call reserves the attempt at `key`. -/
def RuntimeCall.Reserves (key : ResourceKey) : RuntimeCall → Prop
  | .beginAttempt _ claim _ => claim.operationKey = key
  | _ => False

instance (key : ResourceKey) : DecidablePred (RuntimeCall.Reserves key) := fun call =>
  match call with
  | .beginAttempt _ claim _ => inferInstanceAs (Decidable (claim.operationKey = key))
  | .stored _ | .bindExecutionPlan _ _ | .saveExecution _ _ | .bindArtifact _ _ => isFalse id
  | .prepareWorkspace _ _ _ _ _ | .completeWorkspace _ _ _ _ _ => isFalse id
  | .finishAttempt _ _ _ _ _ | .prepareOutputFailure _ _ _ _ => isFalse id
  | .beginQuiescence _ _ _ | .completeQuiescence _ _ _ => isFalse id

/-- The attempt under another claim. -/
def RuntimeAttempt.takenBy (attempt : RuntimeAttempt) (claim : Claim) : RuntimeAttempt :=
  { attempt with leaseOwner := claim.leaseOwner, fencingToken := claim.fencingToken }

/-- The operation under the key of its attempt. -/
def ResourceKey.invocationOperation (key : ResourceKey) : OperationKey :=
  ⟨.invocation, key.isolationDomainId, key.id⟩

/-- A frozen result is the one that a message of the journal leads to. -/
structure FrozenFrom (env : Environment) (s : RuntimeStore) (key : ResourceKey)
    (attempt : RuntimeAttempt) (result : Members) (claim : Claim) (effect : EffectRecord)
    (op : Operation) (sequence : Nat) (event : InvocationEvent) (record : ArtifactRecord)
    (content : Option String) : Prop where
  claim_key : claim.key = key.invocationOperation
  effect_id : effect.key.id = attempt.effectId
  operation : s.operation key = some op
  nonzero : sequence ≠ 0
  small : sequence < 2 ^ 63
  runtimeEvent : s.store.db.runtimeEvent ⟨key.isolationDomainId, op.resourceId⟩ sequence = some event
  artifact : outputArtifact env claim effect op.resourceId sequence event s =
    .ok ((record, content), s)
  result : result = outputFailureResult sequence record

/-- What a valid claim and effect say. -/
lemma valid_eq_true {env : Environment} {claim : Claim} {effect : EffectRecord}
    (h : Writer.validInvocationRuntimeAttempt env claim effect = true) :
    claim.key = claim.operationKey.invocationOperation ∧ claim.leaseOwner ≠ "" ∧
      0 < claim.fencingToken ∧ effect.key = claim.key.effectKey env .runInvocation := by
  simp only [Writer.validInvocationRuntimeAttempt, Writer.validInvocationRuntimeClaim,
    Bool.and_eq_true, decide_eq_true_eq] at h
  obtain ⟨⟨⟨⟨⟨⟨⟨⟨⟨⟨⟨⟨hkind, -⟩, -⟩, -⟩, -⟩, -⟩, howner⟩, htoken⟩, hkey⟩, -⟩, -⟩, -⟩, -⟩ := h
  refine ⟨?_, howner, htoken, hkey⟩
  obtain ⟨⟨_, _, _⟩⟩ := claim
  cases hkind
  rfl

/-- What a call does to the attempt at `key`. -/
inductive AttemptStep (env : RuntimeEnvironment) (s : RuntimeStore) (key : ResourceKey) :
    RuntimeCall → Option RuntimeAttempt → Option RuntimeAttempt → Prop
  | same {call : RuntimeCall} {found : Option RuntimeAttempt} (others : ¬ call.Reserves key) :
      AttemptStep env s key call found found
  | reserved {clock : Time} {claim : Claim} {effect : EffectRecord}
      (valid : Writer.validInvocationRuntimeAttempt env.toEnvironment claim effect = true)
      (at_key : claim.operationKey = key) : AttemptStep env s key (.beginAttempt clock claim effect)
        none (some (.reservedBy claim effect.key.id))
  | finished {m : Moment} {claim : Claim} {effect : EffectRecord} {outcome : AttemptOutcome}
      {result : Members} {old : RuntimeAttempt} (at_key : claim.operationKey = key)
      (leaseOwner : old.leaseOwner = claim.leaseOwner)
      (fencingToken : old.fencingToken = claim.fencingToken)
      (before : old.state = .reserved ∨ (old.state = .outputInvalid result ∧ outcome = .failed)) :
      AttemptStep env s key (.finishAttempt m claim effect outcome result) (some old)
        (some { old with state := outcome.state result })
  | froze {m : Moment} {claim : Claim} {effect : EffectRecord} {sequence frozen : Nat}
      {result : Members} {old : RuntimeAttempt} {op : Operation} {event : InvocationEvent}
      {record : ArtifactRecord} {content : Option String}
      (valid : Writer.validInvocationRuntimeAttempt env.toEnvironment claim effect = true)
      (source : FrozenFrom env.toEnvironment s key (old.takenBy claim) result claim effect op frozen
        event record content)
      (before : (old.state = .reserved ∧ old.leaseOwner = claim.leaseOwner ∧
        old.fencingToken = claim.fencingToken) ∨ old.state = .outputInvalid result) :
      AttemptStep env s key (.prepareOutputFailure m claim effect sequence) (some old)
        (some { old.takenBy claim with state := .outputInvalid result })

namespace RuntimeStore

variable {env : RuntimeEnvironment} {s t : RuntimeStore} {call : RuntimeCall}

lemma Framed.attempts (h : s.Framed t) : t.attempts = s.attempts := by
  obtain ⟨_, -, -, rfl⟩ := h
  rfl

/-- A new version of one attempt, seen from any operation. -/
lemma lookup_putAttempt (key k : ResourceKey) (attempt : RuntimeAttempt) :
    (k = key ∧ (s.putAttempt k attempt).attempts.lookup key = some attempt) ∨
      (k ≠ key ∧ (s.putAttempt k attempt).attempts.lookup key = s.attempts.lookup key) := by
  by_cases hk : k = key
  · subst hk
    exact .inl ⟨rfl, AList.lookup_insert _⟩
  · exact .inr ⟨hk, AList.lookup_insert_ne (Ne.symm hk)⟩

/-- Every step does one of these to the attempt of an operation. -/
theorem step_attempt (h : s.step env call = some t) (key : ResourceKey) :
    AttemptStep env s key call (s.attempts.lookup key) (t.attempts.lookup key) := by
  have hsame : ∀ {r : RuntimeStore}, r.Framed t → r.attempts = s.attempts → ¬ call.Reserves key →
      AttemptStep env s key call (s.attempts.lookup key) (t.attempts.lookup key) := by
    intro r hframed hattempts hothers
    rw [hframed.attempts, hattempts]
    exact .same hothers
  cases step_did h with
  | stored | boundPlan | savedExecution same | boundArtifact | replayed | reconfirmed =>
    exact .same id
  | prepared _ change framed =>
    obtain rfl | ⟨-, rfl⟩ := change
    · exact hsame framed rfl id
    · exact hsame framed rfl id
  | completed _ _ _ _ framed | intended _ framed | confirmed _ _ framed => exact hsame framed rfl id
  | @reserved _ claim effect valid noAttempt =>
    obtain ⟨hkey, hrow⟩ | ⟨hkey, hrow⟩ := s.lookup_putAttempt key claim.operationKey
      (.reservedBy claim effect.key.id)
    · rw [hrow, AList.lookup_eq_none.mpr (hkey ▸ noAttempt)]
      exact .reserved valid hkey
    · rw [hrow]
      exact .same hkey
  | @finished _ claim _ _ _ _ row found update =>
    obtain ⟨hkey, hrow⟩ | ⟨-, hrow⟩ := s.lookup_putAttempt key claim.operationKey row
    · subst hkey
      obtain ⟨⟨-, howner, htoken, hstate⟩, hupdate⟩ := Option.ite_none_right_eq_some.mp update
      cases hupdate
      rw [hrow, found]
      exact .finished rfl howner htoken (hstate.imp_right fun h => ⟨h.1, h.2.1⟩)
    · rw [hrow]
      exact .same id
  | @froze _ claim _ _ _ _ _ row _ valid operation frozen =>
    obtain ⟨hkey, hrow⟩ | ⟨-, hrow⟩ := s.lookup_putAttempt key claim.operationKey row
    · subst hkey
      obtain ⟨⟨heffectId, hstate⟩, hupdate⟩ := Option.ite_none_right_eq_some.mp frozen.update
      cases hupdate
      obtain ⟨_, _, hevent, hartifact⟩ := frozen.artifact
      rw [hrow, frozen.found]
      exact .froze valid ⟨(valid_eq_true valid).1, heffectId.symm, operation, frozen.nonzero,
        frozen.small, hevent, hartifact, frozen.result⟩ hstate
    · rw [hrow]
      exact .same id

end RuntimeStore

/-! ### Whole runs -/

section

variable {env : RuntimeEnvironment} {key : ResourceKey} {s t : RuntimeStore}
  {calls : List RuntimeCall}

variable {call : RuntimeCall}

lemma AttemptStep.isSome {old row : Option RuntimeAttempt} (h : AttemptStep env s key call old row)
    (hold : old.isSome = true ∨ call.Reserves key) : row.isSome = true := by
  cases h with
  | same others => exact hold.resolve_right others
  | reserved | finished | froze => rfl

/-- Where there is an attempt, none is reserved. -/
lemma AttemptStep.not_reserves {old : RuntimeAttempt} {row : Option RuntimeAttempt}
    (h : AttemptStep env s key call (some old) row) : ¬ call.Reserves key := by
  cases h with
  | same others => exact others
  | finished | froze => exact id

lemma countP_reserves_eq_zero (h : Run.run (RuntimeStore.step env) s calls = some t)
    (hold : (s.attempts.lookup key).isSome = true) :
    calls.countP (fun call => decide (call.Reserves key)) = 0 := by
  induction calls generalizing s with
  | nil => rfl
  | cons call _ ih =>
    obtain ⟨_, hstep, hrest⟩ := Run.run_cons_eq_some h
    have hattempt := RuntimeStore.step_attempt hstep key
    have hnot : ¬ call.Reserves key := by
      obtain ⟨_, hold⟩ := Option.isSome_iff_exists.mp hold
      exact (hold ▸ hattempt).not_reserves
    rw [List.countP_cons, ih hrest (hattempt.isSome (.inl hold)), if_neg (by simpa using hnot)]

/-- An attempt is reserved at most once. -/
lemma countP_reserves_le_one (h : Run.run (RuntimeStore.step env) s calls = some t) :
    calls.countP (fun call => decide (call.Reserves key)) ≤ 1 := by
  induction calls generalizing s with
  | nil => exact Nat.zero_le 1
  | cons call _ ih =>
    obtain ⟨_, hstep, hrest⟩ := Run.run_cons_eq_some h
    by_cases hreserves : call.Reserves key
    · have hsome := (RuntimeStore.step_attempt hstep key).isSome (.inr hreserves)
      rw [List.countP_cons, countP_reserves_eq_zero hrest hsome]
      split <;> omega
    · rw [List.countP_cons, if_neg (by simpa using hreserves)]
      exact ih hrest

/-- What comes after an attempt in this state. -/
def AttemptState.Follows : AttemptState → AttemptState → Prop
  | .reserved, _ => True
  | .outputInvalid frozen, state => state = .outputInvalid frozen ∨ state = .failed frozen
  | .succeeded result, state => state = .succeeded result
  | .failed result, state => state = .failed result

lemma AttemptState.Follows.refl (state : AttemptState) : state.Follows state := by
  cases state with
  | reserved => trivial
  | outputInvalid => exact .inl rfl
  | succeeded | failed => rfl

lemma AttemptState.Follows.trans {first second third : AttemptState} (h : first.Follows second)
    (h' : second.Follows third) : first.Follows third := by
  cases first with
  | reserved => trivial
  | outputInvalid =>
    obtain rfl | rfl := h
    · exact h'
    · exact .inr h'
  | succeeded | failed =>
    cases h
    exact h'

/-- An attempt goes on.  The row stays as it is before the attempt is finished or frozen, and once
it has come to its end. -/
structure RuntimeAttempt.GoesOnAs (attempt later : RuntimeAttempt) : Prop where
  follows : attempt.state.Follows later.state
  final : attempt.state.Terminal → later = attempt
  unreserved : later.state = .reserved → later = attempt

lemma RuntimeAttempt.GoesOnAs.refl (attempt : RuntimeAttempt) : attempt.GoesOnAs attempt :=
  ⟨.refl _, fun _ => rfl, fun _ => rfl⟩

lemma RuntimeAttempt.GoesOnAs.trans {first second third : RuntimeAttempt}
    (h : first.GoesOnAs second) (h' : second.GoesOnAs third) : first.GoesOnAs third := by
  refine ⟨h.follows.trans h'.follows, fun hterminal => ?_, fun hreserved => ?_⟩
  · have heq := h.final hterminal
    subst heq
    exact h'.final hterminal
  · have heq := h'.unreserved hreserved
    subst heq
    exact h.unreserved hreserved

lemma AttemptOutcome.state_ne_reserved (outcome : AttemptOutcome) (result : Members) :
    outcome.state result ≠ .reserved := by
  cases outcome <;> simp [AttemptOutcome.state]

lemma AttemptStep.goesOn {old : RuntimeAttempt} {found : Option RuntimeAttempt}
    (h : AttemptStep env s key call (some old) found) : ∃ row, found = some row ∧ old.GoesOnAs row := by
  cases h with
  | same => exact ⟨old, rfl, .refl _⟩
  | @finished _ _ _ outcome result _ _ _ _ before =>
    have hlast := outcome.state_ne_reserved result
    obtain hstate | ⟨hstate, rfl⟩ := before
    · exact ⟨_, rfl, by rw [hstate]; trivial, by rw [hstate]; exact False.elim,
        fun h => (hlast h).elim⟩
    · exact ⟨_, rfl, by rw [hstate]; exact .inr rfl, by rw [hstate]; exact False.elim,
        fun h => (hlast h).elim⟩
  | froze _ _ before =>
    obtain ⟨hstate, -⟩ | hstate := before
    · exact ⟨_, rfl, by rw [hstate]; trivial, by rw [hstate]; exact False.elim, nofun⟩
    · exact ⟨_, rfl, by rw [hstate]; exact .inl rfl, by rw [hstate]; exact False.elim, nofun⟩

/-- **An attempt over a whole run.** -/
lemma goesOn_of_run (h : Run.run (RuntimeStore.step env) s calls = some t) {old : RuntimeAttempt}
    (hold : s.attempts.lookup key = some old) :
    ∃ row, t.attempts.lookup key = some row ∧ old.GoesOnAs row := by
  induction calls generalizing s old with
  | nil =>
    cases h
    exact ⟨old, hold, .refl _⟩
  | cons _ _ ih =>
    obtain ⟨_, hstep, hrest⟩ := Run.run_cons_eq_some h
    have hattempt := RuntimeStore.step_attempt hstep key
    rw [hold] at hattempt
    obtain ⟨_, hmiddle, hfirst⟩ := hattempt.goesOn
    obtain ⟨row, hrow, hthen⟩ := ih hrest hmiddle
    exact ⟨row, hrow, hfirst.trans hthen⟩

/-- A reserved attempt was reserved in the run, for the owner and the token it names. -/
lemma reserved_by_of_run (h : Run.run (RuntimeStore.step env) s calls = some t)
    (hnone : s.attempts.lookup key = none) {attempt : RuntimeAttempt}
    (hattempt : t.attempts.lookup key = some attempt) (hreserved : attempt.state = .reserved) :
    ∃ clock claim effect, RuntimeCall.beginAttempt clock claim effect ∈ calls ∧
      claim.operationKey = key ∧ attempt = .reservedBy claim effect.key.id := by
  induction calls generalizing s with
  | nil =>
    cases h
    cases hnone.symm.trans hattempt
  | cons _ _ ih =>
    obtain ⟨r, hstep, hrest⟩ := Run.run_cons_eq_some h
    have hfirst := RuntimeStore.step_attempt hstep key
    rw [hnone] at hfirst
    cases hr : r.attempts.lookup key with
    | none =>
      obtain ⟨clock, claim, effect, hmem, hclaim⟩ := ih hrest hr
      exact ⟨clock, claim, effect, List.mem_cons_of_mem _ hmem, hclaim⟩
    | some =>
      obtain ⟨_, hrow, hgoesOn⟩ := goesOn_of_run hrest hr
      cases hrow.symm.trans hattempt
      rw [hr] at hfirst
      cases hfirst with
      | @reserved clock claim effect _ at_key =>
        exact ⟨clock, claim, effect, List.mem_cons_self, at_key, hgoesOn.unreserved hreserved⟩

end

/-! ### What a frozen result comes from -/

/-- What holds of every attempt. -/
structure AttemptSound (env : Environment) (s : RuntimeStore) (key : ResourceKey)
    (attempt : RuntimeAttempt) : Prop where
  effectId : attempt.effectId = (key.invocationOperation.effectKey env .runInvocation).id
  leaseOwner : attempt.leaseOwner ≠ ""
  fencingToken : 0 < attempt.fencingToken
  frozen : ∀ result, attempt.state = .outputInvalid result →
    ∃ claim effect op sequence event record content,
      FrozenFrom env s key attempt result claim effect op sequence event record content

/-- Two states of which the second has every artifact of the first. -/
def RuntimeStore.KeepsArtifacts (s t : RuntimeStore) : Prop :=
  ∀ key record, s.artifacts.lookup key = some record → t.artifacts.lookup key = some record

variable {record : ArtifactRecord} {event : InvocationEvent} {content : Option String}

section

variable {env : Environment} {s t : RuntimeStore} {claim claim' : Claim}
  {effect effect' : EffectRecord} {invocationId : String} {sequence : Nat}

lemma getRuntimeMessageArtifact_eq_ok {reference : MessageArtifact} :
    getRuntimeMessageArtifact env claim invocationId sequence reference s = .ok (record, s) ↔
      reference.artifactId = derived env "art" (claim.key.isolationDomainId ++ ":" ++
        invocationId ++ ":runtime-message:" ++ toString sequence) ∧
      s.artifacts.lookup ⟨claim.key.isolationDomainId, reference.artifactId⟩ = some record ∧
      record.id = reference.artifactId ∧ record.invocationId = invocationId ∧
      record.operationId = claim.key.id ∧
      record.effectId = (claim.key.effectKey env .runInvocation).id ∧
      record.digest = reference.digest ∧ record.sizeBytes = reference.sizeBytes ∧
      record.name = "Completed runtime message" ∧ record.kind = "file" ∧
      record.mediaType = "text/plain; charset=utf-8" ∧ record.sensitive = true := by
  simp only [getRuntimeMessageArtifact, require_bind_eq_ok, read_bind, demand_bind_eq_ok,
    pure_eq_ok]
  constructor
  · rintro ⟨hid, found, hfound, hmatches, heq⟩
    cases heq
    exact ⟨hid, hfound, hmatches⟩
  · rintro ⟨hid, hfound, hmatches⟩
    exact ⟨hid, record, hfound, hmatches, rfl⟩

/-- The output of a turn: a short message, whose artifact is still to be stored, or a message that
has one. -/
inductive OutputOf (env : Environment) (s : RuntimeStore) (claim : Claim) (effect : EffectRecord)
    (invocationId : String) (sequence : Nat) (event : InvocationEvent) (payload : Members) :
    ArtifactRecord → Option String → Prop
  | message {message : CompletedMessage} (isMessage : event.eventType = "output.message.completed")
      (parsed : parseCompletedMessage payload = some message)
      (small : message.text.utf8ByteSize ≤ 65536) (phase : message.phase ≠ "commentary") :
      OutputOf env s claim effect invocationId sequence event payload
        (invalidResultRecord env claim effect invocationId message.text) (some message.text)
  | artifact {reference : MessageArtifact} {record : ArtifactRecord}
      (isArtifact : event.eventType = "output.message.artifact")
      (parsed : parseMessageArtifact payload = some reference)
      (phase : reference.phase ≠ "commentary")
      (found : getRuntimeMessageArtifact env claim invocationId sequence reference s =
        .ok (record, s)) :
      OutputOf env s claim effect invocationId sequence event payload record none

lemma outputArtifact_eq_ok :
    outputArtifact env claim effect invocationId sequence event s = .ok ((record, content), s) ↔
      ∃ payload, payloadMembers event.payload = some payload ∧
        OutputOf env s claim effect invocationId sequence event payload record content := by
  rw [outputArtifact, demand_bind_eq_ok]
  refine exists_congr fun payload => and_congr_right fun _ => ?_
  by_cases hmessage : event.eventType = "output.message.completed"
  · simp only [if_pos hmessage, demand_bind_eq_ok, require_bind_eq_ok, pure_eq_ok]
    constructor
    · rintro ⟨message, hparsed, ⟨hsmall, hphase⟩, heq⟩
      cases heq
      exact .message hmessage hparsed hsmall hphase
    · rintro (⟨-, hparsed, hsmall, hphase⟩ | ⟨hartifact, -, -, -⟩)
      · exact ⟨_, hparsed, ⟨hsmall, hphase⟩, rfl⟩
      · exact absurd (hmessage.symm.trans hartifact) (by decide)
  · rw [if_neg hmessage]
    by_cases hartifact : event.eventType = "output.message.artifact"
    · simp only [if_pos hartifact, demand_bind_eq_ok, require_bind_eq_ok,
        (readOnly_getRuntimeMessageArtifact _ _ _ _ _).bind_eq_ok, pure_eq_ok]
      constructor
      · rintro ⟨reference, hparsed, hphase, found, hfound, heq⟩
        cases heq
        exact .artifact hartifact hparsed hphase hfound
      · rintro (⟨hmessage', -, -, -⟩ | ⟨-, hparsed, hphase, hfound⟩)
        · exact (hmessage hmessage').elim
        · exact ⟨_, hparsed, hphase, record, hfound, rfl⟩
    · rw [if_neg hartifact, fail_eq_ok]
      constructor
      · exact False.elim
      · rintro (⟨hmessage', -, -, -⟩ | ⟨hartifact', -, -, -⟩)
        · exact hmessage hmessage'
        · exact hartifact hartifact'

/-- The artifact of a message does not depend on which claim of the operation asks for it, and it
stays. -/
lemma outputArtifact_congr (hclaim : claim'.key = claim.key)
    (heffect : effect'.key.id = effect.key.id) (hartifacts : s.KeepsArtifacts t)
    (h : outputArtifact env claim effect invocationId sequence event s = .ok ((record, content), s)) :
    outputArtifact env claim' effect' invocationId sequence event t =
      .ok ((record, content), t) := by
  obtain ⟨payload, hpayload, houtput⟩ := outputArtifact_eq_ok.mp h
  refine outputArtifact_eq_ok.mpr ⟨payload, hpayload, ?_⟩
  cases houtput with
  | @message message isMessage parsed small phase =>
    have hrecord : invalidResultRecord env claim effect invocationId message.text =
        invalidResultRecord env claim' effect' invocationId message.text := by
      simp only [invalidResultRecord, hclaim, heffect]
    rw [hrecord]
    exact .message isMessage parsed small phase
  | artifact isArtifact parsed phase found =>
    refine .artifact isArtifact parsed phase ?_
    rw [getRuntimeMessageArtifact_eq_ok] at found ⊢
    rw [hclaim]
    exact ⟨found.1, hartifacts _ _ found.2.1, found.2.2⟩

lemma parseMessageArtifact_sizeBytes {payload : Members} {reference : MessageArtifact}
    (h : parseMessageArtifact payload = some reference) :
    0 ≤ reference.sizeBytes ∧ reference.sizeBytes ≤ 1048576 := by
  simp only [parseMessageArtifact, Option.bind_eq_bind, Option.bind_eq_some_iff] at h
  obtain ⟨_, -, _, -, _, -, _, -, _, -, h⟩ := h
  split at h
  · rename_i hbounds
    cases h
    exact ⟨hbounds.2.2.2.1.le, hbounds.2.2.2.2.1⟩
  · cases h

/-- A message and its artifact are of at most one mebibyte. -/
lemma outputArtifact_sizeBytes
    (h : outputArtifact env claim effect invocationId sequence event s = .ok ((record, content), s)) :
    0 ≤ record.sizeBytes ∧ record.sizeBytes ≤ 1048576 := by
  obtain ⟨_, -, houtput⟩ := outputArtifact_eq_ok.mp h
  cases houtput with
  | message =>
    simp only [invalidResultRecord]
    omega
  | artifact _ parsed _ found =>
    obtain ⟨-, -, -, -, -, -, -, hsize, -⟩ := getRuntimeMessageArtifact_eq_ok.mp found
    rw [hsize]
    exact parseMessageArtifact_sizeBytes parsed

/-- A frozen result reads as it was written. -/
lemma decoded_outputFailureResult (h : 0 ≤ record.sizeBytes ∧ record.sizeBytes ≤ 1048576) :
    Members.mapNumbers Binary64.decode (outputFailureResult sequence record) =
      some (outputFailureResult sequence record) := by
  have hdecode : Binary64.decode (record.sizeBytes : ℚ) = some (record.sizeBytes : ℚ) :=
    Binary64.decode_intCast (by rw [abs_of_nonneg h.1]; omega)
  simp [outputFailureResult, Members.mapNumbers, Json.mapNumbers, hdecode]

lemma text_outputFailureResult (record : ArtifactRecord) :
    (Json.object (outputFailureResult sequence record)).text? "sourceSequence" =
      some (toString sequence) := by
  simp [outputFailureResult, Json.text?, Json.get?, Json.memberValue]

end

/-! ### What the steps keep -/

namespace RuntimeStore

variable {env : RuntimeEnvironment} {s t : RuntimeStore} {call : RuntimeCall}

/-- What an invocation operation is about, the events and the artifacts stay. -/
structure Extends (s t : RuntimeStore) : Prop where
  operation : ∀ key op, s.operation key = some op →
    ∃ op', t.operation key = some op' ∧ op.SameColumns op'
  events : s.store.db.events <+: t.store.db.events
  artifacts : s.KeepsArtifacts t

lemma Extends.of_eq (hstore : t.store = s.store) (hartifacts : t.artifacts = s.artifacts) :
    s.Extends t := by
  refine ⟨fun key op hop => ⟨op, ?_, rfl, rfl, rfl, rfl⟩, ?_, fun key record h => ?_⟩
  · rw [RuntimeStore.operation, hstore]
    exact hop
  · exact hstore ▸ List.prefix_refl _
  · rw [hartifacts]
    exact h

lemma Framed.extends (h : s.Framed t) {r : RuntimeStore} (hstore : s.store = r.store)
    (hartifacts : s.artifacts = r.artifacts) : r.Extends t := by
  obtain ⟨store, hframe, hevents, rfl⟩ := h
  refine ⟨fun key op hop => ⟨op, ?_, rfl, rfl, rfl, rfl⟩, ?_, fun key record h => ?_⟩
  · rw [RuntimeStore.operation, hframe.operations, hstore]
    exact hop
  · have hsame : store.db.events = r.store.db.events := by rw [hevents, hstore]
    exact hsame ▸ List.prefix_refl _
  · rw [hartifacts]
    exact h

lemma step_extends (h : s.step env call = some t) : s.Extends t := by
  cases step_did h with
  | stored step =>
    exact ⟨fun key op hop => Store.step_operation step hop, Store.step_events step,
      fun key record h => h⟩
  | boundPlan | savedExecution | reserved | replayed | finished | froze | reconfirmed =>
    exact .of_eq rfl rfl
  | boundArtifact =>
    refine ⟨fun key op hop => ⟨op, hop, rfl, rfl, rfl, rfl⟩, List.prefix_refl _, ?_⟩
    exact fun key record h => Table.lookup_insertIfAbsent_of_some h
  | prepared _ change framed =>
    obtain rfl | ⟨-, rfl⟩ := change
    · exact framed.extends rfl rfl
    · exact framed.extends rfl rfl
  | completed _ _ _ _ framed | intended _ framed | confirmed _ _ framed =>
    exact framed.extends rfl rfl

end RuntimeStore

/-- An event that a runtime has numbered is found again in a longer journal. -/
lemma Database.runtimeEvent_of_events {db db' : Database} (h : db.events <+: db'.events)
    {invocation : ResourceKey} {sequence : Nat}
    (hevent : db.runtimeEvent invocation sequence = some event) :
    db'.runtimeEvent invocation sequence = some event := by
  obtain ⟨_, hlater⟩ := h
  rw [runtimeEvent] at hevent ⊢
  rw [← hlater, List.find?_append, hevent, Option.some_or]

section

variable {env : RuntimeEnvironment} {s t : RuntimeStore} {call : RuntimeCall} {key : ResourceKey}
  {attempt : RuntimeAttempt}

/-- What a frozen result comes from is still there later. -/
lemma FrozenFrom.later {result : Members} {claim : Claim} {effect : EffectRecord} {op : Operation}
    {sequence : Nat}
    (h : FrozenFrom env.toEnvironment s key attempt result claim effect op sequence event record
      content) (hextends : s.Extends t) :
    ∃ op', FrozenFrom env.toEnvironment t key attempt result claim effect op' sequence event record
      content := by
  obtain ⟨op', hop', hsame⟩ := hextends.operation key op h.operation
  refine ⟨op', h.claim_key, h.effect_id, hop', h.nonzero, h.small, ?_, ?_, h.result⟩
  · rw [hsame.resourceId]
    exact Database.runtimeEvent_of_events hextends.events h.runtimeEvent
  · rw [hsame.resourceId]
    exact outputArtifact_congr rfl rfl hextends.artifacts h.artifact

lemma AttemptSound.later (h : AttemptSound env.toEnvironment s key attempt)
    (hextends : s.Extends t) : AttemptSound env.toEnvironment t key attempt := by
  refine ⟨h.effectId, h.leaseOwner, h.fencingToken, fun result hstate => ?_⟩
  obtain ⟨claim, effect, _, sequence, event, record, content, hfrozen⟩ := h.frozen result hstate
  obtain ⟨op', hfrozen'⟩ := hfrozen.later hextends
  exact ⟨claim, effect, op', sequence, event, record, content, hfrozen'⟩

/-- **Every attempt stays sound.** -/
lemma attemptSound_step (hs : ∀ key attempt, s.attempts.lookup key = some attempt →
      AttemptSound env.toEnvironment s key attempt)
    (h : s.step env call = some t) (hattempt : t.attempts.lookup key = some attempt) :
    AttemptSound env.toEnvironment t key attempt := by
  have hextends := RuntimeStore.step_extends h
  have hstep := RuntimeStore.step_attempt h key
  rw [hattempt] at hstep
  generalize hold : s.attempts.lookup key = found at hstep
  cases hstep with
  | same => exact (hs key attempt hold).later hextends
  | @reserved _ _ _ valid at_key =>
    obtain ⟨hkey, howner, htoken, heffect⟩ := valid_eq_true valid
    refine ⟨?_, howner, htoken, fun result hstate => by cases hstate⟩
    rw [← at_key, ← hkey, ← heffect]
    rfl
  | @finished _ _ _ outcome _ old _ leaseOwner fencingToken =>
    have hsound := (hs key old hold).later hextends
    refine ⟨hsound.effectId, hsound.leaseOwner, hsound.fencingToken, fun frozen hstate => ?_⟩
    cases outcome <;> cases hstate
  | @froze _ claim effect _ frozen _ old _ event record content valid source =>
    obtain ⟨-, howner, htoken, -⟩ := valid_eq_true valid
    refine ⟨(hs key old hold).effectId, howner, htoken, fun result' hstate => ?_⟩
    cases hstate
    obtain ⟨op', hfrozen⟩ := source.later hextends
    exact ⟨claim, effect, op', frozen, event, record, content, { hfrozen with }⟩

lemma attemptSound_of_run {calls : List RuntimeCall}
    (h : Run.run (RuntimeStore.step env) .empty calls = some s)
    (hattempt : s.attempts.lookup key = some attempt) :
    AttemptSound env.toEnvironment s key attempt := by
  refine Run.run_invariant (P := fun s => ∀ key attempt, s.attempts.lookup key = some attempt →
    AttemptSound env.toEnvironment s key attempt) ?_ ?_ h key attempt hattempt
  · exact fun s call t hs hstep key attempt => attemptSound_step hs hstep
  · intro key attempt hempty
    cases hempty

end

/-! ### Taking over a frozen attempt -/

section

variable {env : RuntimeEnvironment} {s t : RuntimeStore} {claim : Claim} {effect : EffectRecord}
  {m : Moment} {attempt : RuntimeAttempt} {result : Members}

/-- The claim and the effect pass the checks that every method begins with, and the lease is live by
the database's clock as well. -/
structure RuntimeStore.Admits (env : Environment) (s : RuntimeStore) (m : Moment) (claim : Claim)
    (effect : EffectRecord) (op : Operation) : Prop where
  valid : Writer.validInvocationRuntimeAttempt env claim effect = true
  operation : s.operation claim.operationKey = some op
  locked : lockInvocationRuntimeClaim claim m.now s = .ok (op.resourceId, s)
  verified : verifyInvocationRuntimeEffect effect s = .ok ((), s)
  leased : op.LeasedTo claim.leaseOwner claim.fencingToken m.clock

/-- **A frozen attempt can be taken over.**  A claim that passes the checks gets the frozen result,
and the attempt is its own afterwards, as long as the journal still ends with the frozen message. -/
lemma takeover {op : Operation} (hsound : AttemptSound env.toEnvironment s claim.operationKey attempt)
    (hattempt : s.attempts.lookup claim.operationKey = some attempt)
    (hstate : attempt.state = .outputInvalid result)
    (hadmits : s.Admits env.toEnvironment m claim effect op)
    (hcomplete : ∀ sequence,
      (Json.object result).text? "sourceSequence" = some (toString sequence) →
      s.store.db.OutputComplete ⟨claim.key.isolationDomainId, op.resourceId⟩ sequence) :
    ∃ failure, prepareInvocationRuntimeOutputFailure env.toEnvironment m claim effect 0 s =
        .ok (failure, s.putAttempt claim.operationKey (attempt.takenBy claim)) ∧
      failure.result = result := by
  obtain ⟨_, _, _, sequence, event, record, content, hfrozen⟩ :=
    hsound.frozen result hstate
  obtain ⟨hkey, _, _, heffect⟩ := valid_eq_true hadmits.valid
  cases hadmits.operation.symm.trans hfrozen.operation
  have heffectId : effect.key.id = attempt.effectId := by
    rw [hsound.effectId, heffect, ← hkey]
  have hartifact : outputArtifact env.toEnvironment claim effect op.resourceId sequence event s =
      .ok ((record, content), s) :=
    outputArtifact_congr (hkey.trans hfrozen.claim_key.symm)
      (heffectId.trans hfrozen.effect_id.symm) (fun _ _ h => h) hfrozen.artifact
  have hdecoded : attempt.decoded = some attempt := by
    simp only [RuntimeAttempt.decoded, hstate, hfrozen.result,
      decoded_outputFailureResult (outputArtifact_sizeBytes hartifact), Option.map_some]
    rw [← hfrozen.result, ← hstate]
  have hget : getInvocationRuntimeAttempt claim.operationKey s = .ok (attempt, s) := by
    simp only [getInvocationRuntimeAttempt, read_bind, demand_bind_eq_ok, require_bind_eq_ok,
      pure_eq_ok]
    refine ⟨attempt, hattempt, attempt, hdecoded, ⟨?_, hsound.leaseOwner, hsound.fencingToken⟩, rfl⟩
    rw [hsound.effectId, OperationKey.effectKey, derived]
    simp
  have htext : (Json.object result).text? "sourceSequence" = some (toString sequence) := by
    rw [hfrozen.result]
    exact text_outputFailureResult record
  have hsequence : frozenSequence claim attempt 0 = .ok sequence := by
    simp only [frozenSequence, hstate, htext, parseUint63_toString hfrozen.small]
    rw [if_neg]
    simp [hfrozen.nonzero]
  have hfreeze : attempt.freeze claim effect.key.id (outputFailureResult sequence record) =
      some (attempt.takenBy claim) := by
    rw [RuntimeAttempt.freeze, if_pos ⟨heffectId.symm, .inr (hstate.trans (by rw [hfrozen.result]))⟩,
      ← hfrozen.result, ← hstate]
    rfl
  have hheld : op.command = claim.command ∧ op.observedState = .running := by
    have hlocked := hadmits.locked
    simp only [lockInvocationRuntimeClaim, require_bind_eq_ok, read_bind, demand_bind_eq_ok,
      hadmits.operation, Option.some.injEq, exists_eq_left'] at hlocked
    obtain ⟨hvalid, _, -, ⟨hcommand, hobserved, -⟩, -⟩ := hlocked
    refine ⟨hcommand, hobserved.trans ?_⟩
    simp only [Writer.validInvocationRuntimeClaim, Bool.and_eq_true, decide_eq_true_eq] at hvalid
    exact hvalid.1.1.1.2
  have hupdate : updateAttempt claim.operationKey (fun found =>
      if decide (∃ op ∈ s.operation claim.operationKey, op.command = claim.command ∧
          op.observedState = .running ∧ op.LeasedTo claim.leaseOwner claim.fencingToken m.clock)
      then found.freeze claim effect.key.id (outputFailureResult sequence record) else none) s =
      .ok (true, s.putAttempt claim.operationKey (attempt.takenBy claim)) := by
    have hlive : ∃ op ∈ s.operation claim.operationKey, op.command = claim.command ∧
        op.observedState = .running ∧
        op.LeasedTo claim.leaseOwner claim.fencingToken m.clock :=
      ⟨op, hadmits.operation, hheld.1, hheld.2, hadmits.leased⟩
    simp only [updateAttempt, read_bind, hattempt, decide_eq_true hlive, if_true, hfreeze,
      require_bind_eq_ok, modify_bind, pure_eq_ok, and_true]
    simp [preserveRuntimeOutputRetention, RuntimeAttempt.takenBy, hstate]
  refine ⟨⟨record, content, outputFailureResult sequence record, content = none⟩, ?_,
    hfrozen.result.symm⟩
  simp only [prepareInvocationRuntimeOutputFailure, require_bind_eq_ok, hadmits.valid, true_and,
    (readOnly_lockInvocationRuntimeClaim _ _).bind_eq_ok,
    (readOnly_verifyInvocationRuntimeEffect _).bind_eq_ok]
  refine ⟨op.resourceId, hadmits.locked, (), hadmits.verified, ?_⟩
  simp only [freezeAttempt, (readOnly_getInvocationRuntimeAttempt _).bind_eq_ok,
    require_bind_eq_ok, ofExcept_bind_eq_ok, read_bind, demand_bind_eq_ok,
    (readOnly_outputArtifact _ _ _ _ _ _).bind_eq_ok]
  exact ⟨attempt, hget, heffectId.symm, sequence, hsequence, hfrozen.small, event,
    hfrozen.runtimeEvent, (record, content), hartifact, hcomplete sequence htext,
    bind_eq_ok.mpr ⟨true, _, hupdate, rfl⟩⟩

end

/-! ### The theorem -/

/-- **A runtime attempt happens once.**  In every run of claims, transitions, cancellations, repairs
and calls of the protocol by any workers, current or not, for every operation:

* its attempt is reserved at most once;
* an attempt that has succeeded or failed stays as it is;
* an attempt succeeds only by a call of `CompleteInvocationRuntimeAttempt` under the owner and the
  token that reserved it;
* a frozen attempt keeps its result and can only fail with exactly that result;
* any claim that passes the checks of the methods can take a frozen attempt over. -/
theorem runtime_attempt_once (env : RuntimeEnvironment) (calls later : List RuntimeCall)
    (s t : RuntimeStore) (hs : Run.run (RuntimeStore.step env) .empty calls = some s)
    (ht : Run.run (RuntimeStore.step env) s later = some t) (key : ResourceKey) :
    (calls ++ later).countP (fun call => decide (call.Reserves key)) ≤ 1 ∧
    (∀ attempt, s.attempts.lookup key = some attempt → attempt.state.Terminal →
      t.attempts.lookup key = some attempt) ∧
    (∀ call r attempt result, s.step env call = some r →
      r.attempts.lookup key = some attempt → attempt.state = .succeeded result →
      s.attempts.lookup key ≠ some attempt →
      ∃ m claim effect clock first effect', call = .finishAttempt m claim effect .succeeded result ∧
        .beginAttempt clock first effect' ∈ calls ∧ claim.operationKey = key ∧
        first.operationKey = key ∧ claim.leaseOwner = first.leaseOwner ∧
        claim.fencingToken = first.fencingToken) ∧
    (∀ attempt result, s.attempts.lookup key = some attempt →
      attempt.state = .outputInvalid result →
      ∃ row, t.attempts.lookup key = some row ∧
        (row.state = .outputInvalid result ∨ row.state = .failed result)) ∧
    (∀ m claim effect op attempt result, claim.operationKey = key →
      s.attempts.lookup key = some attempt → attempt.state = .outputInvalid result →
      s.Admits env.toEnvironment m claim effect op →
      (∀ sequence, (Json.object result).text? "sourceSequence" = some (toString sequence) →
        s.store.db.OutputComplete ⟨claim.key.isolationDomainId, op.resourceId⟩ sequence) →
      ∃ failure, prepareInvocationRuntimeOutputFailure env.toEnvironment m claim effect 0 s =
          .ok (failure, s.putAttempt key (attempt.takenBy claim)) ∧ failure.result = result) := by
  refine ⟨?_, ?_, ?_, ?_, ?_⟩
  · exact countP_reserves_le_one (t := t) (s := .empty) (by rw [Run.run_append, hs]; exact ht)
  · intro attempt hattempt hterminal
    obtain ⟨row, hrow, hgoesOn⟩ := goesOn_of_run ht hattempt
    rw [hrow, hgoesOn.final hterminal]
  · intro call r attempt result hstep hattempt hsucceeded hchanged
    have hfirst := RuntimeStore.step_attempt hstep key
    rw [hattempt] at hfirst
    generalize hold : s.attempts.lookup key = found at hfirst hchanged
    cases hfirst with
    | same => exact (hchanged rfl).elim
    | reserved | froze => cases hsucceeded
    | @finished m claim effect outcome _ _ at_key leaseOwner fencingToken before =>
      cases outcome with
      | failed => cases hsucceeded
      | succeeded =>
        cases hsucceeded
        obtain hreserved | ⟨-, hfailed⟩ := before
        · obtain ⟨clock, first, effect', hmem, hkey, rfl⟩ :=
            reserved_by_of_run hs rfl hold hreserved
          exact ⟨m, claim, effect, clock, first, effect', rfl, hmem, at_key, hkey,
            leaseOwner.symm, fencingToken.symm⟩
        · cases hfailed
  · intro attempt result hattempt hfrozen
    obtain ⟨row, hrow, hgoesOn⟩ := goesOn_of_run ht hattempt
    have hfollows := hgoesOn.follows
    rw [hfrozen] at hfollows
    exact ⟨row, hrow, hfollows⟩
  · rintro m claim effect op attempt result rfl hattempt hfrozen hadmits hcomplete
    exact takeover (attemptSound_of_run hs hattempt) hattempt hfrozen hadmits hcomplete

namespace Scenario

/-- The environment of a runtime. -/
def hosting : RuntimeEnvironment where
  toEnvironment := env
  encodedLength := fun _ => 0
  payloadParses := fun _ _ => true
  reencode := Json.decoded
  formatTime := toString
  validQuestionPrompts := fun _ => true
  validQuestionAnswers := fun _ _ => true

/-- The operation comes to run: two workers claim it and move it on. -/
def toRunning : List Call :=
  accepted ++ claiming "one" 1 ++
    [.advance ⟨2, 2, "audit-1"⟩ (claim "one" 1 1 .queued) .starting none] ++ claiming "one" 3 ++
    [.advance ⟨4, 4, "audit-2"⟩ (claim "one" 2 3 .starting) .running none]

/-- The record of its runtime effect. -/
def runEffect (claim : Claim) : EffectRecord :=
  ⟨claim.effectKey env .runInvocation, .prepared claim .runInvocation "request" 5⟩

/-- A message of the runtime, and the end of its turn. -/
def turn : List Call :=
  [.journal
    { invocation := ⟨"iso", "inv"⟩, id := "evt-1", sequence := 10
      eventType := "output.message.completed", occurredAt := 6, recordedAt := 6
      correlationId := "request", actorId := "caller", serviceId := "svc", revisionId := "rev"
      payload := .ofMembers [("phase", .string "final"), ("text", .string "no object")]
      sourceSequence := some 1 },
   .journal
    { invocation := ⟨"iso", "inv"⟩, id := "evt-2", sequence := 11
      eventType := "lifecycle.succeeded", occurredAt := 6, recordedAt := 6
      correlationId := "request", actorId := "caller", serviceId := "svc", revisionId := "rev"
      payload := .ofMembers [("state", .string "succeeded")], sourceSequence := some 2 }]

/-- A third claim prepares the runtime effect. -/
def toEffect : List Call :=
  toRunning ++ claiming "one" 5 ++
    [.insertEffect ⟨5, 5, ""⟩ (claim "one" 3 5 .running) .runInvocation "request"]

/-- The third claim runs the turn and freezes its output; its lease runs out. -/
def frozen : List RuntimeCall :=
  toEffect.map .stored ++
  [.beginAttempt 6 (claim "one" 3 5 .running) (runEffect (claim "one" 3 5 .running))] ++
  turn.map .stored ++
  [.prepareOutputFailure ⟨7, 7, ""⟩ (claim "one" 3 5 .running)
    (runEffect (claim "one" 3 5 .running)) 1] ++
  (claiming "two" 50).map .stored

/-- The fourth claim. -/
def replacement : Claim :=
  claim "two" 4 50 .running

/-- The text that is no output, kept as an artifact. -/
def retained : ArtifactRecord :=
  invalidResultRecord env replacement (runEffect replacement) "inv" "no object"

/-- The fourth claim takes the frozen attempt over, keeps its text and fails it. -/
def takenOver : List RuntimeCall :=
  [.prepareOutputFailure ⟨51, 51, ""⟩ replacement (runEffect replacement) 0,
   .bindArtifact ⟨"iso", retained.id⟩ retained,
   .finishAttempt ⟨52, 52, ""⟩ replacement (runEffect replacement) .failed
    (outputFailureResult 1 retained)]

end Scenario

open Scenario

/-- The third claim freezes the attempt, the fourth one fails it. -/
theorem runtime_attempt_once_takenOver :
    ∃ s t, Run.run (RuntimeStore.step hosting) .empty frozen = some s ∧
      Run.run (RuntimeStore.step hosting) s takenOver = some t ∧
      (frozen ++ takenOver).countP
        (fun call => decide (call.Reserves replacement.operationKey)) ≤ 1 ∧
      ∃ row, t.attempts.lookup replacement.operationKey = some row ∧
        (row.state = .outputInvalid (outputFailureResult 1 retained) ∨
          row.state = .failed (outputFailureResult 1 retained)) := by
  obtain ⟨s, hs, t, ht, attempt, hattempt, hstate⟩ : ∃ s,
      Run.run (RuntimeStore.step hosting) .empty frozen = some s ∧
      ∃ t, Run.run (RuntimeStore.step hosting) s takenOver = some t ∧
      ∃ attempt, s.attempts.lookup replacement.operationKey = some attempt ∧
      attempt.state = .outputInvalid (outputFailureResult 1 retained) := by
    decide +kernel
  obtain ⟨hcount, -, -, hkept, -⟩ := runtime_attempt_once _ _ _ s t hs ht
    replacement.operationKey
  exact ⟨s, t, hs, ht, hcount, hkept attempt _ hattempt hstate⟩

end DataGround
