import DataGround.Execution.MemoryStore

/-!
# The store in PostgreSQL, and both stores

`postgres.Store` keeps the same records in tables.  Its methods are transactions; here they take place one
after the other.  What the store in memory leaves to its callers is a constraint of a table here: an
operation has at most one row in `execution_instances`, so that every call is one of the changes that
keep the records consistent (`PostgresStore.changed`), whatever its arguments are.

`stores_keep_executions` is what both stores keep.
-/

namespace DataGround.Execution

open Transaction

/-- The tables of `postgres.Store`. -/
structure PostgresStore where
  gateways : Table (String × String) GatewayRecord := ∅
  records : Records (String × String) := {}

namespace PostgresStore

/-- A method of the store. -/
abbrev Method := Tx PostgresStore StoreError

/-- A row of `execution_gateways` goes against `UNIQUE (isolation_domain_id, endpoint)`. -/
def endpointTaken (s : PostgresStore) (registration : GatewayRegistration) : Prop :=
  ∃ entry ∈ s.gateways.entries, entry.2.isolationDomainId = registration.isolationDomainId ∧
    entry.2.endpoint = registration.endpoint

instance (s : PostgresStore) (registration : GatewayRegistration) :
    Decidable (s.endpointTaken registration) :=
  inferInstanceAs (Decidable (∃ entry ∈ s.gateways.entries, _))

def registerGateway (registration : GatewayRegistration) : Method GatewayRecord := do
  require (registration.isComplete = true)
    (.refused "isolation domain, gateway id, driver, and endpoint are required")
  let capabilities ← ofExcept (normalizeCapabilities registration.capabilities)
  let s ← read
  let key := (registration.isolationDomainId, registration.id)
  match s.gateways.lookup key with
  | some existing =>
    require (existing.isSame registration capabilities = true) .stateConflict
    pure existing
  | none =>
    require (¬s.endpointTaken registration) .persistence
    let record := registration.record capabilities
    modify fun s => { s with gateways := s.gateways.insert key record }
    pure record

/-- What is placed at a gateway is lost with it. -/
def loseGateway (s : PostgresStore) (isolationDomainId gatewayId : String) : PostgresStore :=
  let lostPlacement : PlacementRecord → Bool := fun record =>
    record.placement.isolationDomainId = isolationDomainId && record.placement.gatewayId = gatewayId
  let lostExecution : ExecutionRecord → Bool := fun record =>
    record.isolationDomainId = isolationDomainId && record.gatewayId = gatewayId
  { s with records := s.records.lose lostPlacement lostExecution }

def setGatewayState (isolationDomainId gatewayId : String) (state : GatewayState) : Method Unit := do
  require (validGatewayState state = true) (.refused "invalid gateway state")
  let s ← read
  let key := (isolationDomainId, gatewayId)
  require (key ∈ s.gateways) .noGateway
  modify fun s => { s with gateways := s.gateways.updateAt key fun row => { row with state := state } }
  if state = .lost then modify fun s => s.loseGateway isolationDomainId gatewayId else pure ()

def getPlacementByOperation (s : PostgresStore) (isolationDomainId operationId : String) :
    Option PlacementRecord :=
  (s.records.placements.entries.find? fun entry =>
    entry.2.placement.isolationDomainId = isolationDomainId && entry.2.operationId = operationId).map (·.2)

/-- The number of placements that a gateway holds. -/
def load (s : PostgresStore) (gateway : GatewayRecord) : ℕ :=
  s.records.placements.entries.countP fun entry =>
    entry.2.placement.isolationDomainId = gateway.isolationDomainId &&
      entry.2.placement.gatewayId = gateway.id && entry.2.state.isHeld

/-- The gateways that a request may be placed at. -/
def eligible (s : PostgresStore) (isolationDomainId : String) (capabilities : List String) :
    List GatewayRecord :=
  (s.gateways.entries.map (·.2)).filter fun gateway =>
    gateway.isolationDomainId = isolationDomainId && gateway.state = .active &&
      containsCapabilities gateway.capabilities capabilities

/-- The order of the query: by the number of placements, and then by the identifier. -/
def before (s : PostgresStore) (one other : GatewayRecord) : Prop :=
  s.load one < s.load other ∨ s.load one = s.load other ∧ one.id ≤ other.id

instance (s : PostgresStore) : DecidableRel s.before :=
  fun one other => inferInstanceAs (Decidable (s.load one < s.load other ∨
    s.load one = s.load other ∧ one.id ≤ other.id))

def reservePlacement (env : Environment) (request : PlacementRequest) : Method Placement := do
  require (request.isolationDomainId ≠ "" ∧ request.operationId ≠ "")
    (.refused "isolation domain and operation are required")
  let capabilities ← ofExcept (normalizeCapabilities request.requiredCapabilities)
  let s ← read
  match s.getPlacementByOperation request.isolationDomainId request.operationId with
  | some record =>
    require (record.requiredCapabilities = capabilities) .stateConflict
    pure record.placement
  | none =>
    let gateway ← demand
      ((s.eligible request.isolationDomainId capabilities).insertionSort s.before).head? .noGateway
    let placement := request.placement env gateway.id
    let key := (request.isolationDomainId, placement.id)
    let record : PlacementRecord := ⟨placement, request.operationId, capabilities, .reserved⟩
    -- The primary key is not the one of ON CONFLICT.
    require (key ∉ s.records.placements) .persistence
    modify fun s => { s with records := s.records.reserve key record }
    pure placement

/-- A row of `execution_instances` goes against one of its two `UNIQUE` constraints. -/
def executionTaken (s : PostgresStore) (record : ExecutionRecord) : Prop :=
  ∃ entry ∈ s.records.executions.entries, entry.2.isolationDomainId = record.isolationDomainId ∧
    (entry.2.operationId = record.operationId ∨
      entry.2.gatewayId = record.gatewayId ∧ entry.2.sandboxName = record.sandboxName)

instance (s : PostgresStore) (record : ExecutionRecord) : Decidable (s.executionTaken record) :=
  inferInstanceAs (Decidable (∃ entry ∈ s.records.executions.entries, _))

/-- `SaveExecution`; between the calls of others, its second look at the execution finds the same. -/
def saveExecution (record : ExecutionRecord) : Method Unit := do
  require (record.isComplete = true)
    (.refused "complete execution identity and valid state are required")
  let s ← read
  match s.records.executions.lookup (record.key Prod.mk) with
  | some existing => require (sameExecutionIdentity existing record = true) .stateConflict
  | none =>
    let placement ← demand (s.records.placements.lookup (record.place Prod.mk)) .placementMissing
    require (placement.operationId = record.operationId ∧
      placement.placement.gatewayId = record.gatewayId ∧ placement.state.isHeld = true) .stateConflict
    require (¬s.executionTaken record) .persistence
    modify fun s => { s with records := s.records.save Prod.mk record }

def updateExecutionState (ref : ExecutionRef) (state : ExecutionState) : Method Unit := do
  require (validExecutionState state = true) (.refused "invalid execution state")
  let s ← read
  let key := (ref.isolationDomainId, ref.id)
  let record ← demand (s.records.executions.lookup key) .executionMissing
  require (¬(record.state = .terminated ∧ state ≠ .terminated)) .stateConflict
  modify fun s => { s with records := s.records.setState key state }
  if state = .terminated then
    modify fun s => { s with records := s.records.release (record.place Prod.mk) }
  else pure ()

/-- A call, without its result. -/
def call (env : Environment) : StoreCall → Method Unit
  | .registerGateway registration => do
    let _ ← registerGateway registration
    pure ()
  | .reservePlacement request => do
    let _ ← reservePlacement env request
    pure ()
  | .saveExecution record => saveExecution record
  | .updateExecutionState ref state => updateExecutionState ref state
  | .setGatewayState isolationDomainId gatewayId state =>
    setGatewayState isolationDomainId gatewayId state

/-- One call; one that fails is rolled back. -/
def step (env : Environment) (s : PostgresStore) (event : StoreCall) : Option PostgresStore :=
  match call env event s with
  | .ok (_, t) => some t
  | .error _ => some s

/-! ### What a call does to the records -/

variable {env : Environment} {s t : PostgresStore}

lemma changed_registerGateway {registration : GatewayRegistration} {record : GatewayRecord}
    (h : registerGateway registration s = .ok (record, t)) : t.records = s.records := by
  obtain ⟨-, h⟩ := require_bind_eq_ok.mp h
  obtain ⟨_, -, h⟩ := ofExcept_bind_eq_ok.mp h
  rw [read_bind] at h
  dsimp only at h
  cases hfound : s.gateways.lookup (registration.isolationDomainId, registration.id) with
  | some =>
    rw [hfound] at h
    obtain ⟨-, h⟩ := require_bind_eq_ok.mp h
    cases pure_eq_ok.mp h
    rfl
  | none =>
    rw [hfound] at h
    obtain ⟨-, h⟩ := require_bind_eq_ok.mp h
    cases h
    rfl

lemma changed_reservePlacement {request : PlacementRequest} {placement : Placement}
    (h : reservePlacement env request s = .ok (placement, t)) :
    s.records.Changed Prod.mk request.isolationDomainId t.records := by
  obtain ⟨-, h⟩ := require_bind_eq_ok.mp h
  obtain ⟨_, -, h⟩ := ofExcept_bind_eq_ok.mp h
  rw [read_bind] at h
  cases hfound : s.getPlacementByOperation request.isolationDomainId request.operationId with
  | some =>
    rw [hfound] at h
    obtain ⟨-, h⟩ := require_bind_eq_ok.mp h
    cases pure_eq_ok.mp h
    exact .same
  | none =>
    rw [hfound] at h
    obtain ⟨_, -, h⟩ := demand_bind_eq_ok.mp h
    obtain ⟨hfresh, h⟩ := require_bind_eq_ok.mp h
    cases h
    exact .placed hfresh rfl

lemma changed_saveExecution {record : ExecutionRecord} (hconsistent : s.records.Consistent Prod.mk)
    (h : saveExecution record s = .ok ((), t)) :
    s.records.Changed Prod.mk record.isolationDomainId t.records := by
  obtain ⟨-, h⟩ := require_bind_eq_ok.mp h
  rw [read_bind] at h
  cases hfound : s.records.executions.lookup (record.key Prod.mk) with
  | some =>
    rw [hfound] at h
    obtain ⟨-, h⟩ := require_eq_ok.mp h
    cases h
    exact .same
  | none =>
    rw [hfound] at h
    obtain ⟨_, hplacement, h⟩ := demand_bind_eq_ok.mp h
    obtain ⟨⟨hoperation, -, -⟩, h⟩ := require_bind_eq_ok.mp h
    obtain ⟨htaken, h⟩ := require_bind_eq_ok.mp h
    cases modify_eq_ok.mp h
    refine .saved rfl (AList.lookup_eq_none.mp hfound) hplacement hoperation
      (hconsistent.alone hplacement hoperation (fun k e _ hplace => congrArg Prod.fst hplace)
        fun k e he hsame => htaken ⟨⟨k, e⟩, AList.mem_lookup_iff.mp he, hsame.1, .inl hsame.2⟩)

lemma changed_updateExecutionState {ref : ExecutionRef} {state : ExecutionState}
    (h : updateExecutionState ref state s = .ok ((), t)) :
    s.records.Changed Prod.mk ref.isolationDomainId t.records := by
  obtain ⟨-, h⟩ := require_bind_eq_ok.mp h
  rw [read_bind] at h
  obtain ⟨_, hfound, h⟩ := demand_bind_eq_ok.mp h
  obtain ⟨hleft, h⟩ := require_bind_eq_ok.mp h
  rw [modify_bind] at h
  by_cases hstate : state = .terminated
  · subst hstate
    rw [if_pos rfl] at h
    cases modify_eq_ok.mp h
    exact .terminated hfound
  · rw [if_neg hstate] at h
    cases pure_eq_ok.mp h
    exact .updated hfound ⟨fun h => absurd h hstate, fun hdone => absurd ⟨hdone, hstate⟩ hleft⟩

lemma changed_setGatewayState {domain gatewayId : String} {state : GatewayState}
    (h : setGatewayState domain gatewayId state s = .ok ((), t)) :
    s.records.Changed Prod.mk domain t.records := by
  obtain ⟨-, h⟩ := require_bind_eq_ok.mp h
  rw [read_bind] at h
  obtain ⟨-, h⟩ := require_bind_eq_ok.mp h
  rw [modify_bind] at h
  split at h
  · cases modify_eq_ok.mp h
    exact .lost _ _
  · cases pure_eq_ok.mp h
    exact .same

/-- **Every call is one of the changes.** -/
theorem changed {event : StoreCall} (hconsistent : s.records.Consistent Prod.mk)
    (h : call env event s = .ok ((), t)) :
    s.records.Changed Prod.mk event.domain t.records := by
  cases event with
  | registerGateway =>
    obtain ⟨_, hcall⟩ := forget_eq_ok.mp h
    rw [changed_registerGateway hcall]
    exact .same
  | reservePlacement =>
    obtain ⟨_, hcall⟩ := forget_eq_ok.mp h
    exact changed_reservePlacement hcall
  | saveExecution => exact changed_saveExecution hconsistent h
  | updateExecutionState => exact changed_updateExecutionState h
  | setGatewayState => exact changed_setGatewayState h

lemma step_changed {event : StoreCall} (hconsistent : s.records.Consistent Prod.mk)
    (h : step env s event = some t) : s.records.Changed Prod.mk event.domain t.records := by
  unfold step at h
  split at h
  · rename_i hcall
    cases h
    exact changed hconsistent hcall
  · cases h
    exact .same

end PostgresStore

/-! ### Whole runs -/

/-- Every execution that is terminated is still the same. -/
def Records.TerminatedKept {κ : Type} [DecidableEq κ] (r r' : Records κ) : Prop :=
  ∀ k e, r.executions.lookup k = some e → e.state = .terminated → r'.executions.lookup k = some e

lemma MemoryStateStore.kept_of_run {env : Environment} {s t : MemoryStateStore} {events : List StoreCall}
    (hs : s.Sound) (hcareful : Run.Along (MemoryStateStore.step env) Careful s events)
    (h : Run.run (MemoryStateStore.step env) s events = some t) :
    t.Sound ∧ s.records.TerminatedKept t.records := by
  refine Run.run_invariant_along (P := fun t => t.Sound ∧ s.records.TerminatedKept t.records) ?_
    ⟨hs, fun _ _ he _ => he⟩ hcareful h
  rintro r event t ⟨hsound, hkept⟩ hevent hstep
  exact ⟨hsound.step hevent hstep, fun k e he hterminated =>
    (step_changed hsound hevent hstep).terminated_kept (hkept k e he hterminated) hterminated⟩

lemma PostgresStore.kept_of_run {env : Environment} {s t : PostgresStore} {events : List StoreCall}
    (hs : s.records.Consistent Prod.mk)
    (h : Run.run (PostgresStore.step env) s events = some t) :
    t.records.Consistent Prod.mk ∧ s.records.TerminatedKept t.records := by
  refine Run.run_invariant
    (P := fun t => t.records.Consistent Prod.mk ∧ s.records.TerminatedKept t.records) ?_
    ⟨hs, fun _ _ he _ => he⟩ h
  rintro r event t ⟨hconsistent, hkept⟩ hstep
  have hchanged := step_changed hconsistent hstep
  exact ⟨hchanged.consistent hconsistent, fun k e he hterminated =>
    hchanged.terminated_kept (hkept k e he hterminated) hterminated⟩

/-- **At most one execution for an operation and for a placement; no execution leaves its end; and a
placement is released exactly if its execution is terminated.**  In the store in memory, after every
sequence of careful calls; in PostgreSQL after every sequence of calls. -/
theorem stores_keep_executions (env : Environment) (before after : List StoreCall) :
    (∀ s t : MemoryStateStore,
      Run.Along (MemoryStateStore.step env) MemoryStateStore.Careful {} (before ++ after) →
      Run.run (MemoryStateStore.step env) {} before = some s →
      Run.run (MemoryStateStore.step env) s after = some t →
      t.records.Consistent scopedKey ∧ s.records.TerminatedKept t.records) ∧
    ∀ s t : PostgresStore,
      Run.run (PostgresStore.step env) {} before = some s →
      Run.run (PostgresStore.step env) s after = some t →
      t.records.Consistent Prod.mk ∧ s.records.TerminatedKept t.records := by
  refine ⟨fun s t hcareful hs ht => ?_, fun s t hs ht => ?_⟩
  · obtain ⟨hbefore, hafter⟩ := Run.Along.split hcareful hs
    have hsound := (MemoryStateStore.kept_of_run MemoryStateStore.sound_empty hbefore hs).1
    obtain ⟨htsound, hkept⟩ := MemoryStateStore.kept_of_run hsound hafter ht
    exact ⟨htsound.consistent, hkept⟩
  · have hconsistent := (PostgresStore.kept_of_run Records.consistent_empty hs).1
    exact PostgresStore.kept_of_run hconsistent ht

namespace Scenario

/-- Digests that tell the texts of the examples apart. -/
def stores : Environment where
  digestText seed := seed
  digest text := text
  schemaCompiles _ := true
  schemaAccepts _ _ := true

def gateway : GatewayRegistration :=
  ⟨"iso_1", "gtw_1", "https://gateway", "openshell", ["gpu"]⟩

def request : PlacementRequest :=
  ⟨"iso_1", "op_1", ["gpu"]⟩

/-- An execution of the operation, at its placement. -/
def execution (id sandbox : String) : ExecutionRecord :=
  ⟨"iso_1", id, "gtw_1", .ready, "plc_iso_1:op_1", "op_1", sandbox⟩

/-- The operation has an execution. -/
def saved : List StoreCall :=
  [.registerGateway gateway, .reservePlacement request, .saveExecution (execution "exe_1" "box-1")]

/-- The execution ends. -/
def ended : List StoreCall :=
  [.updateExecutionState ⟨"iso_1", "exe_1"⟩ .terminated]

/-- A second execution is saved for the operation before the first one ends. -/
def savedAgain : List StoreCall :=
  saved ++ .saveExecution (execution "exe_2" "box-2") :: ended

end Scenario

open Scenario in
/-- The store in memory keeps two executions of one operation at one placement, and the placement is released
while the second one is ready. -/
theorem second_execution_in_memory :
    ∃ t, Run.run (MemoryStateStore.step stores) {} savedAgain = some t ∧
      t.records.executions.lookup (scopedKey "iso_1" "exe_1") =
        some { execution "exe_1" "box-1" with state := .terminated } ∧
      t.records.executions.lookup (scopedKey "iso_1" "exe_2") = some (execution "exe_2" "box-2") ∧
      (t.records.placements.lookup (scopedKey "iso_1" "plc_iso_1:op_1")).map (·.state) =
        some .released := by
  decide +kernel

open Scenario in
/-- An operation whose only execution ends, in both stores. -/
theorem stores_keep_executions_ended :
    (∃ s t, Run.run (MemoryStateStore.step stores) {} saved = some s ∧
      Run.run (MemoryStateStore.step stores) s ended = some t ∧
      t.records.executions.lookup (scopedKey "iso_1" "exe_1") =
        some { execution "exe_1" "box-1" with state := .terminated } ∧
      t.records.Consistent scopedKey ∧ s.records.TerminatedKept t.records) ∧
    ∃ s t, Run.run (PostgresStore.step stores) {} saved = some s ∧
      Run.run (PostgresStore.step stores) s ended = some t ∧
      t.records.executions.lookup ("iso_1", "exe_1") =
        some { execution "exe_1" "box-1" with state := .terminated } ∧
      t.records.Consistent Prod.mk ∧ s.records.TerminatedKept t.records := by
  obtain ⟨s, hs, t, hst, hseen⟩ : ∃ s, Run.run (MemoryStateStore.step stores) {} saved = some s ∧
      ∃ t, Run.run (MemoryStateStore.step stores) s ended = some t ∧
      t.records.executions.lookup (scopedKey "iso_1" "exe_1") =
        some { execution "exe_1" "box-1" with state := .terminated } := by
    decide +kernel
  obtain ⟨s', hs', t', hst', hseen'⟩ : ∃ s, Run.run (PostgresStore.step stores) {} saved = some s ∧
      ∃ t, Run.run (PostgresStore.step stores) s ended = some t ∧
      t.records.executions.lookup ("iso_1", "exe_1") =
        some { execution "exe_1" "box-1" with state := .terminated } := by
    decide +kernel
  have hcareful : Run.Along (MemoryStateStore.step stores) MemoryStateStore.Careful {}
      (saved ++ ended) := by
    decide +kernel
  have hkept := stores_keep_executions stores saved ended
  exact ⟨⟨s, t, hs, hst, hseen, hkept.1 s t hcareful hs hst⟩,
    ⟨s', t', hs', hst', hseen', hkept.2 s' t' hs' hst'⟩⟩

end DataGround.Execution
