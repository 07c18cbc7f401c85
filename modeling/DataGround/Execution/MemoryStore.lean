import DataGround.Execution.Store
import DataGround.Library.Determining

/-!
# The store in memory

`MemoryStateStore` keeps its records in maps under texts: the isolation domain and the identifier with a zero
byte between them.  Every method holds the mutex from its first look at the maps to its end, so that
calls take place one after the other; one that returns an error has changed nothing.

`SaveExecution` looks for an execution with the same identifier, but not for another one of the same
operation, and a key tells its two parts apart only if the isolation domain has no zero byte.  Where the
callers take care of both (`Careful`), every call is one of the changes that keep the records consistent
(`MemoryStateStore.changed`).
-/

namespace DataGround.Execution

open Transaction

structure MemoryGateway where
  record : GatewayRecord
  reserved : ℕ := 0
  deriving DecidableEq

structure MemoryStateStore where
  gateways : Table String MemoryGateway := ∅
  records : Records String := {}

def scopedKey (isolationDomainId id : String) : String :=
  isolationDomainId ++ "\x00" ++ id

namespace MemoryStateStore

/-- A method of the store. -/
abbrev Method := Tx MemoryStateStore StoreError

def registerGateway (registration : GatewayRegistration) : Method GatewayRecord := do
  require (registration.isComplete = true)
    (.refused "isolation domain, gateway id, driver, and endpoint are required")
  let capabilities ← ofExcept (normalizeCapabilities registration.capabilities)
  let s ← read
  let key := scopedKey registration.isolationDomainId registration.id
  match s.gateways.lookup key with
  | some existing =>
    require (existing.record.isSame registration capabilities = true) .stateConflict
    pure existing.record
  | none =>
    let record := registration.record capabilities
    modify fun s => { s with gateways := s.gateways.insert key { record := record } }
    pure record

/-- The gateways that a request may be placed at. -/
def eligible (s : MemoryStateStore) (isolationDomainId : String) (capabilities : List String) :
    List ((_ : String) × MemoryGateway) :=
  s.gateways.entries.filter fun entry =>
    entry.2.record.isolationDomainId = isolationDomainId && entry.2.record.state = .active &&
      containsCapabilities entry.2.record.capabilities capabilities

/-- The order of `sort.Slice`: by the number of reservations, and then by the identifier. -/
def before (one other : (_ : String) × MemoryGateway) : Prop :=
  one.2.reserved < other.2.reserved ∨
    one.2.reserved = other.2.reserved ∧ one.2.record.id ≤ other.2.record.id

instance : DecidableRel before :=
  fun one other => inferInstanceAs (Decidable (one.2.reserved < other.2.reserved ∨
    one.2.reserved = other.2.reserved ∧ one.2.record.id ≤ other.2.record.id))

def reservePlacement (env : Environment) (request : PlacementRequest) : Method Placement := do
  require (request.isolationDomainId ≠ "" ∧ request.operationId ≠ "")
    (.refused "isolation domain and operation are required")
  let capabilities ← ofExcept (normalizeCapabilities request.requiredCapabilities)
  let s ← read
  let key := scopedKey request.isolationDomainId (request.placement env "").id
  match s.records.placements.lookup key with
  | some record =>
    require (record.operationId = request.operationId ∧ record.requiredCapabilities = capabilities)
      .stateConflict
    pure record.placement
  | none =>
    let selected ← demand
      ((s.eligible request.isolationDomainId capabilities).insertionSort before).head? .noGateway
    let placement := request.placement env selected.2.record.id
    let gateway : MemoryGateway := { selected.2 with reserved := selected.2.reserved + 1 }
    let record : PlacementRecord := ⟨placement, request.operationId, capabilities, .reserved⟩
    modify fun s => ⟨s.gateways.insert selected.1 gateway, s.records.reserve key record⟩
    pure placement

def saveExecution (record : ExecutionRecord) : Method Unit := do
  require (record.isComplete = true)
    (.refused "complete execution identity and valid state are required")
  let s ← read
  match s.records.executions.lookup (record.key scopedKey) with
  | some existing => require (sameExecutionIdentity existing record = true) .stateConflict
  | none =>
    let placement ← demand (s.records.placements.lookup (record.place scopedKey)) .placementMissing
    require (placement.placement.gatewayId = record.gatewayId ∧
      placement.operationId = record.operationId ∧ placement.state.isHeld = true) .stateConflict
    modify fun s => { s with records := s.records.save scopedKey record }

/-- A reservation of a gateway is given back. -/
def giveBack (s : MemoryStateStore) (key : String) : MemoryStateStore :=
  { s with gateways := s.gateways.updateAt key fun gateway =>
    { gateway with reserved := gateway.reserved - 1 } }

/-- `UpdateExecutionState`; the state is not checked. -/
def updateExecutionState (ref : ExecutionRef) (state : ExecutionState) : Method Unit := do
  let s ← read
  let key := scopedKey ref.isolationDomainId ref.id
  let record ← demand (s.records.executions.lookup key) .executionMissing
  require (¬(record.state = .terminated ∧ state ≠ .terminated)) .stateConflict
  if state = .terminated ∧ record.state ≠ .terminated then
    let placementKey := scopedKey ref.isolationDomainId record.placementId
    match s.records.placements.lookup placementKey with
    | some placement =>
      modify fun s => giveBack
        { s with records := (s.records.setState key state).release placementKey }
        (scopedKey ref.isolationDomainId placement.placement.gatewayId)
    | none => modify fun s => { s with records := s.records.setState key state }
  else modify fun s => { s with records := s.records.setState key state }

/-- What is placed at a gateway is lost with it. -/
def loseGateway (s : MemoryStateStore) (isolationDomainId gatewayId : String) : MemoryStateStore :=
  let lostPlacement : PlacementRecord → Bool := fun record =>
    record.placement.isolationDomainId = isolationDomainId && record.placement.gatewayId = gatewayId
  let lostExecution : ExecutionRecord → Bool := fun record =>
    record.isolationDomainId = isolationDomainId && record.gatewayId = gatewayId
  { s with records := s.records.lose lostPlacement lostExecution }

def setGatewayState (isolationDomainId gatewayId : String) (state : GatewayState) : Method Unit := do
  require (validGatewayState state = true) (.refused "invalid gateway state")
  let s ← read
  let key := scopedKey isolationDomainId gatewayId
  let entry ← demand (s.gateways.lookup key) .noGateway
  let changed : MemoryGateway := { entry with record := { entry.record with state := state } }
  modify fun s => { s with gateways := s.gateways.insert key changed }
  if state = .lost then modify fun s => s.loseGateway isolationDomainId gatewayId else pure ()

/-- A call, without its result. -/
def call (env : Environment) : StoreCall → Method Unit
  | .registerGateway registration => do
    let _ ← registerGateway registration
    pure ()
  | .reservePlacement request => do
    let _ ← reservePlacement env request
    pure ()
  | .saveExecution record => saveExecution record
  | .updateExecutionState ref state => updateExecutionState ref state
  | .setGatewayState isolationDomainId gatewayId state =>
    setGatewayState isolationDomainId gatewayId state

/-- One call; one that fails changes nothing. -/
def step (env : Environment) (s : MemoryStateStore) (event : StoreCall) : Option MemoryStateStore :=
  match call env event s with
  | .ok (_, t) => some t
  | .error _ => some s

/-! ### What a call does to the records -/

/-- There is no zero byte in a text. -/
def Plain (text : String) : Prop :=
  '\x00' ∉ text.toList

instance (text : String) : Decidable (Plain text) :=
  inferInstanceAs (Decidable ('\x00' ∉ text.toList))

/-- An execution is saved only if its operation has no other one. -/
def SavesAlone (s : MemoryStateStore) : StoreCall → Prop
  | .saveExecution record =>
    record.key scopedKey ∈ s.records.executions ∨
      ∀ entry ∈ s.records.executions.entries,
        ¬(entry.2.isolationDomainId = record.isolationDomainId ∧
          entry.2.operationId = record.operationId)
  | _ => True

instance (s : MemoryStateStore) : (event : StoreCall) → Decidable (s.SavesAlone event)
  | .saveExecution _ => inferInstanceAs (Decidable (_ ∨ ∀ entry ∈ _, _))
  | .registerGateway _ | .reservePlacement _ | .updateExecutionState _ _ | .setGatewayState _ _ _ =>
    isTrue trivial

/-- The isolation domain has no zero byte, and no operation gets a second execution. -/
def Careful (s : MemoryStateStore) (event : StoreCall) : Prop :=
  Plain event.domain ∧ s.SavesAlone event

instance (s : MemoryStateStore) (event : StoreCall) : Decidable (s.Careful event) :=
  inferInstanceAs (Decidable (_ ∧ _))

/-- A key has the two texts it was made of, if the first has no zero byte. -/
lemma scopedKey_inj {d d' i i' : String} (hd : Plain d) (hd' : Plain d')
    (h : scopedKey d i = scopedKey d' i') : d = d' ∧ i = i' := by
  have hlist : d.toList ++ '\x00' :: i.toList = d'.toList ++ '\x00' :: i'.toList := by
    simpa [scopedKey] using congrArg String.toList h
  obtain ⟨hdomain, hid⟩ := Determines.append_stop_inj hd hd' hlist
  exact ⟨String.toList_injective hdomain, String.toList_injective hid⟩

/-- What is kept: the records are consistent, and the executions are of domains without zero bytes. -/
structure Sound (s : MemoryStateStore) : Prop where
  consistent : s.records.Consistent scopedKey
  plain : ∀ k e, s.records.executions.lookup k = some e → Plain e.isolationDomainId

variable {env : Environment} {s t : MemoryStateStore}

lemma changed_registerGateway {registration : GatewayRegistration} {record : GatewayRecord}
    (h : registerGateway registration s = .ok (record, t)) : t.records = s.records := by
  obtain ⟨-, h⟩ := require_bind_eq_ok.mp h
  obtain ⟨_, -, h⟩ := ofExcept_bind_eq_ok.mp h
  rw [read_bind] at h
  dsimp only at h
  cases hfound : s.gateways.lookup (scopedKey registration.isolationDomainId registration.id) with
  | some =>
    rw [hfound] at h
    obtain ⟨-, h⟩ := require_bind_eq_ok.mp h
    cases pure_eq_ok.mp h
    rfl
  | none =>
    rw [hfound] at h
    cases h
    rfl

lemma changed_reservePlacement {request : PlacementRequest} {placement : Placement}
    (h : reservePlacement env request s = .ok (placement, t)) :
    s.records.Changed scopedKey request.isolationDomainId t.records := by
  obtain ⟨-, h⟩ := require_bind_eq_ok.mp h
  obtain ⟨_, -, h⟩ := ofExcept_bind_eq_ok.mp h
  rw [read_bind] at h
  dsimp only at h
  cases hfound : s.records.placements.lookup
      (scopedKey request.isolationDomainId (request.placement env "").id) with
  | some record =>
    rw [hfound] at h
    obtain ⟨-, h⟩ := require_bind_eq_ok.mp h
    cases pure_eq_ok.mp h
    exact .same
  | none =>
    rw [hfound] at h
    obtain ⟨_, -, h⟩ := demand_bind_eq_ok.mp h
    cases h
    exact .placed (AList.lookup_eq_none.mp hfound) rfl

lemma changed_saveExecution {record : ExecutionRecord} (hsound : s.Sound)
    (hcareful : s.Careful (.saveExecution record)) (h : saveExecution record s = .ok ((), t)) :
    s.records.Changed scopedKey record.isolationDomainId t.records := by
  obtain ⟨-, h⟩ := require_bind_eq_ok.mp h
  rw [read_bind] at h
  cases hfound : s.records.executions.lookup (record.key scopedKey) with
  | some =>
    rw [hfound] at h
    obtain ⟨-, h⟩ := require_eq_ok.mp h
    cases h
    exact .same
  | none =>
    rw [hfound] at h
    obtain ⟨_, hplacement, h⟩ := demand_bind_eq_ok.mp h
    obtain ⟨⟨-, hoperation, -⟩, h⟩ := require_bind_eq_ok.mp h
    cases modify_eq_ok.mp h
    have hfresh : record.key scopedKey ∉ s.records.executions := AList.lookup_eq_none.mp hfound
    have hunique := hcareful.2.resolve_left hfresh
    refine .saved rfl hfresh hplacement hoperation (hsound.consistent.alone hplacement hoperation
      (fun k e he hplace => ?_) fun k e he => hunique ⟨k, e⟩ (AList.mem_lookup_iff.mp he))
    exact (scopedKey_inj (hsound.plain k e he) hcareful.1 hplace).1

lemma changed_updateExecutionState {ref : ExecutionRef} {state : ExecutionState} (hsound : s.Sound)
    (hplain : Plain ref.isolationDomainId) (h : updateExecutionState ref state s = .ok ((), t)) :
    s.records.Changed scopedKey ref.isolationDomainId t.records := by
  unfold updateExecutionState at h
  rw [read_bind] at h
  obtain ⟨record, hfound, h⟩ := demand_bind_eq_ok.mp h
  obtain ⟨hleft, h⟩ := require_bind_eq_ok.mp h
  -- The execution is of the isolation domain that the reference names.
  have hdomain : ref.isolationDomainId = record.isolationDomainId :=
    (scopedKey_inj hplain (hsound.plain _ record hfound) (hsound.consistent.keyed _ record hfound)).1
  obtain ⟨_, hplacement, -⟩ := hsound.consistent.placed _ record hfound
  rw [ExecutionRecord.place, ← hdomain] at hplacement
  by_cases hends : state = .terminated ∧ record.state ≠ .terminated
  · obtain ⟨rfl, hlive⟩ := hends
    rw [if_pos ⟨rfl, hlive⟩, hplacement] at h
    cases modify_eq_ok.mp h
    have hchanged : s.records.Changed scopedKey ref.isolationDomainId _ := .terminated hfound
    rw [ExecutionRecord.place, ← hdomain] at hchanged
    exact hchanged
  · rw [if_neg hends] at h
    cases modify_eq_ok.mp h
    exact .updated hfound ⟨fun hstate => by_contra fun hlive => hends ⟨hstate, hlive⟩,
      fun hdone => by_contra fun hstate => hleft ⟨hdone, hstate⟩⟩

lemma changed_setGatewayState {domain gatewayId : String} {state : GatewayState}
    (h : setGatewayState domain gatewayId state s = .ok ((), t)) :
    s.records.Changed scopedKey domain t.records := by
  obtain ⟨-, h⟩ := require_bind_eq_ok.mp h
  rw [read_bind] at h
  obtain ⟨_, -, h⟩ := demand_bind_eq_ok.mp h
  rw [modify_bind] at h
  split at h
  · cases modify_eq_ok.mp h
    exact .lost _ _
  · cases pure_eq_ok.mp h
    exact .same

variable {event : StoreCall}

/-- **A careful call is one of the changes.** -/
theorem changed (hsound : s.Sound) (hcareful : s.Careful event) (h : call env event s = .ok ((), t)) :
    s.records.Changed scopedKey event.domain t.records := by
  cases event with
  | registerGateway =>
    obtain ⟨_, hcall⟩ := forget_eq_ok.mp h
    rw [changed_registerGateway hcall]
    exact .same
  | reservePlacement =>
    obtain ⟨_, hcall⟩ := forget_eq_ok.mp h
    exact changed_reservePlacement hcall
  | saveExecution => exact changed_saveExecution hsound hcareful h
  | updateExecutionState => exact changed_updateExecutionState hsound hcareful.1 h
  | setGatewayState => exact changed_setGatewayState h

lemma step_changed (hsound : s.Sound) (hcareful : s.Careful event) (h : step env s event = some t) :
    s.records.Changed scopedKey event.domain t.records := by
  unfold step at h
  split at h
  · rename_i hcall
    cases h
    exact changed hsound hcareful hcall
  · cases h
    exact .same

lemma Sound.step (hsound : s.Sound) (hcareful : s.Careful event)
    (h : MemoryStateStore.step env s event = some t) : t.Sound :=
  have hchanged := step_changed hsound hcareful h
  ⟨hchanged.consistent hsound.consistent, hchanged.domains hcareful.1 hsound.plain⟩

lemma sound_empty : ({} : MemoryStateStore).Sound :=
  ⟨Records.consistent_empty, fun _ _ h => (nomatch h)⟩

end MemoryStateStore

end DataGround.Execution
