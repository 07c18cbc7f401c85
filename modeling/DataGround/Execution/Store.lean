import DataGround.Base.Domain
import DataGround.Library.Canonical
import DataGround.Library.Run
import DataGround.Library.Table
import DataGround.Library.Transaction
import Mathlib.Data.String.Basic

/-!
# Gateways, placements and executions

A gateway runs executions; a placement reserves a gateway for an operation, and an execution is what runs
there.  Two stores keep these records, one in memory and one in PostgreSQL, and both are written
separately.  Here is what they share: the records, and what may happen to the records of placements and
executions, whatever keys they are kept under (`Changed`).

`Consistent` is what the records owe each other: at most one execution for an operation and for a
placement, and a placement that is released exactly if its execution is terminated.  Everything that may
happen keeps it (`Changed.consistent`), and a terminated execution stays as it is
(`Changed.terminated_kept`).
-/

namespace DataGround.Execution

/-! ### Records -/

/-- `GatewayState`; any other text is not valid. -/
inductive GatewayState where
  | active
  | draining
  | unavailable
  | lost
  | other (text : String)
  deriving DecidableEq

def validGatewayState : GatewayState → Bool
  | .other _ => false
  | _ => true

/-- The states of an execution; any other text is not valid. -/
inductive ExecutionState where
  | provisioning
  | ready
  | running
  | waiting
  | deleting
  | terminated
  | error
  | unknown
  | other (text : String)
  deriving DecidableEq

/-- `validExecutionState` and `validMemoryExecutionState`. -/
def validExecutionState : ExecutionState → Bool
  | .other _ => false
  | _ => true

/-- The states of a placement. -/
inductive PlacementState where
  | reserved
  | active
  | released
  | lost
  deriving DecidableEq

/-- A placement that is in use. -/
def PlacementState.isHeld (state : PlacementState) : Bool :=
  state = .reserved || state = .active

structure GatewayRegistration where
  (isolationDomainId id endpoint driver : String)
  capabilities : List String
  deriving DecidableEq

structure GatewayRecord where
  (isolationDomainId id driver : String)
  state : GatewayState
  capabilities : List String
  endpoint : String
  deriving DecidableEq

structure PlacementRequest where
  (isolationDomainId operationId : String)
  requiredCapabilities : List String
  deriving DecidableEq

structure Placement where
  (isolationDomainId id gatewayId : String)
  deriving DecidableEq

/-- What is kept about a placement, `memoryPlacement` and a row of `execution_placements`. -/
structure PlacementRecord where
  placement : Placement
  operationId : String
  requiredCapabilities : List String
  state : PlacementState
  deriving DecidableEq

structure ExecutionRecord where
  (isolationDomainId id gatewayId : String)
  state : ExecutionState
  (placementId operationId sandboxName : String)
  deriving DecidableEq

structure ExecutionRef where
  (isolationDomainId id : String)
  deriving DecidableEq

/-- The errors of a store. -/
inductive StoreError where
  | noGateway
  | placementMissing
  | executionMissing
  | stateConflict
  | persistence
  /-- Any other refusal, with its text. -/
  | refused (message : String)
  deriving DecidableEq

/-! ### What both stores check -/

def normalizeCapabilities (capabilities : List String) : Except StoreError (List String) :=
  if "" ∈ capabilities then .error (.refused "capability names must not be empty")
  else .ok capabilities.canonical

/-- `containsCapabilities`, and `@>` of arrays. -/
def containsCapabilities (have_ required : List String) : Bool :=
  required.all fun item => item ∈ have_

/-- `sameMemoryExecutionIdentity` and `sameExecutionIdentity`. -/
def sameExecutionIdentity (left right : ExecutionRecord) : Bool :=
  left.isolationDomainId = right.isolationDomainId && left.id = right.id &&
    left.gatewayId = right.gatewayId && left.placementId = right.placementId &&
    left.operationId = right.operationId && left.sandboxName = right.sandboxName

/-- The fields that `RegisterGateway` requires. -/
def GatewayRegistration.isComplete (registration : GatewayRegistration) : Bool :=
  registration.isolationDomainId ≠ "" && registration.id ≠ "" && registration.driver ≠ "" &&
    registration.endpoint ≠ ""

/-- The fields that `SaveExecution` requires. -/
def ExecutionRecord.isComplete (record : ExecutionRecord) : Bool :=
  record.isolationDomainId ≠ "" && record.id ≠ "" && record.placementId ≠ "" &&
    record.operationId ≠ "" && record.sandboxName ≠ "" && validExecutionState record.state

/-- A gateway record as it is registered. -/
def GatewayRegistration.record (registration : GatewayRegistration) (capabilities : List String) :
    GatewayRecord where
  isolationDomainId := registration.isolationDomainId
  id := registration.id
  driver := registration.driver
  state := .active
  capabilities := capabilities
  endpoint := registration.endpoint

/-- A record that was registered in the same way. -/
def GatewayRecord.isSame (existing : GatewayRecord) (registration : GatewayRegistration)
    (capabilities : List String) : Bool :=
  existing.endpoint = registration.endpoint && existing.driver = registration.driver &&
    existing.capabilities = capabilities

/-- The placement of a request, at a gateway. -/
def PlacementRequest.placement (env : Environment) (request : PlacementRequest) (gatewayId : String) :
    Placement where
  isolationDomainId := request.isolationDomainId
  id := derived env "plc" (request.isolationDomainId ++ ":" ++ request.operationId)
  gatewayId := gatewayId

/-- The state of the placement of an execution that is saved. -/
def placementStateOf (state : ExecutionState) : PlacementState :=
  if state = .terminated then .released else .active

/-- The calls of a store that change something. -/
inductive StoreCall where
  | registerGateway (registration : GatewayRegistration)
  | reservePlacement (request : PlacementRequest)
  | saveExecution (record : ExecutionRecord)
  | updateExecutionState (ref : ExecutionRef) (state : ExecutionState)
  | setGatewayState (isolationDomainId gatewayId : String) (state : GatewayState)
  deriving DecidableEq

/-! ### Placements and executions -/

/-- The records of placements and executions, under keys of any type. -/
structure Records (κ : Type) where
  placements : Table κ PlacementRecord := ∅
  executions : Table κ ExecutionRecord := ∅

/-- The key of the placement of an execution, in a store that makes its keys by `scope`. -/
def ExecutionRecord.place {κ : Type} (scope : String → String → κ) (record : ExecutionRecord) : κ :=
  scope record.isolationDomainId record.placementId

/-- The key of an execution. -/
def ExecutionRecord.key {κ : Type} (scope : String → String → κ) (record : ExecutionRecord) : κ :=
  scope record.isolationDomainId record.id

/-- The isolation domain of a call. -/
def StoreCall.domain : StoreCall → String
  | .registerGateway registration => registration.isolationDomainId
  | .reservePlacement request => request.isolationDomainId
  | .saveExecution record => record.isolationDomainId
  | .updateExecutionState ref _ => ref.isolationDomainId
  | .setGatewayState isolationDomainId _ _ => isolationDomainId

variable {κ : Type} [DecidableEq κ] (scope : String → String → κ)

namespace Records

/-- A placement is added. -/
def reserve (r : Records κ) (key : κ) (placement : PlacementRecord) : Records κ :=
  { r with placements := r.placements.insert key placement }

/-- An execution is saved. -/
def save (r : Records κ) (record : ExecutionRecord) : Records κ where
  placements := r.placements.updateAt (record.place scope) fun placement =>
    { placement with state := placementStateOf record.state }
  executions := r.executions.insert (record.key scope) record

/-- An execution has another state. -/
def setState (r : Records κ) (key : κ) (state : ExecutionState) : Records κ :=
  { r with executions := r.executions.updateAt key fun record => { record with state := state } }

/-- A placement is released. -/
def release (r : Records κ) (key : κ) : Records κ :=
  { r with placements := r.placements.updateAt key fun placement =>
    { placement with state := .released } }

/-- The gateway of some placements and executions is lost. -/
def lose (r : Records κ) (lostPlacement : PlacementRecord → Bool)
    (lostExecution : ExecutionRecord → Bool) : Records κ where
  placements := r.placements.updateWhere
    (fun _ placement => lostPlacement placement && placement.state.isHeld)
    fun placement => { placement with state := .lost }
  executions := r.executions.updateWhere
    (fun _ record => lostExecution record && !(record.state = .terminated || record.state = .error))
    fun record => { record with state := .unknown }

/-- **What the records owe each other.** -/
structure Consistent (r : Records κ) : Prop where
  keyed : ∀ k e, r.executions.lookup k = some e → k = e.key scope
  operation : ∀ k k' e e', r.executions.lookup k = some e → r.executions.lookup k' = some e' →
    e.isolationDomainId = e'.isolationDomainId → e.operationId = e'.operationId → k = k'
  placement : ∀ k k' e e', r.executions.lookup k = some e → r.executions.lookup k' = some e' →
    e.place scope = e'.place scope → k = k'
  placed : ∀ k e, r.executions.lookup k = some e →
    ∃ p, r.placements.lookup (e.place scope) = some p ∧ p.operationId = e.operationId
  released : ∀ key p, r.placements.lookup key = some p → (p.state = .released ↔
    ∃ k e, r.executions.lookup k = some e ∧ e.place scope = key ∧ e.state = .terminated)

/-- **What a call for an isolation domain may do to the records.** -/
inductive Changed (domain : String) (r : Records κ) : Records κ → Prop
  | same : Changed domain r r
  | placed {key : κ} {placement : PlacementRecord} (fresh : key ∉ r.placements)
      (reserved : placement.state = .reserved) :
      Changed domain r (r.reserve key placement)
  | saved {record : ExecutionRecord} {placement : PlacementRecord}
      (within : record.isolationDomainId = domain) (fresh : record.key scope ∉ r.executions)
      (found : r.placements.lookup (record.place scope) = some placement)
      (operation : placement.operationId = record.operationId)
      (alone : ∀ k e, r.executions.lookup k = some e → e.place scope ≠ record.place scope ∧
        ¬(e.isolationDomainId = record.isolationDomainId ∧ e.operationId = record.operationId)) :
      Changed domain r (r.save scope record)
  | updated {key : κ} {record : ExecutionRecord} {state : ExecutionState}
      (found : r.executions.lookup key = some record)
      (same : state = .terminated ↔ record.state = .terminated) : Changed domain r (r.setState key state)
  | terminated {key : κ} {record : ExecutionRecord}
      (found : r.executions.lookup key = some record) :
      Changed domain r ((r.setState key .terminated).release (record.place scope))
  | lost (lostPlacement : PlacementRecord → Bool) (lostExecution : ExecutionRecord → Bool) :
      Changed domain r (r.lose lostPlacement lostExecution)

/-! ### What changes keep -/

variable {scope} {r r' : Records κ} {key : κ}

/-- The executions are the same up to their states, and no placement is gone. -/
structure SameBut (r r' : Records κ) : Prop where
  executions : ∀ k e', r'.executions.lookup k = some e' →
    ∃ e, r.executions.lookup k = some e ∧ e' = { e with state := e'.state }
  placements : ∀ k p, r.placements.lookup k = some p →
    ∃ p', r'.placements.lookup k = some p' ∧ p'.operationId = p.operationId

/-- What does not depend on states is kept. -/
lemma Consistent.sameBut (h : r.Consistent scope) (hsame : SameBut r r')
    (hreleased : ∀ key p, r'.placements.lookup key = some p → (p.state = .released ↔
      ∃ k e, r'.executions.lookup k = some e ∧ e.place scope = key ∧ e.state = .terminated)) :
    r'.Consistent scope where
  keyed k e he := by
    obtain ⟨old, hold, heq⟩ := hsame.executions k e he
    rw [heq]
    exact h.keyed k old hold
  operation k k' e e' he he' hdomain hoperation := by
    obtain ⟨old, hold, heq⟩ := hsame.executions k e he
    obtain ⟨old', hold', heq'⟩ := hsame.executions k' e' he'
    rw [heq, heq'] at hdomain hoperation
    exact h.operation k k' old old' hold hold' hdomain hoperation
  placement k k' e e' he he' hplace := by
    obtain ⟨old, hold, heq⟩ := hsame.executions k e he
    obtain ⟨old', hold', heq'⟩ := hsame.executions k' e' he'
    rw [heq, heq'] at hplace
    exact h.placement k k' old old' hold hold' hplace
  placed k e he := by
    obtain ⟨old, hold, heq⟩ := hsame.executions k e he
    obtain ⟨p, hp, hoperation⟩ := h.placed k old hold
    obtain ⟨p', hp', hsame'⟩ := hsame.placements _ p hp
    rw [heq]
    exact ⟨p', hp', hsame'.trans hoperation⟩
  released := hreleased

variable {state : ExecutionState} {e' : ExecutionRecord} {k : κ}

lemma lookup_setState (h : (r.setState key state).executions.lookup k = some e') :
    ∃ e, r.executions.lookup k = some e ∧
      (k = key ∧ e' = { e with state := state } ∨ k ≠ key ∧ e' = e) := by
  unfold setState at h
  by_cases hk : k = key
  · subst hk
    rw [Table.lookup_updateAt_self] at h
    obtain ⟨e, he, heq⟩ := Option.map_eq_some_iff.mp h
    exact ⟨e, he, .inl ⟨rfl, heq.symm⟩⟩
  · rw [Table.lookup_updateAt_ne _ _ hk] at h
    exact ⟨e', h, .inr ⟨hk, rfl⟩⟩

lemma lookup_setState_self {e : ExecutionRecord} (h : r.executions.lookup key = some e) :
    (r.setState key state).executions.lookup key = some { e with state := state } := by
  rw [setState, Table.lookup_updateAt_self, h]
  rfl

lemma lookup_setState_ne (h : k ≠ key) :
    (r.setState key state).executions.lookup k = r.executions.lookup k :=
  Table.lookup_updateAt_ne _ _ h

lemma executions_setState (h : (r.setState key state).executions.lookup k = some e') :
    ∃ e, r.executions.lookup k = some e ∧ e' = { e with state := e'.state } := by
  obtain ⟨e, he, ⟨-, rfl⟩ | ⟨-, rfl⟩⟩ := lookup_setState h
  · exact ⟨e, he, rfl⟩
  · exact ⟨e', he, rfl⟩

variable {placement : PlacementRecord}

lemma consistent_placed (h : r.Consistent scope) (hfresh : key ∉ r.placements)
    (hreserved : placement.state = .reserved) :
    (r.reserve key placement).Consistent scope := by
  refine h.sameBut ⟨fun k e he => ⟨e, he, rfl⟩, fun k p hp =>
    ⟨p, Table.lookup_insert_of_fresh hfresh hp, rfl⟩⟩ fun k p hp => ?_
  rcases Table.lookup_insert_cases hp with ⟨rfl, rfl⟩ | hp
  · -- Nothing runs at a placement that was not there.
    refine ⟨fun hstate => (nomatch hreserved.symm.trans hstate), ?_⟩
    rintro ⟨k', e, he, rfl, -⟩
    obtain ⟨p, hp, -⟩ := h.placed k' e he
    exact absurd (Table.mem_of_lookup hp) hfresh
  · exact h.released k p hp

variable {record : ExecutionRecord}

lemma consistent_updated (h : r.Consistent scope) (hfound : r.executions.lookup key = some record)
    (hsame : state = .terminated ↔ record.state = .terminated) :
    (r.setState key state).Consistent scope := by
  refine h.sameBut ⟨fun k e' he' => executions_setState he', fun k p hp => ⟨p, hp, rfl⟩⟩
    fun k p hp => ?_
  rw [h.released k p hp]
  constructor
  · rintro ⟨k', e, he, hplace, hterminated⟩
    by_cases hk : k' = key
    · subst hk
      rw [hfound] at he
      cases he
      exact ⟨k', { record with state := state }, lookup_setState_self hfound, hplace,
        hsame.mpr hterminated⟩
    · exact ⟨k', e, (lookup_setState_ne hk).trans he, hplace, hterminated⟩
  · rintro ⟨k', e', he', hplace, hterminated⟩
    obtain ⟨_, he, ⟨rfl, rfl⟩ | ⟨-, rfl⟩⟩ := lookup_setState he'
    · rw [hfound] at he
      cases he
      exact ⟨k', record, hfound, hplace, hsame.mp hterminated⟩
    · exact ⟨k', e', he, hplace, hterminated⟩

lemma lookup_release {p' : PlacementRecord} (h : (r.release key).placements.lookup k = some p') :
    ∃ p, r.placements.lookup k = some p ∧ p'.operationId = p.operationId ∧
      (k = key ∧ p'.state = .released ∨ k ≠ key ∧ p' = p) := by
  unfold release at h
  by_cases hk : k = key
  · subst hk
    rw [Table.lookup_updateAt_self] at h
    obtain ⟨p, hp, rfl⟩ := Option.map_eq_some_iff.mp h
    exact ⟨p, hp, rfl, .inl ⟨rfl, rfl⟩⟩
  · rw [Table.lookup_updateAt_ne _ _ hk] at h
    exact ⟨p', h, rfl, .inr ⟨hk, rfl⟩⟩

/-- No placement is gone when one is updated. -/
lemma lookup_updated (key : κ) (set : PlacementRecord → PlacementRecord)
    {placements : Table κ PlacementRecord} (hset : ∀ p, (set p).operationId = p.operationId)
    {p : PlacementRecord} (h : placements.lookup k = some p) :
    ∃ p', (placements.updateAt key set).lookup k = some p' ∧ p'.operationId = p.operationId := by
  by_cases hk : k = key
  · subst hk
    exact ⟨set p, by rw [Table.lookup_updateAt_self, h]; rfl, hset p⟩
  · exact ⟨p, by rw [Table.lookup_updateAt_ne _ _ hk, h], rfl⟩

lemma consistent_terminated (h : r.Consistent scope) (hfound : r.executions.lookup key = some record) :
    ((r.setState key .terminated).release (record.place scope)).Consistent scope := by
  refine h.sameBut ⟨fun k e' he' => executions_setState he',
    fun k p hp => lookup_updated (record.place scope) (fun p => { p with state := .released })
      (fun _ => rfl) hp⟩ fun k p' hp' => ?_
  obtain ⟨_, hp, -, ⟨rfl, hstate⟩ | ⟨hk, rfl⟩⟩ := lookup_release hp'
  · exact ⟨fun _ => ⟨key, { record with state := .terminated }, lookup_setState_self hfound, rfl, rfl⟩,
      fun _ => hstate⟩
  · have hp : r.placements.lookup k = some p' := hp
    rw [h.released k p' hp]
    constructor
    · rintro ⟨k', e, he, hplace, hterminated⟩
      have hne : k' ≠ key := by
        rintro rfl
        rw [hfound] at he
        cases he
        exact hk hplace.symm
      exact ⟨k', e, (lookup_setState_ne hne).trans he, hplace, hterminated⟩
    · rintro ⟨k', e', he', hplace, hterminated⟩
      obtain ⟨_, he, ⟨rfl, rfl⟩ | ⟨-, rfl⟩⟩ := lookup_setState he'
      · rw [hfound] at he
        cases he
        exact absurd hplace.symm hk
      · exact ⟨k', e', he, hplace, hterminated⟩

lemma executions_lose {lostPlacement : PlacementRecord → Bool}
    {lostExecution : ExecutionRecord → Bool}
    (h : (r.lose lostPlacement lostExecution).executions.lookup k = some e') :
    ∃ e, r.executions.lookup k = some e ∧ e' = { e with state := e'.state } := by
  rw [lose, Table.lookup_updateWhere] at h
  obtain ⟨e, he, heq⟩ := Option.map_eq_some_iff.mp h
  refine ⟨e, he, ?_⟩
  split at heq <;> subst heq <;> rfl

lemma consistent_lost (h : r.Consistent scope) (lostPlacement : PlacementRecord → Bool)
    (lostExecution : ExecutionRecord → Bool) :
    (r.lose lostPlacement lostExecution).Consistent scope := by
  have hexecutions : ∀ k e', (r.lose lostPlacement lostExecution).executions.lookup k = some e' →
      e'.state = .terminated → r.executions.lookup k = some e' := by
    intro k e' he' hstate
    rw [lose, Table.lookup_updateWhere] at he'
    obtain ⟨e, he, heq⟩ := Option.map_eq_some_iff.mp he'
    split at heq
    · subst heq
      exact (nomatch hstate)
    · subst heq
      exact he
  have hplacements : ∀ k p, r.placements.lookup k = some p →
      ∃ p', (r.lose lostPlacement lostExecution).placements.lookup k = some p' ∧
        p'.operationId = p.operationId ∧ (p'.state = .released ↔ p.state = .released) := by
    intro k p hp
    rw [lose, Table.lookup_updateWhere, hp, Option.map_some]
    split
    · rename_i hlost
      refine ⟨_, rfl, rfl, fun hstate => (nomatch hstate), fun hstate => ?_⟩
      rw [hstate] at hlost
      simp [PlacementState.isHeld] at hlost
    · exact ⟨p, rfl, rfl, Iff.rfl⟩
  refine h.sameBut ⟨fun k e' he' => executions_lose he', fun k p hp => ?_⟩ fun k p' hp' => ?_
  · obtain ⟨p', hp', hoperation, -⟩ := hplacements k p hp
    exact ⟨p', hp', hoperation⟩
  · have hold : ∃ p, r.placements.lookup k = some p := by
      rw [lose, Table.lookup_updateWhere] at hp'
      obtain ⟨p, hp, -⟩ := Option.map_eq_some_iff.mp hp'
      exact ⟨p, hp⟩
    obtain ⟨p, hp⟩ := hold
    obtain ⟨_, hp'', -, hreleased⟩ := hplacements k p hp
    rw [hp'] at hp''
    cases hp''
    rw [hreleased, h.released k p hp]
    constructor
    · rintro ⟨k', e, he, hplace, hterminated⟩
      refine ⟨k', e, ?_, hplace, hterminated⟩
      rw [lose, Table.lookup_updateWhere, he, Option.map_some, hterminated, if_neg]
      simp
    · rintro ⟨k', e', he', hplace, hterminated⟩
      exact ⟨k', e', hexecutions k' e' he' hterminated, hplace, hterminated⟩

lemma consistent_saved (h : r.Consistent scope) (hfresh : record.key scope ∉ r.executions)
    (hfound : r.placements.lookup (record.place scope) = some placement)
    (hoperation : placement.operationId = record.operationId)
    (halone : ∀ k e, r.executions.lookup k = some e → e.place scope ≠ record.place scope ∧
      ¬(e.isolationDomainId = record.isolationDomainId ∧ e.operationId = record.operationId)) :
    (r.save scope record).Consistent scope := by
  have hexecutions : ∀ k e, (r.save scope record).executions.lookup k = some e →
      k = record.key scope ∧ record = e ∨ r.executions.lookup k = some e :=
    fun k e he => Table.lookup_insert_cases he
  have hkept : ∀ k e, r.executions.lookup k = some e →
      (r.save scope record).executions.lookup k = some e :=
    fun k e he => Table.lookup_insert_of_fresh hfresh he
  refine ⟨?_, ?_, ?_, ?_, ?_⟩
  · intro k e he
    rcases hexecutions k e he with ⟨hk, rfl⟩ | hold
    · exact hk
    · exact h.keyed k e hold
  · intro k k' e e' he he' hdomain hsame
    rcases hexecutions k e he with ⟨hk, rfl⟩ | hold <;>
      rcases hexecutions k' e' he' with ⟨hk', rfl⟩ | hold'
    · exact hk.trans hk'.symm
    · exact absurd ⟨hdomain.symm, hsame.symm⟩ (halone k' e' hold').2
    · exact absurd ⟨hdomain, hsame⟩ (halone k e hold).2
    · exact h.operation k k' e e' hold hold' hdomain hsame
  · intro k k' e e' he he' hplace
    rcases hexecutions k e he with ⟨hk, rfl⟩ | hold <;>
      rcases hexecutions k' e' he' with ⟨hk', rfl⟩ | hold'
    · exact hk.trans hk'.symm
    · exact absurd hplace.symm (halone k' e' hold').1
    · exact absurd hplace (halone k e hold).1
    · exact h.placement k k' e e' hold hold' hplace
  · intro k e he
    obtain ⟨p, hp, hold⟩ : ∃ p, r.placements.lookup (e.place scope) = some p ∧
        p.operationId = e.operationId := by
      rcases hexecutions k e he with ⟨-, rfl⟩ | he
      · exact ⟨placement, hfound, hoperation⟩
      · exact h.placed k e he
    obtain ⟨p', hp', hsame⟩ := lookup_updated (record.place scope)
      (fun p => { p with state := placementStateOf record.state }) (fun _ => rfl) hp
    exact ⟨p', hp', hsame.trans hold⟩
  · intro k p' hp'
    by_cases hk : k = record.place scope
    · subst hk
      rw [save, Table.lookup_updateAt_self, hfound] at hp'
      cases hp'
      constructor
      · intro hstate
        refine ⟨record.key scope, record, AList.lookup_insert _, rfl, ?_⟩
        by_contra hlive
        rw [placementStateOf, if_neg hlive] at hstate
        cases hstate
      · rintro ⟨k', e, he, hplace, hterminated⟩
        rcases hexecutions k' e he with ⟨rfl, rfl⟩ | he
        · exact if_pos hterminated
        · exact absurd hplace (halone k' e he).1
    · rw [save, Table.lookup_updateAt_ne _ _ hk] at hp'
      rw [h.released k p' hp']
      constructor
      · rintro ⟨k', e, he, hplace, hterminated⟩
        exact ⟨k', e, hkept k' e he, hplace, hterminated⟩
      · rintro ⟨k', e, he, hplace, hterminated⟩
        rcases hexecutions k' e he with ⟨rfl, rfl⟩ | he
        · exact absurd hplace.symm hk
        · exact ⟨k', e, he, hplace, hterminated⟩

variable {domain : String}

/-- **Everything that may happen keeps the records consistent.** -/
theorem Changed.consistent (hchanged : r.Changed scope domain r') (h : r.Consistent scope) :
    r'.Consistent scope := by
  cases hchanged with
  | same => exact h
  | placed fresh reserved => exact consistent_placed h fresh reserved
  | saved _ fresh found operation alone => exact consistent_saved h fresh found operation alone
  | updated found same => exact consistent_updated h found same
  | terminated found => exact consistent_terminated h found
  | lost lostPlacement lostExecution => exact consistent_lost h lostPlacement lostExecution

/-- **A terminated execution stays as it is.** -/
theorem Changed.terminated_kept (hchanged : r.Changed scope domain r') {e : ExecutionRecord}
    (he : r.executions.lookup k = some e) (hterminated : e.state = .terminated) :
    r'.executions.lookup k = some e := by
  cases hchanged with
  | same | placed => exact he
  | saved _ fresh => exact Table.lookup_insert_of_fresh fresh he
  | @updated key _ state found same =>
    by_cases hk : k = key
    · subst hk
      rw [found] at he
      cases he
      have hself : { e with state := state } = e := by rw [same.mpr hterminated, ← hterminated]
      exact (lookup_setState_self found).trans (congrArg some hself)
    · exact (lookup_setState_ne hk).trans he
  | @terminated key =>
    by_cases hk : k = key
    · subst hk
      have hself : { e with state := .terminated } = e := by rw [← hterminated]
      exact (lookup_setState_self he).trans (congrArg some hself)
    · exact (lookup_setState_ne hk).trans he
  | lost =>
    rw [lose, Table.lookup_updateWhere, he, Option.map_some, hterminated, if_neg]
    simp

/-- The executions are the old ones, up to their states, and those of the isolation domain. -/
lemma Changed.domains (hchanged : r.Changed scope domain r') {P : String → Prop} (hdomain : P domain)
    (h : ∀ k e, r.executions.lookup k = some e → P e.isolationDomainId) (k : κ) (e' : ExecutionRecord)
    (he' : r'.executions.lookup k = some e') :
    P e'.isolationDomainId := by
  have hsame : (∃ e, r.executions.lookup k = some e ∧ e' = { e with state := e'.state }) →
      P e'.isolationDomainId := by
    rintro ⟨e, he, heq⟩
    rw [heq]
    exact h k e he
  cases hchanged with
  | same | placed => exact h k e' he'
  | @saved _ _ within =>
    rcases Table.lookup_insert_cases he' with ⟨-, rfl⟩ | he'
    · rw [within]
      exact hdomain
    · exact h k e' he'
  | updated | terminated => exact hsame (executions_setState he')
  | lost => exact hsame (executions_lose he')

/-- An execution at a placement that another one has would be of the same operation. -/
lemma Consistent.alone (h : r.Consistent scope)
    (hfound : r.placements.lookup (record.place scope) = some placement)
    (hoperation : placement.operationId = record.operationId)
    (hscope : ∀ k e, r.executions.lookup k = some e → e.place scope = record.place scope →
      e.isolationDomainId = record.isolationDomainId)
    (hunique : ∀ k e, r.executions.lookup k = some e →
      ¬(e.isolationDomainId = record.isolationDomainId ∧ e.operationId = record.operationId)) (k : κ)
    (e : ExecutionRecord) (he : r.executions.lookup k = some e) :
    e.place scope ≠ record.place scope ∧
      ¬(e.isolationDomainId = record.isolationDomainId ∧ e.operationId = record.operationId) := by
  refine ⟨fun hplace => hunique k e he ⟨hscope k e he hplace, ?_⟩, hunique k e he⟩
  obtain ⟨_, hp, hsame⟩ := h.placed k e he
  rw [hplace, hfound] at hp
  cases hp
  exact hsame.symm.trans hoperation

lemma consistent_empty : ({} : Records κ).Consistent scope :=
  ⟨fun _ _ h => (nomatch h), fun _ _ _ _ h => (nomatch h), fun _ _ _ _ h => (nomatch h), fun _ _ h => (nomatch h),
    fun _ _ h => (nomatch h)⟩

end Records

end DataGround.Execution
