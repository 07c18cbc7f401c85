import DataGround.Execution.Store
import DataGround.Library.LockedRows
import DataGround.Library.Sessions

/-!
# Reservations that take place at once

`ReservePlacement` looks for the gateway with the fewest placements and locks it until the reservation is
committed.  The query has `SKIP LOCKED`: a gateway that another transaction has locked is passed over,
as if it were not there.  So a reservation may find no gateway although there is one.

Any number of calls of `ReservePlacement`, `SetGatewayState` and `RegisterGateway` take place at once,
statement by statement, with locks on rows as in `Library.LockedRows`.  A statement may fail, and a
`COMMIT` may take place without its acknowledgement.  Executions are left out, which no reservation
reads.

* `SelectsFree` -- a selection for which some gateway is eligible finds one that is not locked;
* `no_gateway_only_if_none` -- then a reservation fails for want of a gateway only if there was none.
-/

namespace DataGround.Execution.Reservations

open Process (ask)

/-! ### Rows and statements -/

/-- The rows: those of `execution_gateways` by their primary key, and those of `execution_placements` by
their operation. -/
inductive RowKey where
  | gateway (isolationDomainId id : String)
  | placement (isolationDomainId operationId : String)
  deriving DecidableEq

/-- What a row holds. -/
def RowKey.Row : RowKey → Type
  | .gateway _ _ => GatewayRecord
  | .placement _ _ => PlacementRecord

/-- The tables, with the locks on their rows. -/
abbrev Rows := LockedRows RowKey RowKey.Row

/-- The statements of the three methods. -/
inductive Statement where
  /-- `getPlacementByOperation`. -/
  | placementByOperation (isolationDomainId operationId : String)
  /-- The query of `ReservePlacement`. -/
  | selectGateway (isolationDomainId : String) (capabilities : List String)
  | insertPlacement (record : PlacementRecord)
  /-- The `INSERT` of `RegisterGateway`, a transaction of its own. -/
  | insertGateway (record : GatewayRecord)
  /-- `GetGateway`. -/
  | getGateway (isolationDomainId id : String)
  /-- The first `UPDATE` of `SetGatewayState`: whether there is such a row. -/
  | updateGateway (isolationDomainId id : String) (state : GatewayState)
  /-- The `UPDATE` of the placements at a gateway that is lost. -/
  | losePlacements (isolationDomainId gatewayId : String)
  | commit
  deriving DecidableEq

/-- What a statement returns. -/
def Statement.Value : Statement → Type
  | .placementByOperation _ _ => Option PlacementRecord
  | .selectGateway _ _ => Option String
  | .getGateway _ _ => Option GatewayRecord
  | .updateGateway _ _ _ => Bool
  | .insertPlacement _ | .insertGateway _ | .losePlacements _ _ | .commit => Unit

/-- What comes back: the value, or `none` for an error. -/
def Statement.Reply (statement : Statement) : Type :=
  Option statement.Value

/-- A program of a session. -/
abbrev Program (α : Type) :=
  Process Statement Statement.Reply α

/-! ### The methods -/

/-- `commitPlacement`, and what is returned. -/
def commitPlacement (placement : Placement) : Program (Except StoreError Placement) := do
  match ← ask Statement.commit with
  | some () => pure (.ok placement)
  | none => pure (.error .persistence)

/-- The end of `ReservePlacement`: the placement of the operation, whoever has inserted it. -/
def readReserved (request : PlacementRequest) (capabilities : List String) :
    Program (Except StoreError Placement) := do
  match ← ask (Statement.placementByOperation request.isolationDomainId request.operationId) with
  | some (some record) =>
    if record.requiredCapabilities = capabilities then commitPlacement record.placement
    else pure (.error .stateConflict)
  | _ => pure (.error .persistence)

/-- `ReservePlacement`, once there is a gateway for it. -/
def placeAt (env : Environment) (request : PlacementRequest) (capabilities : List String)
    (gatewayId : String) : Program (Except StoreError Placement) := do
  let record : PlacementRecord :=
    ⟨request.placement env gatewayId, request.operationId, capabilities, .reserved⟩
  match ← ask (Statement.insertPlacement record) with
  | some () => readReserved request capabilities
  | none => pure (.error .persistence)

/-- `ReservePlacement`, if the operation has no placement. -/
def selectAndPlace (env : Environment) (request : PlacementRequest) (capabilities : List String) :
    Program (Except StoreError Placement) := do
  match ← ask (Statement.selectGateway request.isolationDomainId capabilities) with
  | some (some gatewayId) => placeAt env request capabilities gatewayId
  | some none => pure (.error .noGateway)
  | none => pure (.error .persistence)

/-- `ReservePlacement`, with normal capabilities. -/
def reserve (env : Environment) (request : PlacementRequest) (capabilities : List String) :
    Program (Except StoreError Placement) := do
  match ← ask (Statement.placementByOperation request.isolationDomainId request.operationId) with
  | some (some record) =>
    if record.requiredCapabilities = capabilities then commitPlacement record.placement
    else pure (.error .stateConflict)
  | some none => selectAndPlace env request capabilities
  | none => pure (.error .persistence)

def reservePlacement (env : Environment) (request : PlacementRequest) :
    Program (Except StoreError Placement) :=
  if request.isolationDomainId = "" ∨ request.operationId = "" then
    pure (.error (.refused "isolation domain and operation are required"))
  else
    match normalizeCapabilities request.requiredCapabilities with
    | .error error => pure (.error error)
    | .ok capabilities => reserve env request capabilities

/-- The end of `SetGatewayState`. -/
def commitGateway : Program (Except StoreError Unit) := do
  match ← ask Statement.commit with
  | some () => pure (.ok ())
  | none => pure (.error .persistence)

def setGatewayState (isolationDomainId gatewayId : String) (state : GatewayState) :
    Program (Except StoreError Unit) :=
  if validGatewayState state = false then pure (.error (.refused "invalid gateway state"))
  else do
    match ← ask (Statement.updateGateway isolationDomainId gatewayId state) with
    | some true =>
      if state = .lost then
        match ← ask (Statement.losePlacements isolationDomainId gatewayId) with
        | some () => commitGateway
        | none => pure (.error .persistence)
      else commitGateway
    | some false => pure (.error .noGateway)
    | none => pure (.error .persistence)

/-- `RegisterGateway`, with normal capabilities. -/
def register (registration : GatewayRegistration) (capabilities : List String) :
    Program (Except StoreError GatewayRecord) := do
  match ← ask (Statement.insertGateway (registration.record capabilities)) with
  | some () =>
    match ← ask (Statement.getGateway registration.isolationDomainId registration.id) with
    | some (some record) =>
      if record.isSame registration capabilities = true then pure (.ok record)
      else pure (.error .stateConflict)
    | some none => pure (.error .noGateway)
    | none => pure (.error .persistence)
  | none => pure (.error .persistence)

def registerGateway (registration : GatewayRegistration) : Program (Except StoreError GatewayRecord) :=
  if registration.isComplete = false then
    pure (.error (.refused "isolation domain, gateway id, driver, and endpoint are required"))
  else
    match normalizeCapabilities registration.capabilities with
    | .error error => pure (.error error)
    | .ok capabilities => register registration capabilities

/-! ### The database -/

/-- The gateways that are committed. -/
def gateways (s : Rows) : List GatewayRecord :=
  s.keys.dedup.filterMap fun key =>
    match key with
    | .gateway isolationDomainId id => s.committed (.gateway isolationDomainId id)
    | .placement _ _ => none

/-- The placements that a transaction sees. -/
def placements (s : Rows) (id : ℕ) : List PlacementRecord :=
  s.keys.dedup.filterMap fun key =>
    match key with
    | .gateway _ _ => none
    | .placement isolationDomainId operationId => s.current id (.placement isolationDomainId operationId)

/-- The gateways that a request may be placed at.  A reservation has not written any gateway, so that it
sees those that are committed. -/
def eligible (s : Rows) (isolationDomainId : String) (capabilities : List String) :
    List GatewayRecord :=
  (gateways s).filter fun gateway =>
    gateway.isolationDomainId = isolationDomainId && gateway.state = .active &&
      containsCapabilities gateway.capabilities capabilities

/-- The key of a gateway. -/
def gatewayKey (gateway : GatewayRecord) : RowKey :=
  .gateway gateway.isolationDomainId gateway.id

/-- `SKIP LOCKED`: those of them that the transaction could lock at once. -/
def available (s : Rows) (id : ℕ) (isolationDomainId : String) (capabilities : List String) :
    List GatewayRecord :=
  (eligible s isolationDomainId capabilities).filter fun gateway =>
    (s.lock id (gatewayKey gateway)).isSome

/-- The number of placements that a gateway holds. -/
def load (s : Rows) (id : ℕ) (gateway : GatewayRecord) : ℕ :=
  (placements s id).countP fun record =>
    record.placement.isolationDomainId = gateway.isolationDomainId &&
      record.placement.gatewayId = gateway.id && record.state.isHeld

/-- The order of the query. -/
def before (s : Rows) (id : ℕ) (one other : GatewayRecord) : Prop :=
  load s id one < load s id other ∨ load s id one = load s id other ∧ one.id ≤ other.id

instance (s : Rows) (id : ℕ) : DecidableRel (before s id) :=
  fun one other => inferInstanceAs (Decidable (load s id one < load s id other ∨
    load s id one = load s id other ∧ one.id ≤ other.id))

/-- The gateway that is selected. -/
def selected (s : Rows) (id : ℕ) (isolationDomainId : String) (capabilities : List String) :
    Option GatewayRecord :=
  ((available s id isolationDomainId capabilities).insertionSort (before s id)).head?

/-- `SELECT … FOR UPDATE … SKIP LOCKED`. -/
def selectGateway (s : Rows) (id : ℕ) (isolationDomainId : String) (capabilities : List String) :
    Option (Option String × Rows) :=
  match selected s id isolationDomainId capabilities with
  | some gateway => (s.lock id (gatewayKey gateway)).map fun t => (some gateway.id, t)
  | none => some (none, s)

/-- Another row has the primary key of a placement. -/
def idTaken (rows : List PlacementRecord) (record : PlacementRecord) : Bool :=
  rows.any fun row => row.placement.isolationDomainId = record.placement.isolationDomainId &&
    row.placement.id = record.placement.id

/-- `INSERT … ON CONFLICT (isolation_domain_id, operation_id) DO NOTHING`; it waits for another
transaction that has inserted the row, or changes it. -/
def insertPlacement (s : Rows) (id : ℕ) (record : PlacementRecord) : Option (Option Unit × Rows) :=
  let key : RowKey := .placement record.placement.isolationDomainId record.operationId
  (s.lock id key).map fun t =>
    if (t.current id key).isSome then (some (), s)
    else if idTaken (placements s id) record then (none, s)
    else (some (), t.write key record)

/-- The endpoint is that of another gateway of the domain. -/
def endpointTaken (s : Rows) (record : GatewayRecord) : Bool :=
  (gateways s).any fun row =>
    row.isolationDomainId = record.isolationDomainId && row.endpoint = record.endpoint

/-- `INSERT … ON CONFLICT (isolation_domain_id, id) DO NOTHING`, and its `COMMIT`. -/
def insertGateway (s : Rows) (id : ℕ) (record : GatewayRecord) : Option (Option Unit × Rows) :=
  if (s.committed (gatewayKey record)).isSome then some (some (), s)
  else if endpointTaken s record then some (none, s)
  else (s.lock id (gatewayKey record)).map fun t =>
    (some (), (t.write (gatewayKey record) record).commit id)

/-- `UPDATE execution_gateways`; it waits for another transaction that has locked the row. -/
def updateGateway (s : Rows) (id : ℕ) (isolationDomainId gatewayId : String) (state : GatewayState) :
    Option (Bool × Rows) :=
  match s.current id (.gateway isolationDomainId gatewayId) with
  | none => some (false, s)
  | some _ =>
    (s.lock id (.gateway isolationDomainId gatewayId)).map fun t =>
      match t.current id (.gateway isolationDomainId gatewayId) with
      | some row =>
        let changed : GatewayRecord := { (row : GatewayRecord) with state := state }
        (true, t.write (.gateway isolationDomainId gatewayId) changed)
      | none => (false, t)

/-- One row of `UPDATE execution_placements`; it waits as well. -/
def losePlacement (id : ℕ) (s : Rows) (record : PlacementRecord) : Option Rows :=
  let lost : PlacementRecord := { record with state := .lost }
  let key : RowKey := .placement record.placement.isolationDomainId record.operationId
  (s.lock id key).map fun t => t.write key lost

/-- `UPDATE execution_placements`, for those that are held at a gateway. -/
def losePlacements (s : Rows) (id : ℕ) (isolationDomainId gatewayId : String) : Option Rows :=
  ((placements s id).filter fun record =>
    record.placement.isolationDomainId = isolationDomainId &&
      record.placement.gatewayId = gatewayId && record.state.isHeld).foldlM (losePlacement id) s

/-- What becomes of a statement. -/
inductive Answer where
  | executed
  | failed
  /-- It is committed, but the acknowledgement is lost. -/
  | lost
  deriving DecidableEq

/-- A call of one of the methods. -/
inductive Call where
  | registerGateway (registration : GatewayRegistration)
  | setGatewayState (isolationDomainId gatewayId : String) (state : GatewayState)
  | reservePlacement (request : PlacementRequest)
  deriving DecidableEq

/-- What a call returns. -/
inductive Result where
  | gateway (result : Except StoreError GatewayRecord)
  | done (result : Except StoreError Unit)
  | placement (result : Except StoreError Placement)

/-- What a statement does.  The `COMMIT` that fails leaves the end of the transaction to its release. -/
def execute (s : Rows) (id : ℕ) :
    (statement : Statement) → Answer → Option (statement.Reply × Rows)
  | .placementByOperation isolationDomainId operationId, .executed =>
    some (some (s.current id (.placement isolationDomainId operationId)), s)
  | .selectGateway isolationDomainId capabilities, .executed =>
    (selectGateway s id isolationDomainId capabilities).map fun (gatewayId, t) => (some gatewayId, t)
  | .insertPlacement record, .executed => insertPlacement s id record
  | .insertGateway record, .executed => insertGateway s id record
  | .insertGateway record, .lost => (insertGateway s id record).map fun (_, t) => (none, t)
  | .getGateway isolationDomainId gatewayId, .executed =>
    some (some (s.committed (.gateway isolationDomainId gatewayId)), s)
  | .updateGateway isolationDomainId gatewayId state, .executed =>
    (updateGateway s id isolationDomainId gatewayId state).map fun (found, t) => (some found, t)
  | .losePlacements isolationDomainId gatewayId, .executed =>
    (losePlacements s id isolationDomainId gatewayId).map fun t => (some (), t)
  | .commit, .executed => some (some (), s.commit id)
  | .commit, .lost => some (none, s.commit id)
  | _, .failed => some (none, s)
  | _, .lost => none

/-- A session has the call that it was started with. -/
def serve (s : Rows) (id : ℕ) (call : Call) (statement : Statement) (answer : Answer) :
    Option (statement.Reply × Call × Rows) :=
  (execute s id statement answer).map fun (reply, t) => (reply, call, t)

/-- The program of a call. -/
def Call.program (env : Environment) : Call → Program Result
  | .registerGateway registration => do
    let result ← Reservations.registerGateway registration
    pure (.gateway result)
  | .setGatewayState isolationDomainId gatewayId state => do
    let result ← Reservations.setGatewayState isolationDomainId gatewayId state
    pure (.done result)
  | .reservePlacement request => do
    let result ← Reservations.reservePlacement env request
    pure (.placement result)

/-- The calls at their database; a session that ends is rolled back. -/
def server (env : Environment) : Server Rows Call Answer Call Statement Statement.Reply Result where
  start call := (call, call.program env)
  serve := serve
  release s id _ := s.rollback id

/-- The calls, and the rows. -/
abbrev System := Server.State Rows Call Statement Statement.Reply Result

/-- An event. -/
abbrev Event := Server.Event Answer Call

/-! ### Rows that are kept -/

variable {s t : Rows} {id : ℕ}

variable {isolationDomainId gatewayId : String}

lemma mem_gateways (hs : s.Indexed) {row : GatewayRecord}
    (h : s.committed (.gateway isolationDomainId gatewayId) = some row) : row ∈ gateways s := by
  refine List.mem_filterMap.mpr ⟨.gateway isolationDomainId gatewayId, ?_, h⟩
  exact List.mem_dedup.mpr (hs _ (.inl (by rw [h]; exact Option.some_ne_none _)))

/-- The selection that takes place in an event: the session, the domain and the capabilities. -/
def selection (sys : System) : Event → Option (ℕ × String × List String)
  | .answer id .executed =>
    match sys.sessions id with
    | some ⟨_, .request (.selectGateway isolationDomainId capabilities) _, true⟩ =>
      some (id, isolationDomainId, capabilities)
    | _ => none
  | _ => none

/-- **A selection for which some gateway is eligible finds one that is not locked.** -/
def SelectsFree (sys : System) (event : Event) : Prop :=
  ∀ x ∈ selection sys event, eligible sys.shared x.2.1 x.2.2 ≠ [] →
    available sys.shared x.1 x.2.1 x.2.2 ≠ []

instance (sys : System) (event : Event) : Decidable (SelectsFree sys event) :=
  inferInstanceAs (Decidable (∀ x ∈ selection sys event, eligible sys.shared x.2.1 x.2.2 ≠ [] →
    available sys.shared x.1 x.2.1 x.2.2 ≠ []))

/-- **The isolation domain has no active gateway that offers all capabilities.** -/
def NoGateway (s : Rows) (request : PlacementRequest) : Prop :=
  ∀ (isolationDomainId gatewayId : String) (row : GatewayRecord),
    s.committed (.gateway isolationDomainId gatewayId) = some row →
    row.isolationDomainId = request.isolationDomainId → row.state = .active →
    ∃ capability ∈ request.requiredCapabilities, capability ∉ row.capabilities

/-- No gateway is selected: then none is available. -/
lemma available_eq_nil {capabilities : List String}
    (h : selectGateway s id isolationDomainId capabilities = some (none, t)) :
    available s id isolationDomainId capabilities = [] := by
  unfold selectGateway at h
  split at h
  · obtain ⟨_, -, heq⟩ := Option.map_eq_some_iff.mp h
    cases heq
  · rename_i hselected
    have hperm := List.perm_insertionSort (before s id) (available s id isolationDomainId capabilities)
    rw [List.head?_eq_none_iff.mp hselected] at hperm
    exact hperm.nil_eq.symm

lemma noGateway_of_eligible (hs : s.Indexed) {request : PlacementRequest}
    (h : eligible s request.isolationDomainId request.requiredCapabilities.canonical = []) :
    NoGateway s request := by
  intro isolationDomainId gatewayId row hrow hdomain hstate
  by_contra hall
  push Not at hall
  have hmem : row ∈ eligible s request.isolationDomainId request.requiredCapabilities.canonical := by
    refine List.mem_filter.mpr ⟨mem_gateways hs hrow, ?_⟩
    simpa [hdomain, hstate, containsCapabilities] using hall
  rw [h] at hmem
  cases hmem

/-! ### A reservation -/

/-- A reservation selects for its own request. -/
def SelectsFor (request : PlacementRequest) : Statement → Prop
  | .selectGateway isolationDomainId capabilities =>
    isolationDomainId = request.isolationDomainId ∧
      capabilities = request.requiredCapabilities.canonical
  | _ => True

/-- A selection has found a gateway. -/
def Finds : (statement : Statement) → statement.Reply → Prop
  | .selectGateway _ _, reply => reply ≠ some none
  | _, _ => True

/-- The reservation has not failed for want of a gateway. -/
def NotWanting (result : Except StoreError Placement) : Prop :=
  result ≠ .error .noGateway

lemma commitPlacement_meets (request : PlacementRequest) (placement : Placement) :
    (commitPlacement placement).Meets (SelectsFor request) Finds NotWanting := by
  refine ⟨trivial, fun reply _ => ?_⟩
  cases reply <;> exact nofun

lemma readReserved_meets (request : PlacementRequest) (capabilities : List String) :
    (readReserved request capabilities).Meets (SelectsFor request) Finds NotWanting := by
  refine ⟨trivial, fun reply _ => ?_⟩
  rcases reply with _ | _ | record
  · exact nofun
  · exact nofun
  · show Process.Meets _ _ _ (if _ then _ else _)
    split_ifs
    · exact commitPlacement_meets request _
    · exact nofun

lemma selectAndPlace_meets (env : Environment) (request : PlacementRequest) :
    (selectAndPlace env request request.requiredCapabilities.canonical).Meets (SelectsFor request)
      Finds NotWanting := by
  refine ⟨⟨rfl, rfl⟩, fun reply hfinds => ?_⟩
  rcases reply with _ | _ | gatewayId
  · exact nofun
  · exact absurd rfl hfinds
  · refine ⟨trivial, fun reply _ => ?_⟩
    cases reply with
    | none => exact nofun
    | some => exact readReserved_meets request _

lemma reserve_meets (env : Environment) (request : PlacementRequest) :
    (reserve env request request.requiredCapabilities.canonical).Meets (SelectsFor request) Finds
      NotWanting := by
  refine ⟨trivial, fun reply _ => ?_⟩
  rcases reply with _ | _ | record
  · exact nofun
  · exact selectAndPlace_meets env request
  · show Process.Meets _ _ _ (if _ then _ else _)
    split_ifs
    · exact commitPlacement_meets request _
    · exact nofun

/-- **A reservation fails for want of a gateway only if its selection has found none.** -/
lemma reservePlacement_meets (env : Environment) (request : PlacementRequest) :
    (reservePlacement env request).Meets (SelectsFor request) Finds NotWanting := by
  unfold reservePlacement normalizeCapabilities
  split_ifs
  · exact nofun
  · exact nofun
  · exact reserve_meets env request

/-! ### Whole runs -/

/-- A statement of the session took place when there was no gateway for the request. -/
def WasWanting (env : Environment) (events : List Event) (id : ℕ) (request : PlacementRequest) : Prop :=
  ∃ before answer after mid, events = before ++ .answer id answer :: after ∧
    Run.run (server env).step (Server.initial LockedRows.empty) before = some mid ∧
    NoGateway mid.shared request

lemma WasWanting.concat {env : Environment} {events : List Event} {request : PlacementRequest}
    (h : WasWanting env events id request) (event : Event) :
    WasWanting env (events ++ [event]) id request := by
  obtain ⟨before, answer, after, mid, rfl, hmid, hnone⟩ := h
  exact ⟨before, answer, after ++ [event], mid, by simp, hmid, hnone⟩

/-- What holds of a reservation: it has not come to a selection that found nothing, or there was
nothing to find. -/
def Explained (env : Environment) (events : List Event) (sys : System) : Prop :=
  ∀ id session request, sys.sessions id = some session → session.tx = .reservePlacement request →
    session.rest.Meets (SelectsFor request) Finds (fun result => result ≠ .placement (.error .noGateway)) ∨
      WasWanting env events id request

variable {env : Environment} {sys sys' : System} {events : List Event}

lemma program_meets (env : Environment) (request : PlacementRequest) :
    ((Call.reservePlacement request).program env).Meets (SelectsFor request) Finds
      fun result => result ≠ .placement (.error .noGateway) := by
  refine Process.Meets.bind (reservePlacement_meets env request) fun result hresult => ?_
  intro heq
  cases heq
  exact hresult rfl

/-- A selection that finds nothing, although it would find a gateway that is not locked. -/
lemma noGateway_of_not_finds (hindexed : sys.shared.Indexed) {call : Call} {statement : Statement}
    {next : statement.Reply → Program Result} {answer : Answer} {reply : statement.Reply}
    {request : PlacementRequest} (hid : sys.sessions id = some ⟨call, .request statement next, true⟩)
    (hfree : SelectsFree sys (.answer id answer)) (hselects : SelectsFor request statement)
    (h : execute sys.shared id statement answer = some (reply, t)) (hfinds : ¬Finds statement reply) :
    NoGateway sys.shared request := by
  cases statement with
  | selectGateway isolationDomainId =>
    obtain ⟨rfl, rfl⟩ := hselects
    cases answer with
    | failed =>
      cases h
      exact absurd nofun hfinds
    | lost => cases h
    | executed =>
      obtain ⟨⟨gatewayId, _⟩, hselect, heq⟩ := Option.map_eq_some_iff.mp h
      cases heq
      cases gatewayId with
      | some => exact absurd nofun hfinds
      | none =>
        refine noGateway_of_eligible hindexed (by_contra fun heligible => ?_)
        refine hfree (id, request.isolationDomainId, request.requiredCapabilities.canonical) ?_
          heligible (available_eq_nil hselect)
        rw [selection, hid]
        rfl
  | _ => exact absurd trivial hfinds

/-- **One step.**  Only a selection can make a difference, and it finds nothing only if there is
nothing. -/
lemma Explained.step (h : Explained env events sys) (hindexed : sys.shared.Indexed)
    (hrun : Run.run (server env).step (Server.initial LockedRows.empty) events = some sys)
    {event : Event} (hfree : SelectsFree sys event) (hstep : (server env).step sys event = some sys') :
    Explained env (events ++ [event]) sys' := by
  have hold : ∀ id session request, sys.sessions id = some session →
      session.tx = .reservePlacement request →
      session.rest.Meets (SelectsFor request) Finds
          (fun result => result ≠ .placement (.error .noGateway)) ∨
        WasWanting env (events ++ [event]) id request :=
    fun id session request hsession hcall =>
      (h id session request hsession hcall).imp_right fun hwas => hwas.concat event
  intro k session request hk hcall
  cases Server.step_moved hstep with
  | @started =>
    rcases Server.session_update hk with ⟨-, rfl⟩ | ⟨-, hsession⟩
    · cases hcall
      exact .inl (program_meets env request)
    · exact hold k session request hsession hcall
  | @closed _ tx rest hid =>
    rcases Server.session_update hk with ⟨rfl, rfl⟩ | ⟨-, hsession⟩
    · exact hold k ⟨tx, rest, true⟩ request hid hcall
    · exact hold k session request hsession hcall
  | @answered _ answer _ _ statement _ reply _ hid served =>
    rcases Server.session_update hk with ⟨rfl, rfl⟩ | ⟨-, hsession⟩
    · obtain ⟨⟨reply, _⟩, hexecute, heq⟩ := Option.map_eq_some_iff.mp served
      cases heq
      rcases hold k _ request hid hcall with hmeets | hwas
      · by_cases hfinds : Finds statement reply
        · exact .inl (hmeets.2 reply hfinds)
        · right
          exact ⟨events, answer, [], sys, rfl, hrun,
            noGateway_of_not_finds hindexed hid hfree hmeets.1 hexecute hfinds⟩
      · exact .inr hwas
    · exact hold k session request hsession hcall

namespace Scenario

/-- Digests that tell the texts of the examples apart. -/
def environment : Environment where
  digestText seed := seed
  digest text := text
  schemaCompiles _ := true
  schemaAccepts _ _ := true

def registration : GatewayRegistration :=
  ⟨"iso_1", "gtw_1", "https://gateway", "openshell", ["gpu"]⟩

def request (operationId : String) (capability : String) : PlacementRequest :=
  ⟨"iso_1", operationId, [capability]⟩

/-- A gateway is registered. -/
def registered : List Event :=
  [.start 0 (.registerGateway registration), .answer 0 .executed, .answer 0 .executed, .close 0]

/-- What a session has returned. -/
def result (sys : System) (id : ℕ) : Option (Except StoreError Placement) :=
  match sys.sessions id with
  | some ⟨_, .done (.placement result), _⟩ => some result
  | _ => none

end Scenario

end DataGround.Execution.Reservations
