import DataGround.Access.Identity
import DataGround.Library.Keyset
import DataGround.Runtime.Attempt

/-!
# The audit of a resource, page by page

`ReadResourceAudit` merges two sources: the records of the lifecycle, and the decisions of the policy.
The first page takes a snapshot of the transactions, and every page leaves a receipt with the snapshot
and with the place where it ended; the receipt is the cursor of the next page.

Transactions that write audit rows run at the same time: they get their numbers in any order, and commit
or abort at any time.  A read sees what is committed when it starts (`REPEATABLE READ`), and its receipt
can be seen when it ends.
-/

namespace DataGround.Audit

/-! ### Rows -/

/-- The kinds of resources. -/
inductive ResourceKind where
  | serviceRevision
  | invocation
  deriving DecidableEq

def ResourceKind.text : ResourceKind → String
  | .serviceRevision => "service-revision"
  | .invocation => "invocation"

/-- The kind of the operation on it. -/
def ResourceKind.operationKind : ResourceKind → String
  | .serviceRevision => "service-publication"
  | .invocation => "invocation-execution"

/-- What a row of `audit_records` or of a table of decisions says, besides its scope. -/
structure AuditColumns where
  sequence : ℤ
  /-- `id`, or the digits of `public_audit_id`. -/
  id : String
  recordedAt : Time
  (actorId action outcome correlationId operationId policySetId policyDigest phase : String)
  deriving DecidableEq

/-- The rows that a read looks at. -/
inductive Row where
  /-- `audit_records`. -/
  | lifecycle (isolationDomainId resourceType resourceId : String) (columns : AuditColumns)
  /-- `publication_authorization_decisions`, `invocation_authorization_decisions`. -/
  | decision (kind : ResourceKind) (isolationDomainId resourceId : String) (columns : AuditColumns)
  /-- `service_revisions`. -/
  | revision (isolationDomainId id : String)
  /-- `service_publication_operations`. -/
  | publicationOperation (isolationDomainId revisionId id : String)
  /-- `invocations`. -/
  | invocation (isolationDomainId id operationId : String)
  deriving DecidableEq

/-- What numbers are unique in; `audit_records` has numbers for each domain. -/
inductive Numbering where
  | lifecycle (isolationDomainId : String)
  | decisions (kind : ResourceKind)
  deriving DecidableEq

/-- The number of a row. -/
def Row.number : Row → Option (Numbering × ℤ)
  | .lifecycle isolationDomainId _ _ columns => some (.lifecycle isolationDomainId, columns.sequence)
  | .decision kind _ _ columns => some (.decisions kind, columns.sequence)
  | _ => none

/-! ### Transactions -/

/-- What has become of a transaction. -/
inductive TransactionState where
  | running
  | committed
  | aborted
  deriving DecidableEq

/-- `pg_snapshot`. -/
structure Snapshot where
  (xmin xmax : ℕ)
  xip : List ℕ
  deriving DecidableEq

/-- `pg_visible_in_snapshot`: the transaction was over. -/
def pgVisibleInSnapshot (transaction : ℕ) (snapshot : Snapshot) : Bool :=
  transaction < snapshot.xmin || (transaction < snapshot.xmax && transaction ∉ snapshot.xip)

/-- `pg_current_snapshot`, from the states of the transactions by number: `xmax` is one past the last
transaction that is over. -/
def pgCurrentSnapshot (transactions : List TransactionState) : Snapshot :=
  let xmax := (transactions.reverse.dropWhile (· = .running)).length
  let xip := (List.range xmax).filter fun transaction => transactions[transaction]? = some .running
  ⟨xip.head?.getD xmax, xmax, xip⟩

/-! ### Requests, pages and receipts -/

structure ResourceAuditRecord where
  (id source : String)
  recordedAt : Time
  (actorId action outcome correlationId operationId policySetId policyDigest phase : String)
  deriving DecidableEq

/-- The arguments of `ReadResourceAudit`. -/
structure Request where
  principal : Principal
  scope : String
  kind : ResourceKind
  (id correlation cursor : String)
  limit : ℕ
  deriving DecidableEq

/-- `domain.ResourceAuditPage`. -/
structure Page where
  receiptId : String
  items : List ResourceAuditRecord
  nextCursor : String
  deriving DecidableEq

/-- A row of `resource_audit_read_receipts`, as far as it is read again. -/
structure Receipt where
  (id isolationDomainId : String)
  resourceType : ResourceKind
  (resourceId principalId : String)
  principalKind : PrincipalKind
  snapshot : Snapshot
  operationId : String
  afterSource : ℕ
  afterSequence : ℤ
  hasMore : Bool
  deriving DecidableEq

/-- The errors of a read. -/
inductive ReadError where
  /-- `ErrResourceAuditInvalid`. -/
  | invalid
  /-- `RESOURCE_NOT_FOUND`. -/
  | notFound
  | snapshotExceedsLimit
  | invalidSequence
  | invalidRecord
  deriving DecidableEq

/-- `Principal.Valid`. -/
def validPrincipal (principal : Principal) : Bool :=
  principalIdMatches principal.id && validPrincipalKind principal.kind &&
    principal.audience = apiAudience && principal.issuer ≠ "" && principal.issuer.utf8ByteSize ≤ 512 &&
    principal.subject ≠ "" && principal.subject.utf8ByteSize ≤ 512 && principal.isolationDomains ≠ [] &&
    principal.isolationDomains.length ≤ 64 && principal.isolationDomains.all (Writer.idMatches "iso")

/-- The checks at the start. -/
def Request.valid (request : Request) : Bool :=
  validPrincipal request.principal && request.scope ∈ request.principal.isolationDomains &&
    Writer.idMatches "iso" request.scope && Writer.idMatches "cor" request.correlation &&
    1 ≤ request.limit && request.limit ≤ 100 &&
    (request.cursor = "" || Writer.idMatches "arr" request.cursor) &&
    Writer.idMatches (match request.kind with | .serviceRevision => "rev" | .invocation => "inv")
      request.id

def validOperatorAuditText (value : String) (maximum : ℕ) : Bool :=
  value ≠ "" && value.utf8ByteSize ≤ maximum && value.toList.all fun c => !isControl c

/-- `operatorAuditVocabulary`. -/
def vocabularyMatches (text : String) : Bool :=
  match text.toList with
  | [] => false
  | first :: rest => ('a' ≤ first && first ≤ 'z') && rest.length ≤ 127 && rest.all fun c =>
    ('a' ≤ c && c ≤ 'z') || ('0' ≤ c && c ≤ '9') || c = '.' || c = '-'

/-- `resourceAuditDecisionPattern`. -/
def decisionIdMatches (text : String) : Bool :=
  text.toList.take 4 = "ard_".toList && (text.toList.drop 4).length = 32 &&
    (text.toList.drop 4).all fun c => ('0' ≤ c && c ≤ '9') || ('a' ≤ c && c ≤ 'f')

/-- The year is from 1 to 9999, and the time is not the zero time; in nanoseconds. -/
def validRecordedAt (time : Time) : Bool :=
  -62135596800 * 10 ^ 9 < time && time < 253402300800 * 10 ^ 9

def validResourceAuditRecord (item : ResourceAuditRecord) : Bool :=
  if !(validRecordedAt item.recordedAt && validOperatorAuditText item.actorId 256 &&
      vocabularyMatches item.action && validOperatorAuditText item.correlationId 256 &&
      (item.operationId = "" || Writer.idMatches "op" item.operationId)) then false
  else if item.source = "lifecycle" then
    Writer.idMatches "aud" item.id &&
      item.outcome ∈ ["accepted", "succeeded", "failed", "cancelled", "denied"]
  else if !(decisionIdMatches item.id && validOperatorAuditText item.policySetId 128 &&
      sha256Matches item.policyDigest) then false
  else if item.outcome ∉ ["allowed", "denied", "unavailable"] then false
  else if item.source = "publication-authorization" then
    item.action = "publish" && (item.phase = "entry" || item.phase = "effect")
  else item.source = "invocation-authorization" && item.phase = ""

/-! ### Queries -/

/-- `lifecycleQuery`: a row of the resource or of its operation, by its number. -/
def lifecycleItem (request : Request) (operationId : String) : Row → Option (ℤ × ResourceAuditRecord)
  | .lifecycle isolationDomainId resourceType resourceId columns =>
    if isolationDomainId = request.scope ∧ (resourceType = request.kind.text ∧ resourceId = request.id ∨
        resourceType = request.kind.operationKind ∧ resourceId = operationId ∧ operationId ≠ "") then
      some (columns.sequence, ⟨columns.id, "lifecycle", columns.recordedAt, columns.actorId,
        columns.action, columns.outcome, columns.correlationId, columns.operationId, "", "", ""⟩)
    else none
  | _ => none

/-- `decisionQuery`. -/
def decisionItem (request : Request) : Row → Option (ℤ × ResourceAuditRecord)
  | .decision kind isolationDomainId resourceId columns =>
    if kind = request.kind ∧ isolationDomainId = request.scope ∧ resourceId = request.id then
      some (columns.sequence, match kind with
        | .serviceRevision => ⟨"ard_" ++ columns.id, "publication-authorization", columns.recordedAt,
            columns.actorId, "publish", columns.outcome, columns.correlationId, columns.operationId,
            columns.policySetId, columns.policyDigest, columns.phase⟩
        | .invocation => ⟨"ard_" ++ columns.id, "invocation-authorization", columns.recordedAt,
            columns.actorId, columns.action, columns.outcome, columns.correlationId,
            columns.operationId, columns.policySetId, columns.policyDigest, ""⟩)
    else none
  | _ => none

/-- The rows of a source, 0 or 1. -/
def sourceItem (request : Request) (operationId : String) (source : ℕ) :
    Row → Option (ℤ × ResourceAuditRecord) :=
  if source = 0 then lifecycleItem request operationId else decisionItem request

/-- Rows with the transactions that wrote them. -/
abbrev Rows := List (ℕ × Row)

/-- The rows that a snapshot shows. -/
def Rows.within (rows : Rows) (snapshot : Snapshot) : Rows :=
  rows.filter fun row => pgVisibleInSnapshot row.1 snapshot

/-- What there is of a source, by number. -/
def Rows.items (rows : Rows) (request : Request) (operationId : String) (source : ℕ) :
    List (ℤ × ResourceAuditRecord) :=
  rows.filterMap fun row => sourceItem request operationId source row.2

/-- The query of a source. -/
def Rows.query (rows : Rows) (snapshot : Snapshot) (request : Request) (operationId : String)
    (source : ℕ) (after : ℤ) (limit : ℕ) : List (ℤ × ResourceAuditRecord) :=
  (Keyset.orderBy Prod.fst
    (((rows.within snapshot).items request operationId source).filter fun item => after < item.1)).take
    limit

/-- `resourceQuery`: the operation of the resource, if there is the resource. -/
def Rows.operation (rows : Rows) (request : Request) : Option String :=
  match request.kind with
  | .serviceRevision =>
    if rows.any fun row => row.2 = .revision request.scope request.id then
      some ((rows.findSome? fun row => match row.2 with
        | .publicationOperation isolationDomainId revisionId id =>
          if isolationDomainId = request.scope ∧ revisionId = request.id then some id else none
        | _ => none).getD "")
    else none
  | .invocation => rows.findSome? fun row => match row.2 with
      | .invocation isolationDomainId id operationId =>
        if isolationDomainId = request.scope ∧ id = request.id then some operationId else none
      | _ => none

/-! ### Reading a page -/

/-- Where a page starts. -/
structure Start where
  snapshot : Snapshot
  operationId : String
  afterSource : ℕ
  afterSequence : ℤ

/-- The receipt that a cursor names. -/
def Request.names (request : Request) (receipt : Receipt) : Bool :=
  receipt.id = request.cursor && receipt.isolationDomainId = request.scope &&
    receipt.resourceType = request.kind && receipt.resourceId = request.id &&
    receipt.principalId = request.principal.id && receipt.principalKind = request.principal.kind &&
    receipt.hasMore

/-- Where the page of a request starts. -/
def startOf (request : Request) (current : Snapshot) (operationId : String) (receipts : List Receipt) :
    Except ReadError Start :=
  if request.cursor = "" then .ok ⟨current, operationId, 0, 0⟩
  else
    match receipts.find? request.names with
    | none => .error .invalid
    | some receipt =>
      .ok ⟨receipt.snapshot, receipt.operationId, receipt.afterSource, receipt.afterSequence⟩

/-- What has been read. -/
structure Progress where
  items : List ResourceAuditRecord
  lastSource : ℕ
  lastSequence : ℤ
  hasMore : Bool

/-- The loop over the rows of a source. -/
def collect (limit source : ℕ) : List (ℤ × ResourceAuditRecord) → Progress → Except ReadError Progress
  | [], progress => .ok progress
  | (sequence, item) :: rest, progress =>
    if sequence < 1 then .error .invalidSequence
    else if validResourceAuditRecord item = false then .error .invalidRecord
    else if progress.items.length = limit then .ok { progress with hasMore := true }
    else collect limit source rest ⟨progress.items ++ [item], source, sequence, progress.hasMore⟩

/-- One round of the loop over the sources. -/
def readSource (rows : Rows) (request : Request) (start : Start) (progress : Progress) (source : ℕ) :
    Except ReadError Progress :=
  if progress.hasMore then .ok progress
  else collect request.limit source
    (rows.query start.snapshot request start.operationId source
      (if source = start.afterSource then start.afterSequence else 0)
      (request.limit + 1 - progress.items.length)) progress

/-- The loop over the sources. -/
def readSources (rows : Rows) (request : Request) (start : Start) : Except ReadError Progress :=
  (List.range' start.afterSource (2 - start.afterSource)).foldlM (readSource rows request start)
    ⟨[], start.afterSource, start.afterSequence, false⟩

/-- The receipt of a page. -/
def receiptOf (request : Request) (start : Start) (progress : Progress) (receiptId : String) :
    Receipt where
  id := receiptId
  isolationDomainId := request.scope
  resourceType := request.kind
  resourceId := request.id
  principalId := request.principal.id
  principalKind := request.principal.kind
  snapshot := start.snapshot
  operationId := start.operationId
  afterSource := progress.lastSource
  afterSequence := progress.lastSequence
  hasMore := progress.hasMore

variable (render : Snapshot → String)

/-- `ReadResourceAudit`, up to its commit, with the rows, receipts and transactions that it sees; `render`
is the text of a snapshot. -/
def readResourceAudit (rows : Rows) (receipts : List Receipt) (current : Snapshot) (request : Request)
    (receiptId : String) : Except ReadError (Page × Receipt) :=
  if request.valid = false then .error .invalid
  else
    match rows.operation request with
    | none => .error .notFound
    | some operationId => do
      let start ← startOf request current operationId receipts
      if 65536 < (render start.snapshot).utf8ByteSize then throw .snapshotExceedsLimit
      let progress ← readSources rows request start
      pure (⟨receiptId, progress.items, if progress.hasMore then receiptId else ""⟩,
        receiptOf request start progress receiptId)

/-! ### The database -/

/-- The place of a record: its source, and its number there. -/
abbrev Position := ℕ ×ₗ ℤ

/-- The records of a resource, ordered by source and number. -/
def Rows.records (rows : Rows) (request : Request) (operationId : String) :
    List (Position × ResourceAuditRecord) :=
  [0, 1].flatMap fun source =>
    (Keyset.orderBy Prod.fst (rows.items request operationId source)).map fun item =>
      (toLex (source, item.1), item.2)

/-- A read, with the records of its resource that were committed when it started. -/
structure Reading where
  request : Request
  page : Page
  receipt : Receipt
  visible : List (Position × ResourceAuditRecord)

/-- The tables, the transactions by number, and the reads. -/
structure Database where
  transactions : List TransactionState := []
  rows : Rows := []
  reading : List (ℕ × Reading) := []
  finished : List Reading := []

/-- What is committed. -/
def Database.committed (db : Database) : Rows :=
  db.rows.filter fun row => db.transactions[row.1]? = some .committed

/-- One event. -/
inductive Event where
  /-- A transaction gets its number. -/
  | begin
  | insert (transaction : ℕ) (row : Row)
  | commit (transaction : ℕ)
  | abort (transaction : ℕ)
  /-- A read takes its snapshot. -/
  | read (id : ℕ) (request : Request) (receiptId : String)
  /-- A read commits, and returns its page. -/
  | finish (id : ℕ)

/-- A transaction that is running ends. -/
def Database.settle (db : Database) (transaction : ℕ) (state : TransactionState) : Option Database :=
  if db.transactions[transaction]? = some .running then
    some { db with transactions := db.transactions.set transaction state }
  else none

/-- The numbers that are used. -/
def Rows.numbers (rows : Rows) : List (Numbering × ℤ) :=
  rows.filterMap fun row => row.2.number

/-- A running transaction inserts a row: its number is positive, and was not used before. -/
def Database.insert (db : Database) (transaction : ℕ) (row : Row) : Option Database :=
  if db.transactions[transaction]? = some .running ∧
      row.number.all (fun number => decide (0 < number.2) && decide (number ∉ db.rows.numbers)) then
    some { db with rows := db.rows ++ [(transaction, row)] }
  else none

/-- A read starts. -/
def Database.read (db : Database) (id : ℕ) (request : Request) (receiptId : String) : Option Database :=
  if id ∈ db.reading.map Prod.fst then none
  else
    match readResourceAudit render db.committed (db.finished.map Reading.receipt)
        (pgCurrentSnapshot db.transactions) request receiptId with
    | .error _ => some db
    | .ok (page, receipt) =>
      some { db with reading := (id, ⟨request, page, receipt,
        db.committed.records request ((db.committed.operation request).getD "")⟩) :: db.reading }

/-- A read commits its receipt under an identifier that is new. -/
def Database.finish (db : Database) (id : ℕ) : Option Database :=
  match db.reading.find? (·.1 = id) with
  | none => none
  | some (_, reading) =>
    if Writer.idMatches "arr" reading.receipt.id ∧
        reading.receipt.id ∉ db.finished.map fun other => other.receipt.id then
      some { db with reading := db.reading.filter (·.1 ≠ id), finished := reading :: db.finished }
    else none

/-- One step. -/
def Database.step (db : Database) : Event → Option Database
  | .begin => some { db with transactions := db.transactions ++ [.running] }
  | .insert transaction row => db.insert transaction row
  | .commit transaction => db.settle transaction .committed
  | .abort transaction => db.settle transaction .aborted
  | .read id request receiptId => db.read render id request receiptId
  | .finish id => db.finish id

end DataGround.Audit
