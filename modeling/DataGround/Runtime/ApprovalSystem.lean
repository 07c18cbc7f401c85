import DataGround.Runtime.ApprovalRules
import DataGround.Persistence.JournalSequence

/-!
# Approvals in every interleaving

Any number of calls of the six methods at one database, their statements in every order, at times
that never go back.  What `ApprovalRules` says about one request and about one call gives an invariant
of all runs, and with it what the versions of a row have in common.
-/

namespace DataGround

/-! ### The rows before -/

/-- The versions of rows that have only been inserted. -/
def insertedApprovals (rows : List (ResourceKey × RuntimeApproval)) : List ApprovalVersion :=
  rows.map fun entry => ⟨entry.1, entry.2, none⟩

/-- Rows that are valid, with different keys and numbers, and not from the future.  Rows of the
contract before the present one are among them. -/
structure ApprovalRows where
  rows : List (ResourceKey × RuntimeApproval)
  clock : Time
  valid : ∀ entry ∈ rows, Writer.validInvocationRuntimeApprovalState entry.2 = true
  passed : ∀ entry ∈ rows, entry.2.Until clock
  distinct : (insertedApprovals rows).Pairwise fun v v' => ApprovalVersion.conflicts v v' = false

namespace ApprovalRows

/-- The database with these rows. -/
def database (start : ApprovalRows) : Approvals :=
  ⟨⟨(insertedApprovals start.rows).map fun version => (0, version), [], fun _ => none⟩, start.clock⟩

variable {start : ApprovalRows} {key : ResourceKey}

lemma life_database (start : ApprovalRows) (key : ResourceKey) :
    start.database.life key = Approvals.versionsOf key (insertedApprovals start.rows) := by
  simp [Approvals.life, database, WriteLog.all, Function.comp_def]

/-- There is at most one version of a row. -/
lemma life_eq (start : ApprovalRows) (key : ResourceKey) :
    start.database.life key = [] ∨ ∃ entry ∈ start.rows,
      start.database.life key = [⟨entry.1, entry.2, none⟩] := by
  rw [life_database]
  have hdistinct := start.distinct.filter fun version => version.key = key
  have hmem : ∀ v ∈ Approvals.versionsOf key (insertedApprovals start.rows),
      v.key = key ∧ ∃ entry ∈ start.rows, v = ⟨entry.1, entry.2, none⟩ := by
    intro v hv
    obtain ⟨hinserted, hkey⟩ := List.mem_filter.mp hv
    obtain ⟨entry, hentry, rfl⟩ := List.mem_map.mp hinserted
    exact ⟨of_decide_eq_true hkey, entry, hentry, rfl⟩
  change (Approvals.versionsOf key _).Pairwise _ at hdistinct
  match hversions : Approvals.versionsOf key (insertedApprovals start.rows), hdistinct, hmem with
  | [], _, _ => exact .inl rfl
  | [v], _, hmem =>
    obtain ⟨-, entry, hentry, rfl⟩ := hmem v List.mem_cons_self
    exact .inr ⟨entry, hentry, rfl⟩
  | v :: v' :: rest, hdistinct, hmem =>
    obtain ⟨hkey, entry, -, rfl⟩ := hmem v List.mem_cons_self
    obtain ⟨hkey', entry', -, rfl⟩ := hmem v' (List.mem_cons_of_mem _ List.mem_cons_self)
    have hsame : entry.1 = entry'.1 := hkey.trans hkey'.symm
    have hconflict := (List.pairwise_cons.mp hdistinct).1 _ List.mem_cons_self
    simp [ApprovalVersion.conflicts, hsame] at hconflict

lemma sound (start : ApprovalRows) : start.database.Sound where
  guarded := by
    intro id w key hw
    cases hw
  distinct := by
    simpa [WriteLog.Distinct, WriteLog.all, database, Function.comp_def] using start.distinct
  lives key := by
    rcases start.life_eq key with hnone | ⟨entry, hentry, hone⟩
    · rw [hnone]
      exact .nil
    · rw [hone]
      exact .insert rfl (RuntimeApproval.valid_iff.mp (start.valid entry hentry))
        (start.passed entry hentry)

end ApprovalRows

/-! ### Every run -/

section

variable {env : RuntimeEnvironment} {marshal : ApprovalResult → Option String}

/-- A transaction that others have left alone still agrees with the database. -/
lemma approvals_others {s t : Approvals} {id : ℕ} (hclock : s.clock ≤ t.clock)
    (hspares : ∀ other, other ≠ id → WriteLog.Spares ApprovalVersion.about other s.log t.log)
    (other : ℕ) (tx : ApprovalTx) (isOpen : Bool) (hne : other ≠ id)
    (htx : tx.Agrees s other isOpen) : tx.Agrees t other isOpen :=
  htx.spared hclock (hspares other hne)

/-- **The discipline of approvals**: it keeps the database sound. -/
lemma approvals_discipline : Server.Discipline Approvals.Sound ApprovalTx.Agrees
    (approvalServer env marshal) ApprovalAllowed where
  serve s id tx request answer reply tx' s' hs htx hallowed hserved := by
    obtain ⟨hclock, hserved⟩ := ApprovalTx.serve_eq_some hserved
    obtain ⟨hs', htx', hsame, hspares⟩ := (ApprovalTx.serveNow_did hserved).keeps (hs.tick hclock)
      (htx.tick hclock) hallowed
    exact ⟨hs', htx', approvals_others (hclock.trans_eq hsame.symm) hspares⟩
  release s id tx hs htx := by
    refine ⟨hs.rollback id, ⟨htx.clock, fun hopen => ?_⟩,
      approvals_others le_rfl fun _ hne => WriteLog.spares_rollback hs.guarded hne⟩
    cases hopen

/-- **The life of an approval.**  In every state that any interleaving of the statements of any calls
leads to, for every approval and its versions, from the first to the last:

* every version satisfies `validInvocationRuntimeApprovalState`;
* at most one of them reserves the delivery, and none after the delivery has begun;
* once a version has a decision, all later ones have the same;
* where the effective decision is to approve, the recorded one is;
* a version in a terminal state is the last one. -/
theorem approval_life (env : RuntimeEnvironment) (marshal : ApprovalResult → Option String)
    (start : ApprovalRows)
    (steps : List (Server.Event (Time × ApprovalAnswer) ApprovalCall))
    (sys : Server.State Approvals ApprovalTx (CommandRequest ApprovalStatement)
      (CommandRequest.Reply ApprovalStatement.Reply) (Except RepositoryError ApprovalResult))
    (h : Run.run (approvalServer env marshal).step (Server.initial start.database) steps = some sys)
    (key : ResourceKey) :
    (∀ v ∈ sys.shared.life key, Writer.validInvocationRuntimeApprovalState v.row = true) ∧
    (sys.shared.life key).countP ApprovalVersion.isReservation ≤ 1 ∧
    (sys.shared.life key).Pairwise (fun v v' => v.InDelivery → v'.isReservation = false) ∧
    (sys.shared.life key).Pairwise
      (fun v v' => v.row.decision ≠ "" → v'.row.decision = v.row.decision) ∧
    (∀ v ∈ sys.shared.life key, v.row.effectiveDecision = "approve" → v.row.decision = "approve") ∧
    (sys.shared.life key).Pairwise (fun v _ => ¬v.row.state.Terminal) := by
  have hsys := approvals_discipline.of_run (fun call => complies_approvalProgram marshal call)
    start.sound (fun _ _ => .blank bot_le fun _ => rfl) h
  have hlife := hsys.sound.lives key
  refine ⟨fun v hv => RuntimeApproval.valid_iff.mpr (hlife.valid v hv), hlife.reserved,
    hlife.delivering.imp fun hnext hv => (hnext hv).2, hlife.decided,
    fun v hv => (hlife.valid v hv).decisions, hlife.ended⟩

end

namespace Scenario

/-- Identifiers of the right form. -/
def approvalEnv : RuntimeEnvironment :=
  { runtimeEnv with digestText := fun _ => "0123456789abcdef0123" }

/-- The claim of a worker that runs the invocation. -/
def approvalClaim (workerId : String) : Claim :=
  { claim workerId 1 10 .running with resourceId := "inv_0123456789abcdef0123" }

/-- The record of the running effect. -/
def approvalEffect : EffectRecord :=
  ⟨(approvalClaim "one").effectKey approvalEnv.toEnvironment .runInvocation,
    .prepared (approvalClaim "one") .runInvocation "request" 10⟩

/-- What the runtime acts on. -/
def approvalTarget : RuntimeTarget :=
  { target with
    invocationId := "inv_0123456789abcdef0123", correlationId := "cor_0123456789abcdef0123" }

/-- The approval that is asked for. -/
def approvalId : String := "apr_0123456789abcdef0123"

/-- The requests of one call are answered one after the other, at one time. -/
def answeringAt (now : Time) (id : ℕ) (answers : List ApprovalAnswer) :
    List (Server.Event (Time × ApprovalAnswer) ApprovalCall) :=
  answers.map fun answer => .answer id (now, answer)

/-- The runtime asks, and a controller approves. -/
def approvedSteps : List (Server.Event (Time × ApprovalAnswer) ApprovalCall) :=
  .start 1 (.request (approvalClaim "one") approvalEffect approvalTarget ⟨none, 1, "process.execute"⟩) ::
    answeringAt 11 1 [.executed, .executed, .executed, .executed, .executed,
      .target (some approvalTarget), .executed, .time 1000, .executed, .executed, .executed,
      .executed] ++
  .start 2 (.resolve ⟨⟨"iso", "inv_0123456789abcdef0123"⟩, approvalId, 1, "approve", "operator",
      "cor_0123456789abcdef0123"⟩) ::
    answeringAt 12 2 [.executed, .flag true, .executed, .executed, .executed, .executed, .executed,
      .flag true, .executed, .executed, .executed, .executed]

/-- Two workers reserve the delivery at once; the second waits for the first and is refused.  The
approval is closed before the delivery is completed. -/
def racingSteps : List (Server.Event (Time × ApprovalAnswer) ApprovalCall) :=
  .start 3 (.beginDelivery (approvalClaim "one") approvalEffect approvalId "approve") ::
  .start 4 (.beginDelivery (approvalClaim "one") approvalEffect approvalId "deny") ::
    answeringAt 13 4 [.executed, .executed, .executed, .executed, .executed] ++
    answeringAt 14 3 [.executed, .executed, .executed, .executed, .executed, .executed, .executed,
      .flag true, .executed, .executed] ++
    answeringAt 15 4 [.executed] ++ .close 4 ::
  .start 5 (.close (approvalClaim "one") approvalEffect approvalId "runtime-ended") ::
    answeringAt 16 5 [.executed, .executed, .executed, .executed, .executed, .executed, .executed,
      .flag false, .executed, .executed, .executed, .executed, .executed]

/-- There is no approval yet. -/
def noApprovals : ApprovalRows where
  rows := []
  clock := 0
  valid entry hentry := by cases hentry
  passed entry hentry := by cases hentry
  distinct := .nil

end Scenario

open Scenario

/-- Two workers reserve the delivery at once: the approval has four versions, of which one reserves
it. -/
theorem approval_life_raced : ∃ sys,
    Run.run (approvalServer approvalEnv fun _ => some "").step
      (Server.initial noApprovals.database)
      (approvedSteps ++ racingSteps) = some sys ∧
    (sys.shared.life ⟨"iso", approvalId⟩).map (fun v => (v.row.state, v.row.version)) =
      [(.pending, 1), (.resolved, 2), (.delivering, 3), (.deliveryUnknown, 4)] ∧
    (sys.shared.life ⟨"iso", approvalId⟩).countP ApprovalVersion.isReservation ≤ 1 := by
  exact Run.exists_some_and (by decide +kernel) fun sys hsys _ =>
    (approval_life _ _ _ _ sys hsys ⟨"iso", approvalId⟩).2.1

end DataGround
