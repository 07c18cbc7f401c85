import DataGround.Persistence.Writes

/-!
# Columns that never change

Rows of operations are updated but not deleted, and some of their columns are written once: what an
operation is about.  Journals only grow.
-/

namespace DataGround

section

variable {env : Environment} {s t : Store} {call : Call}

lemma RowStep.sameColumns {key : OperationKey} {op op' : Operation}
    (h : RowStep env s call key op op') : op.SameColumns op' := by
  obtain rfl | ⟨_, hchange⟩ := h.committed
  · exact ⟨rfl, rfl, rfl, rfl⟩
  · exact hchange.keeps.1

namespace Store

/-- An operation row stays, and with it what the operation is about. -/
lemma step_operation (h : s.step env call = some t) {key : OperationKey} {op : Operation}
    (hop : s.db.operations.lookup key = some op) :
    ∃ op', t.db.operations.lookup key = some op' ∧ op.SameColumns op' := by
  obtain ⟨op', hop', hstep⟩ := step_row h hop
  exact ⟨op', hop', hstep.sameColumns⟩

/-- Having at least these events is kept by every write. -/
lemma keptByWrites_events (events : List InvocationEvent) :
    KeptByWrites env fun s => events <+: s.db.events where
  rows s t h hs := h.events ▸ hs
  journal s event hs := hs.trans (List.prefix_append _ _)
  writeOutboxAndAudit m write := by
    intro s u t hs h
    simp only [writeOutboxAndAudit, Transaction.read_bind, Transaction.require_bind_eq_ok,
      Transaction.modify_eq_ok] at h
    obtain ⟨-, heq⟩ := h
    cases heq
    exact hs
  recordDevelopmentPublication m input operationId verified := by
    intro s u t hs h
    simp only [recordDevelopmentPublication, writeOutboxAndAudit, Transaction.read_bind,
      Transaction.require_bind_eq_ok, Transaction.modify_bind, Transaction.modify_eq_ok] at h
    obtain ⟨-, -, heq⟩ := h
    cases heq
    exact hs

/-- Journals only grow. -/
lemma step_events (h : s.step env call = some t) : s.db.events <+: t.db.events :=
  (keptByWrites_events s.db.events).step (List.prefix_refl _) h

end Store

end

end DataGround
