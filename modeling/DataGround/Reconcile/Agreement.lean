import DataGround.Reconcile.Cancellation

/-!
# Invocations and their operations

An invocation row follows its operation: every committed transition projects the observed state
to it and fills in result, error and completion with `COALESCE`, and a cancellation moves both.
A repair moves the operation alone: the invocation keeps the error and the completion of the
failure that was repaired.

* `Follows` -- what an invocation row is, exactly, given its operation and whether that was ever
  repaired; one lemma per kind of change says that it is kept;
* `Store.Linked` -- each invocation has its operation, each operation its invocation, and the
  row follows;
* `invocation_agrees_iff` -- row and operation agree exactly as long as the operation has never
  been repaired, or when it has failed again.
-/

namespace DataGround

/-- The state that an operation's observed state projects to: `accepted` while it is queued. -/
def invocationProjection : State → Option InvocationState
  | .queued => some .accepted
  | state => invocationResourceState state

lemma invocationProjection_eq {next : State} {state : InvocationState}
    (h : invocationResourceState next = some state) : invocationProjection next = some state := by
  cases next <;> first | exact h | cases h

/-- An invocation row agrees with its operation. -/
structure Agrees (op : Operation) (row : InvocationRow) : Prop where
  state : invocationProjection op.observedState = some row.state
  completed : row.completedAt.isSome = true ↔ Invocation.isTerminal op.observedState = true
  error : row.error.isSome = true → op.observedState = .failed
  result : row.result.isSome = true → op.observedState = .succeeded

/-- A repair is among the changes. -/
def Repaired (history : List RowCommit) : Prop :=
  ∃ change ∈ history, change.IsRepair

lemma repaired_concat {history : List RowCommit} {change : RowCommit} :
    Repaired (history ++ [change]) ↔ Repaired history ∨ change.IsRepair := by
  simp only [Repaired, List.mem_append, List.mem_singleton, or_and_right, exists_or, exists_eq_left]

lemma repaired_concat_of_not {history : List RowCommit} {change : RowCommit}
    (h : ¬change.IsRepair) : Repaired (history ++ [change]) ↔ Repaired history := by
  rw [repaired_concat, or_iff_left h]

/-- How an invocation row follows an operation that was `repaired` or not. -/
structure Follows (repaired : Prop) (op : Operation) (row : InvocationRow) : Prop where
  state : invocationProjection op.observedState = some row.state ∨
    (repaired ∧ op.observedState = .queued ∧ row.state = .failed)
  completed : row.completedAt.isSome = true ↔
    repaired ∨ Invocation.isTerminal op.observedState = true
  error : row.error.isSome = true ↔ repaired ∨ op.observedState = .failed
  result : row.result.isSome = true → op.observedState = .succeeded
  copied : row.result = op.terminalResult

/-- A row that follows agrees exactly if its operation was not repaired, or failed again. -/
lemma Follows.agrees_iff {repaired : Prop} {op : Operation} {row : InvocationRow}
    (h : Follows repaired op row) : Agrees op row ↔ ¬repaired ∨ op.observedState = .failed := by
  constructor
  · intro hagrees
    by_cases hrepaired : repaired
    · exact .inr (hagrees.error (h.error.mpr (.inl hrepaired)))
    · exact .inl hrepaired
  · rintro (hrepaired | hfailed)
    · refine ⟨?_, ?_, ?_, h.result⟩
      · exact h.state.resolve_right fun hqueued => hrepaired hqueued.1
      · rw [h.completed, or_iff_right hrepaired]
      · rw [h.error, or_iff_right hrepaired]
        exact id
    · refine ⟨?_, ?_, fun _ => hfailed, h.result⟩
      · refine h.state.resolve_right fun hqueued => ?_
        cases hfailed.symm.trans hqueued.2.1
      · rw [h.completed, hfailed]
        simp [Invocation.isTerminal]

/-! ### One change of the operation -/

namespace Follows

variable {repaired : Prop} {op op' : Operation} {row : InvocationRow}

/-- Only the observed state and the result of the operation matter. -/
lemma of_observedState (h : Follows repaired op row) (hstate : op'.observedState = op.observedState)
    (hresult : op'.terminalResult = op.terminalResult) : Follows repaired op' row :=
  ⟨hstate ▸ h.state, hstate ▸ h.completed, hstate ▸ h.error, hstate ▸ h.result,
    h.copied.trans hresult.symm⟩

/-- Of an operation that is not terminal the row has nothing but what a repair left. -/
lemma of_not_terminal (h : Follows repaired op row)
    (hterminal : Invocation.isTerminal op.observedState = false) :
    (row.completedAt.isSome = true ↔ repaired) ∧ (row.error.isSome = true ↔ repaired) ∧
      row.result = none := by
  have hfailed : op.observedState ≠ .failed := by
    intro heq
    rw [heq] at hterminal
    cases hterminal
  have hsucceeded : op.observedState ≠ .succeeded := by
    intro heq
    rw [heq] at hterminal
    cases hterminal
  refine ⟨?_, ?_, ?_⟩
  · rw [h.completed, hterminal]
    simp
  · rw [h.error, or_iff_left hfailed]
  · cases hresult : row.result with
    | none => rfl
    | some result => exact (hsucceeded (h.result (by rw [hresult]; rfl))).elim

/-- A transition out of a state that is not terminal is followed. -/
lemma advance (h : Follows repaired op row)
    (hterminal : Invocation.isTerminal op.observedState = false) {state : InvocationState}
    {made : Operation.Transition} (now : Time) (hstate : op'.observedState = made.next)
    (hterminalResult : op'.terminalResult = (made.result <|> op.terminalResult))
    (hprojected : invocationResourceState made.next = some state)
    (hfailure : made.failure.isSome = true ↔ made.next = .failed)
    (hresult : made.result.isSome = true → made.next = .succeeded) :
    Follows repaired op' (row.follow state made now) := by
  obtain ⟨hcompleted, herror, hnone⟩ := h.of_not_terminal hterminal
  have hcomplete : state.isComplete = Invocation.isTerminal made.next := by
    cases hnext : made.next <;> rw [hnext] at hprojected <;>
      simp only [invocationResourceState, Option.some.injEq, reduceCtorEq] at hprojected <;>
      subst hprojected <;> rfl
  refine ⟨.inl ?_, ?_, ?_, ?_, ?_⟩
  · rw [hstate]
    exact invocationProjection_eq hprojected
  · rw [hstate, ← hcomplete]
    cases hend : state.isComplete <;> simp [InvocationRow.follow, hend, hcompleted]
  · rw [hstate, ← hfailure]
    cases hmade : made.failure <;> simp [InvocationRow.follow, hmade, herror]
  · intro hsome
    rw [hstate]
    apply hresult
    simpa [InvocationRow.follow, hnone] using hsome
  · rw [hterminalResult, ← h.copied]
    rfl

/-- An accepted cancellation is followed. -/
lemma cancel (h : Follows repaired op row)
    (hlive : row.state ∉ [InvocationState.cancelled, .cancelling, .succeeded, .failed])
    (actorId correlationId : String) (now : Time) :
    Follows repaired (op.cancel actorId correlationId now) (row.cancelling now) := by
  -- A row of a terminal operation, or of a repaired one in the queue, cannot be cancelled.
  have hterminal : Invocation.isTerminal op.observedState = false := by
    rcases h.state with hstate | ⟨-, hqueued, -⟩
    · cases hop : op.observedState <;> rw [hop] at hstate <;>
        simp only [invocationProjection, invocationResourceState, Option.some.injEq,
          reduceCtorEq] at hstate <;> first | rfl | (rw [← hstate] at hlive; simp at hlive)
    · rw [hqueued]
      rfl
  obtain ⟨hcompleted, herror, hnone⟩ := h.of_not_terminal hterminal
  refine ⟨.inl rfl, ?_, ?_, ?_, h.copied⟩
  · simp [InvocationRow.cancelling, Operation.cancel, Invocation.isTerminal, hcompleted]
  · simp [InvocationRow.cancelling, Operation.cancel, herror]
  · intro hsome
    simp [InvocationRow.cancelling, hnone] at hsome

/-- A repair is not followed: the row stays as the failure left it. -/
lemma repair (h : Follows repaired op row) (hfailed : op.observedState = .failed)
    (hstate : op'.observedState = .queued) (hresult : op'.terminalResult = none) :
    Follows True op' row := by
  have hrow : row.state = .failed := by
    rcases h.state with hprojected | ⟨-, -, hrow⟩
    · rw [hfailed] at hprojected
      exact (Option.some.inj hprojected).symm
    · exact hrow
  refine ⟨.inr ⟨trivial, hstate, hrow⟩, ?_, ?_, ?_, ?_⟩
  · simp [h.completed, hfailed, Invocation.isTerminal]
  · simp [h.error, hfailed]
  · intro hsome
    cases hfailed.symm.trans (h.result hsome)
  · rw [hresult]
    cases hsome : row.result with
    | none => rfl
    | some result => cases hfailed.symm.trans (h.result (by rw [hsome]; rfl))

end Follows

/-! ### The transitions that workers make -/

/-- The states that the reconciler dispatches an invocation to. -/
lemma Dispatched.next_mem {claim : Claim} {next : State} {result : Option Json}
    (h : Dispatched claim next result) (hkind : claim.key.kind = .invocation) :
    next ∈ [State.starting, .running, .observing, .succeeded, .cancelling, .cancelled] := by
  obtain ⟨hnext, -⟩ := h hkind
  split at hnext
  · rcases hnext with rfl | rfl <;> simp
  · cases hstate : claim.observedState <;> rw [hstate] at hnext <;>
      simp only [dispatchTable, List.mem_cons, List.not_mem_nil, or_false] at hnext <;>
      first | exact hnext.elim | (rcases hnext with rfl | rfl <;> simp)

section

variable {claim : Claim} {transition made : Operation.Transition}
  (hkind : claim.key.kind = .invocation) (hasked : Asked claim transition)

include hkind hasked

/-- Nobody asks for the queue. -/
lemma next_ne_queued : transition.next ≠ .queued := by
  intro hqueued
  rcases hasked with ⟨hfailed, -⟩ | ⟨hdispatched, -⟩
  · cases hfailed.symm.trans hqueued
  · have hmem := hdispatched.next_mem hkind
    rw [hqueued] at hmem
    simp at hmem

/-- Transitions are made out of states that are not terminal. -/
lemma not_terminal_of_allowed
    (hallowed : canTransition claim.key.kind claim.observedState transition.next = true) :
    Invocation.isTerminal claim.observedState = false := by
  by_contra hterminal
  rw [hkind] at hallowed
  have hqueued := canTransition_of_isTerminal .invocation
    (Bool.eq_true_of_not_eq_false hterminal) hallowed
  exact next_ne_queued hkind hasked hqueued.2

/-- A transition that is made has a state for the invocation, a failure exactly if it fails, and a
result only if it succeeds. -/
lemma made_of_asked (hmade : MadeFrom claim transition made) :
    (∃ state, invocationResourceState made.next = some state) ∧
      (made.failure.isSome = true ↔ made.next = .failed) ∧
      (made.result.isSome = true → made.next = .succeeded) := by
  rcases hmade with rfl | ⟨-, hnext, hresult, hfailure⟩
  · rcases hasked with ⟨hnext, hresult, hfailure⟩ | ⟨hdispatched, hfailure⟩
    · simp [hnext, hresult, hfailure, invocationResourceState]
    · have hmem := hdispatched.next_mem hkind
      refine ⟨?_, ?_, (hdispatched hkind).2⟩
      · simp only [List.mem_cons, List.not_mem_nil, or_false] at hmem
        rcases hmem with h | h | h | h | h | h <;> rw [h] <;> exact ⟨_, rfl⟩
      · rw [hfailure]
        constructor
        · intro hsome
          cases hsome
        · intro hfailed
          rw [hfailed] at hmem
          simp at hmem
  · simp [hnext, hresult, hfailure, invocationResourceState]

end

/-! ### Invocations and operations across a call -/

/-- Each invocation operation has its invocation, whose row follows it; each invocation has its
operation. -/
structure Store.Linked (s : Store) : Prop where
  operations : ∀ key op, key.kind = .invocation → s.db.operations.lookup key = some op →
    ∃ row, s.db.invocations.lookup (key.resource op) = some row ∧ row.operationId = key.id ∧
      Follows (Repaired (s.rowHistory key)) op row
  invocations : ∀ key row, s.db.invocations.lookup key = some row →
    ∃ op, s.db.operations.lookup ⟨.invocation, key.isolationDomainId, row.operationId⟩ = some op ∧
      op.resourceId = key.id

namespace Store.Linked

variable {s t : Store}

lemma empty : Store.empty.Linked where
  operations := fun _ _ _ h => by cases h
  invocations := fun _ _ h => by cases h

/-- Nothing happened to the invocation operations and the invocations. -/
lemma of_eq (hs : s.Linked)
    (hoperations : ∀ key, key.kind = .invocation →
      t.db.operations.lookup key = s.db.operations.lookup key)
    (hhistory : ∀ key, key.kind = .invocation → t.rowHistory key = s.rowHistory key)
    (hinvocations : t.db.invocations = s.db.invocations) : t.Linked := by
  refine ⟨fun key op hkind hop => ?_, fun key row hrow => ?_⟩
  · rw [hoperations key hkind] at hop
    rw [hhistory key hkind, hinvocations]
    exact hs.operations key op hkind hop
  · rw [hinvocations] at hrow
    rw [hoperations _ rfl]
    exact hs.invocations key row hrow

lemma of_tables (hs : s.Linked) (hoperations : t.db.operations = s.db.operations)
    (hinvocations : t.db.invocations = s.db.invocations) (hhistory : t.history = s.history) :
    t.Linked := by
  refine hs.of_eq (fun key _ => by rw [hoperations]) (fun key _ => ?_) hinvocations
  simp only [rowHistory, hhistory]

lemma of_core (hs : s.Linked) (h : Core s t) : t.Linked :=
  hs.of_tables h.operations h.invocations h.history

variable {key : OperationKey}

/-- A change of a publication operation is none of an invocation. -/
lemma putRow_publication (hs : s.Linked) (hkind : key.kind = .publication) (change : RowCommit)
    (row : Operation) : (s.putRow key change row).Linked := by
  have hne : ∀ k : OperationKey, k.kind = .invocation → k ≠ key := by
    rintro k hk rfl
    cases hkind.symm.trans hk
  exact hs.of_eq (fun k hk => lookup_putRow_ne s change row (hne k hk))
    (fun k hk => rowHistory_putRow_ne s change row (hne k hk)) rfl

/-- Two operations of one invocation are one operation. -/
lemma key_unique (hs : s.Linked) {key k : OperationKey} {op o : Operation}
    (hkind : key.kind = .invocation) (hk : k.kind = .invocation)
    (hop : s.db.operations.lookup key = some op) (ho : s.db.operations.lookup k = some o)
    (hresource : k.resource o = key.resource op) : k = key := by
  obtain ⟨_, hrow, hid, -⟩ := hs.operations key op hkind hop
  obtain ⟨_, hr, hkid, -⟩ := hs.operations k o hk ho
  rw [hresource, hrow] at hr
  cases hr
  obtain ⟨_, _, _⟩ := key
  obtain ⟨_, _, _⟩ := k
  simp only [OperationKey.resource, ResourceKey.mk.injEq] at hresource
  simp only at hkind hk hid hkid
  rw [hkind, hk, hresource.1, ← hid, ← hkid]

/-- **One operation changes, with its invocation.**  Everything else stays linked. -/
lemma change (hs : s.Linked) {op op' : Operation} {row row' : InvocationRow}
    (hkind : key.kind = .invocation) (hop : s.db.operations.lookup key = some op)
    (hrow : s.db.invocations.lookup (key.resource op) = some row) (hid : row'.operationId = key.id)
    (hresource : op'.resourceId = op.resourceId) (hself : t.db.operations.lookup key = some op')
    (hothers : ∀ k, k ≠ key → t.db.operations.lookup k = s.db.operations.lookup k)
    (hrow' : t.db.invocations.lookup (key.resource op) = some row')
    (hrows : ∀ k, k ≠ key.resource op → t.db.invocations.lookup k = s.db.invocations.lookup k)
    (hhistory : ∀ k, k ≠ key → t.rowHistory k = s.rowHistory k)
    (hfollows : Follows (Repaired (t.rowHistory key)) op' row') : t.Linked := by
  refine ⟨fun k o hk ho => ?_, fun k r hr => ?_⟩
  · by_cases hkey : k = key
    · subst hkey
      obtain rfl : op' = o := Option.some.inj (hself.symm.trans ho)
      refine ⟨row', ?_, hid, hfollows⟩
      rw [OperationKey.resource, hresource]
      exact hrow'
    · rw [hothers k hkey] at ho
      have hne : k.resource o ≠ key.resource op := fun heq =>
        hkey (hs.key_unique hkind hk hop ho heq)
      rw [hrows _ hne, hhistory k hkey]
      exact hs.operations k o hk ho
  · by_cases hkey : k = key.resource op
    · subst hkey
      obtain rfl : row' = r := Option.some.inj (hrow'.symm.trans hr)
      refine ⟨op', ?_, hresource⟩
      rw [hid]
      obtain ⟨_, _, _⟩ := key
      simp only at hkind
      subst hkind
      exact hself
    · rw [hrows k hkey] at hr
      obtain ⟨o, ho, hoid⟩ := hs.invocations k r hr
      refine ⟨o, ?_, hoid⟩
      rw [hothers _ ?_, ho]
      intro heq
      rw [heq] at ho
      obtain rfl : op = o := Option.some.inj (hop.symm.trans ho)
      apply hkey
      rw [← heq, OperationKey.resource, hoid]

/-- A change of an operation that its invocation still follows. -/
lemma putRow_follows (hs : s.Linked) {op row : Operation} {change : RowCommit}
    (hop : s.db.operations.lookup key = some op) (hresource : row.resourceId = op.resourceId)
    (hfollows : ∀ invocation, Follows (Repaired (s.rowHistory key)) op invocation →
      Follows (Repaired (s.rowHistory key ++ [change])) row invocation) :
    (s.putRow key change row).Linked := by
  cases hkind : key.kind with
  | publication => exact hs.putRow_publication hkind change row
  | invocation =>
    obtain ⟨_, hinv, hid, hold⟩ := hs.operations key op hkind hop
    refine hs.change hkind hop hinv hid hresource (lookup_putRow_self s key change row)
      (fun k hk => lookup_putRow_ne s change row hk) hinv (fun k _ => rfl)
      (fun k hk => rowHistory_putRow_ne s change row hk) ?_
    rw [rowHistory_putRow_self]
    exact hfollows _ hold

/-- A change of an operation that keeps its observed state and its result asks nothing of the
invocation. -/
lemma putRow_same (hs : s.Linked) {op row : Operation} {change : RowCommit}
    (hop : s.db.operations.lookup key = some op) (hresource : row.resourceId = op.resourceId)
    (hstate : row.observedState = op.observedState) (hresult : row.terminalResult = op.terminalResult)
    (hrepair : ¬change.IsRepair) : (s.putRow key change row).Linked := by
  refine hs.putRow_follows hop hresource fun _ hfollows => ?_
  rw [repaired_concat_of_not hrepair]
  exact hfollows.of_observedState hstate hresult

/-- A repair of an operation, which no invocation follows. -/
lemma repaired (hs : s.Linked) {op row : Operation} {change : RowCommit}
    (hop : s.db.operations.lookup key = some op) (hresource : row.resourceId = op.resourceId)
    (hfailed : op.observedState = .failed) (hstate : row.observedState = .queued)
    (hresult : row.terminalResult = none) (hrepair : change.IsRepair) :
    (s.putRow key change row).Linked := by
  refine hs.putRow_follows hop hresource fun _ hfollows => ?_
  rw [repaired_concat, eq_true (Or.inr hrepair)]
  exact hfollows.repair hfailed hstate hresult

/-- A newly accepted invocation and its operation. -/
lemma acceptedInvocation (hs : s.Linked) {env : Environment} {m : Moment}
    {input : AcceptInvocationInput} (revisionId : String)
    (hinvocation : s.db.invocations.lookup ⟨input.isolationDomainId, input.id⟩ = none)
    (hoperation : s.db.operations.lookup (input.operationKey env) = none)
    (hhistory : s.rowHistory (input.operationKey env) = []) :
    ((s.putInvocation ⟨input.isolationDomainId, input.id⟩
        (input.row revisionId (input.operationKey env).id m.now)).putRow
      (input.operationKey env) (.accepted (input.operation m.now)) (input.operation m.now)).Linked := by
  set resource : ResourceKey := ⟨input.isolationDomainId, input.id⟩
  set row := input.row revisionId (input.operationKey env).id m.now
  set withRow := s.putInvocation resource row
  refine ⟨fun k o hk ho => ?_, fun k r hr => ?_⟩
  · by_cases hkey : k = input.operationKey env
    · subst hkey
      rw [lookup_putRow_self] at ho
      obtain rfl := Option.some.inj ho
      refine ⟨row, AList.lookup_insert _, rfl, ?_⟩
      rw [rowHistory_putRow_self]
      have hnot : ¬Repaired (withRow.rowHistory (input.operationKey env) ++
          [.accepted (input.operation m.now)]) := by
        rw [repaired_concat, show withRow.rowHistory _ = [] from hhistory]
        simp [Repaired, RowCommit.IsRepair]
      rw [eq_false hnot]
      exact ⟨.inl rfl, by simp [row, AcceptInvocationInput.row, AcceptInvocationInput.operation,
        Operation.queued, Invocation.isTerminal], by simp [row, AcceptInvocationInput.row,
        AcceptInvocationInput.operation, Operation.queued], fun h => (by cases h), rfl⟩
    · rw [lookup_putRow_ne _ _ _ hkey] at ho
      obtain ⟨r, hr, hid, hfollows⟩ := hs.operations k o hk ho
      have hne : k.resource o ≠ resource := by
        intro heq
        rw [heq, hinvocation] at hr
        cases hr
      rw [rowHistory_putRow_ne _ _ _ hkey]
      exact ⟨r, (AList.lookup_insert_ne hne).trans hr, hid, hfollows⟩
  · obtain ⟨rfl, rfl⟩ | hr' : (k = resource ∧ row = r) ∨ s.db.invocations.lookup k = some r :=
      Table.lookup_insert_cases hr
    · exact ⟨input.operation m.now, lookup_putRow_self _ _ _ _, rfl⟩
    · obtain ⟨o, ho, hoid⟩ := hs.invocations k r hr'
      refine ⟨o, ?_, hoid⟩
      rw [lookup_putRow_ne _ _ _ ?_]
      · exact ho
      · intro heq
        rw [heq, hoperation] at ho
        cases ho

/-- A transition of an operation, which its invocation follows. -/
lemma advanced (hs : s.Linked) {m : Moment} {claim : Claim}
    {transition made : Operation.Transition} {op row : Operation}
    (hop : s.db.operations.lookup claim.key = some op)
    (hresource : claim.resourceId = op.resourceId)
    (hallowed : canTransition claim.key.kind claim.observedState transition.next = true)
    (hasked : Asked claim transition) (hmade : MadeFrom claim transition made)
    (hupdate : op.advance claim m.now m.clock made = some row) :
    (s.advanced m claim made row).Linked := by
  cases hkind : claim.key.kind with
  | publication =>
    refine (hs.putRow_publication hkind (.advanced claim m.now m.clock made) row).of_eq
      (fun key _ => by rw [advanced_operations]) (fun key _ => rfl) ?_
    simp only [Store.advanced, Database.follow, hkind]
    split <;> rfl
  | invocation =>
    obtain ⟨inv, hinv, hid, hfollows⟩ := hs.operations claim.key op hkind hop
    obtain ⟨⟨state, hstate⟩, hfailure, hresult⟩ := made_of_asked hkind hasked hmade
    obtain ⟨⟨hobserved, -⟩, hchanged⟩ := Operation.advance_eq_some hupdate
    have hterminal := not_terminal_of_allowed hkind hasked hallowed
    rw [← hobserved] at hterminal
    have hclaim : claim.resource = claim.key.resource op := by
      rw [Claim.resource, OperationKey.resource, hresource]
    -- The invocations after the transition: the row behind the claim follows.
    have hrows : (s.advanced m claim made row).db.invocations =
        s.db.invocations.updateAt (claim.key.resource op)
          (InvocationRow.follow state made m.now) := by
      simp only [Store.advanced, Database.follow, hkind, hstate, hclaim]
      rfl
    have hself : (s.db.invocations.updateAt (claim.key.resource op)
        (InvocationRow.follow state made m.now)).lookup (claim.key.resource op) =
        some (inv.follow state made m.now) := by
      rw [Table.lookup_updateAt_self, hinv, Option.map_some]
    have hid' : (inv.follow state made m.now).operationId = claim.key.id := hid
    have hresource' : row.resourceId = op.resourceId := by rw [hchanged]
    refine hs.change hkind hop hinv hid' hresource' ?_ ?_ (hrows ▸ hself) ?_
      (fun k hk => rowHistory_putRow_ne s _ row hk) ?_
    · rw [advanced_operations]
      exact lookup_putRow_self s claim.key _ _
    · intro k hk
      rw [advanced_operations]
      exact lookup_putRow_ne s _ _ hk
    · intro k hk
      rw [hrows, Table.lookup_updateAt_ne _ _ hk]
    · rw [show (s.advanced m claim made row).rowHistory claim.key = _ from
        rowHistory_putRow_self s claim.key _ row, repaired_concat_of_not ?_]
      · exact hfollows.advance hterminal m.now (by rw [hchanged]) (by rw [hchanged]) hstate
          hfailure hresult
      · exact id

/-- A cancellation of an invocation and of its operation. -/
lemma cancelled (hs : s.Linked) {input : AcceptCancellationInput} {now : Time}
    {inv : InvocationRow} (hinv : s.db.invocations.lookup input.key = some inv)
    (hlive : inv.state ∉ [InvocationState.cancelled, .cancelling, .succeeded, .failed])
    (hrows : RowsChanged (input.change now) (operationsOf s.db input.key)
      (s.putInvocation input.key (inv.cancelling now)) t) : t.Linked := by
  -- The invocation has exactly one operation.
  obtain ⟨op, hop, hid⟩ := hs.invocations input.key inv hinv
  set key : OperationKey := ⟨.invocation, input.key.isolationDomainId, inv.operationId⟩
  have hresource : key.resource op = input.key := by rw [OperationKey.resource, hid]
  obtain ⟨row, hrow, -, hfollows⟩ := hs.operations key op rfl hop
  rw [hresource, hinv] at hrow
  obtain rfl : inv = row := Option.some.inj hrow
  have hmem : key ∈ operationsOf s.db input.key := mem_operationsOf.mpr ⟨op, hop, rfl, hresource⟩
  have hnot : ∀ k, k ≠ key → k ∉ operationsOf s.db input.key := by
    intro k hk hkmem
    obtain ⟨_, ho, hkind, hkresource⟩ := mem_operationsOf.mp hkmem
    exact hk (hs.key_unique rfl hkind hop ho (hkresource.trans hresource.symm))
  obtain ⟨op', happly, hself, hhistory⟩ := hrows.changed key hmem
  have hcancel : op' = op.cancel input.actorId input.correlationId now := by
    have hop' : (s.putInvocation input.key (inv.cancelling now)).db.operations.lookup key =
      some op := hop
    rw [hop'] at happly
    exact (Option.some.inj happly).symm
  have hinvocations : t.db.invocations =
      s.db.invocations.insert input.key (inv.cancelling now) := by rw [hrows.rest]; rfl
  have hinv' : s.db.invocations.lookup (key.resource op) = some inv := hresource ▸ hinv
  have hnew : t.db.invocations.lookup (key.resource op) = some (inv.cancelling now) := by
    rw [hresource, hinvocations, AList.lookup_insert]
  have hid' : (inv.cancelling now).operationId = key.id := rfl
  refine hs.change rfl hop hinv' hid' (by rw [hcancel]; rfl) hself
    (fun k hk => (hrows.unchanged k (hnot k hk)).1) hnew ?_
    (fun k hk => (hrows.unchanged k (hnot k hk)).2) ?_
  · intro k hk
    rw [hresource] at hk
    rw [hinvocations, AList.lookup_insert_ne hk]
  · rw [hhistory, repaired_concat_of_not ?_, hcancel]
    · exact hfollows.cancel hlive _ _ _
    · exact id

/-- **Every call keeps invocations and operations linked.** -/
lemma step {env : Environment} {sys : System} {call : Call} (hs : sys.store.Linked)
    (hrows : sys.store.RowsFollow) (hsource : System.Source sys call)
    (h : sys.store.step env call = some t) : t.Linked := by
  cases Store.step_did h with
  | quiet core => exact hs.of_core core
  | acceptedInvocation revisionId newInvocation _ newOperation core =>
    have hhistory := RowLife.eq_nil_of_row_eq_none (hrows _) newOperation
    exact (hs.acceptedInvocation revisionId newInvocation newOperation hhistory).of_core core
  | acceptedPublication _ _ core =>
    exact (hs.putRow_publication rfl _ _).of_core core
  | completed kind _ _ core => exact (hs.putRow_publication kind _ _).of_core core
  | chosen _ _ core | finished _ core | insertedEffect core | recordedEffect _ core =>
    exact hs.of_tables core.operations core.invocations core.history
  | @claimed statement _ _ _ _ found update core =>
    have hchanged := Operation.claim_eq_some update
    have hfinish : (sys.store.finish statement).Linked := hs.of_tables rfl rfl rfl
    exact (hfinish.putRow_same found (by rw [hchanged]) (by rw [hchanged]) (by rw [hchanged])
      id).of_core core
  | @renewed _ _ _ _ _ _ update core =>
    obtain ⟨_, hop, update⟩ := Store.exists_of_apply update id
    obtain ⟨-, hchanged⟩ := Operation.renew_eq_some update
    exact (hs.putRow_same hop (by rw [hchanged]) (by rw [hchanged]) (by rw [hchanged])
      id).of_core core
  | @advanced _ _ claim _ _ _ _ asked allowed _ madeFrom issued update core =>
    obtain ⟨_, hop, update⟩ := Store.exists_of_apply update id
    have hresource := RowLife.resourceId_of_issued (hrows claim.key) hop issued
    exact (hs.advanced hop hresource allowed (hsource.dispatched asked) madeFrom update).of_core core
  | @retried _ _ _ _ _ _ _ _ update core =>
    obtain ⟨_, hop, update⟩ := Store.exists_of_apply update id
    obtain ⟨-, hchanged⟩ := Operation.scheduleRetry_eq_some update
    exact (hs.putRow_same hop (by rw [hchanged]) (by rw [hchanged]) (by rw [hchanged])
      id).of_core core
  | cancelled found live rows core => exact (hs.cancelled found live rows).of_core core
  | @repaired m input _ _ update core =>
    obtain ⟨_, hop, update⟩ := Store.exists_of_apply update id
    obtain ⟨hfailed, hchanged⟩ := Operation.repair_eq_some update
    have hrepair : (input.change m.now).IsRepair := trivial
    exact (hs.repaired hop (by rw [hchanged]) hfailed (by rw [hchanged]) (by rw [hchanged])
      hrepair).of_core core

end Store.Linked

/-! ### The theorem -/

lemma System.run_linked {env : Environment} {events : List Event} {sys : System}
    (h : Run.run (System.step env) System.initial events = some sys) : sys.store.Linked := by
  refine (Run.run_invariant (P := fun sys => sys.Sound ∧ sys.store.Linked) ?_
    ⟨sound_initial, .empty⟩ h).2
  rintro sys event sys' ⟨hsound, hlinked⟩ hstep
  refine ⟨hsound.step hstep, ?_⟩
  obtain hsame | ⟨call, hsource, hcall⟩ := System.step_store hsound.obedient hstep
  · exact hsame ▸ hlinked
  · exact hlinked.step hsound.rowsFollow hsource hcall

/-- **When an invocation agrees with its operation.**  In every system that any interleaving of
workers and callers leads to, an invocation has its operation; and their rows agree -- in state,
completion, error and result -- exactly if no repair of the operation was ever committed, or the
operation has failed again. -/
theorem invocation_agrees_iff (env : Environment) (events : List Event) (sys : System)
    (h : Run.run (System.step env) System.initial events = some sys) (key : ResourceKey)
    (row : InvocationRow) (hrow : sys.store.db.invocations.lookup key = some row) :
    ∃ op, sys.store.db.operations.lookup
        ⟨.invocation, key.isolationDomainId, row.operationId⟩ = some op ∧ op.resourceId = key.id ∧
      (Agrees op row ↔
        (∀ change ∈ sys.store.rowHistory ⟨.invocation, key.isolationDomainId, row.operationId⟩,
          ¬change.IsRepair) ∨ op.observedState = .failed) := by
  have hlinked := System.run_linked h
  obtain ⟨op, hop, hid⟩ := hlinked.invocations key row hrow
  obtain ⟨found, hfound, -, hfollows⟩ := hlinked.operations _ op rfl hop
  rw [OperationKey.resource, hid, hrow] at hfound
  obtain rfl : row = found := Option.some.inj hfound
  refine ⟨op, hop, hid, ?_⟩
  rw [hfollows.agrees_iff, Repaired]
  simp only [not_exists, not_and]

namespace Scenario

/-- A worker takes the operation at its deadline, and it fails. -/
def expired : List Event :=
  taking 0 "one" 1000 ++ [stored 0 1001 "audit-1", .finish 0]

/-- An operator repairs the operation. -/
def repairedOnce : List Event :=
  [.call (.repairOperation ⟨1002, 1002, "audit-2"⟩ ⟨key, "operator", "retry it", "repair-1", 2000⟩)]

end Scenario

open Scenario

/-- An invocation whose operation expired agrees with it. -/
theorem invocation_agrees_expired : ∃ sys op row,
    Run.run (System.step env) System.initial
      (accepted.map .call ++ expired) = some sys ∧
    sys.store.db.invocations.lookup ⟨"iso", "inv"⟩ = some row ∧
    sys.store.db.operations.lookup ⟨.invocation, "iso", row.operationId⟩ = some op ∧
    op.observedState = .failed ∧ Agrees op row := by
  obtain ⟨sys, hsys, op, hop, row, hrow, hid, hfailed⟩ : ∃ sys,
      Run.run (System.step env) System.initial (accepted.map .call ++ expired) = some sys ∧
      ∃ op, sys.store.db.operations.lookup key = some op ∧
      ∃ row, sys.store.db.invocations.lookup ⟨"iso", "inv"⟩ = some row ∧
      row.operationId = key.id ∧ op.observedState = .failed := by
    decide +kernel
  obtain ⟨found, hfound, -, hagrees⟩ := invocation_agrees_iff env _ sys hsys _ row hrow
  have hsame : found = op := by
    rw [hid] at hfound
    exact Option.some.inj (hfound.symm.trans hop)
  subst hsame
  exact ⟨sys, found, row, hsys, hrow, hfound, hfailed, hagrees.mpr (.inr hfailed)⟩

/-- **A repaired operation leaves its invocation behind.**  The operation is queued again; the
invocation is still failed, with the error and the completion of the failure. -/
theorem invocation_of_repaired_operation : ∃ sys op row,
    Run.run (System.step env) System.initial
      (accepted.map .call ++ expired ++ repairedOnce) = some sys ∧
    sys.store.db.operations.lookup Scenario.key = some op ∧
    sys.store.db.invocations.lookup ⟨"iso", "inv"⟩ = some row ∧
    op.observedState = .queued ∧ row.state = .failed ∧ ¬Agrees op row := by
  obtain ⟨sys, hsys, op, hop, row, hrow, hop', hrow'⟩ : ∃ sys,
      Run.run (System.step env) System.initial
        (accepted.map .call ++ expired ++ repairedOnce) = some sys ∧
      ∃ op, sys.store.db.operations.lookup key = some op ∧
      ∃ row, sys.store.db.invocations.lookup ⟨"iso", "inv"⟩ = some row ∧
      op.observedState = .queued ∧ row.state = .failed := by
    decide +kernel
  refine ⟨sys, op, row, hsys, hop, hrow, hop', hrow', fun hagrees => ?_⟩
  have hstate := hagrees.state
  rw [hop', hrow'] at hstate
  cases hstate

end DataGround
