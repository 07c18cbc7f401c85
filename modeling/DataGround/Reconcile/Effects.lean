import DataGround.Reconcile.Cancellation
import DataGround.Reconcile.Records

/-!
# Records of effects

Preparing the record of an effect checks the lease, recording what came of it does not: a worker
whose lease is long lost may still overwrite the record (`late_record`).

What holds is proved under a condition on the steps of a run (`EffectSafe`): a worker records
while its claim is still the lease of the row, a driver that is asked to observe an effect
already recorded as succeeded reports the recorded observation, and no two operations share an
effect identifier.  Then a record once succeeded with an observation stays so (`effect_settled`).

`System.Guarded` is the invariant: every worker that has its lease will record only what it may
(`Records`), and no two workers have the same claim.
-/

namespace DataGround

open Reconciler

/-! ### Settled effects and leases across a call -/

namespace Store

variable {env : Environment} {s t : Store} {call : Call} {claim : Claim}

/-- The observation with which an effect is recorded as succeeded. -/
def settled (s : Store) (key : ResourceKey) : Option Json :=
  (s.db.effects.lookup key).bind Effect.settled

/-- The claim is the lease of its row, expired or not. -/
def HeldFor (s : Store) (claim : Claim) : Prop :=
  ∃ op ∈ s.db.operations.lookup claim.key,
    op.leaseOwner = some claim.leaseOwner ∧ op.leaseToken = claim.fencingToken

instance (s : Store) (claim : Claim) : Decidable (s.HeldFor claim) :=
  inferInstanceAs (Decidable (∃ op ∈ s.db.operations.lookup claim.key,
    op.leaseOwner = some claim.leaseOwner ∧ op.leaseToken = claim.fencingToken))

/-- The row of the claim has come as far as its token. -/
def Reached (s : Store) (claim : Claim) : Prop :=
  ∃ op, s.db.operations.lookup claim.key = some op ∧ claim.fencingToken ≤ op.leaseToken

lemma step_effects (h : s.step env call = some t) :
    t.db.effects = s.db.effects ∨
      (∃ m claim phase digest, call = .insertEffect m claim phase digest ∧
        t.db.effects = s.db.effects.insertIfAbsent (claim.effectKey env phase)
          (.prepared claim phase digest m.now)) ∨
      ∃ m key status observation errorCode, ∃ effect : Effect,
        call = .recordEffect m key status observation errorCode ∧
        t.db.effects = s.db.effects.insert key (effect.record status observation errorCode m.now) := by
  cases step_did h with
  | quiet core | acceptedInvocation _ _ _ _ core | acceptedPublication _ _ core
  | completed _ _ _ core | chosen _ _ core | finished _ core | claimed _ _ _ core
  | renewed _ _ core | retried _ _ core | repaired _ core => exact .inl core.effects
  | @advanced _ _ _ _ _ _ _ _ _ _ _ _ _ core =>
    refine .inl (core.effects.trans ?_)
    simp only [Store.advanced, Database.follow]
    split
    · split <;> rfl
    · split <;> rfl
  | cancelled _ _ rows core =>
    refine .inl (core.effects.trans ?_)
    rw [rows.rest]
    rfl
  | insertedEffect core => exact .inr (.inl ⟨_, _, _, _, rfl, core.effects⟩)
  | recordedEffect _ core => exact .inr (.inr ⟨_, _, _, _, _, _, rfl, core.effects⟩)

/-- **Only `RecordEffect` settles an effect or unsettles it.** -/
lemma settled_step (h : s.step env call = some t) :
    t.settled = s.settled ∨ ∃ m key status observation errorCode,
      call = .recordEffect m key status observation errorCode ∧
      t.settled key = (if status = .succeeded then observation else none) ∧
      ∀ k ≠ key, t.settled k = s.settled k := by
  obtain hsame | ⟨m, claim, phase, digest, -, hinsert⟩ |
    ⟨m, key, status, observation, errorCode, effect, rfl, hrecord⟩ := step_effects h
  · refine .inl (funext fun key => ?_)
    simp only [settled, hsame]
  · refine .inl (funext fun key => ?_)
    simp only [settled, hinsert, Table.insertIfAbsent]
    split
    · rfl
    · rename_i habsent
      by_cases hkey : key = claim.effectKey env phase
      · -- The new record is only prepared.
        subst hkey
        rw [AList.lookup_insert, AList.lookup_eq_none.mpr habsent]
        rfl
      · rw [AList.lookup_insert_ne hkey]
  · refine .inr ⟨m, key, status, observation, errorCode, rfl, ?_, fun k hk => ?_⟩
    · simp only [settled, hrecord, AList.lookup_insert]
      rfl
    · simp only [settled, hrecord, AList.lookup_insert_ne hk]

end Store

/-- What a call does to the lease of a row: a claim takes the next token, anything else at most
ends the lease. -/
lemma RowStep.lease {env : Environment} {s : Store} {call : Call} {key : OperationKey}
    {op row : Operation} (h : RowStep env s call key op row) :
    (row.leaseToken = op.leaseToken ∧ (row.leaseOwner = op.leaseOwner ∨ row.leaseOwner = none)) ∨
      row.leaseToken = op.leaseToken + 1 := by
  obtain rfl | ⟨_, hchange⟩ := h.committed
  · exact .inl ⟨rfl, .inl rfl⟩
  · exact hchange.keeps.2.1

namespace Store

variable {env : Environment} {s t : Store} {call : Call} {claim : Claim}

lemma Reached.step (hreached : s.Reached claim) (h : s.step env call = some t) :
    t.Reached claim := by
  obtain ⟨_, hop, _⟩ := hreached
  obtain ⟨row, hrow, hstep⟩ := step_row h hop
  refine ⟨row, hrow, ?_⟩
  rcases hstep.lease with ⟨htoken, -⟩ | htoken <;> omega

/-- A lease that is lost is not won back. -/
lemma HeldFor.before (hheld : t.HeldFor claim) (hreached : s.Reached claim)
    (h : s.step env call = some t) : s.HeldFor claim := by
  obtain ⟨op, hop, _⟩ := hreached
  obtain ⟨row, hrow, hstep⟩ := step_row h hop
  obtain ⟨row', hrow', howner, htoken'⟩ := hheld
  obtain rfl : row = row' := Option.some.inj (hrow.symm.trans hrow')
  refine ⟨op, hop, ?_⟩
  rcases hstep.lease with ⟨htoken, hsame | hnone⟩ | htoken
  · exact ⟨hsame.symm.trans howner, htoken.symm.trans htoken'⟩
  · cases hnone.symm.trans howner
  · omega

end Store

/-! ### The condition on the steps -/

/-- The keys of the records of the effects of an operation. -/
def OperationKey.effectKeys (env : Environment) (key : OperationKey) : List ResourceKey :=
  [.publishRevision, .cancelPublication, .startInvocation, .runInvocation,
    .cancelInvocation].map (key.effectKey env)

lemma OperationKey.effectKey_mem (env : Environment) (key : OperationKey) (phase : Phase) :
    key.effectKey env phase ∈ key.effectKeys env := by
  cases phase <;> simp [effectKeys]

/-- The observation that an answer reports. -/
def Answer.reports : Answer → Option Json
  | .observed (.ok (some (some observation))) => some observation
  | _ => none

section

variable (env : Environment) (s : Store) (answer : Answer)

/-- The condition on the answer to a request.  A worker records an effect only while its claim is
the lease of its row, and under an identifier that no other operation has; a driver that observes
a settled effect reports what is recorded. -/
def Request.Safe (claim : Claim) : Request → Prop
  | .recordEffect key _ _ _ => s.HeldFor claim ∧
      ∀ other ∈ s.db.operations.keys, other ≠ claim.key → key ∉ other.effectKeys env
  | .observe _ effect => ∀ observation ∈ s.settled effect.key, answer.reports = some observation
  | _ => True

instance Request.Safe.decidable (claim : Claim) :
    (request : Request) → Decidable (request.Safe env s answer claim)
  | .recordEffect key _ _ _ => inferInstanceAs (Decidable (s.HeldFor claim ∧
      ∀ other ∈ s.db.operations.keys, other ≠ claim.key → key ∉ other.effectKeys env))
  | .observe _ effect => inferInstanceAs (Decidable
      (∀ observation ∈ s.settled effect.key, answer.reports = some observation))
  | .now | .advance _ _ _ | .fail _ _ | .scheduleRetry _ _ _ _ | .verifyEffectLease _
  | .insertEffect _ _ _ | .apply _ _ | .publish _ => isTrue trivial

/-- The condition on an answer to a worker. -/
def Task.Safe : Task → Prop
  | .running claim (.request request _) => request.Safe env s answer claim
  | _ => True

instance Task.Safe.decidable : (task : Task) → Decidable (task.Safe env s answer)
  | .running claim (.request request _) =>
    inferInstanceAs (Decidable (request.Safe env s answer claim))
  | .running _ (.done _) | .claiming _ | .idle => isTrue trivial

end

/-- The condition on one event. -/
def EffectSafe (env : Environment) (sys : System) : Event → Prop
  | .answer worker answer => (sys.tasks worker).Safe env sys.store answer
  | _ => True

instance EffectSafe.decidable (env : Environment) (sys : System) :
    (event : Event) → Decidable (EffectSafe env sys event)
  | .answer worker answer =>
    inferInstanceAs (Decidable ((sys.tasks worker).Safe env sys.store answer))
  | .call _ | .choose _ _ | .lease _ _ _ | .finish _ | .crash _ => isTrue trivial

section

variable {env : Environment}

/-- A driver that reports an observation has replied with it. -/
lemma serve_reports {s t : Store} {claim : Claim} {effect : EffectRecord} {answer : Answer}
    {reply : (Request.observe claim effect).Reply} {observation : Json}
    (h : serve env s (.observe claim effect) answer = some (reply, t))
    (hreports : answer.reports = some observation) : reply = .ok (some (some observation)) := by
  unfold Answer.reports at hreports
  split at hreports
  · cases hreports
    cases h
    rfl
  · cases hreports

/-! ### What the workers have to keep to -/

/-- A running worker over a store: it records at most once, its row has come as far as its token,
and as long as it has the lease, it records only what it may. -/
structure Guards (env : Environment) (s : Store) (claim : Claim)
    (rest : Worker (Except RunError Unit)) : Prop where
  once : rest.Once Request.IsRecord
  reached : s.Reached claim
  records : s.HeldFor claim → Records env claim s.settled rest

variable {rest : Worker (Except RunError Unit)}

/-- A call of somebody else, which settles nothing of this operation. -/
lemma Guards.step {s t : Store} {call : Call} {claim : Claim} (hguards : Guards env s claim rest)
    (h : s.step env call = some t)
    (hextends : ∀ key observation, s.settled key = some observation →
      t.settled key = some observation)
    (hown : s.HeldFor claim → ∀ phase,
      t.settled (claim.effectKey env phase) = s.settled (claim.effectKey env phase)) :
    Guards env t claim rest where
  once := hguards.once
  reached := hguards.reached.step h
  records hheld := by
    have hbefore := hheld.before hguards.reached h
    exact (hguards.records hbefore).extend hextends (hown hbefore)

/-- A call of somebody else that settles nothing at all. -/
lemma Guards.quiet {s t : Store} {call : Call} {claim : Claim} (hguards : Guards env s claim rest)
    (h : s.step env call = some t) (hsame : t.settled = s.settled) : Guards env t claim rest :=
  hguards.step h (fun _ _ hsettled => hsame ▸ hsettled) fun _ _ => congrFun hsame _

/-- Every worker keeps to its guards, and no two workers have the same claim. -/
structure System.Guarded (env : Environment) (sys : System) : Prop where
  guards : ∀ worker claim rest, sys.tasks worker = .running claim rest →
    Guards env sys.store claim rest
  unique : ∀ worker worker' claim claim' rest rest', sys.tasks worker = .running claim rest →
    sys.tasks worker' = .running claim' rest' → claim.key = claim'.key →
    claim.fencingToken = claim'.fencingToken → worker = worker'

namespace System

variable {claim : Claim}

/-- The replies to a worker are truthful. -/
lemma truthful {s t : Store} {request : Request} {answer : Answer} {reply : request.Reply}
    (hsanctioned : Sanctioned claim request) (hsafe : request.Safe env s answer claim)
    (hsame : t.settled = s.settled) (h : serve env s request answer = some (reply, t)) :
    Truthful env claim s.settled request reply := by
  cases request with
  | insertEffect c phase =>
    obtain rfl : c = claim := hsanctioned
    rintro record rfl
    cases answer with
    | store =>
      obtain ⟨-, _, herror⟩ | ⟨_, hmethod, hreply | ⟨_, herror⟩⟩ :=
        deliver_eq (Option.some.inj h)
      · cases herror
      · cases hreply
        obtain ⟨hkey, ⟨_, hlookup, hdecoded⟩, -⟩ := insertEffect_eq_ok hmethod
        refine ⟨⟨phase, hkey⟩, fun observation hsettled => ?_⟩
        rw [← hsame, Store.settled, hlookup, Option.bind_some, Effect.settled] at hsettled
        rw [Effect.status_of_decoded hdecoded]
        exact (Option.ite_none_right_eq_some.mp hsettled).1
      · cases herror
    | _ => cases h
  | observe => exact fun observation hsettled => serve_reports h (hsafe observation hsettled)
  | _ => trivial

/-- A worker that has its reply, if that settles nothing. -/
lemma Guards.answered {s t : Store} {request : Request} {answer : Answer}
    {next : request.Reply → Worker (Except RunError Unit)} {reply : request.Reply}
    (hguards : Guards env s claim (.request request next)) (hsanctioned : Sanctioned claim request)
    (hsafe : request.Safe env s answer claim) (hsame : t.settled = s.settled)
    (h : serve env s request answer = some (reply, t)) : Guards env t claim (next reply) := by
  have hnext : Guards env s claim (next reply) :=
    ⟨hguards.once.2 reply, hguards.reached, fun hheld =>
      (hguards.records hheld).2 reply (truthful hsanctioned hsafe hsame h)⟩
  obtain rfl | ⟨call, -, hcall⟩ := serve_store h
  · exact hnext
  · exact hnext.quiet hcall hsame

variable {sys sys' : System} {t : Store} {worker : Nat}

lemma guarded_initial : initial.Guarded env where
  guards worker claim rest h := by cases h
  unique worker worker' claim claim' rest rest' h := by cases h

/-- One worker has another task over another store. -/
lemma Guarded.update (hsys : sys.Guarded env) {task : Task}
    (hothers : ∀ w claim rest, w ≠ worker → sys.tasks w = .running claim rest →
      Guards env t claim rest)
    (htask : ∀ claim rest, task = .running claim rest → Guards env t claim rest ∧
      ∀ w claim' rest', w ≠ worker → sys.tasks w = .running claim' rest' →
        claim.key = claim'.key → claim.fencingToken ≠ claim'.fencingToken) :
    Guarded env ⟨t, Function.update sys.tasks worker task⟩ where
  guards w claim rest h := by
    obtain ⟨-, hnew⟩ | ⟨hw, hold⟩ := running_update h
    · exact (htask claim rest hnew).1
    · exact hothers w claim rest hw hold
  unique w w' claim claim' rest rest' h h' hkey htoken := by
    obtain ⟨rfl, hnew⟩ | ⟨hw, hold⟩ := running_update h <;>
      obtain ⟨rfl, hnew'⟩ | ⟨hw', hold'⟩ := running_update h'
    · rfl
    · exact ((htask claim rest hnew).2 w' claim' rest' hw' hold' hkey htoken).elim
    · exact ((htask claim' rest' hnew').2 w claim rest hw hold hkey.symm htoken.symm).elim
    · exact hsys.unique w w' claim claim' rest rest' hold hold' hkey htoken

/-- One worker stops, or goes on, without anything being settled. -/
lemma Guarded.quiet (hsys : sys.Guarded env)
    (hstore : t = sys.store ∨ ∃ call, sys.store.step env call = some t)
    (hsame : t.settled = sys.store.settled) {w : Nat} (h : sys.tasks w = .running claim rest)
    : Guards env t claim rest := by
  obtain rfl | ⟨call, hcall⟩ := hstore
  · exact hsys.guards w claim rest h
  · exact (hsys.guards w claim rest h).quiet hcall hsame

/-- The claim of a worker that goes on is its own. -/
lemma Guarded.unshared (hsys : sys.Guarded env) (h : sys.tasks worker = .running claim rest)
    (w : Nat) (claim' : Claim) (rest' : Worker (Except RunError Unit)) (hw : w ≠ worker)
    (h' : sys.tasks w = .running claim' rest') (hkey : claim.key = claim'.key) :
    claim.fencingToken ≠ claim'.fencingToken := fun htoken =>
  hw (hsys.unique worker w claim claim' rest rest' h h' hkey htoken).symm

/-- **A worker takes an operation.**  Its token is greater than all others of the row. -/
lemma Guarded.leased (hsys : sys.Guarded env) {statement : ClaimStatement} {drivers : Drivers}
    {delivery : Delivery} {reply : Except RepositoryError (Option Claim)}
    (hstore : t = sys.store ∨ ∃ call, sys.store.step env call = some t)
    (hsame : t.settled = sys.store.settled)
    (h : deliver (Repository.claimUpdate statement) delivery sys.store = (reply, t)) :
    Guarded env ⟨t, Function.update sys.tasks worker (.afterLease env drivers reply)⟩ := by
  refine hsys.update (fun w claim rest _ hw => hsys.quiet hstore hsame hw) fun claim rest htask => ?_
  unfold Task.afterLease at htask
  split at htask
  · cases htask
    obtain ⟨-, _, herror⟩ | ⟨_, hmethod, hreply | ⟨_, herror⟩⟩ := deliver_eq h
    · cases herror
    · cases hreply
      obtain ⟨-, ⟨hnone, -⟩ | ⟨_, row, hop, hclaim, hresult, rfl⟩⟩ := claimUpdate_eq_ok hmethod
      · cases hnone
      · cases hresult
        have hrow := Operation.claim_eq_some hclaim
        have hworker : RecordsOnce env
            (row.toClaim statement.candidate statement.request.workerId) sys.store.settled
            (runOne env drivers (row.toClaim statement.candidate statement.request.workerId)) :=
          .runOne drivers
        refine ⟨⟨hworker.once, ⟨row, Store.lookup_putRow_self _ _ _ _, le_rfl⟩, fun _ => ?_⟩,
          fun w claim' rest' _ hw hkey htoken => ?_⟩
        · rw [hsame]
          exact hworker.records
        · obtain ⟨_, hop', hle⟩ := (hsys.guards w claim' rest' hw).reached
          rw [← hkey] at hop'
          cases hop.symm.trans hop'
          rw [← htoken] at hle
          simp only [Operation.toClaim, hrow] at hle
          omega
    · cases herror
  · cases htask

/-- **A worker records an effect.**  If it was settled, it is recorded the same again; and the
effect is of no other operation that is leased. -/
lemma Guarded.recorded (hsys : sys.Guarded env) {m : Moment} {key : ResourceKey}
    {status : EffectStatus} {observation : Option Json} {errorCode : String}
    {next : Except RepositoryError Unit → Worker (Except RunError Unit)}
    {reply : Except RepositoryError Unit} (htask : sys.tasks worker =
      .running claim (.request (.recordEffect key status observation errorCode) next))
    (hheld : sys.store.HeldFor claim)
    (hdistinct : ∀ other ∈ sys.store.db.operations.keys, other ≠ claim.key →
      key ∉ other.effectKeys env)
    (hcall : sys.store.step env (.recordEffect m key status observation errorCode) = some t)
    (hkey : t.settled key = if status = .succeeded then observation else none)
    (hrest : ∀ k ≠ key, t.settled k = sys.store.settled k) :
    Guarded env ⟨t, Function.update sys.tasks worker (.running claim (next reply))⟩ ∧
      ∀ k o, sys.store.settled k = some o → t.settled k = some o := by
  have hguards := hsys.guards worker claim _ htask
  have hextends : ∀ k o, sys.store.settled k = some o → t.settled k = some o := by
    intro k o hsettled
    by_cases hk : k = key
    · subst hk
      obtain ⟨hstatus, hobservation⟩ := (hguards.records hheld).1.2 o hsettled
      rw [hkey, if_pos hstatus, hobservation]
    · rw [hrest k hk, hsettled]
  refine ⟨hsys.update (fun w claim' rest hw hw' => ?_) fun claim' rest hnew => ?_, hextends⟩
  · refine (hsys.guards w claim' rest hw').step hcall hextends fun hheld' phase => hrest _ ?_
    rintro rfl
    obtain ⟨_, hop, -, htoken⟩ := hheld
    obtain ⟨_, hop', -, htoken'⟩ := hheld'
    -- Two holders of the lease of one row would have the same token.
    have hother : claim'.key ≠ claim.key := by
      intro hsame
      rw [hsame] at hop'
      cases hop.symm.trans hop'
      exact hsys.unshared htask w claim' rest hw hw' hsame.symm (htoken.symm.trans htoken')
    refine hdistinct claim'.key ?_ hother (claim'.key.effectKey_mem env phase)
    exact AList.mem_keys.mp (Table.mem_of_lookup hop')
  · cases hnew
    have hnever := hguards.once.1 trivial reply
    exact ⟨⟨hnever.once, hguards.reached.step hcall, fun _ => .of_never hnever⟩,
      hsys.unshared htask⟩

/-- **One event keeps the workers to their guards, and settled effects settled.** -/
lemma Guarded.step {event : Event} (hsys : sys.Guarded env) (hobedient : sys.Obedient)
    (hsafe : EffectSafe env sys event) (h : sys.step env event = some sys') :
    sys'.Guarded env ∧
      ∀ key o, sys.store.settled key = some o → sys'.store.settled key = some o := by
  -- A call that is no `RecordEffect` settles nothing.
  have hquiet : ∀ {call : Call} {t : Store}, sys.store.step env call = some t →
      (∀ m key status observation errorCode,
        call ≠ .recordEffect m key status observation errorCode) →
      t.settled = sys.store.settled := by
    intro call t hcall hne
    obtain hsame | ⟨m, key, status, observation, errorCode, heq, -⟩ := Store.settled_step hcall
    · exact hsame
    · exact (hne m key status observation errorCode heq).elim
  cases step_moved h with
  | @called call _ external hcall =>
    have hsame := hquiet hcall fun m key status observation errorCode heq => by
      rw [heq] at external
      cases external
    refine ⟨⟨fun w claim rest hw => hsys.quiet (.inr ⟨call, hcall⟩) hsame hw, hsys.unique⟩, ?_⟩
    exact fun key o hsettled => hsame ▸ hsettled
  | @chose _ _ _ _ hcall waits =>
    have hsame := hquiet hcall fun m key status observation errorCode heq => by cases heq
    refine ⟨hsys.update (fun w claim rest _ hw => hsys.quiet (.inr ⟨_, hcall⟩) hsame hw)
      fun claim rest htask => (waits claim rest htask).elim, ?_⟩
    exact fun key o hsettled => hsame ▸ hsettled
  | @leased _ _ _ statement _ t _ delivered =>
    have hstore : t = sys.store ∨ sys.store.step env (.claimUpdate statement) = some t := by
      refine step_of_deliver (fun claim r hupdate => ?_) delivered
      exact Store.step_eq_some.mpr ⟨(), Transaction.bind_eq_ok.mpr ⟨claim, r, hupdate, rfl⟩⟩
    have hsame : t.settled = sys.store.settled := by
      obtain rfl | hcall := hstore
      · rfl
      · exact hquiet hcall fun m key status observation errorCode heq => by cases heq
    refine ⟨hsys.leased (hstore.imp_right fun hcall => ⟨_, hcall⟩) hsame delivered, ?_⟩
    exact fun key o hsettled => hsame ▸ hsettled
  | @answered worker answer claim request next reply t task served =>
    have hsanctioned := (hobedient worker claim _ task).1
    have hrequest : request.Safe env sys.store answer claim := by
      have : (sys.tasks worker).Safe env sys.store answer := hsafe
      rw [task] at this
      exact this
    have hon : t = sys.store ∨ (∃ call, sys.store.step env call = some t) →
        t.settled = sys.store.settled →
        Guarded env ⟨t, Function.update sys.tasks worker (.running claim (next reply))⟩ ∧
          ∀ key o, sys.store.settled key = some o → t.settled key = some o := by
      intro hstore hsame
      refine ⟨hsys.update (fun w claim' rest _ hw => hsys.quiet hstore hsame hw)
        fun claim' rest hnew => ?_, fun key o hsettled => hsame ▸ hsettled⟩
      cases hnew
      exact ⟨Guards.answered (hsys.guards worker claim _ task) hsanctioned hrequest hsame served,
        hsys.unshared task⟩
    obtain hstore | ⟨call, hmakes, hcall⟩ := serve_store served
    · exact hon (.inl hstore) (congrArg Store.settled hstore)
    · obtain hsame | ⟨m, key, status, observation, errorCode, rfl, hkey, hrest⟩ :=
        Store.settled_step hcall
      · exact hon (.inr ⟨call, hcall⟩) hsame
      · cases hmakes
        exact hsys.recorded task hrequest.1 hrequest.2 hcall hkey hrest
  | stopped =>
    refine ⟨hsys.update (fun w claim rest _ hw => hsys.guards w claim rest hw)
      fun claim rest htask => ?_, fun key o hsettled => hsettled⟩
    cases htask

end System

/-! ### Whole runs -/

/-- Sound workers that keep to their guards do so along every safe run, and every effect stays
settled as it is. -/
lemma System.run_guarded {sys sys' : System} {events : List Event} (hsound : sys.Sound)
    (hsys : sys.Guarded env) (hsafe : Run.Along (System.step env) (EffectSafe env) sys events)
    (h : Run.run (System.step env) sys events = some sys') :
    (sys'.Sound ∧ sys'.Guarded env) ∧
      ∀ key o, sys.store.settled key = some o → sys'.store.settled key = some o := by
  refine Run.run_invariant_along (C := EffectSafe env)
    (P := fun later => (later.Sound ∧ later.Guarded env) ∧
      ∀ key o, sys.store.settled key = some o → later.store.settled key = some o)
    ?_ ⟨⟨hsound, hsys⟩, fun key o hsettled => hsettled⟩ hsafe h
  rintro before event after ⟨⟨hsound, hguarded⟩, hextends⟩ hevent hstep
  obtain ⟨hguarded', hextends'⟩ := hguarded.step hsound.obedient hevent hstep
  exact ⟨⟨hsound.step hstep, hguarded'⟩, fun key o hsettled =>
    hextends' key o (hextends key o hsettled)⟩

end

/-- **Settled effects stay settled.**  Let all steps of a run be safe: workers record effects only
while their claim is the lease of its row and under identifiers of their operation alone, and
drivers observe a settled effect as it is recorded.  Then an effect record that is succeeded with
an observation at some point of the run is succeeded with that observation ever after. -/
theorem effect_settled (env : Environment) (before after : List Event) (sys sys' : System)
    (hbefore : Run.run (System.step env) System.initial before = some sys)
    (hafter : Run.run (System.step env) sys after = some sys')
    (hsafe : Run.Along (System.step env) (EffectSafe env) System.initial (before ++ after))
    (key : ResourceKey) (effect : Effect)
    (heffect : sys.store.db.effects.lookup key = some effect)
    (hstatus : effect.status = .succeeded) (observation : Json)
    (hobservation : effect.observation = some observation) :
    ∃ effect', sys'.store.db.effects.lookup key = some effect' ∧
      effect'.status = .succeeded ∧ effect'.observation = some observation := by
  obtain ⟨hsafeBefore, hsafeAfter⟩ := hsafe.split hbefore
  obtain ⟨⟨hsound, hguarded⟩, -⟩ :=
    System.run_guarded System.sound_initial System.guarded_initial hsafeBefore hbefore
  obtain ⟨-, hextends⟩ := System.run_guarded hsound hguarded hsafeAfter hafter
  have hsettled : sys.store.settled key = some observation := by
    rw [Store.settled, heffect, Option.bind_some, Effect.settled, if_pos hstatus, hobservation]
  obtain ⟨effect', heffect', hlater⟩ := Option.bind_eq_some_iff.mp (hextends key _ hsettled)
  unfold Effect.settled at hlater
  split at hlater
  · rename_i hstatus'
    exact ⟨effect', heffect', hstatus', hlater⟩
  · cases hlater

namespace Scenario

/-- The invocation is accepted, and a first worker starts it. -/
def starting : List Event :=
  accepted.map .call ++ taking 0 "one" 1 ++ [stored 0 2 "audit-1", .finish 0]

/-- A worker takes the operation at `now` and has the start of the invocation observed. -/
def observing (worker : Nat) (workerId : String) (now : Time)
    (reply : Except EffectError (Option (Option Json))) : List Event :=
  taking worker workerId now ++
    [stored worker (now + 1) "", stored worker (now + 2) "", .answer worker (.observed reply)]

/-- The record of the start of the invocation. -/
def started : ResourceKey :=
  key.effectKey env .startInvocation

/-- The first worker applies the effect, records it, and is gone. -/
def appliedOnce : List Event :=
  starting ++ observing 0 "one" 10 (.ok none) ++
    [.answer 0 (.applied (.ok (some .null))), stored 0 13 "", .crash 0]

/-- The next worker finds the effect applied, and records it again. -/
def observedAgain : List Event :=
  observing 1 "two" 50 (.ok (some (some .null))) ++ [stored 1 53 ""]

/-- The first worker still waits for its driver when the next one finds the effect applied. -/
def overtaken : List Event :=
  starting ++ observing 0 "one" 10 (.ok none) ++ observedAgain

/-- The driver of the first worker gives up, and the worker records that. -/
def givesUp : List Event :=
  [.answer 0 (.applied (.error {})), stored 0 55 ""]

end Scenario

open Scenario

/-- A worker is gone after it recorded the effect; the next one records the same. -/
theorem effect_settled_observed_again : ∃ sys effect,
    Run.run (System.step Scenario.env) System.initial
      (appliedOnce ++ observedAgain) = some sys ∧
    sys.store.db.effects.lookup started = some effect ∧
    effect.status = .succeeded ∧ effect.observation = some .null := by
  obtain ⟨sys, hsys, sys', hsys', effect, heffect, hstatus, hobservation⟩ : ∃ sys,
      Run.run (System.step Scenario.env) System.initial appliedOnce = some sys ∧
      ∃ sys', Run.run (System.step Scenario.env) sys observedAgain = some sys' ∧
      ∃ effect, sys.store.db.effects.lookup started = some effect ∧
      effect.status = .succeeded ∧ effect.observation = some .null := by
    decide +kernel
  have hsafe : Run.Along (System.step Scenario.env) (EffectSafe Scenario.env) System.initial
      (appliedOnce ++ observedAgain) := by
    decide +kernel
  obtain ⟨effect', heffect', hsettled⟩ := effect_settled Scenario.env _ _ sys sys' hsys hsys' hsafe
    started effect heffect hstatus .null hobservation
  refine ⟨sys', effect', ?_, heffect', hsettled⟩
  rw [Run.run_append, hsys]
  exact hsys'

/-- **A worker that has lost its lease overwrites a settled effect.**  The first worker waits for
its driver beyond the end of its lease; the second takes the operation over, finds the effect
applied and records it as succeeded.  Then the driver of the first worker returns an error, and
the record is failed, without its observation. -/
theorem late_record : ∃ sys sys' effect effect',
    Run.run (System.step Scenario.env) System.initial overtaken = some sys ∧
    Run.run (System.step Scenario.env) sys givesUp = some sys' ∧
    sys.store.db.effects.lookup started = some effect ∧
    sys'.store.db.effects.lookup started = some effect' ∧
    (effect.status, effect.observation) = (.succeeded, some .null) ∧
    (effect'.status, effect'.observation) = (.failed, none) := by
  simp only [exists_and_left]
  decide +kernel

end DataGround
