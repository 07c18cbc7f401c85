import DataGround.Library.Fencing
import DataGround.Persistence.Operation

/-!
# The history of one operation row

The committed changes of one row form a run of the machine `RowLife.step`.  A caller acts only
for a claim that was returned to it, so the machine also keeps the claims returned so far
(`RowLife.issued`): a statement that acts for a claim is enabled only if that claim was issued,
up to the lease expiry that a renewal moves.

The row is a fenced register: a claim is a grant, a renewal a touch, the statements that settle a
claim are commits, cancellation and repair are revocations.  `RowLife.refines_register` says so,
and the facts about tokens and settlements are the ones of `Fencing`, read through it:

* `RowLife.claims_pairwise_lt` -- claims of one row carry strictly increasing tokens;
* `RowLife.settled_nodup` -- no token settles twice;
* `RowLife.settled_after_claim` -- between a claim and its settlement the row was only renewed.
-/

namespace DataGround

/-! ### What a committed change is about -/

variable {change : RowCommit} {claim : Claim}

namespace RowCommit

/-- The claim a change acts for. -/
def actsFor : RowCommit → Option Claim
  | .renewed claim _ _ => some claim
  | .advanced claim _ _ _ => some claim
  | .retried claim _ _ _ _ => some claim
  | .completed claim _ _ _ => some claim
  | _ => none

/-- The claim a change settles: `Advance`, `Fail`, `ScheduleRetry` and the completion of a
governed publication end the lease they act under. -/
def settles : RowCommit → Option Claim
  | .advanced claim _ _ _ => some claim
  | .retried claim _ _ _ _ => some claim
  | .completed claim _ _ _ => some claim
  | _ => none

/-- The claim a change returns to a worker. -/
def returns : RowCommit → Option Claim
  | .claimed claim _ _ => some claim
  | _ => none

/-- Whether a change is a renewal. -/
def IsRenewal : RowCommit → Prop
  | .renewed _ _ _ => True
  | _ => False

/-- Whether a change is a repair. -/
def IsRepair : RowCommit → Prop
  | .repaired _ _ _ _ => True
  | _ => False

instance : DecidablePred IsRepair := fun change =>
  match change with
  | .repaired _ _ _ _ => isTrue trivial
  | .accepted _ | .claimed _ _ _ | .renewed _ _ _ | .advanced _ _ _ _ => isFalse id
  | .retried _ _ _ _ _ | .completed _ _ _ _ | .cancelled _ _ _ => isFalse id

lemma returns_of_settles (h : change.settles = some claim) : change.returns = none := by
  cases change <;> first | rfl | cases h

lemma actsFor_of_settles (h : change.settles = some claim) : change.actsFor = some claim := by
  cases change <;> first | exact h | cases h

/-- A settlement finds a row. -/
lemma row_of_settles {key : OperationKey} {row : Option Operation} {row' : Operation}
    (hsettles : change.settles = some claim) (h : Change key row change row') :
    ∃ op, row = some op := by
  cases h <;> first | exact ⟨_, rfl⟩ | cases hsettles

end RowCommit

/-- Two versions of one operation row. -/
structure Operation.SameColumns (op op' : Operation) : Prop where
  resourceId : op'.resourceId = op.resourceId
  stateMachineVersion : op'.stateMachineVersion = op.stateMachineVersion
  actorId : op'.actorId = op.actorId
  correlationId : op'.correlationId = op.correlationId

/-- **What every change keeps of a row**: what the operation is about; its lease, unless a claim takes
the next token or the lease ends; and its command, unless it is cancelled or repaired. -/
lemma RowCommit.Change.keeps {key : OperationKey} {op row : Operation}
    (h : Change key (some op) change row) :
    op.SameColumns row ∧
    ((row.leaseToken = op.leaseToken ∧ (row.leaseOwner = op.leaseOwner ∨ row.leaseOwner = none)) ∨
      row.leaseToken = op.leaseToken + 1) ∧
    (row.command = op.command ∨ row.command = .cancel ∨ change.IsRepair) := by
  cases h with
  | claimed update =>
    obtain rfl := Operation.claim_eq_some update
    exact ⟨⟨rfl, rfl, rfl, rfl⟩, .inr rfl, .inl rfl⟩
  | renewed update =>
    obtain ⟨-, rfl⟩ := Operation.renew_eq_some update
    exact ⟨⟨rfl, rfl, rfl, rfl⟩, .inl ⟨rfl, .inl rfl⟩, .inl rfl⟩
  | advanced update =>
    obtain ⟨-, rfl⟩ := Operation.advance_eq_some update
    exact ⟨⟨rfl, rfl, rfl, rfl⟩, .inl ⟨rfl, .inr rfl⟩, .inl rfl⟩
  | retried update =>
    obtain ⟨-, rfl⟩ := Operation.scheduleRetry_eq_some update
    exact ⟨⟨rfl, rfl, rfl, rfl⟩, .inl ⟨rfl, .inr rfl⟩, .inl rfl⟩
  | completed update =>
    obtain ⟨-, rfl⟩ := Operation.completePublication_eq_some update
    exact ⟨⟨rfl, rfl, rfl, rfl⟩, .inl ⟨rfl, .inr rfl⟩, .inl rfl⟩
  | cancelled => exact ⟨⟨rfl, rfl, rfl, rfl⟩, .inl ⟨rfl, .inr rfl⟩, .inr (.inl rfl)⟩
  | repaired update =>
    obtain ⟨-, rfl⟩ := Operation.repair_eq_some update
    exact ⟨⟨rfl, rfl, rfl, rfl⟩, .inl ⟨rfl, .inr rfl⟩, .inr (.inr trivial)⟩

/-- The claims returned over a history, in order. -/
def claimsOf (history : List RowCommit) : List Claim :=
  history.filterMap RowCommit.returns

/-- The claims settled over a history, in order. -/
def settlementsOf (history : List RowCommit) : List Claim :=
  history.filterMap RowCommit.settles

/-- One row and the claims it has been leased under. -/
structure RowLife where
  row : Option Operation
  issued : List Claim

namespace RowLife

/-- Before the operation is accepted. -/
def unborn : RowLife :=
  ⟨none, []⟩

/-- The claim was returned by `claimNext`, up to renewals of its lease. -/
def Issued (life : RowLife) (claim : Claim) : Prop :=
  ∃ issued ∈ life.issued, claim.SameGrant issued

instance (life : RowLife) (claim : Claim) : Decidable (life.Issued claim) :=
  inferInstanceAs (Decidable (∃ issued ∈ life.issued, claim.SameGrant issued))

/-- One committed change of the row at `key`. -/
def step (key : OperationKey) (life : RowLife) (change : RowCommit) : Option RowLife :=
  if ∀ claim ∈ change.actsFor, life.Issued claim then
    (change.apply key life.row).map fun row => ⟨some row, life.issued ++ change.returns.toList⟩
  else none

variable {key : OperationKey} {life : RowLife}

lemma step_eq_some {next : RowLife} :
    step key life change = some next ↔
      (∀ claim ∈ change.actsFor, life.Issued claim) ∧
        ∃ row, change.apply key life.row = some row ∧
          next = ⟨some row, life.issued ++ change.returns.toList⟩ := by
  simp only [step, Option.ite_none_right_eq_some, Option.map_eq_some_iff]
  constructor
  · rintro ⟨hissued, row, hrow, rfl⟩
    exact ⟨hissued, row, hrow, rfl⟩
  · rintro ⟨hissued, row, hrow, rfl⟩
    exact ⟨hissued, row, hrow, rfl⟩

variable {history : List RowCommit}

/-- The claims a row has been leased under are those its history returned. -/
lemma issued_eq_claimsOf (h : Run.run (step key) unborn history = some life)
    : life.issued = claimsOf history := by
  induction history using List.reverseRecOn generalizing life with
  | nil =>
    cases h
    rfl
  | append_singleton _ change ih =>
    obtain ⟨_, hbefore, hstep⟩ := Run.run_concat_eq_some h
    obtain ⟨-, _, -, rfl⟩ := step_eq_some.mp hstep
    simp only [ih hbefore, claimsOf, List.filterMap_append]
    cases change <;> rfl

/-- The last change of a history made the row. -/
lemma change_of_run {change : RowCommit}
    (h : Run.run (step key) unborn (history ++ [change]) = some life) (hop : life.row = some op) :
    ∃ before, Run.run (step key) unborn history = some before ∧
      life.issued = before.issued ++ change.returns.toList ∧
      RowCommit.Change key before.row change op := by
  obtain ⟨before, hbefore, hstep⟩ := Run.run_concat_eq_some h
  obtain ⟨-, _, hrow, rfl⟩ := step_eq_some.mp hstep
  cases hop
  exact ⟨before, hbefore, rfl, RowCommit.apply_eq_some hrow⟩

/-- A row that does not exist has no history. -/
lemma eq_nil_of_row_eq_none (h : Run.run (step key) unborn history = some life)
    (hrow : life.row = none) : history = [] := by
  rcases List.eq_nil_or_concat history with rfl | ⟨before, change, rfl⟩
  · rfl
  · rw [List.concat_eq_append] at h
    obtain ⟨_, -, hstep⟩ := Run.run_concat_eq_some h
    obtain ⟨-, _, -, rfl⟩ := step_eq_some.mp hstep
    cases hrow

/-! ### The row as a fenced register -/

/-- The register behind a row: the token, the owner of the lease, and what a claim reports.  A row
that does not exist yet is a free register that was never granted. -/
def register : Option Operation → Fencing.Register String (Command × State)
  | some op => ⟨op.leaseToken, op.leaseOwner, (op.command, op.observedState)⟩
  | none => ⟨0, none, (.publish, .queued)⟩

/-- The register action that a committed change amounts to. -/
inductive Abstracts : RowCommit → Fencing.Action String (Command × State) → Prop
  | grant (claim : Claim) (now leaseUntil : Time) :
      Abstracts (.claimed claim now leaseUntil)
        (.grant claim.leaseOwner claim.fencingToken (claim.command, claim.observedState))
  | touch (claim : Claim) (now expiresAt : Time) :
      Abstracts (.renewed claim now expiresAt) (.touch claim.leaseOwner claim.fencingToken)
  | commit {change : RowCommit} {claim : Claim} (settles : change.settles = some claim)
      (value : Command × State) :
      Abstracts change (.commit claim.leaseOwner claim.fencingToken value)
  | revoke {change : RowCommit} (returns : change.returns = none)
      (settles : change.settles = none) (value : Command × State) :
      Abstracts change (.revoke value)

variable {op : Operation}

/-- A statement fenced by `claim` may commit on the register. -/
lemma step_commit_of_heldBy {now : Time} (h : op.HeldBy claim now) (value : Command × State) :
    Fencing.step (register (some op)) (.commit claim.leaseOwner claim.fencingToken value) =
      some ⟨claim.fencingToken, none, value⟩ := by
  obtain ⟨-, howner, htoken, -⟩ := h
  simp only [Fencing.step, register, howner, htoken, and_self, if_true]

/-- One committed change of the row is one action on the register. -/
lemma change_refines {row : Option Operation} {row' : Operation}
    (h : RowCommit.Change key row change row') :
    ∃ a, Abstracts change a ∧ Fencing.step (register row) a = some (register (some row')) := by
  cases h with
  | accepted fresh =>
    refine ⟨_, .revoke rfl rfl (row'.command, row'.observedState), ?_⟩
    obtain ⟨howner, htoken, -⟩ := fresh
    simp only [Fencing.step, register, howner, htoken]
  | @claimed _ _ claim now leaseUntil update returning =>
    refine ⟨_, .grant claim now leaseUntil, ?_⟩
    obtain rfl := Operation.claim_eq_some update
    rw [← returning]
    simp only [Fencing.step, register, Operation.toClaim, and_self, if_true]
  | @renewed _ _ claim now expiresAt update =>
    refine ⟨_, .touch claim now expiresAt, ?_⟩
    obtain ⟨⟨-, howner, htoken, -⟩, rfl⟩ := Operation.renew_eq_some update
    simp only [Fencing.step, register, howner, htoken, and_self, if_true]
  | @advanced op _ _ _ _ transition update =>
    obtain ⟨hheld, rfl⟩ := Operation.advance_eq_some update
    refine ⟨_, .commit rfl (op.command, transition.next), ?_⟩
    rw [step_commit_of_heldBy hheld]
    simp only [register, hheld.2.2.1]
  | @retried op _ _ _ _ _ _ update =>
    obtain ⟨hheld, rfl⟩ := Operation.scheduleRetry_eq_some update
    refine ⟨_, .commit rfl (op.command, op.observedState), ?_⟩
    rw [step_commit_of_heldBy hheld]
    simp only [register, hheld.2.2.1]
  | @completed op _ _ _ _ _ update =>
    obtain ⟨⟨-, -, -, -, -, -, hheld, -⟩, rfl⟩ := Operation.completePublication_eq_some update
    refine ⟨_, .commit rfl (op.command, .published), ?_⟩
    rw [step_commit_of_heldBy hheld]
    simp only [register, hheld.2.2.1]
  | @cancelled =>
    exact ⟨_, .revoke rfl rfl (.cancel, .cancelling), rfl⟩
  | @repaired _ _ _ _ _ _ update =>
    obtain ⟨-, rfl⟩ := Operation.repair_eq_some update
    exact ⟨_, .revoke rfl rfl (.repair, .queued), rfl⟩

/-- **The row refines a fenced register.**  Every history of the row is matched, change by change,
by a run of the register behind it. -/
theorem refines_register {next : RowLife} (h : Run.run (step key) life history = some next) :
    ∃ actions, List.Forall₂ Abstracts history actions ∧
      Run.run Fencing.step (register life.row) actions = some (register next.row) := by
  induction history generalizing life with
  | nil =>
    cases h
    exact ⟨[], .nil, rfl⟩
  | cons _ _ ih =>
    obtain ⟨_, hmiddle, hrest⟩ := Run.run_cons_eq_some h
    obtain ⟨-, _, hrow, rfl⟩ := step_eq_some.mp hmiddle
    obtain ⟨a, ha, hstep⟩ := change_refines (RowCommit.apply_eq_some hrow)
    obtain ⟨actions, hactions, hrun⟩ := ih hrest
    refine ⟨a :: actions, .cons ha hactions, ?_⟩
    simp only [Run.run_cons, hstep, Option.bind_some, hrun]

/-! ### Tokens and settlements -/

variable {actions : List (Fencing.Action String (Command × State))}

lemma grantTokens_eq (h : List.Forall₂ Abstracts history actions) :
    Fencing.grantTokens actions = (claimsOf history).map Claim.fencingToken := by
  induction h with
  | nil =>
    rfl
  | cons ha _ ih =>
    cases ha with
    | grant claim =>
      exact congrArg (claim.fencingToken :: ·) ih
    | touch =>
      exact ih
    | commit settles =>
      simpa only [Fencing.grantTokens, claimsOf, List.filterMap_cons,
        RowCommit.returns_of_settles settles] using ih
    | revoke returns =>
      simpa only [Fencing.grantTokens, claimsOf, List.filterMap_cons, returns] using ih

lemma commitTokens_eq (h : List.Forall₂ Abstracts history actions) :
    Fencing.commitTokens actions = (settlementsOf history).map Claim.fencingToken := by
  induction h with
  | nil =>
    rfl
  | cons ha _ ih =>
    cases ha with
    | grant | touch => exact ih
    | @commit _ claim settles =>
      simp only [settlementsOf, List.filterMap_cons, settles, List.map_cons]
      exact congrArg (claim.fencingToken :: ·) ih
    | revoke _ settles =>
      simpa only [Fencing.commitTokens, settlementsOf, List.filterMap_cons, settles] using ih

variable {key : OperationKey} {history : List RowCommit} {life : RowLife}

/-- The claims of one row carry strictly increasing tokens. -/
lemma claims_pairwise_lt (h : Run.run (step key) unborn history = some life) :
    (claimsOf history).Pairwise fun first later => first.fencingToken < later.fencingToken := by
  obtain ⟨_, hactions, hrun⟩ := refines_register h
  have hlt := Fencing.grantTokens_pairwise_lt hrun
  rw [grantTokens_eq hactions] at hlt
  exact List.pairwise_map.mp hlt

/-- No token settles twice. -/
lemma settled_nodup (h : Run.run (step key) unborn history = some life) :
    ((settlementsOf history).map Claim.fencingToken).Nodup := by
  obtain ⟨_, hactions, hrun⟩ := refines_register h
  rw [← commitTokens_eq hactions]
  exact Fencing.commitTokens_nodup rfl hrun

/-- A claim is settled at most once. -/
lemma settled_at_most_once (h : Run.run (step key) unborn history = some life) (claim : Claim) :
    (settlementsOf history).countP (·.SameGrant claim) ≤ 1 := by
  have hcount : (settlementsOf history).countP (·.SameGrant claim) ≤
      ((settlementsOf history).map Claim.fencingToken).count claim.fencingToken := by
    rw [List.count_eq_countP, List.countP_map]
    refine List.countP_mono_left fun other _ hsame => ?_
    have hgrant : other.SameGrant claim := of_decide_eq_true hsame
    simp only [Function.comp, hgrant.fencingToken, beq_self_eq_true]
  exact hcount.trans (List.nodup_iff_count_le_one.mp (settled_nodup h) _)

/-- Two claims of one row with the same token are one claim. -/
lemma claim_unique (h : Run.run (step key) unborn history = some life) {c d : Claim}
    (hc : c ∈ claimsOf history) (hd : d ∈ claimsOf history)
    (htoken : c.fencingToken = d.fencingToken) : c = d := by
  have hnodup : ((claimsOf history).map Claim.fencingToken).Nodup :=
    List.pairwise_map.mpr ((claims_pairwise_lt h).imp Nat.ne_of_lt)
  exact List.inj_on_of_nodup_map hnodup hc hd htoken

variable {touches : List (Fencing.Action String (Command × State))}
  {a : Fencing.Action String (Command × State)}

/-- A matched list splits where its match does. -/
lemma forall₂_split {before : List (Fencing.Action String (Command × State))}
    (h : List.Forall₂ Abstracts history (before ++ a :: touches)) :
    ∃ first change later, history = first ++ change :: later ∧ Abstracts change a ∧
      List.Forall₂ Abstracts later touches := by
  induction before generalizing history with
  | nil =>
    obtain ⟨change, later, ha, hlater, rfl⟩ := List.forall₂_cons_right_iff.mp h
    exact ⟨[], change, later, rfl, ha, hlater⟩
  | cons _ _ ih =>
    obtain ⟨head, _, -, hrest, rfl⟩ := List.forall₂_cons_right_iff.mp h
    obtain ⟨first, change, later, rfl, ha, hlater⟩ := ih hrest
    exact ⟨head :: first, change, later, rfl, ha, hlater⟩

/-- What is matched by touches only are renewals. -/
lemma isRenewal_of_touches {later : List RowCommit} (h : List.Forall₂ Abstracts later touches)
    (htouches : ∀ a ∈ touches, a.IsTouch) :
    ∀ change ∈ later, change.IsRenewal := by
  induction h with
  | nil =>
    simp
  | @cons _ a _ _ ha _ ih =>
    have htouch : a.IsTouch := htouches a List.mem_cons_self
    have hrest := ih fun b hb => htouches b (List.mem_cons_of_mem _ hb)
    intro other hother
    rcases List.mem_cons.mp hother with rfl | hother
    · cases ha with
      | grant | commit | revoke => exact htouch.elim
      | touch => trivial
    · exact hrest other hother

/-- What acts for a claim and settles it names that claim on the register. -/
lemma abstracts_settles (hsettles : change.settles = some claim) (h : Abstracts change a) :
    ∃ value, a = .commit claim.leaseOwner claim.fencingToken value := by
  cases h with
  | grant | touch => cases hsettles
  | commit settles value =>
    obtain rfl : claim = _ := Option.some.inj (hsettles.symm.trans settles)
    exact ⟨value, rfl⟩
  | revoke _ settles => cases hsettles.symm.trans settles

/-- Only a claim is a grant on the register. -/
lemma abstracts_grant {owner : String} {token : ℕ} {value : Command × State}
    (h : Abstracts change (.grant owner token value)) :
    ∃ issued now leaseUntil, change = .claimed issued now leaseUntil ∧
      issued.fencingToken = token ∧ (issued.command, issued.observedState) = value := by
  cases h with
  | grant claim now leaseUntil => exact ⟨claim, now, leaseUntil, rfl, rfl, rfl⟩

/-- **A settlement follows its claim with nothing but renewals in between**, and the row it finds
has exactly the command and the observed state that the claim returned. -/
lemma settled_after_claim {before : List RowCommit} (hsettles : change.settles = some claim)
    (h : Run.run (step key) unborn (before ++ [change]) = some life) :
    ∃ first issued now leaseUntil renewals op,
      before = first ++ .claimed issued now leaseUntil :: renewals ∧
      (∀ renewal ∈ renewals, renewal.IsRenewal) ∧ claim.SameGrant issued ∧
      (Run.run (step key) unborn before).map RowLife.row = some (some op) ∧
      op.command = claim.command ∧ op.observedState = claim.observedState := by
  obtain ⟨middle, hbefore, hstep⟩ := Run.run_concat_eq_some h
  obtain ⟨hacts, row, hrow, -⟩ := step_eq_some.mp hstep
  have hchange := RowCommit.apply_eq_some hrow
  -- The register behind the row was granted to the claim, and only touched since.
  obtain ⟨_, hactions, hrun⟩ := refines_register hbefore
  obtain ⟨_, ha, hcommit⟩ := change_refines hchange
  obtain ⟨_, rfl⟩ := abstracts_settles hsettles ha
  obtain ⟨_, _, rfl, htouches⟩ := Fencing.commit_after_grant rfl hrun hcommit
  obtain ⟨first, _, renewals, rfl, hgrant, hrenewals⟩ := forall₂_split hactions
  obtain ⟨issued, now, leaseUntil, rfl, htoken, hvalue⟩ := abstracts_grant hgrant
  -- The caller's claim was issued under that token, so it is the claim of that grant.
  obtain ⟨issued', hissued', hsame⟩ := hacts claim (RowCommit.actsFor_of_settles hsettles)
  rw [issued_eq_claimsOf hbefore] at hissued'
  have hissued : issued ∈ claimsOf (first ++ .claimed issued now leaseUntil :: renewals) :=
    List.mem_filterMap.mpr ⟨_, List.mem_append_right _ List.mem_cons_self, rfl⟩
  obtain rfl : issued' = issued := by
    refine claim_unique hbefore hissued' hissued ?_
    rw [htoken, hsame.fencingToken]
  obtain ⟨op, hop⟩ : ∃ op, middle.row = some op :=
    RowCommit.row_of_settles hsettles hchange
  rw [hop] at hvalue
  have hcommand : issued'.command = op.command := congrArg Prod.fst hvalue
  have hstate : issued'.observedState = op.observedState := congrArg Prod.snd hvalue
  refine ⟨first, issued', now, leaseUntil, renewals, op, rfl,
    isRenewal_of_touches hrenewals htouches, hsame, ?_, ?_, ?_⟩
  · rw [hbefore, Option.map_some, hop]
  · exact hcommand.symm.trans hsame.command.symm
  · exact hstate.symm.trans hsame.observedState.symm

/-- A row held under an issued claim has the command that the claim returned: a retry of the
claim could be committed now. -/
lemma command_of_heldBy {now : Time} (h : Run.run (step key) unborn history = some life)
    (hop : life.row = some op) (hissued : life.Issued claim) (hheld : op.HeldBy claim now) :
    op.command = claim.command := by
  let change : RowCommit := .retried claim now .retryable ⟨"", "", "", true, []⟩ now
  have happly : ∃ row, change.apply key life.row = some row := by
    simp [change, hop, RowCommit.apply, Operation.scheduleRetry, hheld]
  obtain ⟨row, hrow⟩ := happly
  have hrun : Run.run (step key) unborn (history ++ [change]) =
      some ⟨some row, life.issued ++ change.returns.toList⟩ := by
    rw [Run.run_concat, h, Option.bind_some]
    exact step_eq_some.mpr ⟨fun c hc => by cases hc; exact hissued, row, hrow, rfl⟩
  obtain ⟨_, _, _, _, _, found, -, -, -, hfound, hcommand, -⟩ := settled_after_claim rfl hrun
  rw [h, Option.map_some, hop] at hfound
  obtain rfl : op = found := Option.some.inj (Option.some.inj hfound)
  exact hcommand

/-- Every claim returned for a row is about the resource of the row. -/
lemma resourceId_of_issued (h : Run.run (step key) unborn history = some life)
    (hop : life.row = some op) (hissued : life.Issued claim) : claim.resourceId = op.resourceId := by
  obtain ⟨issued, hmem, hsame⟩ := hissued
  rw [hsame.resourceId]
  clear hsame
  induction history using List.reverseRecOn generalizing life op with
  | nil =>
    cases h
    cases hop
  | append_singleton _ _ ih =>
    obtain ⟨before, hbefore, hall, hchange⟩ := change_of_run h hop
    rw [hall] at hmem
    cases hlife : before.row with
    | none =>
      -- The row is new: no claim of it has been returned.
      rw [hlife] at hchange
      cases hchange
      have hnone : before.issued = [] := by
        rw [issued_eq_claimsOf hbefore, eq_nil_of_row_eq_none hbefore hlife]
        rfl
      simp [hnone, RowCommit.returns] at hmem
    | some =>
      rw [hlife] at hchange
      rw [hchange.keeps.1.resourceId]
      rcases List.mem_append.mp hmem with hold | hnew
      · exact ih hbefore hlife hold
      · cases hchange with
        | claimed update returning =>
          obtain rfl := List.mem_singleton.mp hnew
          obtain rfl := Operation.claim_eq_some update
          rw [← returning]
          rfl
        | _ => simp [RowCommit.returns] at hnew

end RowLife

end DataGround
