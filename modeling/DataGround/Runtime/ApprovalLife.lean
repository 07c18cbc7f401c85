import DataGround.Runtime.Approval

/-!
# The life of an approval

Which updates may follow a row of `invocation_runtime_approvals`, and what the versions of a row have
in common if each of them follows from the one before by such an update.

* `RuntimeApproval.IsValid`, `valid_iff` -- the parts of `validInvocationRuntimeApprovalState`;
* `ApprovalUpdate.Follows`, `Follows.valid_set` -- an update that may follow a row, and that it leads
  to a valid row again;
* `Life` -- the versions of a row, from its insert on: all are valid (`Life.valid`), a decision stays
  (`Life.decided`), a terminal row is the last one (`Life.ended`), and one delivery is reserved
  (`Life.reserved`).
-/

namespace DataGround

open Writer

/-! ### Valid rows -/

variable {now : Time}

namespace RuntimeApproval

/-- The times that are written in a row. -/
def times (row : RuntimeApproval) : List Time :=
  row.createdAt :: row.updatedAt ::
    (row.resolvedAt.toList ++ row.deliveredAt.toList ++ row.closedAt.toList)

/-- The times of the row have passed. -/
def Until (row : RuntimeApproval) (clock : WithBot Time) : Prop :=
  ∀ time ∈ row.times, (time : WithBot Time) ≤ clock

variable {row : RuntimeApproval}

lemma Until.mono {clock clock' : WithBot Time} (h : row.Until clock) (hle : clock ≤ clock')
    : row.Until clock' :=
  fun time htime => (h time htime).trans hle

lemma Until.createdAt (h : row.Until now) : row.createdAt ≤ now :=
  WithBot.coe_le_coe.mp (h _ List.mem_cons_self)

lemma Until.resolvedAt (h : row.Until now) : ∀ resolvedAt ∈ row.resolvedAt, resolvedAt ≤ now := by
  intro resolvedAt hresolved
  refine WithBot.coe_le_coe.mp (h resolvedAt ?_)
  simp [times, Option.mem_def.mp hresolved]

/-- The row is in one of the states that only rows of the present contract have. -/
def IsClosed (row : RuntimeApproval) : Prop :=
  row.state = .closed ∨ row.state = .expired ∨ row.state = .deliveryUnknown

instance (row : RuntimeApproval) : Decidable row.IsClosed :=
  inferInstanceAs (Decidable (_ ∨ _ ∨ _))

/-- What is written when a row is closed. -/
@[mk_iff]
structure Closing (row : RuntimeApproval) (closedAt : Time) : Prop where
  contract : row.contract = approvalContract
  reason : validApprovalCloseReason row.closeReason = true
  is : row.closedAt = some closedAt
  since : row.createdAt ≤ closedAt
  expired : row.state = .expired → row.closeReason = "expired"
  closed : row.state = .closed → row.closeReason ≠ "expired"
  late : row.closeReason = "expired" → ∀ expiresAt ∈ row.expiresAt, expiresAt ≤ closedAt

/-- What is written when a row is resolved. -/
@[mk_iff]
structure Resolved (row : RuntimeApproval) : Prop where
  decision : validInvocationRuntimeApprovalDecision row.decision = true
  actor : validInvocationRuntimeApprovalActor row.resolvedBy = true
  correlation : idMatches "cor" row.resolutionCorrelationId = true
  resolvedAt : row.resolvedAt ≠ none

/-- Nothing of that is written. -/
@[mk_iff]
structure Unresolved (row : RuntimeApproval) : Prop where
  decision : row.decision = ""
  actor : row.resolvedBy = ""
  correlation : row.resolutionCorrelationId = ""
  resolvedAt : row.resolvedAt = none

/-- Nothing is delivered, or about to be. -/
@[mk_iff]
structure Undelivered (row : RuntimeApproval) : Prop where
  effectiveDecision : row.effectiveDecision = ""
  deliveredAt : row.deliveredAt = none

/-- What the state of a row says about its version, its decision and its delivery. -/
def Phase (row : RuntimeApproval) : Prop :=
  match row.state with
  | .pending => row.version = 1 ∧ row.Unresolved ∧ row.Undelivered
  | .resolved => row.version = 2 ∧ row.Resolved ∧ row.Undelivered
  | .delivering => row.version = 3 ∧ row.Resolved ∧
      validInvocationRuntimeApprovalDecision row.effectiveDecision = true ∧ row.deliveredAt = none
  | .delivered => row.version = 4 ∧ row.Resolved ∧
      validInvocationRuntimeApprovalDecision row.effectiveDecision = true ∧
      ∃ deliveredAt, row.deliveredAt = some deliveredAt ∧
        ∀ resolvedAt ∈ row.resolvedAt, resolvedAt ≤ deliveredAt
  | .closed | .expired =>
    ((row.version = 2 ∧ row.Unresolved) ∨ (row.version = 3 ∧ row.Resolved)) ∧ row.Undelivered
  | .deliveryUnknown => row.version = 4 ∧ row.Resolved ∧
      validInvocationRuntimeApprovalDecision row.effectiveDecision = true ∧ row.deliveredAt = none
  | .answered => False

/-- The parts of `validInvocationRuntimeApprovalState`. -/
@[mk_iff]
structure IsValid (row : RuntimeApproval) : Prop where
  contract : row.contract = approvalLegacyContract ∧ row.expiresAt = none ∨
    row.contract = approvalContract ∧ ∃ expiresAt, row.expiresAt = some expiresAt ∧
      row.createdAt < expiresAt ∧ expiresAt ≤ row.createdAt + interactionLifetime
  closing : if row.IsClosed then ∃ closedAt, row.Closing closedAt
    else row.closedAt = none ∧ row.closeReason = ""
  decisions : row.effectiveDecision = "approve" → row.decision = "approve"
  phase : row.Phase

lemma valid_iff : validInvocationRuntimeApprovalState row = true ↔ row.IsValid := by
  have hne : approvalContract ≠ approvalLegacyContract := by decide
  rw [isValid_iff]
  unfold validInvocationRuntimeApprovalState
  cases hstate : row.state <;>
    simp [closing_iff, resolved_iff, unresolved_iff, undelivered_iff, Phase, IsClosed, hstate,
      Option.any_eq_true, Option.all_eq_true] <;> grind

end RuntimeApproval

/-- The states that are never left. -/
def InteractionState.Terminal : InteractionState → Prop
  | .delivered | .closed | .expired | .deliveryUnknown => True
  | _ => False

/-! ### Updates that may follow a row -/

namespace ApprovalUpdate

/-- What an update needs to find in the row. -/
def Admissible (row : RuntimeApproval) : ApprovalUpdate → Prop
  | .resolve decision actorId correlationId _ _ =>
    row.state = .pending ∧ validInvocationRuntimeApprovalDecision decision = true ∧
      validInvocationRuntimeApprovalActor actorId = true ∧ idMatches "cor" correlationId = true
  | .beginDelivery effectiveDecision _ =>
    row.state = .resolved ∧ validInvocationRuntimeApprovalDecision effectiveDecision = true ∧
      ¬(effectiveDecision = "approve" ∧ row.decision ≠ "approve")
  | .completeDelivery _ => row.state = .delivering
  | .close state reason now =>
    row.contract = approvalContract ∧ closedState .resolved reason row.state = .ok (some state) ∧
      validApprovalCloseReason reason = true ∧
      (reason = "expired" → ∀ expiresAt ∈ row.expiresAt, expiresAt ≤ now)

/-- The update may follow the row: the row is valid, and its times are not after the update's. -/
structure Follows (row : RuntimeApproval) (update : ApprovalUpdate) : Prop where
  valid : row.IsValid
  since : row.Until update.now
  admissible : update.Admissible row

/-- The states that closing leads to. -/
lemma closedState_eq_some {reason : String} {state state' : InteractionState}
    (h : closedState .resolved reason state = .ok (some state')) :
    ((state = .pending ∨ state = .resolved) ∧
        state' = if reason = "expired" then .expired else .closed) ∨
      (state = .delivering ∧ state' = .deliveryUnknown) := by
  cases state <;> simp_all [closedState]

variable {row : RuntimeApproval} {update : ApprovalUpdate}

/-- An update that does not close a row leaves its closing open. -/
lemma Follows.open_closing (h : update.Follows row) (hrow : ¬row.IsClosed)
    (hnext : ¬(update.set row).IsClosed) (hclosedAt : (update.set row).closedAt = row.closedAt)
    (hreason : (update.set row).closeReason = row.closeReason) :
    if (update.set row).IsClosed then ∃ closedAt, (update.set row).Closing closedAt
    else (update.set row).closedAt = none ∧ (update.set row).closeReason = "" := by
  have hclosing := h.valid.closing
  rw [if_neg hrow] at hclosing
  rw [if_neg hnext, hclosedAt, hreason]
  exact hclosing

/-- **Resolving** a row. -/
lemma Follows.valid_resolve {decision actorId correlationId : String} {version : ℕ}
    (h : (resolve decision actorId correlationId now version).Follows row) :
    (set row (.resolve decision actorId correlationId now version)).IsValid := by
  obtain ⟨hstate, hdecision, hactor, hcorrelation⟩ := h.admissible
  have hphase := h.valid.phase
  simp only [RuntimeApproval.Phase, hstate] at hphase
  obtain ⟨hversion, -, hundelivered⟩ := hphase
  refine ⟨h.valid.contract, ?_, ?_, ?_⟩
  · exact h.open_closing (by simp [RuntimeApproval.IsClosed, hstate])
      (by simp [RuntimeApproval.IsClosed, set]) rfl rfl
  · intro happrove
    have hnone := hundelivered.effectiveDecision.symm.trans happrove
    simp at hnone
  · exact ⟨congrArg (· + 1) hversion, ⟨hdecision, hactor, hcorrelation, nofun⟩,
      hundelivered.effectiveDecision, hundelivered.deliveredAt⟩

/-- **Reserving** the delivery. -/
lemma Follows.valid_beginDelivery {effectiveDecision : String}
    (h : (beginDelivery effectiveDecision now).Follows row) :
    (set row (.beginDelivery effectiveDecision now)).IsValid := by
  obtain ⟨hstate, hdecision, happrove⟩ := h.admissible
  have hphase := h.valid.phase
  simp only [RuntimeApproval.Phase, hstate] at hphase
  obtain ⟨hversion, ⟨hresolved, hactor, hcorrelation, hresolvedAt⟩, hundelivered⟩ := hphase
  refine ⟨h.valid.contract, ?_, ?_, ?_⟩
  · exact h.open_closing (by simp [RuntimeApproval.IsClosed, hstate])
      (by simp [RuntimeApproval.IsClosed, set]) rfl rfl
  · intro heffective
    by_contra hdenied
    exact happrove ⟨heffective, hdenied⟩
  · exact ⟨congrArg (· + 1) hversion, ⟨hresolved, hactor, hcorrelation, hresolvedAt⟩, hdecision,
      hundelivered.deliveredAt⟩

/-- **Completing** the delivery. -/
lemma Follows.valid_completeDelivery (h : (completeDelivery now).Follows row) :
    (set row (.completeDelivery now)).IsValid := by
  have hstate : row.state = .delivering := h.admissible
  have hphase := h.valid.phase
  simp only [RuntimeApproval.Phase, hstate] at hphase
  obtain ⟨hversion, ⟨hresolved, hactor, hcorrelation, hresolvedAt⟩, hdecision, -⟩ := hphase
  refine ⟨h.valid.contract, ?_, h.valid.decisions, ?_⟩
  · exact h.open_closing (by simp [RuntimeApproval.IsClosed, hstate])
      (by simp [RuntimeApproval.IsClosed, set]) rfl rfl
  · exact ⟨congrArg (· + 1) hversion, ⟨hresolved, hactor, hcorrelation, hresolvedAt⟩, hdecision, now,
      rfl, h.since.resolvedAt⟩

/-- **Closing** a row leaves what is written in it about decision and delivery. -/
lemma Follows.valid_close {state : InteractionState} {reason : String}
    (h : (close state reason now).Follows row) : (set row (.close state reason now)).IsValid := by
  obtain ⟨hcontract, hstate, hreason, hlate⟩ := h.admissible
  have hphase := h.valid.phase
  -- what is left to show is that the state fits the reason and the rest of the row
  have hclose : (set row (.close state reason now)).IsClosed →
      (state = .expired → reason = "expired") → (state = .closed → reason ≠ "expired") →
      (set row (.close state reason now)).Phase → (set row (.close state reason now)).IsValid := by
    intro hclosed hexpired hunexpired hnext
    refine ⟨h.valid.contract, ?_, h.valid.decisions, hnext⟩
    rw [if_pos hclosed]
    exact ⟨now, hcontract, hreason, rfl, h.since.createdAt, hexpired, hunexpired, hlate⟩
  rcases closedState_eq_some hstate with ⟨hopen, rfl⟩ | ⟨hdelivering, rfl⟩
  · -- a row that is pending or resolved: both end in the same two states
    have hrest : ∀ state, (((set row (.close state reason now)).version = 2 ∧
        (set row (.close state reason now)).Unresolved) ∨
        ((set row (.close state reason now)).version = 3 ∧
        (set row (.close state reason now)).Resolved)) ∧
        (set row (.close state reason now)).Undelivered := by
      intro state
      rcases hopen with hpending | hresolved
      · simp only [RuntimeApproval.Phase, hpending] at hphase
        obtain ⟨hversion, ⟨hdecision, hactor, hcorrelation, hresolvedAt⟩, heffective, hdelivered⟩ :=
          hphase
        exact ⟨.inl ⟨congrArg (· + 1) hversion, hdecision, hactor, hcorrelation, hresolvedAt⟩,
          heffective, hdelivered⟩
      · simp only [RuntimeApproval.Phase, hresolved] at hphase
        obtain ⟨hversion, ⟨hdecision, hactor, hcorrelation, hresolvedAt⟩, heffective, hdelivered⟩ :=
          hphase
        exact ⟨.inr ⟨congrArg (· + 1) hversion, hdecision, hactor, hcorrelation, hresolvedAt⟩,
          heffective, hdelivered⟩
    by_cases hexpired : reason = "expired"
    · rw [if_pos hexpired] at hclose ⊢
      exact hclose (.inr (.inl rfl)) (fun _ => hexpired) nofun (hrest .expired)
    · rw [if_neg hexpired] at hclose ⊢
      exact hclose (.inl rfl) nofun (fun _ => hexpired) (hrest .closed)
  · simp only [RuntimeApproval.Phase, hdelivering] at hphase
    obtain ⟨hversion, ⟨hresolved, hactor, hcorrelation, hresolvedAt⟩, hdecision, hdelivered⟩ := hphase
    exact hclose (.inr (.inr rfl)) nofun nofun ⟨congrArg (· + 1) hversion,
      ⟨hresolved, hactor, hcorrelation, hresolvedAt⟩, hdecision, hdelivered⟩

/-- **An update leads from a valid row to a valid row.** -/
lemma Follows.valid_set (h : update.Follows row) : (update.set row).IsValid := by
  cases update with
  | resolve => exact h.valid_resolve
  | beginDelivery => exact h.valid_beginDelivery
  | completeDelivery => exact h.valid_completeDelivery
  | close => exact h.valid_close

/-- The times of the new row are those of the old one, and the time of the update. -/
lemma times_set : ∀ time ∈ (update.set row).times, time = update.now ∨ time ∈ row.times := by
  intro time htime
  cases update <;> simp [RuntimeApproval.times, set, now] at htime ⊢ <;> tauto

lemma Follows.until_set (h : update.Follows row) : (update.set row).Until update.now := by
  intro time htime
  rcases times_set time htime with rfl | hold
  · exact le_rfl
  · exact h.since time hold

end ApprovalUpdate

/-! ### The versions of a row -/

namespace ApprovalVersion

/-- The second version follows from the first by an update that may follow its row. -/
def LeadsTo (v v' : ApprovalVersion) : Prop :=
  ∃ update, v'.update = some update ∧ update.Follows v.row ∧ v'.row = update.set v.row

/-- The version reserves the delivery. -/
def isReservation (v : ApprovalVersion) : Bool :=
  v.update.any ApprovalUpdate.isReservation

/-- The decision is about to be delivered, or has been. -/
def InDelivery (v : ApprovalVersion) : Prop :=
  v.row.state = .delivering ∨ v.row.state = .delivered ∨ v.row.state = .deliveryUnknown

variable {v v' : ApprovalVersion}

/-- A decision is made once. -/
lemma LeadsTo.decision (h : v.LeadsTo v') (hdecided : v.row.decision ≠ "") :
    v'.row.decision = v.row.decision := by
  obtain ⟨update, -, hfollows, hrow⟩ := h
  rw [hrow]
  cases update with
  | resolve decision =>
    -- a pending row has no decision
    have hphase := hfollows.valid.phase
    simp only [RuntimeApproval.Phase, hfollows.admissible.1] at hphase
    exact (hdecided hphase.2.1.decision).elim
  | beginDelivery | completeDelivery | close => rfl

/-- Nothing follows a terminal row. -/
lemma LeadsTo.not_terminal (h : v.LeadsTo v') : ¬v.row.state.Terminal := by
  obtain ⟨update, -, hfollows, -⟩ := h
  intro hterminal
  cases update with
  | resolve | beginDelivery =>
    rw [hfollows.admissible.1] at hterminal
    exact hterminal
  | completeDelivery =>
    rw [show v.row.state = .delivering from hfollows.admissible] at hterminal
    exact hterminal
  | close =>
    rcases ApprovalUpdate.closedState_eq_some hfollows.admissible.2.1 with ⟨hopen, -⟩ | ⟨hopen, -⟩
    · rcases hopen with hopen | hopen
      · rw [hopen] at hterminal
        exact hterminal
      · rw [hopen] at hterminal
        exact hterminal
    · rw [hopen] at hterminal
      exact hterminal

/-- A reservation begins the delivery. -/
lemma LeadsTo.inDelivery (h : v.LeadsTo v') (hreserves : v'.isReservation = true) :
    v'.InDelivery := by
  obtain ⟨update, hupdate, -, hrow⟩ := h
  rw [isReservation, hupdate, Option.any_some] at hreserves
  cases update with
  | beginDelivery =>
    rw [InDelivery, hrow]
    exact .inl rfl
  | _ => cases hreserves

/-- And there is no other one after it. -/
lemma LeadsTo.delivering (h : v.LeadsTo v') (hv : v.InDelivery) :
    v'.InDelivery ∧ v'.isReservation = false := by
  have hstate : v.row.state = .delivering := by
    have hopen := h.not_terminal
    rcases hv with hstate | hstate | hstate
    · exact hstate
    · rw [hstate] at hopen
      exact (hopen trivial).elim
    · rw [hstate] at hopen
      exact (hopen trivial).elim
  obtain ⟨update, hupdate, hfollows, hrow⟩ := h
  rw [InDelivery, hrow, isReservation, hupdate]
  have hadmissible := hfollows.admissible
  cases update with
  | resolve | beginDelivery => cases hstate.symm.trans hadmissible.1
  | completeDelivery => exact ⟨.inr (.inl rfl), rfl⟩
  | close =>
    obtain ⟨-, hclosed, -⟩ := hadmissible
    rw [hstate] at hclosed
    cases hclosed
    exact ⟨.inr (.inr rfl), rfl⟩

end ApprovalVersion

/-- If nothing that comes after an element with `p` has it too, there is at most one such element. -/
lemma countP_le_one {α : Type} {p : α → Bool} {l : List α}
    (h : l.Pairwise fun a b => p a = true → p b = false) : l.countP p ≤ 1 := by
  induction l with
  | nil => exact Nat.zero_le 1
  | cons a l ih =>
    obtain ⟨ha, hl⟩ := List.pairwise_cons.mp h
    by_cases hp : p a = true
    · have hnone : l.countP p = 0 := List.countP_eq_zero.mpr fun b hb => by simp [ha b hb hp]
      rw [List.countP_cons_of_pos hp, hnone]
    · rw [List.countP_cons_of_neg hp]
      exact ih hl

/-- The versions of one row: the first is a valid row that was inserted, every other one follows from
the one before, and their times have passed. -/
structure Life (clock : Time) (versions : List ApprovalVersion) : Prop where
  first : ∀ v ∈ versions.head?, v.update = none ∧ v.row.IsValid
  chain : versions.IsChain ApprovalVersion.LeadsTo
  passed : ∀ v ∈ versions, v.row.Until clock

namespace Life

variable {clock clock' : Time} {versions versions' : List ApprovalVersion} {v : ApprovalVersion}

lemma nil : Life clock [] where
  first v hv := by cases hv
  chain := .nil
  passed v hv := by cases hv

lemma later (h : Life clock versions) (hle : clock ≤ clock') : Life clock' versions :=
  ⟨h.first, h.chain, fun v hv => (h.passed v hv).mono (WithBot.coe_le_coe.mpr hle)⟩

lemma earlier (h : Life clock versions) (hle : versions' <+: versions) : Life clock versions' := by
  refine ⟨fun v hv => ?_, h.chain.prefix hle, fun v hv => h.passed v (hle.subset hv)⟩
  obtain ⟨_, rfl⟩ := hle
  refine h.first v ?_
  rw [List.head?_append, Option.mem_def.mp hv]
  rfl

lemma insert (hupdate : v.update = none) (hvalid : v.row.IsValid) (hpassed : v.row.Until clock) :
    Life clock [v] := by
  refine ⟨fun w hw => ?_, .singleton v, fun w hw => ?_⟩
  · cases hw
    exact ⟨hupdate, hvalid⟩
  · cases List.mem_singleton.mp hw
    exact hpassed

lemma update (h : Life clock versions) {last : ApprovalVersion} (hlast : versions.getLast? = some last)
    (hv : last.LeadsTo v) (hpassed : v.row.Until clock) : Life clock (versions ++ [v]) := by
  refine ⟨fun w hw => ?_, ?_, fun w hw => ?_⟩
  · cases versions with
    | nil => cases hlast
    | cons first => exact h.first w hw
  · refine List.isChain_append.mpr ⟨h.chain, .singleton v, fun x hx y hy => ?_⟩
    cases hlast.symm.trans hx
    cases hy
    exact hv
  · rcases List.mem_append.mp hw with hold | hnew
    · exact h.passed w hold
    · cases List.mem_singleton.mp hnew
      exact hpassed

/-- What the insert has and every update keeps, all versions have. -/
lemma forall_mem (h : Life clock versions) {P : ApprovalVersion → Prop}
    (hfirst : ∀ v, v.update = none → v.row.IsValid → P v)
    (hnext : ∀ v v', v.LeadsTo v' → P v → P v') : ∀ v ∈ versions, P v := by
  refine h.chain.induction P versions (fun v v' hv => hnext v v' hv) fun hne => ?_
  obtain ⟨hupdate, hvalid⟩ := h.first _ (List.head_mem_head? hne)
  exact hfirst _ hupdate hvalid

/-- A transitive relation between a version and the next holds between all. -/
lemma pairwise (h : Life clock versions) {R : ApprovalVersion → ApprovalVersion → Prop}
    (htrans : ∀ u v w, R u v → R v w → R u w) (hnext : ∀ v v', v.LeadsTo v' → R v v') :
    versions.Pairwise R := by
  have : Trans R R R := ⟨fun {u v w} => htrans u v w⟩
  exact List.isChain_iff_pairwise.mp (h.chain.imp fun v v' => hnext v v')

/-- **Every version is valid.** -/
lemma valid (h : Life clock versions) : ∀ v ∈ versions, v.row.IsValid := by
  refine h.forall_mem (fun _ _ hvalid => hvalid) fun v v' hv _ => ?_
  obtain ⟨_, -, hfollows, hrow⟩ := hv
  exact hrow ▸ hfollows.valid_set

/-- **A decision stays.** -/
lemma decided (h : Life clock versions) :
    versions.Pairwise fun v v' => v.row.decision ≠ "" → v'.row.decision = v.row.decision := by
  refine h.pairwise (fun u v w huv hvw hu => ?_) fun v v' hv => hv.decision
  have hv := huv hu
  exact (hvw (hv ▸ hu)).trans hv

/-- **A terminal row is the last one.** -/
lemma ended (h : Life clock versions) : versions.Pairwise fun v _ => ¬v.row.state.Terminal :=
  h.pairwise (fun _ _ _ huv _ => huv) fun _ _ hv => hv.not_terminal

/-- Once the delivery has begun, it is not reserved again. -/
lemma delivering (h : Life clock versions) :
    versions.Pairwise fun v v' => v.InDelivery → v'.InDelivery ∧ v'.isReservation = false :=
  h.pairwise (fun _ _ _ huv hvw hu => hvw (huv hu).1) fun _ _ hv => hv.delivering

/-- **At most one version reserves the delivery.** -/
lemma reserved (h : Life clock versions) : versions.countP ApprovalVersion.isReservation ≤ 1 := by
  have hbegun : ∀ v ∈ versions, v.isReservation = true → v.InDelivery := by
    refine h.forall_mem (fun v hupdate _ hreserves => ?_) fun v v' hv _ => hv.inDelivery
    rw [ApprovalVersion.isReservation, hupdate] at hreserves
    cases hreserves
  refine countP_le_one (h.delivering.imp_of_mem fun {v v'} hv _ hnext hreserves => ?_)
  exact (hnext (hbegun v hv hreserves)).2

end Life

end DataGround
