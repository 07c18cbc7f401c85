import DataGround.Persistence.Store

/-!
# Records of external effects

`PrepareEffect` checks the lease of a claim and then makes sure that the effect has a durable
record; its two statements do not lock the operation row, so another transaction may commit
between them and they are two methods here.  `RecordEffect` writes what a worker found out about
the effect.  It names the record only: neither the claim it acts for nor the status that the
record has by now is part of its `WHERE`.
-/

namespace DataGround

open Transaction

/-- `EffectRecord`: the record of an effect as a worker holds it. -/
structure EffectRecord where
  key : ResourceKey
  effect : Effect
  deriving DecidableEq

/-- The key of the record of an effect of an operation. -/
def OperationKey.effectKey (env : Environment) (key : OperationKey) (phase : Phase) :
    ResourceKey :=
  ⟨key.isolationDomainId,
    derived env "eff" (key.isolationDomainId ++ ":" ++ key.kind.text ++ ":" ++ key.id ++ ":" ++
      phase.text)⟩

/-- The key of the record of an effect of the claimed operation. -/
def Claim.effectKey (env : Environment) (claim : Claim) (phase : Phase) : ResourceKey :=
  claim.key.effectKey env phase

/-- The record of an effect that nobody has tried yet. -/
def Effect.prepared (claim : Claim) (phase : Phase) (requestDigest : String) (now : Time) :
    Effect where
  operationKind := claim.key.kind
  operationId := claim.key.id
  phase := phase
  requestDigest := requestDigest
  status := .prepared
  attempt := 0
  observation := none
  lastErrorCode := none
  createdAt := now
  updatedAt := now

/-- The `UPDATE` of `RecordEffect`. -/
def Effect.record (status : EffectStatus) (observation : Option Json) (errorCode : String)
    (now : Time) (effect : Effect) : Effect :=
  { effect with
    status := status, observation := observation
    lastErrorCode := if errorCode = "" then none else some errorCode
    attempt := effect.attempt + 1, updatedAt := now }

/-- The record as `getEffect` reads it: its observation is decoded into a map. -/
def Effect.decoded (effect : Effect) : Option Effect :=
  match effect.observation with
  | none => some effect
  | some document => document.decoded.map fun observation =>
    { effect with observation := some observation }

/-- The store with other effect records. -/
def Store.withEffects (s : Store) (effects : Table ResourceKey Effect) : Store :=
  { s with db := { s.db with effects := effects } }

namespace Repository

/-- The first statement of `PrepareEffect`: the lease of the claim is live. -/
def verifyEffectLease (m : Moment) (claim : Claim) : Method Unit := do
  let s ← read
  let op ← demand (s.db.operations.lookup claim.key) .leaseLost
  require (op.command = claim.command ∧ op.HeldBy claim m.now) .leaseLost

def getEffect (key : ResourceKey) : Method EffectRecord := do
  let s ← read
  let effect ← demand (s.db.effects.lookup key) .noRows
  let effect ← demand effect.decoded (.refused "decode effect observation")
  pure ⟨key, effect⟩

/-- The other statements of `PrepareEffect`: insert the record unless it is there, read it. -/
def insertEffect (env : Environment) (m : Moment) (claim : Claim) (phase : Phase)
    (requestDigest : String) : Method EffectRecord := do
  let key := claim.effectKey env phase
  modify fun s => s.withEffects
    (s.db.effects.insertIfAbsent key (.prepared claim phase requestDigest m.now))
  let record ← getEffect key
  require (record.effect.requestDigest = requestDigest)
    (.domain "EXTERNAL_EFFECT_CONFLICT"
      "External effect identifier was reused with a different request.")
  pure record

def recordEffect (m : Moment) (key : ResourceKey) (status : EffectStatus)
    (observation : Option Json) (errorCode : String) : Method Unit := do
  require (status ≠ .prepared) (.refused "invalid effect status")
  let s ← read
  let effect ← demand (s.db.effects.lookup key) .noRows
  modify fun s => s.withEffects
    (s.db.effects.insert key (effect.record status observation errorCode m.now))

end Repository

variable {env : Environment} {m : Moment} {s t : Store} {u : Unit} {claim : Claim}

lemma verifyEffectLease_eq_ok (h : Repository.verifyEffectLease m claim s = .ok (u, t)) : t = s := by
  simp only [Repository.verifyEffectLease, read_bind, demand_bind_eq_ok, require_eq_ok] at h
  obtain ⟨_, -, -, heq⟩ := h
  cases heq
  rfl

/-- Decoding a record changes nothing but its observation. -/
lemma Effect.decoded_eq_some {effect record : Effect} (h : effect.decoded = some record) :
    record = { effect with observation := record.observation } ∧
      (effect.observation = none ∧ record.observation = none ∨
        ∃ document observation, effect.observation = some document ∧
          record.observation = some observation ∧ document.decoded = some observation) := by
  unfold Effect.decoded at h
  split at h
  · rename_i hnone
    cases h
    exact ⟨rfl, .inl ⟨hnone, hnone⟩⟩
  · rename_i document hsome
    obtain ⟨observation, hdecoded, rfl⟩ := Option.map_eq_some_iff.mp h
    exact ⟨rfl, .inr ⟨document, observation, hsome, rfl, hdecoded⟩⟩

lemma Effect.status_of_decoded {effect record : Effect} (h : effect.decoded = some record) :
    record.status = effect.status := by
  rw [(decoded_eq_some h).1]

/-- **What `getEffect` returned.** -/
lemma getEffect_eq_ok {key : ResourceKey} {record : EffectRecord}
    (h : Repository.getEffect key s = .ok (record, t)) :
    t = s ∧ record.key = key ∧
      ∃ effect, s.db.effects.lookup key = some effect ∧ effect.decoded = some record.effect := by
  simp only [Repository.getEffect, read_bind, demand_bind_eq_ok, pure_eq_ok] at h
  obtain ⟨effect, heffect, _, hdecoded, heq⟩ := h
  cases heq
  exact ⟨rfl, rfl, effect, heffect, hdecoded⟩

/-- **What a committed `PrepareEffect` did**: a record is there, and an old one is untouched. -/
lemma insertEffect_eq_ok {phase : Phase} {requestDigest : String} {record : EffectRecord}
    (h : Repository.insertEffect env m claim phase requestDigest s = .ok (record, t)) :
    record.key = claim.effectKey env phase ∧
      (∃ effect, t.db.effects.lookup record.key = some effect ∧
        effect.decoded = some record.effect) ∧
      t = s.withEffects (s.db.effects.insertIfAbsent (claim.effectKey env phase)
        (.prepared claim phase requestDigest m.now)) := by
  simp only [Repository.insertEffect, modify_bind] at h
  obtain ⟨_, _, hget, hrest⟩ := bind_eq_ok.mp h
  obtain ⟨rfl, hkey, heffect⟩ := getEffect_eq_ok hget
  obtain ⟨-, heq⟩ := require_bind_eq_ok.mp hrest
  cases heq
  exact ⟨hkey, hkey ▸ heffect, rfl⟩

/-- **What a committed `RecordEffect` did.** -/
lemma recordEffect_eq_ok {key : ResourceKey} {status : EffectStatus} {observation : Option Json}
    {errorCode : String}
    (h : Repository.recordEffect m key status observation errorCode s = .ok (u, t)) :
    ∃ effect, s.db.effects.lookup key = some effect ∧
      t = s.withEffects (s.db.effects.insert key
        (effect.record status observation errorCode m.now)) := by
  simp only [Repository.recordEffect, require_bind_eq_ok, read_bind, demand_bind_eq_ok,
    modify_eq_ok] at h
  obtain ⟨-, effect, heffect, heq⟩ := h
  cases heq
  exact ⟨effect, heffect, rfl⟩

end DataGround
