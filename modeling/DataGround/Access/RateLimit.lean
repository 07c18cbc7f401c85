import DataGround.Base.Times
import DataGround.Library.Arrivals
import DataGround.Persistence.JournalInteractions
import Mathlib.Data.List.Sort
import Mathlib.Data.Prod.Lex
import Mathlib.Data.String.Basic

/-!
# Admission of authentication attempts

`AllowAuthentication` takes one attempt through three buckets: the global one, the one of its
isolation domain and the one of its credential.  A bucket is a row with the theoretical arrival time
of the next attempt (see `Library.Arrivals`).  The row of the global bucket is locked first, and until
the end, so that calls take place one after the other; the time is read under that lock.

The program computes with nanoseconds; the database stores microseconds.  Where the interval of a
bucket is not a whole number of microseconds, each admission moves its stored arrival time on by less
than the interval.
-/

namespace DataGround

open Transaction

/-! ### Policies -/

/-- `AuthenticationRateLimitPolicy`; the window is in nanoseconds. -/
structure AuthenticationRateLimitPolicy where
  window : ℤ
  (globalBurst isolationDomainBurst credentialBurst : ℕ)
  deriving DecidableEq

def AuthenticationRateLimitPolicy.Valid (policy : AuthenticationRateLimitPolicy) : Prop :=
  1000000000 ≤ policy.window ∧ policy.window ≤ 24 * 3600 * 1000000000 ∧
    1 ≤ policy.globalBurst ∧ policy.globalBurst ≤ 1000000 ∧
    1 ≤ policy.isolationDomainBurst ∧ policy.isolationDomainBurst ≤ policy.globalBurst ∧
    1 ≤ policy.credentialBurst ∧ policy.credentialBurst ≤ policy.isolationDomainBurst

instance (policy : AuthenticationRateLimitPolicy) : Decidable policy.Valid :=
  inferInstanceAs (Decidable (_ ∧ _ ∧ _ ∧ _ ∧ _ ∧ _ ∧ _ ∧ _))

/-- The scopes of buckets. -/
inductive RateLimitScope where
  | global
  | domain
  | credential
  deriving DecidableEq

/-- The text a scope is stored under. -/
def RateLimitScope.text : RateLimitScope → String
  | .global => "global"
  | .domain => "domain"
  | .credential => "credential"

namespace AuthenticationRateLimitPolicy

/-- The burst of a bucket. -/
def burst (policy : AuthenticationRateLimitPolicy) : RateLimitScope → ℕ
  | .global => policy.globalBurst
  | .domain => policy.isolationDomainBurst
  | .credential => policy.credentialBurst

/-- `window / time.Duration(burst)`. -/
def interval (policy : AuthenticationRateLimitPolicy) (scope : RateLimitScope) : ℤ :=
  policy.window / policy.burst scope

variable {policy : AuthenticationRateLimitPolicy}

lemma Valid.burst_pos (h : policy.Valid) (scope : RateLimitScope) : 1 ≤ policy.burst scope := by
  obtain ⟨-, -, _, -, _, -, _, -⟩ := h
  cases scope <;> assumption

lemma Valid.burst_le (h : policy.Valid) (scope : RateLimitScope) :
    policy.burst scope ≤ 1000000 := by
  obtain ⟨-, -, -, _, -, _, -, _⟩ := h
  cases scope <;> simp only [burst] <;> omega

/-- An interval is at least a microsecond. -/
lemma Valid.interval_pos (h : policy.Valid) (scope : RateLimitScope) :
    0 < policy.interval scope := by
  have hpos := h.burst_pos scope
  have hle := h.burst_le scope
  have hwindow := h.1
  have hone : (1 : ℤ) ≤ policy.interval scope :=
    (Int.le_ediv_iff_mul_le (by omega)).mpr (by omega)
  omega

/-- The intervals of a burst make up the window, or less. -/
lemma Valid.interval_mul_le (h : policy.Valid) (scope : RateLimitScope) :
    policy.interval scope * policy.burst scope ≤ policy.window :=
  Int.ediv_mul_le _ (by have := h.burst_pos scope; omega)

end AuthenticationRateLimitPolicy

/-! ### The bucket -/

structure AuthenticationRateLimitResult where
  allowed : Bool
  retryAfter : ℤ
  deriving DecidableEq

structure AuthenticationRateLimitAdvance where
  result : AuthenticationRateLimitResult
  nextArrival : ℤ
  deriving DecidableEq

def advanceAuthenticationRateLimitBucket (now theoreticalArrival window : ℤ) (burst : ℕ) :
    AuthenticationRateLimitAdvance :=
  let interval := window / burst
  let allowedAt := theoreticalArrival - interval * (burst - 1)
  if now < allowedAt then ⟨⟨false, allowedAt - now⟩, theoreticalArrival⟩
  else
    let arrival := if theoreticalArrival < now then now else theoreticalArrival
    ⟨⟨true, 0⟩, arrival + interval⟩

/-- The primary key of `authentication_rate_limit_buckets`. -/
structure BucketKey where
  generation : ℕ
  scope : RateLimitScope
  subjectDigest : String
  deriving DecidableEq

/-- A row of `authentication_rate_limit_buckets`. -/
structure Bucket where
  policyDigest : String
  (theoreticalArrivalAt updatedAt : ℤ)
  deriving DecidableEq

/-- A row of `authentication_rate_limit_policy_activations`. -/
structure PolicyActivation where
  generation : ℕ
  policy : AuthenticationRateLimitPolicy
  policyDigest : String
  deriving DecidableEq

/-- The digests of policies and of the subjects of buckets. -/
structure RateLimitDigests where
  policy : AuthenticationRateLimitPolicy → String
  global : String
  domain : String → String
  credential : String → BitVec 256 → String

/-- The tables, the last activation first; the time of the database, in microseconds; and the attempts
that buckets have admitted, with their times in nanoseconds. -/
structure RateLimits where
  activations : List PolicyActivation
  buckets : Table BucketKey Bucket
  clock : ℤ
  admissions : List (BucketKey × ℤ)

namespace RateLimits

/-- A database without policies. -/
def empty : RateLimits :=
  ⟨[], ∅, 0, []⟩

/-- The times of the attempts that a bucket has admitted. -/
def admitted (s : RateLimits) (key : BucketKey) : List ℤ :=
  (s.admissions.filter fun admission => admission.1 = key).map Prod.snd

/-- `COALESCE(max(generation), 0)`. -/
def generation (s : RateLimits) : ℕ :=
  match s.activations with
  | [] => 0
  | activation :: _ => activation.generation

end RateLimits

/-! ### The methods -/

/-- A method of the limiter. -/
abbrev RateLimitMethod (α : Type) :=
  Tx RateLimits RepositoryError α

/-- `ErrAuthenticationRateLimitInvalid`. -/
def rateLimitInvalid : RepositoryError :=
  .refused "authentication rate limit request is invalid"

/-- `ErrAuthenticationRateLimitConflict`. -/
def rateLimitConflict : RepositoryError :=
  .refused "authentication rate limit policy conflicts with active coordination"

/-- `ErrAuthenticationRateLimitPolicyInactive`. -/
def rateLimitInactive : RepositoryError :=
  .refused "authentication rate limit policy is not active"

/-- `ErrAuthenticationRateLimitPolicyActivationInvalid`. -/
def activationInvalid : RepositoryError :=
  .refused "authentication rate limit policy activation is invalid"

def activateAuthenticationRateLimitPolicy (digests : RateLimitDigests) (generation : ℕ)
    (policy : AuthenticationRateLimitPolicy) : RateLimitMethod Unit := do
  require (0 < generation ∧ generation < 2 ^ 63 ∧ policy.Valid) activationInvalid
  let s ← read
  if generation ≤ s.generation then
    let existing ← demand (s.activations.find? fun activation => activation.generation = generation)
      rateLimitConflict
    require (generation = s.generation ∧ existing.policy = policy) rateLimitConflict
  else do
    require (generation = s.generation + 1) rateLimitConflict
    modify fun s => { s with
      activations := ⟨generation, policy, digests.policy policy⟩ :: s.activations }

def requireActiveAuthenticationRateLimitPolicy (digests : RateLimitDigests) (generation : ℕ)
    (policy : AuthenticationRateLimitPolicy) : RateLimitMethod Unit := do
  let s ← read
  let active ← demand s.activations.head? rateLimitInactive
  require (active.generation = generation ∧ active.policyDigest = digests.policy policy ∧
    active.policy = policy) rateLimitConflict

def lockAuthenticationRateLimitBucket (key : BucketKey) (policyDigest : String) (now : ℤ) :
    RateLimitMethod ℤ := do
  modify fun s => { s with
    buckets := s.buckets.insertIfAbsent key ⟨policyDigest, storedTime now, storedTime now⟩ }
  let s ← read
  let bucket ← demand (s.buckets.lookup key) .noRows
  require (bucket.policyDigest = policyDigest) rateLimitConflict
  pure (loadedTime bucket.theoreticalArrivalAt)

/-- The row that `storeAuthenticationRateLimitBucket` leaves. -/
def Bucket.advance (advance : AuthenticationRateLimitAdvance) (now : ℤ) (bucket : Bucket) : Bucket :=
  { bucket with
    theoreticalArrivalAt := storedTime advance.nextArrival, updatedAt := storedTime now }

/-- `storeAuthenticationRateLimitBucket`; an attempt that the bucket admits is noted. -/
def storeAuthenticationRateLimitBucket (key : BucketKey) (advance : AuthenticationRateLimitAdvance)
    (now : ℤ) : RateLimitMethod Unit :=
  modify fun s => { s with
    buckets := s.buckets.updateAt key (Bucket.advance advance now)
    admissions := s.admissions ++ if advance.result.allowed then [(key, now)] else [] }

def consumeAuthenticationRateLimitBucket (key : BucketKey) (policyDigest : String) (now window : ℤ)
    (burst : ℕ) : RateLimitMethod AuthenticationRateLimitResult := do
  let arrival ← lockAuthenticationRateLimitBucket key policyDigest now
  let advance := advanceAuthenticationRateLimitBucket now arrival window burst
  storeAuthenticationRateLimitBucket key advance now
  pure advance.result

def authenticationRateLimitCleanupBatch : ℕ := 128

/-- The condition of `reclaimAuthenticationRateLimitBuckets`. -/
def Bucket.IsStale (activeGeneration : ℕ) (staleBefore : ℤ) (key : BucketKey) (bucket : Bucket) :
    Prop :=
  key.generation ≠ activeGeneration ∨
    (key.generation = activeGeneration ∧ key.scope ≠ .global ∧
      bucket.updatedAt ≤ storedTime staleBefore)

instance (activeGeneration : ℕ) (staleBefore : ℤ) (key : BucketKey) (bucket : Bucket) :
    Decidable (bucket.IsStale activeGeneration staleBefore key) :=
  inferInstanceAs (Decidable (_ ∨ _))

/-- `ORDER BY policy_generation, updated_at, scope, subject_digest`. -/
def comesBefore (entry other : BucketKey × Bucket) : Prop :=
  toLex (entry.1.generation, toLex (entry.2.updatedAt,
    toLex (entry.1.scope.text, entry.1.subjectDigest))) ≤
  toLex (other.1.generation, toLex (other.2.updatedAt,
    toLex (other.1.scope.text, other.1.subjectDigest)))

instance : DecidableRel comesBefore :=
  fun _ _ => inferInstanceAs (Decidable (toLex _ ≤ toLex _))

/-- The rows that are deleted: the first stale ones. -/
def staleBuckets (buckets : Table BucketKey Bucket) (activeGeneration : ℕ) (staleBefore : ℤ) :
    List BucketKey :=
  let rows : List (BucketKey × Bucket) := buckets.entries.map fun entry => (entry.1, entry.2)
  let stale := rows.filter fun row => row.2.IsStale activeGeneration staleBefore row.1
  ((stale.insertionSort comesBefore).take authenticationRateLimitCleanupBatch).map Prod.fst

def reclaimAuthenticationRateLimitBuckets (activeGeneration : ℕ) (staleBefore : ℤ) :
    RateLimitMethod Unit :=
  modify fun s => { s with
    buckets := s.buckets.deleteAll (staleBuckets s.buckets activeGeneration staleBefore) }

/-- The arguments of `AllowAuthentication`. -/
structure AllowAuthenticationInput where
  isolationDomainId : String
  credentialDigest : BitVec 256
  generation : ℕ
  policy : AuthenticationRateLimitPolicy
  deriving DecidableEq

/-- `AllowAuthentication`.  The clock of the database shows `opened` before the lock on the global
bucket, and `now` under it; both in microseconds. -/
def allowAuthentication (digests : RateLimitDigests) (opened now : ℤ)
    (input : AllowAuthenticationInput) : RateLimitMethod AuthenticationRateLimitResult := do
  let policy := input.policy
  require (Writer.idMatches "iso" input.isolationDomainId = true ∧ input.credentialDigest ≠ 0 ∧
    input.generation ≠ 0 ∧ input.generation < 2 ^ 63 ∧ policy.Valid) rateLimitInvalid
  requireActiveAuthenticationRateLimitPolicy digests input.generation policy
  let policyDigest := digests.policy policy
  let globalKey : BucketKey := ⟨input.generation, .global, digests.global⟩
  let globalArrival ← lockAuthenticationRateLimitBucket globalKey policyDigest (loadedTime opened)
  let now := loadedTime now
  let global := advanceAuthenticationRateLimitBucket now globalArrival policy.window
    policy.globalBurst
  storeAuthenticationRateLimitBucket globalKey global now
  if global.result.allowed = false then pure global.result
  else do
    reclaimAuthenticationRateLimitBuckets input.generation (now - policy.window)
    let domain ← consumeAuthenticationRateLimitBucket
      ⟨input.generation, .domain, digests.domain input.isolationDomainId⟩ policyDigest now
      policy.window policy.isolationDomainBurst
    if domain.allowed = false then pure domain
    else do
      consumeAuthenticationRateLimitBucket
        ⟨input.generation, .credential,
          digests.credential input.isolationDomainId input.credentialDigest⟩ policyDigest now
        policy.window policy.credentialBurst

/-! ### Runs -/

/-- One call.  A transaction that is not committed is rolled back. -/
inductive RateLimitEvent where
  | activate (generation : ℕ) (policy : AuthenticationRateLimitPolicy)
  | allow (opened now : ℤ) (input : AllowAuthenticationInput) (isCommitted : Bool)
  deriving DecidableEq

namespace RateLimits

/-- The state that a transaction leaves. -/
def after {α : Type} (s : RateLimits) (method : RateLimitMethod α) : RateLimits :=
  match method s with
  | .ok (_, t) => t
  | .error _ => s

/-- The calls take place one after the other, and the clock does not go back. -/
def step (digests : RateLimitDigests) (s : RateLimits) : RateLimitEvent → Option RateLimits
  | .activate generation policy =>
    some (s.after (activateAuthenticationRateLimitPolicy digests generation policy))
  | .allow opened now input isCommitted =>
    if s.clock ≤ now ∧ opened ≤ now then
      let s := { s with clock := now }
      some (if isCommitted then s.after (allowAuthentication digests opened now input) else s)
    else none

end RateLimits

end DataGround
