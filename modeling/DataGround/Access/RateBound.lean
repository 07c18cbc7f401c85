import DataGround.Access.RateLimit

/-!
# What the buckets admit

* `BucketAccounted` -- a bucket of the active policy: its arrival time has been moved on for every attempt
  it has admitted, unless the row is gone; then the time has come anyway;
* `admitted_within` -- the bound on the attempts that a bucket admits.
-/

namespace DataGround

open Transaction Arrivals

/-! ### One bucket -/

/-- The arrival time of a bucket; a row that is not there will be inserted with the present time. -/
def arrivalOf (clock : ℤ) : Option Bucket → ℤ
  | some bucket => loadedTime bucket.theoreticalArrivalAt
  | none => loadedTime clock

/-- What the row of a bucket, if there is one, has to do with the attempts it has admitted. -/
structure BucketAccounted (policy : AuthenticationRateLimitPolicy) (scope : RateLimitScope) (clock : ℤ)
    (row : Option Bucket) (times : List ℤ) : Prop where
  past : ∀ time ∈ times, time ≤ loadedTime clock
  updated : ∀ bucket, row = some bucket → bucket.updatedAt ≤ clock
  unused : scope = .global → row = none → times = []
  recent : ∀ bucket, row = some bucket →
    loadedTime bucket.theoreticalArrivalAt ≤ loadedTime bucket.updatedAt + policy.window
  owed : 1000 ∣ policy.interval scope → Owed (policy.interval scope) times (arrivalOf clock row)
  within : 1000 ∣ policy.interval scope → Within (policy.interval scope) (policy.burst scope) times

namespace BucketAccounted

variable {policy : AuthenticationRateLimitPolicy} {scope : RateLimitScope} {clock : ℤ}
  {row : Option Bucket} {bucket : Bucket} {times : List ℤ}

lemma nil (hpolicy : policy.Valid) : BucketAccounted policy scope clock none [] where
  past time htime := by cases htime
  updated bucket hrow := by cases hrow
  unused _ _ := rfl
  recent bucket hrow := by cases hrow
  owed _ := owed_nil
  within _ := within_nil (hpolicy.interval_pos scope).le

lemma tick (h : BucketAccounted policy scope clock row times) {now : ℤ} (hle : clock ≤ now) :
    BucketAccounted policy scope now row times where
  past time htime := by
    have := h.past time htime
    unfold loadedTime at this ⊢
    omega
  updated bucket hrow := (h.updated bucket hrow).trans hle
  unused := h.unused
  recent := h.recent
  owed hwhole := by
    refine (h.owed hwhole).later ?_
    cases row with
    | none =>
      simp only [arrivalOf, loadedTime]
      omega
    | some => exact le_rfl
  within := h.within

/-- A row is inserted: with the present time, or for a bucket that has not admitted anything. -/
lemma insert (h : BucketAccounted policy scope clock none times) (hpolicy : policy.Valid)
    {opened : ℤ} {policyDigest : String} (hle : opened ≤ clock) (hopened : opened = clock ∨ times = []) :
    BucketAccounted policy scope clock (some ⟨policyDigest, opened, opened⟩) times where
  past := h.past
  updated bucket hrow := by
    cases hrow
    exact hle
  unused _ hrow := by cases hrow
  recent bucket hrow := by
    cases hrow
    have := hpolicy.1
    dsimp only
    omega
  owed hwhole := by
    rcases hopened with rfl | rfl
    · exact h.owed hwhole
    · exact owed_nil
  within := h.within

/-- The row of a bucket that has not been used for the length of the window is deleted. -/
lemma delete (h : BucketAccounted policy scope clock (some bucket) times) (hscope : scope ≠ .global)
    (hstale : bucket.updatedAt ≤ storedTime (loadedTime clock - policy.window)) :
    BucketAccounted policy scope clock none times where
  past := h.past
  updated bucket hrow := by cases hrow
  unused hglobal _ := (hscope hglobal).elim
  recent bucket hrow := by cases hrow
  owed hwhole := by
    refine (h.owed hwhole).later ?_
    have hrecent := h.recent bucket rfl
    have hstored := loadedTime_storedTime_le (loadedTime clock - policy.window)
    simp only [arrivalOf, loadedTime] at *
    omega
  within := h.within

/-- An attempt that comes too early only touches the row. -/
lemma deny (h : BucketAccounted policy scope clock (some bucket) times) :
    BucketAccounted policy scope clock (some { bucket with updatedAt := clock }) times where
  past := h.past
  updated b hrow := by
    cases hrow
    exact le_rfl
  unused _ hrow := by cases hrow
  recent b hrow := by
    cases hrow
    have hrecent := h.recent bucket rfl
    have hupdated := h.updated bucket rfl
    simp only [loadedTime] at *
    omega
  owed := h.owed
  within := h.within

/-- **An attempt is admitted.** -/
lemma accept (h : BucketAccounted policy scope clock (some bucket) times) (hpolicy : policy.Valid)
    (hearly : loadedTime bucket.theoreticalArrivalAt -
      policy.interval scope * (policy.burst scope - 1) ≤ loadedTime clock) :
    BucketAccounted policy scope clock (some { bucket with
        theoreticalArrivalAt := storedTime
          (max (loadedTime bucket.theoreticalArrivalAt) (loadedTime clock) + policy.interval scope)
        updatedAt := clock })
      (times ++ [loadedTime clock]) where
  past time htime := by
    rcases List.mem_append.mp htime with hold | hnew
    · exact h.past time hold
    · exact (List.mem_singleton.mp hnew).le
  updated b hrow := by
    cases hrow
    exact le_rfl
  unused _ hrow := by cases hrow
  recent b hrow := by
    cases hrow
    refine (loadedTime_storedTime_le _).trans ?_
    have hburst := hpolicy.burst_pos scope
    have hpos := hpolicy.interval_pos scope
    have hwindow := hpolicy.interval_mul_le scope
    have hmax : max (loadedTime bucket.theoreticalArrivalAt) (loadedTime clock) ≤
        loadedTime clock + policy.interval scope * (policy.burst scope - 1) := by
      refine max_le (by linarith) ?_
      have : 0 ≤ policy.interval scope * ((policy.burst scope : ℤ) - 1) :=
        mul_nonneg hpos.le (by omega)
      linarith
    dsimp only
    linarith
  owed hwhole := by
    have hexact : (1000 : ℤ) ∣
        max (loadedTime bucket.theoreticalArrivalAt) (loadedTime clock) + policy.interval scope := by
      refine dvd_add ?_ hwhole
      rcases max_choice (loadedTime bucket.theoreticalArrivalAt) (loadedTime clock) with hmax | hmax
      · rw [hmax]
        exact dvd_mul_right _ _
      · rw [hmax]
        exact dvd_mul_right _ _
    rw [arrivalOf, loadedTime_storedTime hexact]
    exact (h.owed hwhole).accept (hpolicy.interval_pos scope).le
  within hwhole :=
    (h.within hwhole).accept (h.owed hwhole) (hpolicy.interval_pos scope).le (hpolicy.burst_pos scope)
      h.past hearly

/-- **What `storeAuthenticationRateLimitBucket` leaves.** -/
lemma advance (h : BucketAccounted policy scope clock (some bucket) times) (hpolicy : policy.Valid)
    {result : AuthenticationRateLimitAdvance}
    (hresult : advanceAuthenticationRateLimitBucket (loadedTime clock)
      (loadedTime bucket.theoreticalArrivalAt) policy.window (policy.burst scope) = result) :
    BucketAccounted policy scope clock (some (bucket.advance result (loadedTime clock)))
      (times ++ if result.result.allowed then [loadedTime clock] else []) := by
  subst hresult
  unfold advanceAuthenticationRateLimitBucket
  dsimp only
  split
  · have hdeny := h.deny
    simp only [Bucket.advance, storedTime_loadedTime, Bool.false_eq_true, if_false, List.append_nil]
    exact hdeny
  · rename_i hearly
    have hmax : (if loadedTime bucket.theoreticalArrivalAt < loadedTime clock then loadedTime clock
        else loadedTime bucket.theoreticalArrivalAt) =
          max (loadedTime bucket.theoreticalArrivalAt) (loadedTime clock) := by
      rw [max_def]
      split_ifs <;> omega
    have hadmit := h.accept hpolicy (not_lt.mp hearly)
    simp only [Bucket.advance, storedTime_loadedTime, hmax, if_true]
    exact hadmit

end BucketAccounted

/-! ### The tables -/

namespace RateLimits

/-- The invariant. -/
structure Sound (s : RateLimits) : Prop where
  valid : ∀ activation ∈ s.activations, activation.policy.Valid
  ordered : s.activations.Pairwise fun later earlier => earlier.generation < later.generation
  known : ∀ key, s.buckets.lookup key ≠ none ∨ s.admitted key ≠ [] → key.generation ≤ s.generation
  active : ∀ activation, s.activations.head? = some activation →
    ∀ key : BucketKey, key.generation = activation.generation →
      BucketAccounted activation.policy key.scope s.clock (s.buckets.lookup key) (s.admitted key)
  within : ∀ activation ∈ s.activations, ∀ key : BucketKey, key.generation = activation.generation →
    1000 ∣ activation.policy.interval key.scope →
      Within (activation.policy.interval key.scope) (activation.policy.burst key.scope)
        (s.admitted key)

lemma sound_empty : empty.Sound where
  valid activation h := by cases h
  ordered := .nil
  known key h := by simp [empty, admitted] at h
  active activation h := by cases h
  within activation h := by cases h

namespace Sound

variable {s t : RateLimits} {activation : PolicyActivation}

/-- The active policy has the last generation. -/
lemma generation_eq (h : s.activations.head? = some activation) :
    s.generation = activation.generation := by
  obtain ⟨_, hactivations⟩ := List.head?_eq_some_iff.mp h
  simp only [generation, hactivations]

/-- No other policy has the generation of the active one. -/
lemma active_unique (hs : s.Sound) (ha : s.activations.head? = some activation)
    {other : PolicyActivation} (hmem : other ∈ s.activations)
    (hsame : other.generation = activation.generation) : other = activation := by
  obtain ⟨_, hactivations⟩ := List.head?_eq_some_iff.mp ha
  have hordered := hs.ordered
  rw [hactivations] at hmem hordered
  rcases List.mem_cons.mp hmem with rfl | hrest
  · rfl
  · have := (List.pairwise_cons.mp hordered).1 other hrest
    omega

/-- Only buckets of the active policy have changed, apart from rows that are gone. -/
lemma update (hs : s.Sound) (ha : s.activations.head? = some activation)
    (hactivations : t.activations = s.activations)
    (hothers : ∀ key : BucketKey, key.generation ≠ activation.generation →
      (t.buckets.lookup key ≠ none → s.buckets.lookup key ≠ none) ∧ t.admitted key = s.admitted key)
    (hactive : ∀ key : BucketKey, key.generation = activation.generation →
      BucketAccounted activation.policy key.scope t.clock (t.buckets.lookup key) (t.admitted key)) :
    t.Sound := by
  have hgeneration : t.generation = s.generation := by
    simp only [generation, hactivations]
  refine ⟨hactivations ▸ hs.valid, hactivations ▸ hs.ordered, fun key hkey => ?_,
    fun other hother key hkey => ?_, fun other hother key hkey hwhole => ?_⟩
  · rw [hgeneration]
    by_cases hsame : key.generation = activation.generation
    · exact (hsame.trans (generation_eq ha).symm).le
    · obtain ⟨hrow, hadmitted⟩ := hothers key hsame
      exact hs.known key (hkey.imp hrow fun h => hadmitted ▸ h)
  · rw [hactivations, ha] at hother
    cases hother
    exact hactive key hkey
  · rw [hactivations] at hother
    by_cases hsame : key.generation = activation.generation
    · cases hs.active_unique ha hother (hkey.symm.trans hsame)
      exact (hactive key hkey).within hwhole
    · rw [(hothers key hsame).2]
      exact hs.within other hother key hkey hwhole

lemma tick (hs : s.Sound) {now : ℤ} (hle : s.clock ≤ now) :
    ({ s with clock := now } : RateLimits).Sound :=
  ⟨hs.valid, hs.ordered, hs.known,
    fun activation ha key hkey => (hs.active activation ha key hkey).tick hle, hs.within⟩

/-- A new policy starts without buckets. -/
lemma activate (hs : s.Sound) {policy : AuthenticationRateLimitPolicy} (hpolicy : policy.Valid)
    (policyDigest : String) :
    ({ s with
      activations := ⟨s.generation + 1, policy, policyDigest⟩ :: s.activations } :
        RateLimits).Sound := by
  have hnone : ∀ key : BucketKey, key.generation = s.generation + 1 →
      s.buckets.lookup key = none ∧ s.admitted key = [] := by
    intro key hkey
    by_contra hcontra
    have hle := hs.known key (by simpa [or_iff_not_imp_left] using hcontra)
    omega
  refine ⟨?_, ?_, fun key hkey => (hs.known key hkey).trans (Nat.le_succ _), ?_, ?_⟩
  · intro activation hmem
    rcases List.mem_cons.mp hmem with rfl | hold
    · exact hpolicy
    · exact hs.valid activation hold
  · refine List.pairwise_cons.mpr ⟨fun activation hmem => ?_, hs.ordered⟩
    cases hactivations : s.activations with
    | nil =>
      rw [hactivations] at hmem
      cases hmem
    | cons first =>
      have hfirst : s.generation = first.generation := by
        simp only [generation, hactivations]
      rw [hactivations] at hmem
      have hordered := hs.ordered
      rw [hactivations] at hordered
      rcases List.mem_cons.mp hmem with rfl | hrest
      · simp only [hfirst]
        omega
      · have := (List.pairwise_cons.mp hordered).1 activation hrest
        simp only [hfirst]
        omega
  · intro activation ha key hkey
    cases ha
    obtain ⟨hrow, htimes⟩ := hnone key hkey
    change BucketAccounted policy key.scope s.clock (s.buckets.lookup key) (s.admitted key)
    rw [hrow, htimes]
    exact .nil hpolicy
  · intro activation hmem key hkey hwhole
    rcases List.mem_cons.mp hmem with rfl | hold
    · change Within _ _ (s.admitted key)
      rw [(hnone key hkey).2]
      exact within_nil (hpolicy.interval_pos key.scope).le
    · exact hs.within activation hold key hkey hwhole

end Sound

/-! ### The methods -/

/-- A method is at work: this policy is active, and this is the time. -/
structure Serving (s : RateLimits) (activation : PolicyActivation) (clock : ℤ) : Prop where
  sound : s.Sound
  active : s.activations.head? = some activation
  clock : s.clock = clock

namespace Serving

variable {s t : RateLimits} {activation : PolicyActivation} {clock : ℤ} {key : BucketKey}
  {policyDigest : String}

lemma policy_valid (h : s.Serving activation clock) : activation.policy.Valid :=
  h.sound.valid activation (List.mem_of_mem_head? h.active)

lemma update (h : s.Serving activation clock) (hkey : key.generation = activation.generation)
    {buckets : Table BucketKey Bucket} {admissions : List (BucketKey × ℤ)}
    (hothers : ∀ other, other ≠ key → buckets.lookup other = s.buckets.lookup other ∧
      ({ s with admissions := admissions } : RateLimits).admitted other = s.admitted other)
    (hbucket : BucketAccounted activation.policy key.scope clock (buckets.lookup key)
      (({ s with admissions := admissions } : RateLimits).admitted key)) :
    ({ s with buckets := buckets, admissions := admissions } : RateLimits).Serving activation
      clock := by
  refine ⟨h.sound.update h.active rfl (fun other hother => ?_) fun other hother => ?_, h.active,
    h.clock⟩
  · have hne : other ≠ key := by
      rintro rfl
      exact hother hkey
    exact ⟨fun hrow => (hothers other hne).1 ▸ hrow, (hothers other hne).2⟩
  · dsimp only
    rw [h.clock]
    by_cases hne : other = key
    · subst hne
      exact hbucket
    · have hold := h.sound.active activation h.active other hother
      rw [h.clock] at hold
      rw [(hothers other hne).1]
      exact (hothers other hne).2 ▸ hold

lemma lock (h : s.Serving activation clock) (hkey : key.generation = activation.generation)
    {opened arrival : ℤ} (hle : opened ≤ clock) (hopened : opened = clock ∨ key.scope = .global)
    (hlock : lockAuthenticationRateLimitBucket key policyDigest (loadedTime opened) s =
      .ok (arrival, t)) :
    t.Serving activation clock ∧ ∃ bucket, t.buckets.lookup key = some bucket ∧
      arrival = loadedTime bucket.theoreticalArrivalAt := by
  simp only [lockAuthenticationRateLimitBucket, modify_bind, read_bind, demand_bind_eq_ok,
    require_bind_eq_ok, storedTime_loadedTime] at hlock
  obtain ⟨bucket, hbucket, -, hpure⟩ := hlock
  cases pure_eq_ok.mp hpure
  refine ⟨h.update hkey (fun other hother => ⟨Table.lookup_insertIfAbsent_ne hother, rfl⟩) ?_, bucket,
    hbucket, rfl⟩
  have hold := h.sound.active activation h.active key hkey
  rw [h.clock] at hold
  cases hrow : s.buckets.lookup key with
  | some =>
    rw [Table.lookup_insertIfAbsent_of_some hrow]
    exact hrow ▸ hold
  | none =>
    rw [hrow] at hold
    have hinserted : (s.buckets.insertIfAbsent key ⟨policyDigest, opened, opened⟩).lookup key =
        some ⟨policyDigest, opened, opened⟩ := by
      rw [Table.insertIfAbsent, if_neg (by simpa [← AList.lookup_isSome] using hrow),
        AList.lookup_insert]
    rw [hinserted]
    exact hold.insert h.policy_valid hle (hopened.imp_right fun hglobal => hold.unused hglobal rfl)

/-- The note of an attempt concerns its bucket only. -/
lemma admitted_concat (s : RateLimits) (key other : BucketKey) (time : ℤ) (allowed : Bool) :
    ({ s with admissions := s.admissions ++ if allowed then [(key, time)] else [] } :
      RateLimits).admitted other =
      s.admitted other ++ if allowed = true ∧ key = other then [time] else [] := by
  cases allowed
  · simp [admitted]
  · by_cases hkey : key = other <;> simp [admitted, hkey]

lemma store (h : s.Serving activation clock) (hkey : key.generation = activation.generation)
    {bucket : Bucket} (hbucket : s.buckets.lookup key = some bucket)
    {advance : AuthenticationRateLimitAdvance}
    (hadvance : advanceAuthenticationRateLimitBucket (loadedTime clock)
      (loadedTime bucket.theoreticalArrivalAt) activation.policy.window
      (activation.policy.burst key.scope) = advance)
    {u : Unit}
    (hstore : storeAuthenticationRateLimitBucket key advance (loadedTime clock) s = .ok (u, t)) :
    t.Serving activation clock := by
  cases modify_eq_ok.mp hstore
  refine h.update hkey (fun other hother => ⟨Table.lookup_updateAt_ne _ _ hother, ?_⟩) ?_
  · rw [admitted_concat, if_neg (fun hsame => hother hsame.2.symm), List.append_nil]
  · have hold := h.sound.active activation h.active key hkey
    rw [h.clock, hbucket] at hold
    rw [Table.lookup_updateAt_self, hbucket, admitted_concat]
    simpa using hold.advance h.policy_valid hadvance

lemma consume (h : s.Serving activation clock) (hkey : key.generation = activation.generation)
    {result : AuthenticationRateLimitResult}
    (hconsume : consumeAuthenticationRateLimitBucket key policyDigest (loadedTime clock)
      activation.policy.window (activation.policy.burst key.scope) s = .ok (result, t)) :
    t.Serving activation clock := by
  simp only [consumeAuthenticationRateLimitBucket] at hconsume
  obtain ⟨_, _, hlock, hrest⟩ := bind_eq_ok.mp hconsume
  obtain ⟨h₁, _, hbucket, rfl⟩ := h.lock hkey le_rfl (.inl rfl) hlock
  obtain ⟨_, _, hstore, hpure⟩ := bind_eq_ok.mp hrest
  cases pure_eq_ok.mp hpure
  exact h₁.store hkey hbucket rfl hstore

/-- Only stale rows are deleted. -/
lemma isStale_of_mem {buckets : Table BucketKey Bucket} {generation : ℕ} {staleBefore : ℤ}
    (hmem : key ∈ staleBuckets buckets generation staleBefore) :
    ∃ bucket, buckets.lookup key = some bucket ∧ bucket.IsStale generation staleBefore key := by
  simp only [staleBuckets] at hmem
  obtain ⟨⟨_, _⟩, htake, rfl⟩ := List.mem_map.mp hmem
  have hsorted := (List.mem_insertionSort _).mp (List.mem_of_mem_take htake)
  obtain ⟨hrow, hstale⟩ := List.mem_filter.mp hsorted
  obtain ⟨entry, hentry, heq⟩ := List.mem_map.mp hrow
  cases heq
  exact ⟨entry.2, AList.mem_lookup_iff.mpr hentry, of_decide_eq_true hstale⟩

lemma reclaim (h : s.Serving activation clock) {u : Unit}
    (hreclaim : reclaimAuthenticationRateLimitBuckets activation.generation
      (loadedTime clock - activation.policy.window) s = .ok (u, t)) :
    t.Serving activation clock := by
  cases modify_eq_ok.mp hreclaim
  refine ⟨h.sound.update h.active rfl (fun key _ => ⟨fun hrow hnone => hrow ?_, rfl⟩)
    fun key hkey => ?_, h.active, h.clock⟩
  · by_cases hmem : key ∈ staleBuckets s.buckets activation.generation
        (loadedTime clock - activation.policy.window)
    · exact Table.lookup_deleteAll_of_mem hmem
    · exact (Table.lookup_deleteAll_of_notMem hmem).trans hnone
  · have hold := h.sound.active activation h.active key hkey
    rw [h.clock] at hold
    dsimp only
    rw [h.clock]
    by_cases hmem : key ∈ staleBuckets s.buckets activation.generation
        (loadedTime clock - activation.policy.window)
    · rw [Table.lookup_deleteAll_of_mem hmem]
      obtain ⟨_, hbucket, hstale⟩ := isStale_of_mem hmem
      rw [hbucket] at hold
      rcases hstale with hother | ⟨-, hscope, hbefore⟩
      · exact (hother hkey).elim
      · exact hold.delete hscope hbefore
    · rw [Table.lookup_deleteAll_of_notMem hmem]
      exact hold

end Serving

namespace Sound

variable {digests : RateLimitDigests} {s t : RateLimits}

/-- **One call.** -/
lemma allow (hs : s.Sound) {opened now : ℤ} {input : AllowAuthenticationInput}
    {result : AuthenticationRateLimitResult} (hclock : s.clock = now) (hle : opened ≤ now)
    (h : allowAuthentication digests opened now input s = .ok (result, t)) : t.Sound := by
  simp only [allowAuthentication, require_bind_eq_ok] at h
  obtain ⟨-, h⟩ := h
  obtain ⟨_, _, hactive, h⟩ := bind_eq_ok.mp h
  simp only [requireActiveAuthenticationRateLimitPolicy, read_bind, demand_bind_eq_ok] at hactive
  obtain ⟨activation, hhead, hrequire⟩ := hactive
  obtain ⟨⟨hgeneration, -, hpolicy⟩, heq⟩ := require_eq_ok.mp hrequire
  cases heq
  have hserving : s.Serving activation now := ⟨hs, hhead, hclock⟩
  rw [← hgeneration, ← hpolicy] at h
  obtain ⟨_, _, hlock, h⟩ := bind_eq_ok.mp h
  obtain ⟨h₁, _, hbucket, rfl⟩ := hserving.lock rfl hle (.inr rfl) hlock
  obtain ⟨_, _, hstore, h⟩ := bind_eq_ok.mp h
  have h₂ := h₁.store rfl hbucket rfl hstore
  split at h
  · cases pure_eq_ok.mp h
    exact h₂.sound
  · obtain ⟨_, _, hreclaim, h⟩ := bind_eq_ok.mp h
    have h₃ := h₂.reclaim hreclaim
    obtain ⟨_, _, hdomain, h⟩ := bind_eq_ok.mp h
    have h₄ := h₃.consume rfl hdomain
    split at h
    · cases pure_eq_ok.mp h
      exact h₄.sound
    · exact (h₄.consume rfl h).sound

/-- **Every event keeps the invariant.** -/
lemma step (hs : s.Sound) {event : RateLimitEvent} (h : RateLimits.step digests s event = some t) :
    t.Sound := by
  cases event with
  | activate =>
    cases h
    unfold after
    split
    · rename_i u t hmethod
      simp only [activateAuthenticationRateLimitPolicy, require_bind_eq_ok, read_bind] at hmethod
      obtain ⟨⟨-, -, hvalid⟩, hmethod⟩ := hmethod
      split at hmethod
      · obtain ⟨_, -, hrequire⟩ := demand_bind_eq_ok.mp hmethod
        obtain ⟨-, heq⟩ := require_eq_ok.mp hrequire
        cases heq
        exact hs
      · obtain ⟨rfl, hmodify⟩ := require_bind_eq_ok.mp hmethod
        cases modify_eq_ok.mp hmodify
        exact hs.activate hvalid _
    · exact hs
  | allow =>
    simp only [RateLimits.step] at h
    split at h
    · rename_i hclock
      cases h
      split
      · unfold after
        split
        · rename_i result t hmethod
          exact (hs.tick hclock.1).allow rfl hclock.2 hmethod
        · exact hs.tick hclock.1
      · exact hs.tick hclock.1
    · cases h

end Sound

end RateLimits

/-! ### The bound -/

/-- **What a bucket admits.**  In every run of calls and activations, a bucket whose interval is a
whole number of microseconds admits at most `burst + D / interval` attempts in every span of length
`D`, and so at most `burst` at one instant. -/
theorem admitted_within (digests : RateLimitDigests) (events : List RateLimitEvent) (s : RateLimits)
    (h : Run.run (RateLimits.step digests) .empty events = some s)
    (activation : PolicyActivation) (hactivation : activation ∈ s.activations)
    (key : BucketKey) (hkey : key.generation = activation.generation)
    (hwhole : 1000 ∣ activation.policy.interval key.scope) (start span : ℤ) (hspan : 0 ≤ span) :
    (between (s.admitted key) start (start + span) : ℤ) ≤
        activation.policy.burst key.scope + span / activation.policy.interval key.scope ∧
      between (s.admitted key) start start ≤ activation.policy.burst key.scope := by
  have hs : s.Sound := Run.run_invariant (fun _ _ _ hs hstep => hs.step hstep)
    RateLimits.sound_empty h
  have hpos := (hs.valid activation hactivation).interval_pos key.scope
  have hwithin := hs.within activation hactivation key hkey hwhole
  refine ⟨hwithin.between_le hpos hspan, ?_⟩
  have hinstant : (between (s.admitted key) start (start + 0) : ℤ) ≤
      activation.policy.burst key.scope + 0 / activation.policy.interval key.scope :=
    hwithin.between_le hpos le_rfl
  simpa using hinstant

namespace Scenario

/-- Digests that are easy to read. -/
def rateDigests : RateLimitDigests :=
  ⟨fun _ => "policy", "all", fun domain => domain, fun domain _ => domain⟩

/-- One second for a burst of some size. -/
def ratePolicy (burst : ℕ) : AuthenticationRateLimitPolicy :=
  ⟨1000000000, burst, burst, burst⟩

/-- An attempt at a time in microseconds. -/
def attemptAt (burst : ℕ) (now : ℤ) : RateLimitEvent :=
  .allow now now ⟨"iso_0123456789abcdef0123", 1, 1, ratePolicy burst⟩ true

end Scenario

open Scenario

/-- Four attempts in a third of a second, where three and a little less than one are allowed: the
interval is 333333333 nanoseconds, of which 333333 microseconds are stored. -/
theorem admitted_within_fails :
    (ratePolicy 3).Valid ∧
    (ratePolicy 3).interval .global = 333333333 ∧
    ((Run.run (RateLimits.step rateDigests) .empty
      (.activate 1 (ratePolicy 3) ::
        [0, 0, 0, 333333].map (attemptAt 3))).map fun s =>
        between (s.admitted ⟨1, .global, "all"⟩) 0 333333000) = some 4 ∧
    ¬(4 : ℤ) ≤ 3 + 333333000 / (ratePolicy 3).interval .global := by
  decide +kernel

/-- With four attempts in a second the interval is whole, and the fifth attempt waits for a quarter of
a second. -/
theorem admitted_within_whole : ∃ s,
    Run.run (RateLimits.step rateDigests) .empty
      (.activate 1 (ratePolicy 4) ::
        [0, 0, 0, 0, 0, 249999, 250000].map (attemptAt 4)) = some s ∧
    between (s.admitted ⟨1, .credential, "iso_0123456789abcdef0123"⟩) 0 250000000 = 5 ∧
    (between (s.admitted ⟨1, .credential, "iso_0123456789abcdef0123"⟩) 0 (0 + 250000000) : ℤ) ≤
      4 + 250000000 / 250000000 := by
  refine Run.exists_some_of (P := fun s => s.activations = [⟨1, ratePolicy 4, "policy"⟩] ∧
    between (s.admitted ⟨1, .credential, "iso_0123456789abcdef0123"⟩) 0 250000000 = 5)
    (by decide +kernel) fun s hs ⟨hactivations, hcount⟩ => ⟨hcount, ?_⟩
  exact (admitted_within _ _ s hs ⟨1, ratePolicy 4, "policy"⟩ (hactivations ▸ List.mem_cons_self)
    ⟨1, .credential, "iso_0123456789abcdef0123"⟩ rfl (by decide) 0 250000000 (by decide)).1

end DataGround
