import DataGround.Artifact.Finalizations

/-!
# Conflicts of finalizations

Any number of artifacts, change sets and enforcement bundles are finalized at once, and again.

* `artifact_sensible`, `changes_sensible`, `bundle_sensible` -- what is bound was read before, and a
  conflict has a reason (`Call.Contradicts`);
* `finalized_objects_intact` -- in every run, what is bound has its object, and a conflict is never the
  own earlier progress, unless the object could not be read after its write was refused by the very
  content.
-/

namespace DataGround.Artifact

open Process (ask)

variable {env : Environment} {sha256Hex : Bytes → String} {tx tx' : Tx}

/-! ### Artifacts -/

/-- A fact that is about something other than what a call finalizes. -/
def Call.Contradicts (env : Environment) : Call → Fact → Prop
  | .artifact _ binding content, .object key other =>
    key = objectKey binding.record ∧ other ≠ content
  | .artifact _ binding _, .artifact key other =>
    key = binding.record.catalogKey ∧
      other ≠ { binding.record with objectKey := objectKey binding.record }
  | .changes binding changeSet, .object key other =>
    key = (binding.record.artifactRecord env).objectKey ∧ other ≠ changeSet.encoded
  | .changes binding _, .exported key other =>
    key = binding.record.catalogKey ∧ other ≠ binding.record
  | .bundle binding content, .object key other =>
    key = enforcementBundleObjectKey binding.record ∧ other ≠ content
  | .bundle binding _, .bundle key other =>
    key = binding.record.catalogKey ∧
      other ≠ { binding.record with objectKey := enforcementBundleObjectKey binding.record }
  | _, _ => False

/-- A binding and content that are not refused for themselves. -/
def Call.IsValid (sha256Hex : Bytes → String) (env : Environment) : Call → Prop
  | .artifact _ _ _ => True
  | .changes binding changeSet =>
    validChangeExportBinding env binding = true ∧ changeSet.receipt = binding.record.changes
  | .bundle binding content =>
    content.length = binding.record.sizeBytes ∧
      verifyEnforcementPolicy sha256Hex content binding.record.digest = true

lemma normalizeBinding_eq_some {binding normal : Binding} (h : normalizeBinding binding = some normal) :
    normalizeRecord binding.record = some normal.record ∧ normal = { binding with record :=
        { binding.record with objectKey := objectKey binding.record } } := by
  unfold normalizeBinding at h
  cases hrecord : normalizeRecord binding.record with
  | none =>
    rw [hrecord] at h
    cases h
  | some =>
    rw [hrecord] at h
    dsimp only at h
    split_ifs at h
    cases h
    refine ⟨rfl, ?_⟩
    unfold normalizeRecord at hrecord
    split_ifs at hrecord
    cases hrecord
    rfl

/-- The content of an object that is not too long is read to its end. -/
lemma take_of_length_le {content : Bytes} {maximum : ℕ}
    (h : (content.take (maximum + 1)).length ≤ maximum) : content.take (maximum + 1) = content := by
  rw [List.length_take] at h
  exact List.take_of_length_le (by omega)

/-- Content is checked against its binding. -/
structure Matching (sha256Hex : Bytes → String) (maximumBytes : ℕ) (binding normal : Binding)
    (content : Bytes) : Prop where
  normalized : normalizeBinding binding = some normal
  limit : content.length ≤ maximumBytes
  size : content.length = normal.record.sizeBytes
  digest : verifyContent sha256Hex content normal.record.digest = true

section

variable {maximumBytes : ℕ} {dependencies : ArtifactDependencies} {binding normal : Binding}
  {content : Bytes} {contradicts : Fact → Prop}

lemma Matching.digest_eq (h : Matching sha256Hex maximumBytes binding normal content) :
    "sha256:" ++ sha256Hex content = normal.record.digest := by
  have hverify := h.digest
  simp only [verifyContent, Bool.and_eq_true, decide_eq_true_eq] at hverify
  exact hverify.2

/-- What remains to be shown for `artifact.Finalizer`, once the content is checked. -/
lemma Matching.served (h : Matching sha256Hex maximumBytes binding normal content)
    (hobject : ∀ other, other ≠ content → contradicts (.object normal.record.objectKey other))
    (hget : ∀ tx, Sensible sha256Hex env (fun tx' reply => ∀ existing, reply = .ok existing →
      existing = normal.record ∨ Contradicted contradicts tx') tx
      (dependencies.getRecord normal.record.isolationDomainId normal.record.id))
    (hput : ∀ tx, Sensible sha256Hex env (fun tx' reply => reply = .error .objectConflict →
      tx'.refused = true ∨ Contradicted contradicts tx') tx
      (dependencies.putObject normal.record content))
    (hbind : ∀ tx, Knows sha256Hex tx normal.record.objectKey normal.record.sizeBytes
        normal.record.digest → Sensible sha256Hex env (fun tx' reply =>
      (∀ bound, reply = .ok bound → bound = normal.record) ∧
      (reply = .error .conflict → Contradicted contradicts tx')) tx (dependencies.bind normal)) :
    (artifactFinalizing sha256Hex maximumBytes dependencies normal content).Served sha256Hex env
      contradicts where
  normal := normalizeRecord_normal (normalizeBinding_eq_some h.normalized).1
  isContent := by simp [artifactFinalizing, h.limit, h.size, h.digest]
  whole := List.take_of_length_le (Nat.le_succ_of_le h.limit)
  conflicts := rfl
  read other hother := by
    simp only [artifactFinalizing, Bool.and_eq_true, decide_eq_true_eq] at hother
    exact take_of_length_le hother.1.1
  object := hobject
  getRecord := hget
  putObject := hput
  openObject _ := rfl
  bind tx hknown := by
    refine (hbind tx ⟨content, hknown, h.size, h.digest_eq⟩).mono
      fun tx' reply hreply => ⟨hreply.1, hreply.2.1, ?_⟩
    rintro error rfl hpasses -
    have hconflict : error = .conflict := of_decide_eq_true hpasses
    exact hreply.2.2 (by rw [hconflict])

/-- `artifact.Finalizer` reports what is wrong with its input as such. -/
lemma finalizeArtifact_sensible
    (hserved : ∀ normal, Matching sha256Hex maximumBytes binding normal content →
      (artifactFinalizing sha256Hex maximumBytes dependencies normal content).Served sha256Hex env
        contradicts) (tx : Tx) :
    Sensible sha256Hex env (fun tx' reply => Justified contradicts tx' reply ∧ ∀ record,
      reply = .ok record → ∃ normal, normalizeBinding binding = some normal ∧ record = normal.record) tx
      (finalizeArtifact sha256Hex maximumBytes dependencies binding content) := by
  unfold finalizeArtifact
  cases hnormal : normalizeBinding binding with
  | none => exact .pure ⟨.of_error rfl, nofun⟩
  | some normal =>
    dsimp only
    split_ifs with hlimit hcontent
    · exact .pure ⟨.of_error rfl, nofun⟩
    · exact .pure ⟨.of_error rfl, nofun⟩
    · push Not at hlimit hcontent
      have hmatching : Matching sha256Hex maximumBytes binding normal content :=
        ⟨hnormal, hlimit.2, hcontent.1, Bool.eq_true_of_not_eq_false hcontent.2⟩
      refine (Finalizing.finalize_sensible (hserved normal hmatching) tx).mono
        fun tx' reply hreply => ⟨hreply.1, hreply.2.1, fun record heq => ?_⟩
      exact ⟨normal, rfl, hreply.2.2 record heq⟩

end

/-- A write is refused by another object, or by its own content. -/
lemma putObject_sensible {key : String} {content : Bytes} {contradicts : Fact → Prop}
    (hobject : ∀ other, other ≠ content → contradicts (.object key other)) (tx : Tx) :
    Sensible sha256Hex env (fun tx' reply => reply = .error .objectConflict →
      tx'.refused = true ∨ Contradicted contradicts tx') tx (ask (Statement.putObject key content)) := by
  refine Sensible.ask (allowed_of_binds rfl) fun reply tx' hnoted heq => ?_
  subst heq
  obtain ⟨existing, hexisting, hrefused⟩ := hnoted.putObject_conflict
  by_cases hsame : existing = content
  · exact .inl (hrefused hsame)
  · exact .inr ⟨_, hexisting, hobject existing hsame⟩

/-- **Artifacts of invocations.** -/
lemma artifact_sensible (maximumBytes : ℕ) (binding : Binding) (content : Bytes) (tx : Tx) :
    Sensible sha256Hex env (Justified (Call.Contradicts env (.artifact maximumBytes binding content))) tx
      (finalizeArtifact sha256Hex maximumBytes artifactDependencies binding content) := by
  refine (finalizeArtifact_sensible (fun normal hmatching => ?_) tx).mono
    fun tx' reply hreply => ⟨hreply.1, hreply.2.1⟩
  have hnormal : normal.record = { binding.record with objectKey := objectKey binding.record } :=
    congrArg Binding.record (normalizeBinding_eq_some hmatching.normalized).2
  have hkey : normal.record.catalogKey = binding.record.catalogKey := by rw [hnormal]; rfl
  have hobject : ∀ other, other ≠ content → Call.Contradicts env (.artifact maximumBytes binding content)
      (.object normal.record.objectKey other) := fun other hother => ⟨by rw [hnormal], hother⟩
  refine hmatching.served hobject (fun tx => ?_) (putObject_sensible hobject) fun tx hknows => ?_
  · refine Sensible.ask (allowed_of_binds rfl) fun reply tx' hnoted existing heq => ?_
    subst heq
    by_cases hsame : existing = normal.record
    · exact .inl hsame
    · exact .inr ⟨_, hnoted.getArtifact_ok, hkey, by rw [← hnormal]; exact hsame⟩
  · refine Sensible.ask (fun key size digest hbinds => ?_) fun reply tx' hnoted => ?_
    · cases hbinds
      exact hknows
    · obtain ⟨hok, herror⟩ := hnoted.bindArtifact
      refine ⟨hok, fun heq => ?_⟩
      obtain ⟨_, hne, hexisting⟩ := herror heq
      exact ⟨_, hexisting, hkey, by rw [← hnormal]; exact hne⟩

/-! ### Change sets of workspaces -/

lemma Noted.prepareExport_ok {binding : ChangeExportBinding} {entry : ChangeExportEntry}
    (h : Noted env tx (.prepareExport binding) (.ok entry) tx') : entry.record = binding.record := by
  obtain ⟨_, htold, rfl⟩ := h.told
  cases htold with
  | failed _ fails => cases fails
  | prepared same => exact same

/-- Completing an export never fails with a conflict of the finalizer. -/
lemma Noted.completeExport_error {binding : ChangeExportBinding} {error : StorageError}
    (h : Noted env tx (.completeExport binding) (.error error) tx') : error ≠ .conflict := by
  obtain ⟨_, htold, rfl⟩ := h.told
  cases htold with
  | failed failure fails =>
    cases fails
    rintro rfl
    cases failure
  | completed reported => exact fun h => reported (by rw [h])

/-- A valid binding is in normal form. -/
lemma normalizeBinding_artifactBinding {binding : ChangeExportBinding} {normal : Binding}
    (h : normalizeBinding (binding.artifactBinding env) = some normal) :
    normal = binding.artifactBinding env := by
  rw [(normalizeBinding_eq_some h).2]
  rfl

section

variable {binding : ChangeExportBinding} {changeSet : Workspace.ChangeSet}

lemma getChangeArtifact_sensible (isolationDomainId id : String) (tx : Tx) :
    Sensible sha256Hex env (fun _ reply => ∀ existing, reply = .ok existing →
      existing = binding.record.artifactRecord env) tx
      (getChangeArtifact env binding isolationDomainId id) := by
  unfold getChangeArtifact
  split_ifs
  · exact .pure nofun
  · refine Sensible.bind (fun _ _ => True) (Sensible.ask (allowed_of_binds rfl)
      fun _ _ _ => trivial) fun tx' reply _ _ => ?_
    cases reply with
    | error => exact .pure nofun
    | ok =>
      dsimp only
      split_ifs with hrecord
      · exact .pure nofun
      · exact .pure nofun
      · refine .pure fun existing heq => ?_
        cases heq
        rw [not_not.mp hrecord]

lemma bindChangeArtifact_sensible {bound : Binding} (contradicts : Fact → Prop) (tx : Tx)
    (hknows : Knows sha256Hex tx (binding.record.artifactRecord env).objectKey
      (binding.record.artifactRecord env).sizeBytes (binding.record.artifactRecord env).digest) :
    Sensible sha256Hex env (fun tx' reply =>
      (∀ record, reply = .ok record → record = binding.record.artifactRecord env) ∧
      (reply = .error .conflict → Contradicted contradicts tx')) tx
      (bindChangeArtifact env binding bound) := by
  unfold bindChangeArtifact
  split_ifs
  · exact .pure ⟨nofun, nofun⟩
  · refine Sensible.bind (fun _ reply => ∀ error, reply = .error error → error ≠ .conflict)
      (Sensible.ask (fun key size digest hbinds => ?_) fun reply tx' hnoted error heq => ?_)
      fun tx' reply _ hreply => ?_
    · cases hbinds
      exact hknows
    · subst heq
      exact hnoted.completeExport_error
    · cases reply with
      | error =>
        refine .pure ⟨nofun, fun heq => ?_⟩
        cases heq
        exact absurd rfl (hreply _ rfl)
      | ok =>
        dsimp only
        split_ifs with hentry
        · exact .pure ⟨nofun, nofun⟩
        · push Not at hentry
          refine .pure ⟨fun record heq => ?_, nofun⟩
          cases heq
          rw [hentry.2]

/-- The writer of change sets looks at the object first, and at the intent. -/
lemma putChangeObject_sensible {content : Bytes} {contradicts : Fact → Prop}
    (hsize : content.length = (binding.record.artifactRecord env).sizeBytes)
    (hdigest : "sha256:" ++ sha256Hex content = (binding.record.artifactRecord env).digest)
    (hobject : ∀ other, other ≠ content →
      contradicts (.object (binding.record.artifactRecord env).objectKey other)) (tx : Tx) :
    Sensible sha256Hex env (fun tx' reply => reply = .error .objectConflict →
      tx'.refused = true ∨ Contradicted contradicts tx') tx
      (putChangeObject sha256Hex env binding (binding.record.artifactRecord env) content) := by
  unfold putChangeObject
  dsimp only
  rw [if_neg (by simp)]
  refine Sensible.bind (fun tx' reply => ∀ object, reply = .ok object →
      .object (binding.record.artifactRecord env).objectKey object ∈ tx'.facts)
    (Sensible.ask (allowed_of_binds rfl) fun reply tx' hnoted object heq => ?_)
    fun tx' reply _ hread => ?_
  · subst heq
    exact hnoted.openObject_ok
  · cases reply with
    | ok object =>
      dsimp only
      split_ifs with hsame
      · exact .pure nofun
      · refine .pure fun _ => .inr ⟨_, hread object rfl, hobject object ?_⟩
        rintro rfl
        have hwhole : object.take ((binding.record.artifactRecord env).sizeBytes.toNat + 1) = object :=
          List.take_of_length_le (by omega)
        rw [hwhole] at hsame
        exact hsame ⟨hsize, hdigest⟩
    | error error =>
      dsimp only
      split_ifs
      · refine Sensible.bind (fun _ reply => ∀ error, reply = .error error → error ≠ .objectConflict)
          (Sensible.ask (allowed_of_binds rfl) fun reply tx'' hnoted error heq => ?_)
          fun tx'' reply _ hprepared => ?_
        · subst heq
          exact hnoted.prepareExport_error.1
        · cases reply with
          | error =>
            refine .pure fun heq => ?_
            cases heq
            exact absurd rfl (hprepared _ rfl)
          | ok entry =>
            obtain ⟨record, ready⟩ := entry
            dsimp only
            by_cases hrecord : record = binding.record
            · rw [if_neg (not_not.mpr hrecord)]
              cases ready with
              | true => exact Sensible.pure nofun
              | false => exact putObject_sensible hobject tx''
            · rw [if_pos hrecord]
              exact .pure nofun
      · exact .pure nofun

lemma finalizeChanges_sensible (tx : Tx) :
    Sensible sha256Hex env (Justified (Call.Contradicts env (.changes binding changeSet))) tx
      (finalizeChanges sha256Hex env binding changeSet) := by
  have hobject : ∀ other, other ≠ changeSet.encoded → Call.Contradicts env (.changes binding changeSet)
      (.object (binding.record.artifactRecord env).objectKey other) := fun other hother => ⟨rfl, hother⟩
  have hserved : ∀ normal, Matching sha256Hex Workspace.maximumChangeSetBytes
      (binding.artifactBinding env) normal changeSet.encoded →
      (artifactFinalizing sha256Hex Workspace.maximumChangeSetBytes
        (changeDependencies sha256Hex env binding) normal changeSet.encoded).Served sha256Hex env
        (Call.Contradicts env (.changes binding changeSet)) := by
    intro normal hmatching
    cases normalizeBinding_artifactBinding hmatching.normalized
    refine hmatching.served hobject (fun tx => ?_)
      (putChangeObject_sensible hmatching.size hmatching.digest_eq hobject)
      (bindChangeArtifact_sensible _)
    exact (getChangeArtifact_sensible _ _ tx).mono
      fun tx' reply hreply => ⟨hreply.1, fun existing heq => .inl (hreply.2 existing heq)⟩
  refine Sensible.bind _ (finalizeArtifact_sensible hserved tx) fun tx' reply _ hreply => ?_
  cases reply with
  | error error =>
    refine .pure fun e heq hconflict => ?_
    cases heq
    exact hreply.1 error rfl hconflict
  | ok record =>
    obtain ⟨_, hnormal, rfl⟩ := hreply.2 record rfl
    cases normalizeBinding_artifactBinding hnormal
    have hsame : (binding.artifactBinding env).record = binding.record.artifactRecord env := rfl
    dsimp only
    rw [if_pos hsame]
    exact .pure nofun

/-- **Change sets of workspaces.** -/
lemma changes_sensible (hvalid : Call.IsValid sha256Hex env (.changes binding changeSet)) (tx : Tx) :
    Sensible sha256Hex env (Justified (Call.Contradicts env (.changes binding changeSet))) tx
      (retainChanges sha256Hex env binding changeSet) := by
  unfold retainChanges
  rw [if_neg (by simp [hvalid.1, hvalid.2])]
  refine Sensible.bind (fun _ _ => True) (Sensible.ask (allowed_of_binds rfl)
    fun _ _ _ => trivial) fun tx₁ reply _ _ => ?_
  cases reply with
  | true => exact .pure (.of_error rfl)
  | false =>
    refine Sensible.bind (fun tx' reply => (∀ entry, reply = .ok entry → entry.record = binding.record) ∧
        Justified (Call.Contradicts env (.changes binding changeSet)) tx' reply)
      (Sensible.ask (allowed_of_binds rfl) fun reply tx' hnoted => ⟨?_, ?_⟩)
      fun tx₂ reply _ hprepared => ?_
    · rintro entry rfl
      exact hnoted.prepareExport_ok
    · rintro error rfl hconflict
      obtain ⟨_, hne, hexisting⟩ := hnoted.prepareExport_error.2 hconflict
      exact .inr ⟨_, hexisting, rfl, hne⟩
    · cases reply with
      | error error =>
        refine .pure fun e heq hconflict => ?_
        cases heq
        exact hprepared.2 error rfl hconflict
      | ok entry =>
        dsimp only
        rw [if_neg (not_not.mpr (hprepared.1 entry rfl))]
        refine Sensible.bind (fun _ reply => ∀ error, reply = .error error → error.isConflict = false)
          ?_ fun tx₃ reply _ hwritten => ?_
        · unfold writeChanges
          split_ifs
          · refine .pure fun error heq => ?_
            cases heq
            rfl
          · refine Sensible.bind (fun _ _ => True) (Sensible.ask (allowed_of_binds rfl)
              fun _ _ _ => trivial) fun tx' reply _ _ => ?_
            cases reply with
            | false => exact .pure nofun
            | true =>
              refine .pure fun error heq => ?_
              cases heq
              rfl
        · cases reply with
          | error error => exact .pure (.of_error (hwritten error rfl))
          | ok => exact finalizeChanges_sensible tx₃

end

/-! ### Enforcement bundles -/

lemma normalizeEnforcementBundleBinding_eq_ok {binding normal : EnforcementBundleBinding}
    (h : normalizeEnforcementBundleBinding binding = .ok normal) :
    normalizeEnforcementBundleRecord binding.record = .ok normal.record ∧
      normal.record =
        { binding.record with objectKey := enforcementBundleObjectKey binding.record } := by
  unfold normalizeEnforcementBundleBinding at h
  cases hrecord : normalizeEnforcementBundleRecord binding.record with
  | error =>
    rw [hrecord] at h
    cases h
  | ok =>
    rw [hrecord] at h
    dsimp only at h
    split_ifs at h
    cases h
    refine ⟨rfl, ?_⟩
    unfold normalizeEnforcementBundleRecord at hrecord
    split at hrecord
    · cases hrecord
    · cases hrecord
      rfl

/-- **Enforcement bundles.** -/
lemma bundle_sensible {binding : EnforcementBundleBinding} {content : Bytes}
    (hvalid : Call.IsValid sha256Hex env (.bundle binding content)) (tx : Tx) :
    Sensible sha256Hex env (Justified (Call.Contradicts env (.bundle binding content))) tx
      (finalizeBundle sha256Hex binding content) := by
  unfold finalizeBundle
  cases hbinding : normalizeEnforcementBundleBinding binding with
  | error => exact .pure (.of_error rfl)
  | ok normal =>
    obtain ⟨hrecord, hnormal⟩ := normalizeEnforcementBundleBinding_eq_ok hbinding
    have hsize : content.length = normal.record.sizeBytes := by rw [hnormal]; exact hvalid.1
    have hverify : verifyEnforcementPolicy sha256Hex content normal.record.digest = true := by
      rw [hnormal]
      exact hvalid.2
    have hpolicy := hverify
    simp only [verifyEnforcementPolicy, Bool.and_eq_true, decide_eq_true_eq] at hpolicy
    have hkey : normal.record.catalogKey = binding.record.catalogKey := by rw [hnormal]; rfl
    have hobject : ∀ other, other ≠ content → Call.Contradicts env (.bundle binding content)
        (.object normal.record.objectKey other) := fun other hother => ⟨by rw [hnormal], hother⟩
    dsimp only
    rw [if_neg (by rw [hverify]; simp [hsize])]
    suffices hserved : (bundleFinalizing sha256Hex normal content).Served sha256Hex env
        (Call.Contradicts env (.bundle binding content)) from
      (Finalizing.finalize_sensible hserved tx).mono fun tx' reply hreply => ⟨hreply.1, hreply.2.1⟩
    refine ⟨?_, ?_, ?_, rfl, ?_, hobject, ?_, putObject_sensible hobject, fun _ => rfl, ?_⟩
    · simp [bundleFinalizing, normalizeEnforcementBundleRecord_normal hrecord, Except.toOption]
    · simp [bundleFinalizing, hsize, hverify, hpolicy.1.1.2]
    · exact List.take_of_length_le (Nat.le_succ_of_le hpolicy.1.1.2)
    · intro other hother
      simp only [bundleFinalizing, Bool.and_eq_true, decide_eq_true_eq] at hother
      exact take_of_length_le hother.1.2
    · intro tx
      refine Sensible.ask (allowed_of_binds rfl) fun reply tx' hnoted existing heq => ?_
      subst heq
      by_cases hsame : existing = normal.record
      · exact .inl hsame
      · exact .inr ⟨_, hnoted.getBundle_ok, hkey, by rw [← hnormal]; exact hsame⟩
    · intro tx hknown
      refine Sensible.ask (fun key size digest hbinds => ?_) fun reply tx' hnoted => ?_
      · cases hbinds
        exact ⟨content, hknown, hsize, hpolicy.2⟩
      · obtain ⟨hok, herror⟩ := hnoted.bindBundle
        refine ⟨hok, fun error heq hpasses hconflict => ?_⟩
        have herror' : error = .conflict := by
          simp only [bundleFinalizing, Bool.or_eq_true, decide_eq_true_eq] at hpasses
          rcases hpasses with rfl | rfl
          · rfl
          · cases hconflict
        obtain ⟨_, hne, hexisting⟩ := herror (by rw [heq, herror'])
        exact ⟨_, hexisting, hkey, by rw [← hnormal]; exact hne⟩

/-! ### Whole runs -/

/-- The error of a call. -/
def Result.error : Result → Option StorageError
  | .artifact (.error error) | .changes (.error error) | .bundle (.error error) => some error
  | _ => none

/-- What a call returns: a conflict only for a reason. -/
def Explained (sha256Hex : Bytes → String) (env : Environment) (tx : Tx) (result : Result) : Prop :=
  tx.call.IsValid sha256Hex env → ∀ error, result.error = some error → error.isConflict = true →
    tx.unread = true ∨ Contradicted (tx.call.Contradicts env) tx

/-- What a finalization returns is the result of its call. -/
lemma explained_bind {α : Type} {x : Program (Except StorageError α)} {wrap : Except StorageError α → Result}
    (hwrap : ∀ reply error, (wrap reply).error = some error → reply = .error error)
    (hx : tx.call.IsValid sha256Hex env →
      Sensible sha256Hex env (Justified (tx.call.Contradicts env)) tx x)
    (hinvalid : ¬ tx.call.IsValid sha256Hex env → ∃ reply, x = pure reply) :
    (x >>= fun reply => pure (wrap reply)).Complies (Allowed sha256Hex env) (Noted env)
      (Explained sha256Hex env) tx := by
  by_cases hvalid : tx.call.IsValid sha256Hex env
  · refine Process.Complies.bind (hx hvalid) fun tx' reply h => ?_
    intro _ error herror hconflict
    rw [h.1.call]
    exact h.2 error (hwrap reply error herror) hconflict
  · obtain ⟨_, rfl⟩ := hinvalid hvalid
    exact fun h => absurd h hvalid

/-- **Every call binds only what it has read, and has a reason for a conflict.** -/
lemma program_complies (call : Call) :
    (call.program sha256Hex env).Complies (Allowed sha256Hex env) (Noted env) (Explained sha256Hex env)
      ⟨call, [], false, false⟩ := by
  cases call with
  | artifact =>
    refine explained_bind (fun reply error h => ?_) (fun _ => artifact_sensible _ _ _ _)
      fun h => absurd trivial h
    cases reply <;> cases h
    rfl
  | changes =>
    refine explained_bind (fun reply error h => ?_) (fun h => changes_sensible h _) fun h => ?_
    · cases reply <;> cases h
      rfl
    · refine ⟨.error .exportConflict, if_pos ?_⟩
      rw [Call.IsValid, not_and_or, Bool.not_eq_true] at h
      exact h
  | bundle binding =>
    refine explained_bind (fun reply error h => ?_) (fun h => bundle_sensible h _) fun h => ?_
    · cases reply <;> cases h
      rfl
    · unfold finalizeBundle
      cases hbinding : normalizeEnforcementBundleBinding binding with
      | error => exact ⟨_, rfl⟩
      | ok =>
        refine ⟨.error .mismatch, if_pos ?_⟩
        rw [(normalizeEnforcementBundleBinding_eq_ok hbinding).2]
        rw [Call.IsValid, not_and_or, Bool.not_eq_true] at h
        exact h

/-- What the sessions know stays true, and what is bound has its object. -/
lemma discipline : Server.Discipline (Storage.Sound sha256Hex env)
    (fun tx s _ _ => ∀ fact ∈ tx.facts, fact.Holds s) (server sha256Hex env) (Allowed sha256Hex env) := by
  refine Server.Discipline.of_facts (fun s id tx i answer reply tx' t h => ?_)
    (fun s id tx i answer reply tx' t h => ?_) (fun s id tx i answer reply tx' t hs hfacts hallowed h => ?_)
    fun _ _ _ => rfl
  all_goals
    obtain ⟨⟨_, _, _⟩, hexecute, heq⟩ := Option.map_eq_some_iff.mp h
    cases heq
    have hdid := did_execute hexecute
  · exact fun fact hfact => hdid.changed.holds hfact
  · intro fact hfact
    exact (List.mem_append.mp hfact).symm.imp_right (hdid.holds fact)
  · refine hdid.changed.sound hs fun key size digest hbinds => ?_
    obtain ⟨content, hcontent, hmatches⟩ := hallowed key size digest hbinds
    exact ⟨content, hfacts _ hcontent, hmatches⟩

/-- **Finalizations that take place at once, and again.**  What is bound has its object, with the
recorded size and digest.  A call with valid input that returns a conflict is contradicted by what is
stored -- by another object at its key, or by another record -- unless it could not read the object
after its write was refused by an object with the very content. -/
theorem finalized_objects_intact (sha256Hex : Bytes → String) (env : Environment) {s : Storage}
    (hs : s.Sound sha256Hex env) {events : List (Server.Event Answer Call)}
    {sys : Server.State Storage Tx Statement Statement.Reply Result}
    (h : Run.run (server sha256Hex env).step (Server.initial s) events = some sys) :
    sys.shared.Sound sha256Hex env ∧
    ∀ id call, .start id call ∈ events → ∃ session, sys.sessions id = some session ∧
      session.tx.call = call ∧
      ∀ result error, session.rest = .done result → call.IsValid sha256Hex env →
        result.error = some error → error.isConflict = true → session.tx.unread = false →
        ∃ fact, call.Contradicts env fact ∧ fact.Holds sys.shared := by
  have hcomplies : ∀ call, ((server sha256Hex env).start call).2.Complies (Allowed sha256Hex env)
      (Server.Moves (Storage.Sound sha256Hex env) (fun tx s _ _ => ∀ fact ∈ tx.facts, fact.Holds s)
        (server sha256Hex env).serve) (Explained sha256Hex env) ((server sha256Hex env).start call).1 := by
    refine fun call => (program_complies call).of_moves fun tx statement reply tx' _ hmoves => ?_
    obtain ⟨s, id, answer, t, -, -, hserve⟩ := hmoves
    obtain ⟨⟨_, facts, _⟩, hexecute, heq⟩ := Option.map_eq_some_iff.mp hserve
    cases heq
    exact ⟨s, answer, facts, t, hexecute, rfl⟩
  have hconsistent := discipline.of_run hcomplies hs (fun _ _ _ hfact => by cases hfact) h
  refine ⟨hconsistent.sound, fun id call hstart => ?_⟩
  obtain ⟨session, hsession, hcall⟩ := Server.session_of_start (f := Tx.call)
    (fun s id tx i answer reply tx' t hserve => by
      obtain ⟨⟨_, _, _⟩, -, heq⟩ := Option.map_eq_some_iff.mp hserve
      cases heq
      rfl) h hstart
  refine ⟨session, hsession, hcall, fun result error hrest hvalid herror hconflict hread => ?_⟩
  have hexplained := hconsistent.complying id session hsession
  rw [hrest] at hexplained
  have hcall' : session.tx.call = call := hcall
  obtain hunread | ⟨fact, hfact, hcontradicts⟩ :=
    hexplained (by rw [hcall']; exact hvalid) error herror hconflict
  · rw [hunread] at hread
    cases hread
  · rw [hcall'] at hcontradicts
    exact ⟨fact, hcontradicts, hconsistent.sessions id session hsession fact hfact⟩

namespace Scenario

def environment : Environment where
  digestText _ := "00000000000000000000"
  digest _ := "0"
  schemaCompiles _ := true
  schemaAccepts _ _ := true

/-- A digest of the right form. -/
def zeros (_ : Bytes) : String :=
  String.ofList (List.replicate 64 '0')

def record : Record where
  schemaVersion := "dataground.invocation-artifact/v1"
  isolationDomainId := "iso_00000000000000000000"
  id := "art_00000000000000000000"
  invocationId := "inv_00000000000000000000"
  operationId := "op_00000000000000000000"
  effectId := "eff_00000000000000000000"
  name := "report"
  kind := "file"
  mediaType := "text/plain"
  sizeBytes := 1
  digest := "sha256:" ++ zeros []
  sensitive := false
  objectKey := ""

def binding : Binding := ⟨record, "worker", "correlation", "worker", 1, 2⟩

def bundleRecord : EnforcementBundleRecord where
  schemaVersion := "dataground.enforcement-bundle/v1"
  isolationDomainId := "iso_00000000000000000000"
  id := "bundle"
  revisionId := "rev_00000000000000000000"
  digest := "sha256:" ++ zeros []
  mediaType := "application/yaml"
  sizeBytes := 1
  objectKey := ""
  provenance := ⟨"rosetta", String.ofList (List.replicate 40 '0'), "1", "1", "1", "strict",
    "sha256:" ++ zeros [], "sha256:" ++ zeros []⟩

def artifactCall (content : Bytes) : Call := .artifact 10 binding content

def bundleCall : Call := .bundle ⟨bundleRecord, "worker", "correlation"⟩ [1]

/-- A call that writes its object, or finds it, and cannot read it back. -/
def unreadable (id : ℕ) (call : Call) : List (Server.Event Answer Call) :=
  .start id call :: [.executed, .context false, .executed, .context false, .failed .unavailable,
    .context false, .context false].map (Server.Event.answer id)

/-- A call that binds its record, and one that comes with another content. -/
def other : List (Server.Event Answer Call) :=
  .start 0 (artifactCall [1]) :: [.executed, .context false, .executed, .context false, .executed,
      .executed].map (Server.Event.answer 0) ++
    .start 1 (artifactCall [2]) :: [.executed, .executed].map (Server.Event.answer 1)

/-- The error of a call that is done. -/
def errorOf (sys : Server.State Storage Tx Statement Statement.Reply Result) (id : ℕ) :
    Option StorageError :=
  (sys.sessions id).bind fun session =>
    match session.rest with
    | .done result => result.error
    | .request _ _ => none

end Scenario

open Artifact.Scenario in
/-- Both finalizers, twice with the same input: the write of the first call takes place, and nothing can
be read; the second call finds its own object, cannot read it, and reports a conflict. -/
theorem conflict_with_own_object :
    (∃ sys, Run.run (server zeros environment).step (Server.initial {})
        (unreadable 0 (artifactCall [1]) ++ unreadable 1 (artifactCall [1])) = some sys ∧
      errorOf sys 1 = some .conflict ∧
      ∀ fact, (artifactCall [1]).Contradicts environment fact → ¬ fact.Holds sys.shared) ∧
    ∃ sys, Run.run (server zeros environment).step (Server.initial {})
        (unreadable 0 bundleCall ++ unreadable 1 bundleCall) = some sys ∧
      errorOf sys 1 = some .conflict ∧
      ∀ fact, bundleCall.Contradicts environment fact → ¬ fact.Holds sys.shared := by
  refine ⟨Run.exists_some_of (P := fun sys => errorOf sys 1 = some .conflict ∧
      sys.shared.objects.lookup (objectKey record) = some [1] ∧
      sys.shared.artifacts.lookup record.catalogKey = none)
    (by decide +kernel) fun sys _ hseen => ⟨hseen.1, fun fact hcontradicts hholds => ?_⟩,
    Run.exists_some_of (P := fun sys => errorOf sys 1 = some .conflict ∧
      sys.shared.objects.lookup (enforcementBundleObjectKey bundleRecord) = some [1] ∧
      sys.shared.bundles.lookup bundleRecord.catalogKey = none)
    (by decide +kernel) fun sys _ hseen => ⟨hseen.1, fun fact hcontradicts hholds => ?_⟩⟩
  · cases fact with
    | object =>
      obtain ⟨rfl, hne⟩ := hcontradicts
      exact hne (Option.some.inj (hholds.symm.trans hseen.2.1))
    | artifact =>
      obtain ⟨rfl, -⟩ := hcontradicts
      cases hholds.symm.trans hseen.2.2
    | bundle | exported => exact hcontradicts
  · cases fact with
    | object =>
      obtain ⟨rfl, hne⟩ := hcontradicts
      exact hne (Option.some.inj (hholds.symm.trans hseen.2.1))
    | bundle =>
      obtain ⟨rfl, -⟩ := hcontradicts
      cases hholds.symm.trans hseen.2.2
    | artifact | exported => exact hcontradicts

lemma sound_empty : Storage.Sound sha256Hex env {} :=
  ⟨nofun, nofun, nofun⟩

open Artifact.Scenario in
/-- A conflict with the object of another call. -/
theorem finalized_objects_intact_other :
    ∃ sys, Run.run (server zeros environment).step (Server.initial {}) other = some sys ∧
      errorOf sys 1 = some .conflict ∧ sys.shared.Sound zeros environment ∧
      ∃ fact, (artifactCall [2]).Contradicts environment fact ∧ fact.Holds sys.shared := by
  refine Run.exists_some_of (P := fun sys => errorOf sys 1 = some .conflict ∧
      (sys.sessions 1).map (fun session => session.tx.unread) = some false)
    (by decide +kernel) fun sys hrun ⟨herror, hread⟩ => ?_
  obtain ⟨hsound, hcalls⟩ := finalized_objects_intact zeros environment sound_empty hrun
  obtain ⟨_, hsession, -, hexplained⟩ := hcalls 1 (artifactCall [2]) (by simp [other])
  refine ⟨herror, hsound, ?_⟩
  rw [hsession] at hread
  have hdone := herror
  rw [errorOf, hsession, Option.bind_some] at hdone
  split at hdone
  · rename_i result hrest
    exact hexplained result _ hrest trivial hdone rfl (Option.some.inj hread)
  · cases hdone

end DataGround.Artifact
