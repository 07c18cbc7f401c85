import DataGround.Artifact.Storage

/-!
# The steps of finalizations

Any number of finalizations take place at once, each request by request, and some of them again.

* `Changed` -- everything that is stored stays, so that facts stay true, and what is bound has its object,
  if bindings come after a look at it (`Changed.sound`);
* `Finalizing.finalize_sensible` -- the steps of a finalizer: it binds only what it has read, and it
  reports a conflict only if it knows of an object or a record other than its own, or if it could not
  read the object after its write was refused by the very content.
-/

namespace DataGround.Artifact

open Process (ask)

/-! ### What is stored stays -/

/-- The object of a record is there, with its size and digest. -/
def Storage.Has (s : Storage) (sha256Hex : Bytes → String) (key : String) (size : ℤ) (digest : String) :
    Prop :=
  ∃ content, s.objects.lookup key = some content ∧ content.length = size ∧
    "sha256:" ++ sha256Hex content = digest

/-- **What is bound has its object.** -/
structure Storage.Sound (sha256Hex : Bytes → String) (env : Environment) (s : Storage) : Prop where
  artifacts : ∀ key record, s.artifacts.lookup key = some record →
    s.Has sha256Hex record.objectKey record.sizeBytes record.digest
  bundles : ∀ key record, s.bundles.lookup key = some record →
    s.Has sha256Hex record.objectKey record.sizeBytes record.digest
  exports : ∀ key entry, s.exports.lookup key = some entry → entry.ready = true →
    s.Has sha256Hex (entry.record.artifactRecord env).objectKey
      (entry.record.artifactRecord env).sizeBytes (entry.record.artifactRecord env).digest

/-- **What a request may do to the storage.** -/
inductive Changed (env : Environment) (s : Storage) : Statement → Storage → Prop
  | same {statement : Statement} : Changed env s statement s
  | stored {key : String} {content : Bytes} (fresh : key ∉ s.objects) :
      Changed env s (.putObject key content) { s with objects := s.objects.insert key content }
  | bound {binding : Binding} (fresh : binding.record.catalogKey ∉ s.artifacts) :
      Changed env s (.bindArtifact binding)
        { s with artifacts := s.artifacts.insert binding.record.catalogKey binding.record }
  | bundled {binding : EnforcementBundleBinding} (fresh : binding.record.catalogKey ∉ s.bundles) :
      Changed env s (.bindBundle binding)
        { s with bundles := s.bundles.insert binding.record.catalogKey binding.record }
  | prepared {binding : ChangeExportBinding} (fresh : binding.record.catalogKey ∉ s.exports) :
      Changed env s (.prepareExport binding)
        { s with exports := s.exports.insert binding.record.catalogKey ⟨binding.record, false⟩ }
  | completed {binding : ChangeExportBinding} {entry : ChangeExportEntry}
      (found : s.exports.lookup binding.record.catalogKey = some entry)
      (same : entry.record = binding.record)
      (fresh : (binding.record.artifactRecord env).catalogKey ∉ s.artifacts) :
      Changed env s (.completeExport binding) (complete env s binding)

variable {env : Environment} {sha256Hex : Bytes → String} {s t : Storage} {statement : Statement}

/-- **Facts stay true.** -/
lemma Changed.holds (h : Changed env s statement t) {fact : Fact} (hfact : fact.Holds s) :
    fact.Holds t := by
  cases h with
  | same => exact hfact
  | stored fresh =>
    cases fact with
    | object => exact Table.lookup_insert_of_fresh fresh hfact
    | _ => exact hfact
  | bound fresh =>
    cases fact with
    | artifact => exact Table.lookup_insert_of_fresh fresh hfact
    | _ => exact hfact
  | bundled fresh =>
    cases fact with
    | bundle => exact Table.lookup_insert_of_fresh fresh hfact
    | _ => exact hfact
  | prepared fresh =>
    cases fact with
    | exported =>
      obtain ⟨entry, hentry, hrecord⟩ := Option.map_eq_some_iff.mp hfact
      exact Option.map_eq_some_iff.mpr ⟨entry, Table.lookup_insert_of_fresh fresh hentry, hrecord⟩
    | _ => exact hfact
  | @completed binding entry found same fresh =>
    cases fact with
    | object | bundle => exact hfact
    | artifact => exact Table.lookup_insert_of_fresh fresh hfact
    | exported key record =>
      show ((s.exports.insert _ _).lookup key).map _ = some record
      by_cases hkey : key = binding.record.catalogKey
      · have hrecord : entry.record = record := by
          rw [Fact.Holds, hkey, found] at hfact
          exact Option.some.inj hfact
        rw [hkey, AList.lookup_insert, Option.map_some, ← same, hrecord]
      · rw [AList.lookup_insert_ne hkey]
        exact hfact

lemma Changed.has (h : Changed env s statement t) {key digest : String} {size : ℤ}
    (hhas : s.Has sha256Hex key size digest) : t.Has sha256Hex key size digest := by
  obtain ⟨content, hcontent, hmatches⟩ := hhas
  have hkept : Fact.Holds t (.object key content) := h.holds hcontent
  exact ⟨content, hkept, hmatches⟩

/-- The record that a request binds, by its key, size and digest. -/
def Statement.binds (env : Environment) : Statement → Option (String × ℤ × String)
  | .bindArtifact binding =>
    some (binding.record.objectKey, binding.record.sizeBytes, binding.record.digest)
  | .bindBundle binding =>
    some (binding.record.objectKey, binding.record.sizeBytes, binding.record.digest)
  | .completeExport binding =>
    some ((binding.record.artifactRecord env).objectKey,
      (binding.record.artifactRecord env).sizeBytes, (binding.record.artifactRecord env).digest)
  | _ => none

/-- The old rows have their objects, and so has the new one. -/
lemma has_insert {ρ : Type} {table : Table (String × String) ρ} {P : ρ → Prop} {key : String × String}
    {row : ρ} (hold : ∀ k r, table.lookup k = some r → P r) (hnew : P row) (k : String × String) (r : ρ)
    (h : (table.insert key row).lookup k = some r) : P r := by
  rcases Table.lookup_insert_cases h with ⟨-, rfl⟩ | h
  · exact hnew
  · exact hold k r h

/-- **What is bound has its object**, if the request binds only what has one. -/
lemma Changed.sound (h : Changed env s statement t) (hs : s.Sound sha256Hex env)
    (hbinds : ∀ key size digest, statement.binds env = some (key, size, digest) →
      s.Has sha256Hex key size digest) : t.Sound sha256Hex env := by
  have hkept : ∀ {key size digest}, s.Has sha256Hex key size digest → t.Has sha256Hex key size digest :=
    fun hhas => h.has hhas
  have hartifacts : ∀ key record, s.artifacts.lookup key = some record →
      t.Has sha256Hex record.objectKey record.sizeBytes record.digest :=
    fun key record hrecord => hkept (hs.artifacts key record hrecord)
  have hbundles : ∀ key record, s.bundles.lookup key = some record →
      t.Has sha256Hex record.objectKey record.sizeBytes record.digest :=
    fun key record hrecord => hkept (hs.bundles key record hrecord)
  have hexports : ∀ key entry, s.exports.lookup key = some entry → entry.ready = true →
      t.Has sha256Hex (entry.record.artifactRecord env).objectKey
        (entry.record.artifactRecord env).sizeBytes (entry.record.artifactRecord env).digest :=
    fun key entry hentry hready => hkept (hs.exports key entry hentry hready)
  cases h with
  | same => exact hs
  | stored => exact ⟨hartifacts, hbundles, hexports⟩
  | bound => exact ⟨has_insert hartifacts (hkept (hbinds _ _ _ rfl)), hbundles, hexports⟩
  | bundled => exact ⟨hartifacts, has_insert hbundles (hkept (hbinds _ _ _ rfl)), hexports⟩
  | prepared => exact ⟨hartifacts, hbundles, has_insert hexports fun hready => (nomatch hready)⟩
  | completed =>
    have hnew := hkept (hbinds _ _ _ rfl)
    exact ⟨has_insert hartifacts hnew, hbundles, has_insert hexports fun _ => hnew⟩

/-! ### What a request does and tells -/

/-- **What a session is told**: the reply to its request, and the facts that come with it. -/
inductive Told : (statement : Statement) → statement.Reply → List Fact → Prop
  | asked {value : Bool} : Told .isCancelled value []
  | failed {statement : Statement} {error : StorageError} {reply : statement.Reply}
      (failure : error.isFailure = true) (fails : statement.fail error = some reply) :
      Told statement reply []
  | artifact {isolationDomainId id : String} {record : Record} :
      Told (.getArtifact isolationDomainId id) (.ok record) [.artifact (isolationDomainId, id) record]
  | noArtifact {isolationDomainId id : String} :
      Told (.getArtifact isolationDomainId id) (.error .missing) []
  | bundle {isolationDomainId id : String} {record : EnforcementBundleRecord} :
      Told (.getBundle isolationDomainId id) (.ok record) [.bundle (isolationDomainId, id) record]
  | noBundle {isolationDomainId id : String} :
      Told (.getBundle isolationDomainId id) (.error .missing) []
  | exported {isolationDomainId operationId : String} {reply : Except StorageError ChangeExportEntry} :
      Told (.getExport isolationDomainId operationId) reply []
  | object {key : String} {content : Bytes} : Told (.openObject key) (.ok content) [.object key content]
  | noObject {key : String} : Told (.openObject key) (.error .objectMissing) []
  | bound {binding : Binding} : Told (.bindArtifact binding) (.ok binding.record)
      [.artifact binding.record.catalogKey binding.record]
  | otherArtifact {binding : Binding} {existing : Record} (other : existing ≠ binding.record) :
      Told (.bindArtifact binding) (.error .conflict) [.artifact binding.record.catalogKey existing]
  | bundled {binding : EnforcementBundleBinding} : Told (.bindBundle binding) (.ok binding.record)
      [.bundle binding.record.catalogKey binding.record]
  | otherBundle {binding : EnforcementBundleBinding} {existing : EnforcementBundleRecord}
      (other : existing ≠ binding.record) :
      Told (.bindBundle binding) (.error .conflict) [.bundle binding.record.catalogKey existing]
  | prepared {binding : ChangeExportBinding} {entry : ChangeExportEntry}
      (same : entry.record = binding.record) : Told (.prepareExport binding) (.ok entry)
        [.exported binding.record.catalogKey entry.record]
  | otherExport {binding : ChangeExportBinding} {existing : ChangeExportRecord}
      (other : existing ≠ binding.record) : Told (.prepareExport binding) (.error .exportConflict)
        [.exported binding.record.catalogKey existing]
  | completed {binding : ChangeExportBinding} {reply : Except StorageError ChangeExportEntry}
      (reported : reply ≠ .error .conflict) : Told (.completeExport binding) reply []
  | stored {key : String} {content : Bytes} :
      Told (.putObject key content) (.ok ()) [.object key content]
  | refused {key : String} {content existing : Bytes} :
      Told (.putObject key content) (.error .objectConflict) [.object key existing]

/-- A request: what it does to the storage, and what it tells, which is true. -/
structure Did (env : Environment) (s : Storage) (statement : Statement) (reply : statement.Reply)
    (facts : List Fact) (t : Storage) : Prop where
  changed : Changed env s statement t
  told : Told statement reply facts
  holds : ∀ fact ∈ facts, fact.Holds t

variable {reply : statement.Reply} {facts : List Fact}

lemma did_read (htold : Told statement reply facts) (hholds : ∀ fact ∈ facts, fact.Holds s) :
    Did env s statement reply facts s :=
  ⟨.same, htold, hholds⟩

lemma did_perform (h : perform env s statement = some (reply, facts, t)) :
    Did env s statement reply facts t := by
  cases statement with
  | isCancelled => cases h
  | getArtifact =>
    simp only [perform, readRow] at h
    split at h
    all_goals cases h
    · exact did_read .artifact (List.forall_mem_singleton.mpr ‹_›)
    · exact did_read .noArtifact nofun
  | getBundle =>
    simp only [perform, readRow] at h
    split at h
    all_goals cases h
    · exact did_read .bundle (List.forall_mem_singleton.mpr ‹_›)
    · exact did_read .noBundle nofun
  | getExport =>
    simp only [perform, readRow] at h
    split at h
    all_goals
      cases h
      exact did_read .exported nofun
  | openObject =>
    simp only [perform, readRow] at h
    split at h
    all_goals cases h
    · exact did_read .object (List.forall_mem_singleton.mpr ‹_›)
    · exact did_read .noObject nofun
  | bindArtifact =>
    simp only [perform, bindArtifact, bindRow] at h
    split at h
    · rename_i existing hfound
      split_ifs at h with hsame
      all_goals cases h
      · subst hsame
        exact did_read .bound (List.forall_mem_singleton.mpr hfound)
      · exact did_read (.otherArtifact hsame) (List.forall_mem_singleton.mpr hfound)
    · cases h
      exact ⟨.bound (AList.lookup_eq_none.mp ‹_›), .bound,
        List.forall_mem_singleton.mpr (AList.lookup_insert _)⟩
  | bindBundle =>
    simp only [perform, bindBundle, bindRow] at h
    split at h
    · rename_i existing hfound
      split_ifs at h with hsame
      all_goals cases h
      · subst hsame
        exact did_read .bundled (List.forall_mem_singleton.mpr hfound)
      · exact did_read (.otherBundle hsame) (List.forall_mem_singleton.mpr hfound)
    · cases h
      exact ⟨.bundled (AList.lookup_eq_none.mp ‹_›), .bundled,
        List.forall_mem_singleton.mpr (AList.lookup_insert _)⟩
  | prepareExport binding =>
    simp only [perform, prepareExport] at h
    split at h
    · rename_i entry hfound
      have hholds : Fact.Holds s (.exported binding.record.catalogKey entry.record) :=
        Option.map_eq_some_iff.mpr ⟨entry, hfound, rfl⟩
      split_ifs at h with hsame
      all_goals cases h
      · exact did_read (.prepared hsame) (List.forall_mem_singleton.mpr hholds)
      · exact did_read (.otherExport hsame) (List.forall_mem_singleton.mpr hholds)
    · cases h
      exact ⟨.prepared (AList.lookup_eq_none.mp ‹_›), .prepared rfl, List.forall_mem_singleton.mpr
        (Option.map_eq_some_iff.mpr ⟨⟨binding.record, false⟩, AList.lookup_insert _, rfl⟩)⟩
  | completeExport =>
    simp only [perform, completeExport] at h
    split at h
    · cases h
      exact did_read (.completed nofun) nofun
    · rename_i entry hfound
      split_ifs at h with hrecord hready hartifact
      all_goals cases h
      · exact did_read (.completed nofun) nofun
      · exact did_read (.completed nofun) nofun
      · exact did_read (.completed nofun) nofun
      · exact ⟨.completed hfound (not_not.mp hrecord) hartifact, .completed nofun, nofun⟩
  | putObject =>
    simp only [perform, putObject] at h
    split at h
    all_goals cases h
    · exact did_read .refused (List.forall_mem_singleton.mpr ‹_›)
    · exact ⟨.stored (AList.lookup_eq_none.mp ‹_›), .stored,
        List.forall_mem_singleton.mpr (AList.lookup_insert _)⟩

/-- **Every request does one of the changes**, and what it tells is true. -/
lemma did_execute {answer : Answer} (h : execute env s statement answer = some (reply, facts, t)) :
    Did env s statement reply facts t := by
  cases answer with
  | context =>
    cases statement <;> cases h
    exact did_read .asked nofun
  | executed => exact did_perform h
  | adopted =>
    cases statement with
    | putObject =>
      simp only [execute, adopt, Option.ite_none_right_eq_some, Option.some.injEq] at h
      obtain ⟨hfound, heq⟩ := h
      cases heq
      exact did_read .stored (List.forall_mem_singleton.mpr hfound)
    | _ => cases h
  | lost =>
    obtain ⟨⟨_, _, _⟩, hperform, h⟩ := Option.bind_eq_some_iff.mp h
    obtain ⟨_, hfail, heq⟩ := Option.bind_eq_some_iff.mp h
    cases heq
    exact ⟨(did_perform hperform).changed, .failed rfl hfail, nofun⟩
  | failed =>
    simp only [execute, Option.ite_none_right_eq_some] at h
    obtain ⟨_, hfail, heq⟩ := Option.map_eq_some_iff.mp h.2
    cases heq
    exact did_read (.failed h.1 hfail) nofun

/-! ### What a session learns -/

/-- A reply, as a session may get it, and what it knows then. -/
def Noted (env : Environment) (tx : Tx) (statement : Statement) (reply : statement.Reply) (tx' : Tx) :
    Prop :=
  ∃ s answer facts t, execute env s statement answer = some (reply, facts, t) ∧
    tx' = tx.note statement reply facts

/-- A session never forgets. -/
structure Tx.Le (tx tx' : Tx) : Prop where
  call : tx'.call = tx.call
  facts : ∀ fact ∈ tx.facts, fact ∈ tx'.facts
  refused : tx.refused = true → tx'.refused = true
  unread : tx.unread = true → tx'.unread = true

lemma Tx.Le.refl (tx : Tx) : tx.Le tx :=
  ⟨rfl, fun _ h => h, fun h => h, fun h => h⟩

lemma Tx.Le.trans {tx tx' tx'' : Tx} (h : tx.Le tx') (h' : tx'.Le tx'') : tx.Le tx'' :=
  ⟨h'.call.trans h.call, fun fact hfact => h'.facts fact (h.facts fact hfact), fun hr => h'.refused (h.refused hr),
    fun hu => h'.unread (h.unread hu)⟩

variable {tx tx' : Tx}

lemma Noted.le (h : Noted env tx statement reply tx') : tx.Le tx' := by
  obtain ⟨_, _, _, _, -, rfl⟩ := h
  exact ⟨rfl, fun fact hfact => List.mem_append_right _ hfact, fun hr => by simp [Tx.note, hr],
    fun hu => by simp [Tx.note, hu]⟩

lemma Noted.told (h : Noted env tx statement reply tx') :
    ∃ facts, Told statement reply facts ∧ tx' = tx.note statement reply facts := by
  obtain ⟨_, _, facts, _, hexecute, rfl⟩ := h
  exact ⟨facts, (did_execute hexecute).told, rfl⟩

variable {key : String}

lemma Noted.openObject_ok {content : Bytes} (h : Noted env tx (.openObject key) (.ok content) tx') :
    .object key content ∈ tx'.facts := by
  obtain ⟨_, htold, rfl⟩ := h.told
  cases htold with
  | failed _ fails => cases fails
  | object => exact List.mem_cons_self

variable {error : StorageError}

lemma Noted.openObject_error (h : Noted env tx (.openObject key) (.error error) tx')
    (hrefused : tx.refused = true) :
    tx'.unread = true := by
  obtain ⟨_, -, rfl⟩ := h.told
  simp [Tx.note, hrefused, isFailedRead]

lemma Noted.putObject_conflict {content : Bytes}
    (h : Noted env tx (.putObject key content) (.error .objectConflict) tx') :
    ∃ existing, .object key existing ∈ tx'.facts ∧ (existing = content → tx'.refused = true) := by
  obtain ⟨_, htold, rfl⟩ := h.told
  cases htold with
  | failed failure fails =>
    cases fails
    cases failure
  | @refused _ _ existing =>
    refine ⟨existing, List.mem_cons_self, ?_⟩
    rintro rfl
    simp [Tx.note, isRefusal]

lemma Noted.getArtifact_ok {isolationDomainId id : String} {record : Record}
    (h : Noted env tx (.getArtifact isolationDomainId id) (.ok record) tx') :
    .artifact (isolationDomainId, id) record ∈ tx'.facts := by
  obtain ⟨_, htold, rfl⟩ := h.told
  cases htold with
  | failed _ fails => cases fails
  | artifact => exact List.mem_cons_self

lemma Noted.getBundle_ok {isolationDomainId id : String} {record : EnforcementBundleRecord}
    (h : Noted env tx (.getBundle isolationDomainId id) (.ok record) tx') :
    .bundle (isolationDomainId, id) record ∈ tx'.facts := by
  obtain ⟨_, htold, rfl⟩ := h.told
  cases htold with
  | failed _ fails => cases fails
  | bundle => exact List.mem_cons_self

lemma Noted.bindArtifact {binding : Binding} {reply : Except StorageError Record}
    (h : Noted env tx (.bindArtifact binding) reply tx') :
    (∀ bound, reply = .ok bound → bound = binding.record) ∧
      (reply = .error .conflict →
        ∃ existing, existing ≠ binding.record ∧ .artifact binding.record.catalogKey existing ∈ tx'.facts) := by
  obtain ⟨_, htold, rfl⟩ := h.told
  cases htold with
  | failed failure fails =>
    cases fails
    refine ⟨nofun, fun heq => ?_⟩
    cases heq
    cases failure
  | bound => exact ⟨fun bound heq => (Except.ok.inj heq).symm, nofun⟩
  | @otherArtifact _ existing other => exact ⟨nofun, fun _ => ⟨existing, other, List.mem_cons_self⟩⟩

lemma Noted.bindBundle {binding : EnforcementBundleBinding}
    {reply : Except StorageError EnforcementBundleRecord}
    (h : Noted env tx (.bindBundle binding) reply tx') :
    (∀ bound, reply = .ok bound → bound = binding.record) ∧
      (reply = .error .conflict →
        ∃ existing, existing ≠ binding.record ∧ .bundle binding.record.catalogKey existing ∈ tx'.facts) := by
  obtain ⟨_, htold, rfl⟩ := h.told
  cases htold with
  | failed failure fails =>
    cases fails
    refine ⟨nofun, fun heq => ?_⟩
    cases heq
    cases failure
  | bundled => exact ⟨fun bound heq => (Except.ok.inj heq).symm, nofun⟩
  | @otherBundle _ existing other => exact ⟨nofun, fun _ => ⟨existing, other, List.mem_cons_self⟩⟩

/-- The errors that report a conflict. -/
def StorageError.isConflict : StorageError → Bool
  | .conflict | .mismatch | .exportConflict => true
  | _ => false

lemma StorageError.not_isConflict (h : error.isFailure = true) :
    error.isConflict = false ∧ error ≠ .objectConflict := by
  cases error <;> simp_all [isFailure, isConflict]

/-- A conflict about an export is about the record of another one. -/
lemma Noted.prepareExport_error {binding : ChangeExportBinding}
    (h : Noted env tx (.prepareExport binding) (.error error) tx') :
    error ≠ .objectConflict ∧ (error.isConflict = true → ∃ existing, existing ≠ binding.record ∧
      .exported binding.record.catalogKey existing ∈ tx'.facts) := by
  obtain ⟨_, htold, rfl⟩ := h.told
  cases htold with
  | failed failure fails =>
    cases fails
    obtain ⟨hconflict, hobject⟩ := StorageError.not_isConflict failure
    exact ⟨hobject, fun h => absurd h (by rw [hconflict]; exact Bool.false_ne_true)⟩
  | @otherExport _ existing other => exact ⟨nofun, fun _ => ⟨existing, other, List.mem_cons_self⟩⟩

/-! ### The steps of a finalizer -/

/-- A session knows of something other than its own. -/
def Contradicted (contradicts : Fact → Prop) (tx : Tx) : Prop :=
  ∃ fact ∈ tx.facts, contradicts fact

lemma Contradicted.le {contradicts : Fact → Prop} (h : Contradicted contradicts tx) (hle : tx.Le tx') :
    Contradicted contradicts tx' := by
  obtain ⟨fact, hfact, hcontradicts⟩ := h
  exact ⟨fact, hle.facts fact hfact, hcontradicts⟩

/-- The session knows the object that it may bind. -/
def Knows (sha256Hex : Bytes → String) (tx : Tx) (key : String) (size : ℤ) (digest : String) : Prop :=
  ∃ content, .object key content ∈ tx.facts ∧ content.length = size ∧
    "sha256:" ++ sha256Hex content = digest

/-- A request binds only what the session knows. -/
def Allowed (sha256Hex : Bytes → String) (env : Environment) (tx : Tx) (statement : Statement) : Prop :=
  ∀ key size digest, statement.binds env = some (key, size, digest) →
    Knows sha256Hex tx key size digest

section

variable {ρ : Type} [DecidableEq ρ] {f : Finalizing ρ} {contradicts : Fact → Prop}

/-- What is returned: a conflict only for a reason. -/
def Justified {α : Type} (contradicts : Fact → Prop) (tx : Tx) (result : Except StorageError α) : Prop :=
  ∀ error, result = .error error → error.isConflict = true →
    tx.unread = true ∨ Contradicted contradicts tx

/-- Any other error needs none. -/
lemma Justified.of_error {α : Type} (h : error.isConflict = false) :
    Justified (α := α) contradicts tx (.error error) := by
  intro e heq hconflict
  cases heq
  rw [h] at hconflict
  cases hconflict

/-- A conflict only for a reason, and no record but the own one. -/
def Settled {α : Type} (contradicts : Fact → Prop) (own : α) (tx : Tx) (result : Except StorageError α) :
    Prop :=
  Justified contradicts tx result ∧ ∀ record, result = .ok record → record = own

/-- A program binds only what its session knows, and what it returns is as `post` says. -/
abbrev Sensible (sha256Hex : Bytes → String) (env : Environment) {α : Type} (post : Tx → α → Prop)
    (tx : Tx) (x : Program α) : Prop :=
  x.Complies (Allowed sha256Hex env) (Noted env) (fun tx' result => tx.Le tx' ∧ post tx' result) tx

section

variable {α β : Type} {post : Tx → α → Prop} {post' : Tx → β → Prop}

lemma Sensible.pure {a : α} (h : post tx a) :
    Sensible sha256Hex env post tx (Pure.pure a : Program α) :=
  ⟨Tx.Le.refl tx, h⟩

lemma Sensible.bind (post : Tx → α → Prop) {x : Program α} {g : α → Program β}
    (hx : Sensible sha256Hex env post tx x)
    (hg : ∀ tx' a, tx.Le tx' → post tx' a → Sensible sha256Hex env post' tx' (g a)) :
    Sensible sha256Hex env post' tx (x >>= g) := by
  refine Process.Complies.bind hx fun tx' a h => ?_
  exact (hg tx' a h.1 h.2).mono fun tx'' b hb => ⟨h.1.trans hb.1, hb.2⟩

lemma Sensible.ask {post : Tx → statement.Reply → Prop} (hallowed : Allowed sha256Hex env tx statement)
    (h : ∀ reply tx', Noted env tx statement reply tx' → post tx' reply) :
    Sensible sha256Hex env post tx (Process.ask statement) :=
  ⟨hallowed, fun reply tx' hnoted => ⟨hnoted.le, h reply tx' hnoted⟩⟩

end

/-- A request that binds nothing is allowed. -/
lemma allowed_of_binds (h : statement.binds env = none) : Allowed sha256Hex env tx statement := by
  intro key size digest hbinds
  rw [h] at hbinds
  cases hbinds

lemma failUnlessCancelled_sensible {α : Type} {post : Tx → Except StorageError α → Prop}
    (h : ∀ tx', tx.Le tx' → post tx' (.error .cancelled) ∧ post tx' (.error error)) :
    Sensible sha256Hex env post tx (failUnlessCancelled error : Program (Except StorageError α)) := by
  refine Sensible.bind (fun _ _ => True) (Sensible.ask (allowed_of_binds rfl) fun _ _ _ => trivial)
    fun tx' reply hle _ => ?_
  have hpost := h tx' hle
  cases reply with
  | false => exact .pure hpost.2
  | true => exact .pure hpost.1

/-- What the parts of a finalizer tell. -/
structure Finalizing.Served (sha256Hex : Bytes → String) (env : Environment) (f : Finalizing ρ)
    (contradicts : Fact → Prop) : Prop where
  normal : f.normalize f.record = some f.record
  isContent : f.isContent f.record f.content = true
  whole : f.content.take f.limit = f.content
  conflicts : f.mismatch.isConflict = true
  read : ∀ content : Bytes, f.isContent f.record (content.take f.limit) = true → content.take f.limit = content
  object : ∀ content, content ≠ f.content → contradicts (.object (f.key f.record) content)
  getRecord : ∀ tx, Sensible sha256Hex env
    (fun tx' reply => ∀ existing, reply = .ok existing →
      existing = f.record ∨ Contradicted contradicts tx') tx f.getRecord
  putObject : ∀ tx, Sensible sha256Hex env
    (fun tx' reply => reply = .error .objectConflict →
      tx'.refused = true ∨ Contradicted contradicts tx') tx f.putObject
  openObject : ∀ key, f.openObject key = ask (Statement.openObject key)
  bind : ∀ tx, .object (f.key f.record) f.content ∈ tx.facts → Sensible sha256Hex env
    (fun tx' reply => (∀ bound, reply = .ok bound → bound = f.record) ∧
      ∀ error, reply = .error error → f.passes error = true → error.isConflict = true →
        Contradicted contradicts tx') tx f.bind

omit [DecidableEq ρ] in
/-- What is read of the object of the record, and what an error of reading means. -/
lemma Finalizing.readObject_sensible (hf : f.Served sha256Hex env contradicts) (tx : Tx) :
    Sensible sha256Hex env (fun tx' reply =>
      (∀ content, reply = .ok content → .object (f.key f.record) content ∈ tx'.facts) ∧
      ∀ error, reply = .error error → Contradicted contradicts tx' ∨
        error.isConflict = false ∧ (tx.refused = true → tx'.unread = true)) tx
      (f.readObject f.record) := by
  unfold Finalizing.readObject
  rw [hf.openObject]
  refine Sensible.bind (fun tx' reply =>
      (∀ content, reply = .ok content → .object (f.key f.record) content ∈ tx'.facts) ∧
      ∀ error, reply = .error error → tx.refused = true → tx'.unread = true)
    (Sensible.ask (allowed_of_binds rfl) fun reply tx' hnoted => ?_) fun tx' reply hle hreply => ?_
  · constructor
    · rintro content rfl
      exact hnoted.openObject_ok
    · rintro error rfl
      exact hnoted.openObject_error
  · cases reply with
    | error error =>
      refine failUnlessCancelled_sensible fun tx'' hle' => ?_
      have hunread : tx.refused = true → tx''.unread = true :=
        fun h => hle'.unread (hreply.2 error rfl h)
      exact ⟨⟨nofun, fun e he => .inr ⟨by cases he; rfl, hunread⟩⟩,
        nofun, fun e he => .inr ⟨by cases he; rfl, hunread⟩⟩
    | ok object =>
      have hobject := hreply.1 object rfl
      dsimp only
      split_ifs with hcontent
      · refine .pure ⟨fun content heq => ?_, nofun⟩
        cases heq
        rw [hf.read object hcontent]
        exact hobject
      · -- What was read is not the content of the record, so it is not the content at hand.
        refine .pure ⟨nofun, fun error _ => .inl ⟨_, hobject, hf.object object ?_⟩⟩
        rintro rfl
        rw [hf.whole] at hcontent
        exact hcontent hf.isContent

lemma Finalizing.preflight_sensible (hf : f.Served sha256Hex env contradicts) (tx : Tx) :
    Sensible sha256Hex env (fun tx' reply => Justified contradicts tx' reply ∧
      ∀ existing, reply = .ok (some existing) → existing = f.record) tx f.preflight := by
  refine Sensible.bind _ (hf.getRecord tx) fun tx' reply hle hreply => ?_
  cases reply with
  | error =>
    dsimp only
    split_ifs
    · refine Sensible.bind (fun _ _ => True) (Sensible.ask (allowed_of_binds rfl)
        fun _ _ _ => trivial) fun tx'' reply _ _ => ?_
      cases reply with
      | false => exact .pure ⟨nofun, nofun⟩
      | true => exact .pure ⟨.of_error rfl, nofun⟩
    · exact failUnlessCancelled_sensible fun tx'' _ => ⟨⟨.of_error rfl, nofun⟩, .of_error rfl, nofun⟩
  | ok existing =>
    dsimp only
    split_ifs with hsame
    · refine Sensible.bind _ (Finalizing.readObject_sensible hf tx') fun tx'' reply _ hread => ?_
      cases reply with
      | error error =>
        refine .pure ⟨fun e heq hconflict => ?_, nofun⟩
        cases heq
        rcases hread.2 error rfl with hcontradicted | ⟨hno, -⟩
        · exact .inr hcontradicted
        · rw [hno] at hconflict
          cases hconflict
      | ok persisted =>
        dsimp only
        split_ifs with hcontent
        · exact .pure ⟨nofun, fun existing heq => (Option.some.inj (Except.ok.inj heq)).symm⟩
        · exact .pure ⟨fun _ _ _ => .inr ⟨_, hread.1 persisted rfl, hf.object persisted hcontent⟩,
            nofun⟩
    · -- The record in the catalog is not the own one, which is in normal form.
      refine .pure ⟨fun _ _ _ => .inr ?_, nofun⟩
      rcases hreply existing rfl with rfl | hcontradicted
      · exact absurd hf.normal hsame
      · exact hcontradicted

lemma Finalizing.bindRecord_sensible (hf : f.Served sha256Hex env contradicts) (tx : Tx)
    (hobject : .object (f.key f.record) f.content ∈ tx.facts) :
    Sensible sha256Hex env (Settled contradicts f.record) tx f.bindRecord := by
  refine Sensible.bind _ (hf.bind tx hobject) fun tx' reply hle hreply => ?_
  cases reply with
  | error error =>
    refine failUnlessCancelled_sensible fun tx'' hle' => ⟨⟨.of_error rfl, nofun⟩,
      fun e heq hconflict => ?_, nofun⟩
    cases heq
    split_ifs at hconflict with hpasses
    · exact .inr ((hreply.2 error rfl hpasses hconflict).le hle')
    · cases hconflict
  | ok bound =>
    dsimp only
    rw [hreply.1 bound rfl, if_pos hf.normal]
    exact .pure ⟨nofun, fun r heq => (Except.ok.inj heq).symm⟩

lemma Finalizing.readBack_sensible (hf : f.Served sha256Hex env contradicts) (tx : Tx)
    {written : Except StorageError Unit}
    (hwritten : written = .error .objectConflict → tx.refused = true ∨ Contradicted contradicts tx) :
    Sensible sha256Hex env (Settled contradicts f.record) tx (f.readBack written) := by
  refine Sensible.bind _ (Finalizing.readObject_sensible hf tx) fun tx' reply hle hread => ?_
  cases reply with
  | error error =>
    refine failUnlessCancelled_sensible fun tx'' hle' => ⟨⟨.of_error rfl, nofun⟩,
      fun e heq hconflict => ?_, nofun⟩
    cases heq
    rcases hread.2 error rfl with hcontradicted | ⟨hno, hunread⟩
    · exact .inr (hcontradicted.le hle')
    · have hmismatch : error ≠ f.mismatch := by
        rintro rfl
        rw [hf.conflicts] at hno
        cases hno
      split_ifs at hconflict with hreported
      · -- The write was refused, and the object could not be read.
        rcases hwritten (hreported.resolve_left hmismatch) with hrefused | hcontradicted
        · exact .inl (hle'.unread (hunread hrefused))
        · exact .inr ((hcontradicted.le hle).le hle')
      · cases hconflict
  | ok persisted =>
    have hpersisted := hread.1 persisted rfl
    dsimp only
    split_ifs with hcontent
    · subst hcontent
      exact Finalizing.bindRecord_sensible hf tx' hpersisted
    · exact .pure ⟨fun _ _ _ => .inr ⟨_, hpersisted, hf.object persisted hcontent⟩, nofun⟩

/-- **The steps of a finalizer**: it binds only what it has read, it reports a conflict only for a
reason, and it returns its own record. -/
theorem Finalizing.finalize_sensible (hf : f.Served sha256Hex env contradicts) (tx : Tx) :
    Sensible sha256Hex env (Settled contradicts f.record) tx f.finalize := by
  refine Sensible.bind _ (Finalizing.preflight_sensible hf tx) fun tx₁ reply _ hpreflight => ?_
  rcases reply with error | _ | existing
  · refine .pure ⟨fun e heq hconflict => ?_, nofun⟩
    cases heq
    exact hpreflight.1 error rfl hconflict
  · refine Sensible.bind _ (hf.putObject tx₁) fun tx₂ written _ hwritten => ?_
    refine Sensible.bind (fun _ _ => True) (Sensible.ask (allowed_of_binds rfl)
      fun _ _ _ => trivial) fun tx₃ reply hle _ => ?_
    cases reply with
    | true => exact .pure ⟨.of_error rfl, nofun⟩
    | false =>
      exact Finalizing.readBack_sensible hf tx₃ fun h =>
        (hwritten h).imp hle.refused fun hcontradicted => hcontradicted.le hle
  · refine .pure ⟨nofun, fun r heq => ?_⟩
    cases heq
    exact hpreflight.2 existing rfl

end

end DataGround.Artifact
