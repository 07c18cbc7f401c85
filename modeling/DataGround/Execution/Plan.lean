import DataGround.Base.JsonText
import DataGround.Library.Canonical
import DataGround.Runtime.Quiescence

/-!
# Execution plans

A plan is kept in a normal form, and there are two notions of when two plans are the same:
`EqualExecutionPlans` compares normal forms field by field, and `DigestExecutionPlan` hashes the JSON text of
the normal form.

The text determines the normal form (`encoded_injective`), so that plans with the same digest are equal.
Conversely, a slice that is nil and one that is empty are equal, but have different texts: equal plans
have the same digest only if they agree on that.
-/

namespace DataGround.Execution

/-- `ExecutionPlan`; a slice that is nil is `none`. -/
structure Plan where
  (schemaVersion isolationDomainId revisionId runtimeProfile environmentRevisionId : String)
  (imageReference environmentManifestDigest enforcementBundleId enforcementBundleDigest : String)
  (runtimeMatrixId runtimeMatrixDigest : String)
  (providerProfiles requiredCapabilities : Option (List String))
  workspaceSource : Option SourceRecord
  deriving DecidableEq

/-! ### The normal form -/

def validPortableValue (value : String) (maximumLength : ℕ) : Bool :=
  value ≠ "" && value.utf8ByteSize ≤ maximumLength &&
    value.toList.all fun c => !(isControl c || isSpace c)

/-- `opaqueIdentifierPattern`: a letter or digit, and up to 127 letters, digits, dots, underscores and
dashes. -/
def opaqueIdentifierMatches (text : String) : Bool :=
  match text.toList with
  | [] => false
  | first :: rest => first.isAlphanum && rest.length ≤ 127 &&
      rest.all fun c => c.isAlphanum || c = '.' || c = '_' || c = '-'

def validImmutableImageReference (value : String) : Bool :=
  validPortableValue value 2048 && value.toList.count '@' = 1 &&
    value.toList.takeWhile (· ≠ '@') ≠ [] &&
    sha256Matches (String.ofList ((value.toList.dropWhile (· ≠ '@')).drop 1))

def normalizePortableValues (values : Option (List String)) (maximumLength maximumItems : ℕ)
    (rejectEquals : Bool) : Option (Option (List String)) :=
  if maximumItems < (values.getD []).length then none
  else if (values.getD []).all fun value =>
      validPortableValue value maximumLength && !(rejectEquals && value.toList.contains '=') then
    some (values.map List.canonical)
  else none

/-- The check of the schema version and of the source. -/
def validPlanSource (plan : Plan) : Bool :=
  match plan.workspaceSource with
  | none => plan.schemaVersion = "dataground.execution-plan/v1"
  | some source => plan.schemaVersion = "dataground.execution-plan/v2" && validSourceRecord source &&
      source.isolationDomainId = plan.isolationDomainId

/-- The checks of the other fields, in order, each with its message. -/
def planChecks (plan : Plan) : List (Bool × String) :=
  [(Writer.idMatches "iso" plan.isolationDomainId, "invalid execution plan isolation domain"),
    (Writer.idMatches "rev" plan.revisionId, "invalid execution plan revision"),
    (validPortableValue plan.runtimeProfile 128, "invalid execution plan runtime profile"),
    (opaqueIdentifierMatches plan.environmentRevisionId,
      "invalid execution plan environment revision"),
    (validImmutableImageReference plan.imageReference,
      "execution plan image must use an immutable sha256 reference"),
    (sha256Matches plan.environmentManifestDigest,
      "invalid execution plan environment manifest digest"),
    (opaqueIdentifierMatches plan.enforcementBundleId,
      "invalid execution plan enforcement bundle identifier"),
    (sha256Matches plan.enforcementBundleDigest, "invalid execution plan enforcement bundle digest"),
    (opaqueIdentifierMatches plan.runtimeMatrixId, "invalid execution plan runtime matrix"),
    (sha256Matches plan.runtimeMatrixDigest, "invalid execution plan runtime matrix digest")]

def normalizeExecutionPlan (plan : Plan) : Except String Plan :=
  if plan.schemaVersion ≠ "dataground.execution-plan/v1" ∧
      plan.schemaVersion ≠ "dataground.execution-plan/v2" then
    .error "unsupported execution plan schema version"
  else if validPlanSource plan = false then .error "invalid execution plan workspace source"
  else
    match (planChecks plan).find? fun check => !check.1 with
    | some (_, message) => .error message
    | none =>
      match normalizePortableValues plan.providerProfiles 128 64 true,
        normalizePortableValues plan.requiredCapabilities 128 256 false with
      | none, _ => .error "invalid execution plan provider profile"
      | _, none => .error "invalid execution plan required capability"
      | some profiles, some capabilities =>
        .ok { plan with providerProfiles := profiles, requiredCapabilities := capabilities }

/-! ### Two notions of equality -/

/-- The text of a source. -/
def encodedSource (source : SourceRecord) : List Char :=
  "\x7b\"schemaVersion\":".toList ++ quoted source.schemaVersion ++
    ",\"isolationDomainId\":".toList ++ quoted source.isolationDomainId ++
    ",\"workspaceId\":".toList ++ quoted source.workspaceId ++
    ",\"id\":".toList ++ quoted source.id ++
    ",\"archiveDigest\":".toList ++ quoted source.archiveDigest ++
    ",\"storageProfileDigest\":".toList ++ quoted source.storageProfileDigest ++
    ",\"archiveBytes\":".toList ++ (decimal source.archiveBytes ++ [',']) ++
    "\"entryCount\":".toList ++ (decimal source.entryCount ++ [',']) ++
    "\"sourceBytes\":".toList ++ (decimal source.sourceBytes ++ ['\x7d'])

/-- The end of the text of a plan: a source is left out if there is none. -/
def encodedEnd : Option SourceRecord → List Char
  | none => ['\x7d']
  | some source => ",\"workspaceSource\":".toList ++ encodedSource source ++ ['\x7d']

/-- The text of a plan without its end. -/
def encodedFields (plan : Plan) : List Char :=
  "\x7b\"schemaVersion\":".toList ++ quoted plan.schemaVersion ++
    ",\"isolationDomainId\":".toList ++ quoted plan.isolationDomainId ++
    ",\"revisionId\":".toList ++ quoted plan.revisionId ++
    ",\"runtimeProfile\":".toList ++ quoted plan.runtimeProfile ++
    ",\"environmentRevisionId\":".toList ++ quoted plan.environmentRevisionId ++
    ",\"imageReference\":".toList ++ quoted plan.imageReference ++
    ",\"environmentManifestDigest\":".toList ++ quoted plan.environmentManifestDigest ++
    ",\"enforcementBundleId\":".toList ++ quoted plan.enforcementBundleId ++
    ",\"enforcementBundleDigest\":".toList ++ quoted plan.enforcementBundleDigest ++
    ",\"runtimeMatrixId\":".toList ++ quoted plan.runtimeMatrixId ++
    ",\"runtimeMatrixDigest\":".toList ++ quoted plan.runtimeMatrixDigest ++
    ",\"providerProfiles\":".toList ++ quotedList plan.providerProfiles ++
    ",\"requiredCapabilities\":".toList ++ quotedList plan.requiredCapabilities

/-- `json.Marshal` of a plan. -/
def encoded (plan : Plan) : List Char :=
  encodedFields plan ++ encodedEnd plan.workspaceSource

def digestExecutionPlan (env : Environment) (plan : Plan) : Except String String := do
  let normalized ← normalizeExecutionPlan plan
  pure ("sha256:" ++ env.digest (String.ofList (encoded normalized)))

/-- `slices.Equal`. -/
def equalSlices (left right : Option (List String)) : Bool :=
  left.getD [] = right.getD []

def equalExecutionPlans (left right : Plan) : Bool :=
  left.workspaceSource = right.workspaceSource && left.schemaVersion = right.schemaVersion &&
    left.isolationDomainId = right.isolationDomainId && left.revisionId = right.revisionId &&
    left.runtimeProfile = right.runtimeProfile &&
    left.environmentRevisionId = right.environmentRevisionId &&
    left.imageReference = right.imageReference &&
    left.environmentManifestDigest = right.environmentManifestDigest &&
    left.enforcementBundleId = right.enforcementBundleId &&
    left.enforcementBundleDigest = right.enforcementBundleDigest &&
    left.runtimeMatrixId = right.runtimeMatrixId &&
    left.runtimeMatrixDigest = right.runtimeMatrixDigest &&
    equalSlices left.providerProfiles right.providerProfiles &&
    equalSlices left.requiredCapabilities right.requiredCapabilities

/-! ### Normal forms -/

/-- The slices are nil together. -/
def SameAbsence (left right : Option (List String)) : Prop :=
  left = none ↔ right = none

/-- The same values, in any order and any number of times. -/
def SameValues : Option (List String) → Option (List String) → Prop
  | none, none => True
  | some left, some right => ∀ value, value ∈ left ↔ value ∈ right
  | _, _ => False

lemma normalizePortableValues_eq {values normalized : Option (List String)}
    {maximumLength maximumItems : ℕ} {rejectEquals : Bool}
    (h : normalizePortableValues values maximumLength maximumItems rejectEquals = some normalized) :
    normalized = values.map List.canonical := by
  unfold normalizePortableValues at h
  split_ifs at h
  exact (Option.some.inj h).symm

/-- Normal values stay as they are. -/
lemma normalizePortableValues_idem {values normalized : Option (List String)}
    {maximumLength maximumItems : ℕ} {rejectEquals : Bool}
    (h : normalizePortableValues values maximumLength maximumItems rejectEquals = some normalized) :
    normalizePortableValues normalized maximumLength maximumItems rejectEquals = some normalized := by
  have hnormalized := normalizePortableValues_eq h
  unfold normalizePortableValues at h ⊢
  split_ifs at h with hcount hvalid
  cases values with
  | none =>
    subst hnormalized
    rfl
  | some items =>
    subst hnormalized
    simp only [Option.map_some, Option.getD_some, List.canonical_canonical] at hcount hvalid ⊢
    have hlength := List.length_canonical_le items
    rw [if_neg (Nat.not_lt.mpr (hlength.trans (Nat.not_lt.mp hcount))), if_pos]
    rw [List.all_eq_true] at hvalid ⊢
    exact fun value hvalue => hvalid value (List.mem_canonical.mp hvalue)

variable {normalized : Plan}

/-- When a plan is valid, and what its normal form is. -/
lemma normalizeExecutionPlan_ok {plan : Plan} :
    normalizeExecutionPlan plan = .ok normalized ↔
      (plan.schemaVersion = "dataground.execution-plan/v1" ∨
        plan.schemaVersion = "dataground.execution-plan/v2") ∧ validPlanSource plan = true ∧
      (∀ check ∈ planChecks plan, check.1 = true) ∧
      ∃ profiles capabilities,
        normalizePortableValues plan.providerProfiles 128 64 true = some profiles ∧
        normalizePortableValues plan.requiredCapabilities 128 256 false = some capabilities ∧
        normalized = { plan with providerProfiles := profiles, requiredCapabilities := capabilities } := by
  unfold normalizeExecutionPlan
  split
  · rename_i hschema
    exact ⟨fun h => (nomatch h), fun h => (h.1.elim hschema.1 hschema.2).elim⟩
  rename_i hschema
  have hversion := Classical.or_iff_not_imp_left.mpr fun h => not_not.mp (not_and.mp hschema h)
  split
  · rename_i hsource
    exact ⟨fun h => (nomatch h), fun h => (nomatch h.2.1.symm.trans hsource)⟩
  rename_i hsource
  have hsource : validPlanSource plan = true := Bool.eq_true_of_not_eq_false hsource
  split
  · rename_i check message hfind
    refine ⟨fun h => (nomatch h), fun h => ?_⟩
    have hmem := List.mem_of_find?_eq_some hfind
    have hfails := List.find?_some hfind
    rw [h.2.2.1 _ hmem] at hfails
    cases hfails
  · rename_i hfind
    have hchecks : ∀ check ∈ planChecks plan, check.1 = true := by
      intro check hcheck
      have := List.find?_eq_none.mp hfind check hcheck
      simpa using this
    split
    · rename_i hprofiles
      refine ⟨fun h => (nomatch h), ?_⟩
      rintro ⟨-, -, -, profiles, -, hsome, -, -⟩
      cases hprofiles.symm.trans hsome
    · rename_i hcapabilities _
      refine ⟨fun h => (nomatch h), ?_⟩
      rintro ⟨-, -, -, -, capabilities, -, hsome, -⟩
      cases hcapabilities.symm.trans hsome
    · rename_i profiles capabilities hprofiles hcapabilities
      constructor
      · intro h
        exact ⟨hversion, hsource, hchecks, profiles, capabilities, hprofiles, hcapabilities,
          (Except.ok.inj h).symm⟩
      · rintro ⟨-, -, -, profiles', capabilities', hprofiles', hcapabilities', rfl⟩
        cases hprofiles.symm.trans hprofiles'
        cases hcapabilities.symm.trans hcapabilities'
        rfl

/-- **Normalization is idempotent.** -/
lemma normalizeExecutionPlan_idem {plan : Plan} (h : normalizeExecutionPlan plan = .ok normalized) :
    normalizeExecutionPlan normalized = .ok normalized := by
  obtain ⟨hschema, hsource, hchecks, profiles, capabilities, hprofiles, hcapabilities, rfl⟩ :=
    normalizeExecutionPlan_ok.mp h
  exact normalizeExecutionPlan_ok.mpr ⟨hschema, hsource, hchecks, profiles, capabilities,
    normalizePortableValues_idem hprofiles, normalizePortableValues_idem hcapabilities, rfl⟩

/-! ### What the text determines -/

lemma determines_encodedSource : Determines encodedSource id := by
  have hcomma : Determines (fun n => decimal n ++ [',']) id :=
    determines_decimal (by decide) (by decide)
  have hbrace : Determines (fun n => decimal n ++ ['\x7d']) id :=
    determines_decimal (by decide) (by decide)
  have hfields : Determines encodedSource fun source => ((((((((((), source.schemaVersion),
      source.isolationDomainId), source.workspaceId), source.id), source.archiveDigest),
      source.storageProfileDigest), source.archiveBytes), source.entryCount), source.sourceBytes) := by
    unfold encodedSource
    exact (Determines.start _).text determines_quoted _
      |>.word _ |>.text determines_quoted _ |>.word _ |>.text determines_quoted _
      |>.word _ |>.text determines_quoted _ |>.word _ |>.text determines_quoted _
      |>.word _ |>.text determines_quoted _ |>.word _ |>.text hcomma _
      |>.word _ |>.text hcomma _ |>.word _ |>.text hbrace _
  intro source source' rest rest' heq
  obtain ⟨hparts, hrest⟩ := hfields source source' rest rest' heq
  refine ⟨?_, hrest⟩
  cases source
  cases source'
  simp only [Prod.mk.injEq, true_and, and_assoc] at hparts
  simp only [id_eq, SourceRecord.mk.injEq]
  exact hparts

lemma determines_encodedEnd : Determines encodedEnd id := by
  intro source source' rest rest' heq
  rcases source with _ | source <;> rcases source' with _ | source'
  · exact ⟨rfl, List.append_cancel_left heq⟩
  · cases heq
  · cases heq
  · have hsource := (Determines.start ",\"workspaceSource\":".toList).text determines_encodedSource
      (id : SourceRecord → SourceRecord) |>.word ['\x7d']
    obtain ⟨hparts, hrest⟩ := hsource source source' rest rest' heq
    exact ⟨congrArg some (Prod.mk.inj hparts).2, hrest⟩

lemma determines_encodedFields : Determines encodedFields fun plan => ((((((((((((((),
    plan.schemaVersion), plan.isolationDomainId), plan.revisionId), plan.runtimeProfile),
    plan.environmentRevisionId), plan.imageReference), plan.environmentManifestDigest),
    plan.enforcementBundleId), plan.enforcementBundleDigest), plan.runtimeMatrixId),
    plan.runtimeMatrixDigest), plan.providerProfiles), plan.requiredCapabilities) := by
  unfold encodedFields
  exact (Determines.start _).text determines_quoted _
    |>.word _ |>.text determines_quoted _ |>.word _ |>.text determines_quoted _
    |>.word _ |>.text determines_quoted _ |>.word _ |>.text determines_quoted _
    |>.word _ |>.text determines_quoted _ |>.word _ |>.text determines_quoted _
    |>.word _ |>.text determines_quoted _ |>.word _ |>.text determines_quoted _
    |>.word _ |>.text determines_quoted _ |>.word _ |>.text determines_quoted _
    |>.word _ |>.text determines_quotedList _ |>.word _ |>.text determines_quotedList _

/-- **The text of a plan determines it.** -/
lemma encoded_injective : Function.Injective encoded := by
  intro plan plan' heq
  have hall := determines_encodedFields.text determines_encodedEnd Plan.workspaceSource
  have hparts := hall.eq_of_eq heq
  cases plan
  cases plan'
  simp only [Prod.mk.injEq, true_and, and_assoc] at hparts
  simp only [Plan.mk.injEq]
  exact hparts

/-! ### The two notions compared -/

/-- Two texts are not a collision of the digest. -/
def NoCollision (env : Environment) (text text' : List Char) : Prop :=
  env.digest (String.ofList text) = env.digest (String.ofList text') → text = text'

/-- The plans agree on which of their slices are nil. -/
def AgreeOnAbsence (plan plan' : Plan) : Prop :=
  SameAbsence plan.providerProfiles plan'.providerProfiles ∧
    SameAbsence plan.requiredCapabilities plan'.requiredCapabilities

instance (plan plan' : Plan) : Decidable (AgreeOnAbsence plan plan') :=
  inferInstanceAs (Decidable ((_ ↔ _) ∧ (_ ↔ _)))

/-- The plans differ at most in the order and the repetition of their two lists. -/
def Reordered (plan plan' : Plan) : Prop :=
  plan' = { plan with
    providerProfiles := plan'.providerProfiles, requiredCapabilities := plan'.requiredCapabilities } ∧
  SameValues plan.providerProfiles plan'.providerProfiles ∧
    SameValues plan.requiredCapabilities plan'.requiredCapabilities

lemma equalSlices_iff {left right : Option (List String)} (h : SameAbsence left right) :
    equalSlices left right = true ↔ left = right := by
  cases left <;> cases right <;> simp_all [equalSlices, SameAbsence]

/-- Equal plans that agree on what is nil are the same. -/
lemma equalExecutionPlans_iff {plan plan' : Plan} (h : AgreeOnAbsence plan plan') :
    equalExecutionPlans plan plan' = true ↔ plan = plan' := by
  cases plan
  cases plan'
  simp only [equalExecutionPlans, Bool.and_eq_true, decide_eq_true_eq, equalSlices_iff h.1,
    equalSlices_iff h.2, Plan.mk.injEq, and_assoc]
  tauto

lemma SameValues.canonical_eq {left right : Option (List String)} (h : SameValues left right) :
    left.map List.canonical = right.map List.canonical := by
  cases left with
  | none =>
    cases right with
    | none => rfl
    | some => exact h.elim
  | some =>
    cases right with
    | none => exact h.elim
    | some => exact congrArg some (List.canonical_eq_iff.mpr h)

lemma lists_of_normalize {plan : Plan} (h : normalizeExecutionPlan plan = .ok normalized) :
    normalized = { plan with
      providerProfiles := plan.providerProfiles.map List.canonical
      requiredCapabilities := plan.requiredCapabilities.map List.canonical } := by
  obtain ⟨-, -, -, _, _, hprofiles, hcapabilities, rfl⟩ :=
    normalizeExecutionPlan_ok.mp h
  rw [normalizePortableValues_eq hprofiles, normalizePortableValues_eq hcapabilities]

/-- Plans agree on what is nil exactly if their normal forms do. -/
lemma agreeOnAbsence_normalize {plan plan' normalized' : Plan}
    (h : normalizeExecutionPlan plan = .ok normalized)
    (h' : normalizeExecutionPlan plan' = .ok normalized') :
    AgreeOnAbsence normalized normalized' ↔ AgreeOnAbsence plan plan' := by
  rw [lists_of_normalize h, lists_of_normalize h']
  simp only [AgreeOnAbsence, SameAbsence, Option.map_eq_none_iff]

lemma digest_of_normalize {env : Environment} {plan : Plan}
    (h : normalizeExecutionPlan plan = .ok normalized) :
    digestExecutionPlan env plan =
      .ok ("sha256:" ++ env.digest (String.ofList (encoded normalized))) := by
  rw [digestExecutionPlan, h]
  rfl

/-- The digests are the same exactly if the normal forms are. -/
lemma digest_eq_iff {env : Environment} {plan plan' normalized' : Plan}
    (h : normalizeExecutionPlan plan = .ok normalized)
    (h' : normalizeExecutionPlan plan' = .ok normalized')
    (hcollision : NoCollision env (encoded normalized) (encoded normalized')) :
    digestExecutionPlan env plan = digestExecutionPlan env plan' ↔ normalized = normalized' := by
  rw [digest_of_normalize h, digest_of_normalize h']
  constructor
  · intro heq
    have hdigest := String.append_right_inj _ |>.mp (Except.ok.inj heq)
    exact encoded_injective (hcollision hdigest)
  · rintro rfl
    rfl

/-- **Plan identity.**  For two valid plans, `EqualExecutionPlans` and the digest agree unless the plans
are equal but for a slice that is nil in one and empty in the other; the normal form is its own normal
form; and plans that differ in the order and the repetition of their lists have the same digest. -/
theorem equal_plans_iff_same_digest (env : Environment) {plan plan' normalized normalized' : Plan}
    (h : normalizeExecutionPlan plan = .ok normalized)
    (h' : normalizeExecutionPlan plan' = .ok normalized')
    (hcollision : NoCollision env (encoded normalized) (encoded normalized')) :
    ((equalExecutionPlans normalized normalized' = true ↔
        digestExecutionPlan env plan = digestExecutionPlan env plan') ↔
      (equalExecutionPlans normalized normalized' = true → AgreeOnAbsence plan plan')) ∧
    normalizeExecutionPlan normalized = .ok normalized ∧
    (Reordered plan plan' → digestExecutionPlan env plan = digestExecutionPlan env plan') := by
  refine ⟨?_, normalizeExecutionPlan_idem h, ?_⟩
  · rw [digest_eq_iff h h' hcollision]
    constructor
    · intro hiff hequal
      rw [← agreeOnAbsence_normalize h h', hiff.mp hequal]
      exact ⟨Iff.rfl, Iff.rfl⟩
    · intro hagree
      constructor
      · intro hequal
        exact (equalExecutionPlans_iff ((agreeOnAbsence_normalize h h').mpr (hagree hequal))).mp hequal
      · rintro rfl
        exact (equalExecutionPlans_iff ⟨Iff.rfl, Iff.rfl⟩).mpr rfl
  · rintro ⟨hrest, hprofiles, hcapabilities⟩
    rw [digest_eq_iff h h' hcollision, lists_of_normalize h, lists_of_normalize h', hrest]
    rw [hprofiles.canonical_eq, hcapabilities.canonical_eq]

namespace Sample

def digest : String :=
  "sha256:0000000000000000000000000000000000000000000000000000000000000000"

/-- A plan with the given provider profiles. -/
def plan (profiles : Option (List String)) : Plan where
  schemaVersion := "dataground.execution-plan/v1"
  isolationDomainId := "iso_00000000000000000000"
  revisionId := "rev_00000000000000000000"
  runtimeProfile := "codex"
  environmentRevisionId := "env"
  imageReference := "image@" ++ digest
  environmentManifestDigest := digest
  enforcementBundleId := "bundle"
  enforcementBundleDigest := digest
  runtimeMatrixId := "matrix"
  runtimeMatrixDigest := digest
  providerProfiles := profiles
  requiredCapabilities := some ["shell"]
  workspaceSource := none

lemma plan_normal (profiles normalized : Option (List String))
    (h : normalizePortableValues profiles 128 64 true = some normalized) :
    normalizeExecutionPlan (plan profiles) = .ok (plan normalized) := by
  have hchecks : ∀ check ∈ planChecks (plan none), check.1 = true := by decide +kernel
  have hcapabilities : normalizePortableValues (plan none).requiredCapabilities 128 256 false =
      some (some ["shell"]) := by decide +kernel
  exact normalizeExecutionPlan_ok.mpr ⟨.inl rfl, rfl, hchecks, normalized, some ["shell"], h,
    hcapabilities, rfl⟩

/-- An environment whose digest has no collisions. -/
def environment : Environment where
  digestText text := text
  digest text := text
  schemaCompiles _ := true
  schemaAccepts _ _ := true

lemma noCollision (text text' : List Char) : NoCollision environment text text' :=
  fun h => String.ofList_injective h

end Sample

/-- **A nil slice and an empty one**: the plans are equal, and their digests differ. -/
theorem equal_plans_with_different_digests :
    equalExecutionPlans (Sample.plan none) (Sample.plan (some [])) = true ∧
      normalizeExecutionPlan (Sample.plan none) = .ok (Sample.plan none) ∧
      normalizeExecutionPlan (Sample.plan (some [])) = .ok (Sample.plan (some [])) ∧
      digestExecutionPlan Sample.environment (Sample.plan none) ≠
        digestExecutionPlan Sample.environment (Sample.plan (some [])) := by
  have hnone := Sample.plan_normal none none rfl
  have hempty := Sample.plan_normal (some []) (some []) rfl
  refine ⟨by decide +kernel, hnone, hempty, fun hdigest => ?_⟩
  have hplans := (digest_eq_iff hnone hempty (Sample.noCollision _ _)).mp hdigest
  exact nomatch congrArg Plan.providerProfiles hplans

/-- Profiles in another order. -/
theorem equal_plans_iff_same_digest_reordered :
    digestExecutionPlan Sample.environment (Sample.plan (some ["b", "a", "b"])) =
      digestExecutionPlan Sample.environment (Sample.plan (some ["a", "b"])) := by
  have hone := Sample.plan_normal (some ["b", "a", "b"]) (some ["a", "b"]) (by decide +kernel)
  have hother := Sample.plan_normal (some ["a", "b"]) (some ["a", "b"]) (by decide +kernel)
  refine (equal_plans_iff_same_digest Sample.environment hone hother (Sample.noCollision _ _)).2.2 ?_
  refine ⟨rfl, fun value => ?_, fun value => Iff.rfl⟩
  simp only [List.mem_cons, List.not_mem_nil, or_false]
  tauto

end DataGround.Execution
