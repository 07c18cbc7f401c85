import DataGround.Persistence.JournalInteractions
import Mathlib.Data.List.Sort
import Mathlib.Data.String.Basic

/-!
# External identities

`RegisterOIDCIdentity` binds an external identity -- an issuer and a subject -- to a principal in one
isolation domain, `RevokeOIDCIdentity` ends that, and `Resolve` collects the domains in which the
identity is bound and not revoked.  Both tables are append-only.  A call that writes takes the
advisory lock of its identity first and keeps it to the end, so that calls for one identity take place
one after the other; `Resolve` is one query.
-/

namespace DataGround

open Transaction

/-! ### Principals -/

/-- `PrincipalKind`; a text that is none of these is not valid. -/
inductive PrincipalKind where
  | human
  | service
  | platformService
  | sandboxWorkload
  | distributedCompute
  | unknown (text : String)
  deriving DecidableEq

def validPrincipalKind : PrincipalKind → Bool
  | .unknown _ => false
  | _ => true

/-- `^[a-z][a-z0-9_-]{2,127}$`. -/
def principalIdMatches (text : String) : Bool :=
  match text.toList with
  | [] => false
  | first :: rest => ('a' ≤ first && first ≤ 'z') && 2 ≤ rest.length && rest.length ≤ 127 &&
      rest.all fun c => ('a' ≤ c && c ≤ 'z') || ('0' ≤ c && c ≤ '9') || c = '_' || c = '-'

def apiAudience : String := "dataground-api"

structure PrincipalInput where
  id : String
  kind : PrincipalKind
  (issuer subject audience : String)
  isolationDomains : List String
  deriving DecidableEq

/-- `Principal`; the domains are a set, here in the order of the input. -/
structure Principal where
  id : String
  kind : PrincipalKind
  (issuer subject audience : String)
  isolationDomains : List String
  deriving DecidableEq

/-- The loop of `NewPrincipal` over the isolation domains. -/
def collectDomains : List String → List String → Except String (List String)
  | domains, [] => .ok domains
  | domains, domainId :: rest =>
    if Writer.idMatches "iso" domainId = false then .error "principal isolation domain is invalid"
    else if domainId ∈ domains then
      .error "principal isolation domains contain a duplicate"
    else collectDomains (domains ++ [domainId]) rest

def newPrincipal (input : PrincipalInput) : Except String Principal :=
  if principalIdMatches input.id = false then .error "principal ID is invalid"
  else if validPrincipalKind input.kind = false then .error "principal kind is invalid"
  else if input.issuer = "" ∨ 512 < input.issuer.utf8ByteSize then
    .error "principal issuer is invalid"
  else if input.subject = "" ∨ 512 < input.subject.utf8ByteSize then
    .error "principal subject is invalid"
  else if input.audience ≠ apiAudience then .error "principal audience is invalid"
  else if input.isolationDomains = [] ∨ 64 < input.isolationDomains.length then
    .error "principal isolation domains are invalid"
  else
    (collectDomains [] input.isolationDomains).map fun domains =>
      ⟨input.id, input.kind, input.issuer, input.subject, input.audience, domains⟩

/-- The domains are collected if each is well-formed and none comes twice. -/
lemma collectDomains_isOk {domains rest : List String} :
    (∃ result, collectDomains domains rest = .ok result) ↔
      (∀ domainId ∈ rest, Writer.idMatches "iso" domainId = true) ∧ rest.Nodup ∧
        ∀ domainId ∈ rest, domainId ∉ domains := by
  induction rest generalizing domains with
  | nil => simp [collectDomains]
  | cons domainId _ ih =>
    unfold collectDomains
    by_cases hmatches : Writer.idMatches "iso" domainId = true
    · by_cases hmem : domainId ∈ domains
      · simp [hmatches, hmem]
      · simp only [hmatches, hmem, Bool.true_eq_false, if_false, ih, List.mem_cons,
          List.nodup_cons, forall_eq_or_imp, List.mem_append, List.not_mem_nil, or_false, not_or]
        constructor
        · rintro ⟨hall, hnodup, hnew⟩
          exact ⟨⟨trivial, hall⟩, ⟨fun hin => (hnew domainId hin).2 rfl, hnodup⟩, not_false,
            fun other hother => (hnew other hother).1⟩
        · rintro ⟨⟨-, hall⟩, ⟨hnot, hnodup⟩, -, hnew⟩
          refine ⟨hall, hnodup, fun other hother => ⟨hnew other hother, ?_⟩⟩
          rintro rfl
          exact hnot hother
    · simp [hmatches]

/-- **When there is a principal.** -/
lemma newPrincipal_isOk {input : PrincipalInput} :
    (∃ principal, newPrincipal input = .ok principal) ↔
      principalIdMatches input.id = true ∧ validPrincipalKind input.kind = true ∧
      ¬(input.issuer = "" ∨ 512 < input.issuer.utf8ByteSize) ∧
      ¬(input.subject = "" ∨ 512 < input.subject.utf8ByteSize) ∧
      input.audience = apiAudience ∧ input.isolationDomains ≠ [] ∧
      input.isolationDomains.length ≤ 64 ∧
      (∀ domainId ∈ input.isolationDomains, Writer.idMatches "iso" domainId = true) ∧
      input.isolationDomains.Nodup := by
  have hcollect := @collectDomains_isOk [] input.isolationDomains
  have hdomains : (∃ principal, (collectDomains [] input.isolationDomains).map (fun domains =>
      (⟨input.id, input.kind, input.issuer, input.subject, input.audience, domains⟩ : Principal)) =
        .ok principal) ↔
      ∃ result, collectDomains [] input.isolationDomains = .ok result := by
    cases collectDomains [] input.isolationDomains <;> simp [Except.map]
  unfold newPrincipal
  split_ifs with hid hkind hissuer hsubject haudience hcount
  · simp [hid]
  · simp [hkind]
  · simp [hissuer]
  · simp [hsubject]
  · simp [haudience]
  · rcases hcount with hnone | hmany
    · simp [hnone]
    · simp [Nat.not_le.mpr hmany]
  · rw [hdomains, hcollect]
    simp only [not_or, not_lt] at hcount
    simp [hid, hkind, hissuer, hsubject, not_not.mp haudience, hcount]

/-! ### Identities -/

structure OIDCIdentity where
  (issuer subject : String)
  deriving DecidableEq

def validOIDCValue (value : String) : Bool :=
  value ≠ "" && value.utf8ByteSize ≤ 512 &&
    !value.toList.head?.any isSpace && !value.toList.getLast?.any isSpace &&
    value.toList.all fun c => !isControl c

/-- `validOIDCIssuer`; `isPlainURL` is what it asks of the parsed URL: https, with a host, without
user, query and fragment, and written in the canonical way. -/
def validOIDCIssuer (isPlainURL : String → Bool) (issuer : String) : Bool :=
  validOIDCValue issuer && isPlainURL issuer

def OIDCIdentity.valid (isPlainURL : String → Bool) (identity : OIDCIdentity) : Bool :=
  validOIDCIssuer isPlainURL identity.issuer && validOIDCValue identity.subject

structure OIDCIdentityBinding where
  principalId : String
  principalKind : PrincipalKind
  isolationDomains : List String
  deriving DecidableEq

/-- The input that `ValidFor` gives to `NewPrincipal`. -/
def OIDCIdentityBinding.input (binding : OIDCIdentityBinding) (identity : OIDCIdentity) :
    PrincipalInput :=
  ⟨binding.principalId, binding.principalKind, identity.issuer, identity.subject, apiAudience,
    binding.isolationDomains⟩

def OIDCIdentityBinding.validFor (isPlainURL : String → Bool) (binding : OIDCIdentityBinding)
    (identity : OIDCIdentity) : Bool :=
  identity.valid isPlainURL &&
    (binding.principalKind = .human || binding.principalKind = .service) &&
    match newPrincipal (binding.input identity) with
    | .ok _ => true
    | .error _ => false

/-! ### The registry -/

/-- The primary key of both tables. -/
structure BindingKey extends OIDCIdentity where
  isolationDomainId : String
  deriving DecidableEq

/-- A row of `oidc_identity_bindings`. -/
structure BindingRow where
  principalId : String
  principalKind : PrincipalKind
  (registeredBy registrationCorrelationId : String)
  reasonDigest : List UInt8
  deriving DecidableEq

/-- A row of `oidc_identity_revocations`. -/
structure RevocationRow where
  (principalId revokedBy revocationCorrelationId : String)
  reasonDigest : List UInt8
  deriving DecidableEq

/-- The two tables. -/
structure Identities where
  bindings : Table BindingKey BindingRow
  revocations : Table BindingKey RevocationRow

structure OIDCIdentityRegistration extends BindingRow where
  key : BindingKey
  deriving DecidableEq

structure OIDCIdentityRevocation extends RevocationRow where
  key : BindingKey
  deriving DecidableEq

def OIDCIdentityRegistration.valid (isPlainURL : String → Bool) (record : OIDCIdentityRegistration) :
    Bool :=
  let binding : OIDCIdentityBinding :=
    ⟨record.principalId, record.principalKind, [record.key.isolationDomainId]⟩
  record.key.toOIDCIdentity.valid isPlainURL &&
    binding.validFor isPlainURL record.key.toOIDCIdentity &&
    principalIdMatches record.registeredBy &&
    Writer.idMatches "cor" record.registrationCorrelationId && record.reasonDigest.length = 32

def OIDCIdentityRevocation.valid (isPlainURL : String → Bool) (record : OIDCIdentityRevocation) :
    Bool :=
  Writer.idMatches "iso" record.key.isolationDomainId &&
    record.key.toOIDCIdentity.valid isPlainURL && principalIdMatches record.principalId &&
    principalIdMatches record.revokedBy && Writer.idMatches "cor" record.revocationCorrelationId &&
    record.reasonDigest.length = 32

namespace Identities

/-- No binding yet. -/
def empty : Identities :=
  ⟨∅, ∅⟩

/-- The bindings of an identity, with their domains. -/
def bindingsOf (s : Identities) (identity : OIDCIdentity) : List (BindingKey × BindingRow) :=
  (s.bindings.entries.map fun entry => (entry.1, entry.2)).filter fun entry =>
    entry.1.toOIDCIdentity = identity

/-- The bindings of an identity that are not revoked. -/
def activeBindings (s : Identities) (identity : OIDCIdentity) : List (BindingKey × BindingRow) :=
  (s.bindingsOf identity).filter fun entry => (s.revocations.lookup entry.1).isNone

/-- `ORDER BY isolation_domain_id LIMIT 1`. -/
def firstBinding : List (BindingKey × BindingRow) → Option (BindingKey × BindingRow)
  | [] => none
  | entry :: rest =>
    match firstBinding rest with
    | none => some entry
    | some other =>
      if entry.1.isolationDomainId ≤ other.1.isolationDomainId then some entry else some other

end Identities

/-- A method of the registry. -/
abbrev IdentityMethod (α : Type) :=
  Tx Identities RepositoryError α

/-- `ErrOIDCIdentityBindingInvalid`. -/
def bindingInvalid : RepositoryError :=
  .refused "OIDC identity binding is invalid"

/-- `ErrOIDCIdentityBindingConflict`. -/
def bindingConflict : RepositoryError :=
  .refused "OIDC identity binding conflicts with an existing record"

/-- `ErrOIDCIdentityBindingMissing`. -/
def bindingMissing : RepositoryError :=
  .refused "OIDC identity binding is missing"

/-- `ErrOIDCIdentityRevocationInvalid`. -/
def revocationInvalid : RepositoryError :=
  .refused "OIDC identity revocation is invalid"

/-- `ErrOIDCIdentityRevocationConflict`. -/
def revocationConflict : RepositoryError :=
  .refused "OIDC identity revocation conflicts with an existing record"

/-- `enforce_oidc_identity_principal_consistency`: the trigger of the `INSERT`. -/
def enforcePrincipalConsistency (record : OIDCIdentityRegistration) : IdentityMethod Unit := do
  let s ← read
  require (∀ entry ∈ s.bindingsOf record.key.toOIDCIdentity,
      entry.2.principalId = record.principalId ∧ entry.2.principalKind = record.principalKind)
    (.refused "OIDC identity is already bound to another principal")

def registerOIDCIdentity (isPlainURL : String → Bool) (record : OIDCIdentityRegistration) :
    IdentityMethod Unit := do
  require (record.valid isPlainURL = true) bindingInvalid
  let s ← read
  require (∀ entry ∈ Identities.firstBinding (s.bindingsOf record.key.toOIDCIdentity),
    entry.2.principalId = record.principalId ∧ entry.2.principalKind = record.principalKind)
    bindingConflict
  enforcePrincipalConsistency record
  match s.bindings.lookup record.key with
  | none => modify fun s => { s with bindings := s.bindings.insert record.key record.toBindingRow }
  | some existing => do
    require (OIDCIdentityRegistration.valid isPlainURL ⟨existing, record.key⟩ = true) bindingInvalid
    require (existing = record.toBindingRow) bindingConflict

def revokeOIDCIdentity (isPlainURL : String → Bool) (record : OIDCIdentityRevocation) :
    IdentityMethod Unit := do
  require (record.valid isPlainURL = true) revocationInvalid
  let s ← read
  let binding ← demand (s.bindings.lookup record.key) bindingMissing
  require (binding.principalId = record.principalId) revocationConflict
  match s.revocations.lookup record.key with
  | none => modify fun s => { s with
      revocations := s.revocations.insert record.key record.toRevocationRow }
  | some existing => do
    require (OIDCIdentityRevocation.valid isPlainURL ⟨existing, record.key⟩ = true)
      revocationInvalid
    require (existing = record.toRevocationRow) revocationConflict

/-- The loop of `Resolve` over its rows. -/
def collectBinding : OIDCIdentityBinding → List (BindingKey × BindingRow) →
    Except RepositoryError OIDCIdentityBinding
  | binding, [] => .ok binding
  | binding, (key, row) :: rest =>
    let domains := binding.isolationDomains ++ [key.isolationDomainId]
    if binding.principalId = "" then
      collectBinding ⟨row.principalId, row.principalKind, domains⟩ rest
    else if binding.principalId ≠ row.principalId ∨ binding.principalKind ≠ row.principalKind then
      .error bindingInvalid
    else collectBinding { binding with isolationDomains := domains } rest

def resolve (isPlainURL : String → Bool) (s : Identities) (identity : OIDCIdentity) :
    Except RepositoryError OIDCIdentityBinding :=
  if identity.valid isPlainURL = false then .error bindingInvalid
  else
    let rows := (s.activeBindings identity).insertionSort fun entry other =>
      entry.1.isolationDomainId ≤ other.1.isolationDomainId
    match collectBinding ⟨"", .unknown "", []⟩ rows with
    | .error error => .error error
    | .ok binding =>
      if binding.isolationDomains = [] then .error (.refused "OIDC identity is not registered")
      else if binding.validFor isPlainURL identity = false then .error bindingInvalid
      else .ok binding

/-! ### Runs -/

/-- A call of one of the methods that write. -/
inductive IdentityEvent where
  | register (record : OIDCIdentityRegistration)
  | revoke (record : OIDCIdentityRevocation)
  deriving DecidableEq

/-- One successful call; a call that fails is rolled back. -/
def Identities.step (isPlainURL : String → Bool) (s : Identities) : IdentityEvent → Option Identities
  | .register record => (registerOIDCIdentity isPlainURL record s).toOption.map Prod.snd
  | .revoke record => (revokeOIDCIdentity isPlainURL record s).toOption.map Prod.snd

variable {record : OIDCIdentityRegistration} {row : BindingRow}

namespace Identities

variable {isPlainURL : String → Bool} {s t : Identities} {identity : OIDCIdentity}

lemma mem_bindingsOf {entry : BindingKey × BindingRow} :
    entry ∈ s.bindingsOf identity ↔
      s.bindings.lookup entry.1 = some entry.2 ∧ entry.1.toOIDCIdentity = identity := by
  unfold bindingsOf
  rw [List.mem_filter, List.mem_map, decide_eq_true_eq]
  refine and_congr_left fun _ => ⟨?_, fun h => ?_⟩
  · rintro ⟨entry, hentry, rfl⟩
    exact AList.mem_lookup_iff.mpr hentry
  · exact ⟨⟨entry.1, entry.2⟩, AList.mem_lookup_iff.mp h, rfl⟩

/-- Every binding is valid, and all bindings of an identity name one principal. -/
structure Sound (isPlainURL : String → Bool) (s : Identities) : Prop where
  valid : ∀ key row, s.bindings.lookup key = some row →
    OIDCIdentityRegistration.valid isPlainURL ⟨row, key⟩ = true
  onePrincipal : ∀ key key' row row', key.toOIDCIdentity = key'.toOIDCIdentity →
    s.bindings.lookup key = some row → s.bindings.lookup key' = some row' →
      row.principalId = row'.principalId ∧ row.principalKind = row'.principalKind

lemma sound_empty : Sound isPlainURL empty where
  valid key row h := by cases h
  onePrincipal key key' row row' _ h := by cases h

lemma step_register (h : s.step isPlainURL (.register record) = some t) :
    t = s ∨ record.valid isPlainURL = true ∧
      (∀ entry ∈ s.bindingsOf record.key.toOIDCIdentity, entry.2.principalId = record.principalId ∧
        entry.2.principalKind = record.principalKind) ∧
      t = { s with bindings := s.bindings.insert record.key record.toBindingRow } := by
  obtain ⟨⟨_, _⟩, hcall, rfl⟩ := Option.map_eq_some_iff.mp h
  have hok := toOption_eq_some.mp hcall
  simp only [registerOIDCIdentity, enforcePrincipalConsistency, require_bind_eq_ok, read_bind] at hok
  obtain ⟨hvalid, -, hok⟩ := hok
  obtain ⟨_, _, hconsistent, hok⟩ := bind_eq_ok.mp hok
  obtain ⟨hprincipal, heq⟩ := require_eq_ok.mp hconsistent
  cases heq
  cases hrow : s.bindings.lookup record.key with
  | none =>
    rw [hrow] at hok
    cases modify_eq_ok.mp hok
    exact .inr ⟨hvalid, hprincipal, rfl⟩
  | some =>
    rw [hrow] at hok
    obtain ⟨-, hok⟩ := require_bind_eq_ok.mp hok
    obtain ⟨-, heq⟩ := require_eq_ok.mp hok
    cases heq
    exact .inl rfl

lemma step_revoke {record : OIDCIdentityRevocation}
    (h : s.step isPlainURL (.revoke record) = some t) :
    t = s ∨ s.revocations.lookup record.key = none ∧
      t = { s with revocations := s.revocations.insert record.key record.toRevocationRow } := by
  obtain ⟨⟨_, _⟩, hcall, rfl⟩ := Option.map_eq_some_iff.mp h
  have hok := toOption_eq_some.mp hcall
  simp only [revokeOIDCIdentity, require_bind_eq_ok, read_bind, demand_bind_eq_ok] at hok
  obtain ⟨-, _, -, -, hok⟩ := hok
  cases hrow : s.revocations.lookup record.key with
  | none =>
    rw [hrow] at hok
    cases modify_eq_ok.mp hok
    exact .inr ⟨rfl, rfl⟩
  | some =>
    rw [hrow] at hok
    obtain ⟨-, hok⟩ := require_bind_eq_ok.mp hok
    obtain ⟨-, heq⟩ := require_eq_ok.mp hok
    cases heq
    exact .inl rfl

/-- **Every call keeps the invariant.** -/
lemma Sound.step (hs : Sound isPlainURL s) {event : IdentityEvent}
    (h : s.step isPlainURL event = some t) : Sound isPlainURL t := by
  cases event with
  | revoke =>
    rcases step_revoke h with rfl | ⟨-, rfl⟩
    · exact hs
    · exact ⟨hs.valid, hs.onePrincipal⟩
  | register record =>
    rcases step_register h with rfl | ⟨hvalid, hprincipal, rfl⟩
    · exact hs
    · have hold : ∀ key row, s.bindings.lookup key = some row →
          key.toOIDCIdentity = record.key.toOIDCIdentity →
          row.principalId = record.principalId ∧ row.principalKind = record.principalKind :=
        fun key row hrow hsame => hprincipal (key, row) (mem_bindingsOf.mpr ⟨hrow, hsame⟩)
      refine ⟨fun key row hrow => ?_, fun key key' row row' hsame hrow hrow' => ?_⟩
      · rcases Table.lookup_insert_cases hrow with ⟨rfl, rfl⟩ | hrow
        · exact hvalid
        · exact hs.valid key row hrow
      · rcases Table.lookup_insert_cases hrow with ⟨rfl, rfl⟩ | hrow
        · rcases Table.lookup_insert_cases hrow' with ⟨rfl, rfl⟩ | hrow'
          · exact ⟨rfl, rfl⟩
          · obtain ⟨hid, hkind⟩ := hold key' row' hrow' hsame.symm
            exact ⟨hid.symm, hkind.symm⟩
        · rcases Table.lookup_insert_cases hrow' with ⟨rfl, rfl⟩ | hrow'
          · exact hold key row hrow hsame
          · exact hs.onePrincipal key key' row row' hsame hrow hrow'

/-- A binding that is revoked stays so. -/
lemma revoked_step {event : IdentityEvent} (h : s.step isPlainURL event = some t) {key : BindingKey}
    (hrevoked : s.revocations.lookup key ≠ none) : t.revocations.lookup key ≠ none := by
  cases event with
  | register =>
    rcases step_register h with rfl | ⟨-, -, rfl⟩
    · exact hrevoked
    · exact hrevoked
  | revoke record =>
    rcases step_revoke h with rfl | ⟨hnone, rfl⟩
    · exact hrevoked
    · have hne : key ≠ record.key := by
        rintro rfl
        exact hrevoked hnone
      rw [AList.lookup_insert_ne hne]
      exact hrevoked

/-! ### Resolution -/

/-- The identity is bound in the domain, and this is not revoked. -/
def IsActive (s : Identities) (identity : OIDCIdentity) (domainId : String) : Prop :=
  s.bindings.lookup ⟨identity, domainId⟩ ≠ none ∧ s.revocations.lookup ⟨identity, domainId⟩ = none

/-- The domains in which the identity is active. -/
def activeDomains (s : Identities) (identity : OIDCIdentity) : List String :=
  (s.activeBindings identity).map fun entry => entry.1.isolationDomainId

lemma mem_activeBindings {entry : BindingKey × BindingRow} :
    entry ∈ s.activeBindings identity ↔ s.bindings.lookup entry.1 = some entry.2 ∧
      entry.1.toOIDCIdentity = identity ∧ s.revocations.lookup entry.1 = none := by
  rw [activeBindings, List.mem_filter, mem_bindingsOf, Option.isNone_iff_eq_none, and_assoc]

lemma mem_activeDomains {domainId : String} :
    domainId ∈ s.activeDomains identity ↔ s.IsActive identity domainId := by
  unfold activeDomains IsActive
  rw [List.mem_map]
  constructor
  · rintro ⟨⟨key, row⟩, hentry, rfl⟩
    obtain ⟨hrow, rfl, hnone⟩ := mem_activeBindings.mp hentry
    exact ⟨by rw [hrow]; exact nofun, hnone⟩
  · rintro ⟨hrow, hnone⟩
    obtain ⟨row, hrow⟩ := Option.ne_none_iff_exists'.mp hrow
    exact ⟨(⟨identity, domainId⟩, row), mem_activeBindings.mpr ⟨hrow, rfl, hnone⟩, rfl⟩

/-- Each domain comes once. -/
lemma activeDomains_nodup (s : Identities) (identity : OIDCIdentity) :
    (s.activeDomains identity).Nodup := by
  have hkeys : (s.activeBindings identity).Pairwise fun entry other => entry.1 ≠ other.1 := by
    refine List.Pairwise.filter _ (List.Pairwise.filter _ ?_)
    exact List.pairwise_map.mpr (List.pairwise_map.mp s.bindings.nodupKeys)
  refine List.pairwise_map.mpr (hkeys.imp_of_mem fun {entry other} hentry hother hne hsame => hne ?_)
  have hidentity := (mem_activeBindings.mp hentry).2.1.trans (mem_activeBindings.mp hother).2.1.symm
  calc entry.1 = ⟨entry.1.toOIDCIdentity, entry.1.isolationDomainId⟩ := rfl
    _ = ⟨other.1.toOIDCIdentity, other.1.isolationDomainId⟩ := by rw [hidentity, hsame]

/-- Rows of one principal are collected into one binding. -/
lemma collectBinding_eq {binding : OIDCIdentityBinding} {rows : List (BindingKey × BindingRow)}
    (hid : binding.principalId ≠ "")
    (hrows : ∀ entry ∈ rows, entry.2.principalId = binding.principalId ∧
      entry.2.principalKind = binding.principalKind) :
    collectBinding binding rows = .ok { binding with
      isolationDomains :=
        binding.isolationDomains ++ rows.map fun entry => entry.1.isolationDomainId } := by
  induction rows generalizing binding with
  | nil => simp [collectBinding]
  | cons entry _ ih =>
    obtain ⟨key, row⟩ := entry
    obtain ⟨hrow, hkind⟩ : row.principalId = binding.principalId ∧
        row.principalKind = binding.principalKind := hrows (key, row) List.mem_cons_self
    have hrest := @ih { binding with
      isolationDomains := binding.isolationDomains ++ [key.isolationDomainId] } hid
      fun entry hentry => hrows entry (List.mem_cons_of_mem _ hentry)
    rw [collectBinding, if_neg hid, if_neg (by simp [hrow, hkind]), hrest]
    simp

lemma principalId_ne_empty {id : String} (h : principalIdMatches id = true) : id ≠ "" := by
  rintro rfl
  revert h
  decide

lemma validFor_eq_true {binding : OIDCIdentityBinding} :
    binding.validFor isPlainURL identity = true ↔ identity.valid isPlainURL = true ∧
      (binding.principalKind = .human ∨ binding.principalKind = .service) ∧
      ∃ principal, newPrincipal (binding.input identity) = .ok principal := by
  unfold OIDCIdentityBinding.validFor
  cases newPrincipal (binding.input identity) <;> simp

/-- A binding in many domains is valid if it is in each, and there are not too many. -/
lemma validFor_iff {principalId : String} {kind : PrincipalKind} {domains : List String}
    (hsome : domains ≠ []) (hnodup : domains.Nodup)
    (hvalid : ∀ domainId ∈ domains, (⟨principalId, kind, [domainId]⟩ :
      OIDCIdentityBinding).validFor isPlainURL identity = true) :
    (⟨principalId, kind, domains⟩ : OIDCIdentityBinding).validFor isPlainURL identity = true ↔
      domains.length ≤ 64 := by
  simp only [validFor_eq_true, newPrincipal_isOk, OIDCIdentityBinding.input] at hvalid ⊢
  obtain ⟨first, hfirst⟩ := List.exists_mem_of_ne_nil domains hsome
  obtain ⟨hidentity, hplain, hid, hkind, hissuer, hsubject, haudience, -⟩ := hvalid first hfirst
  refine ⟨fun h => h.2.2.2.2.2.2.2.2.1, fun hle => ⟨hidentity, hplain, hid, hkind, hissuer, hsubject,
    haudience, hsome, hle, fun domainId hmem => ?_, hnodup⟩⟩
  exact (hvalid domainId hmem).2.2.2.2.2.2.2.2.2.1 domainId List.mem_cons_self

/-- **What `Resolve` returns** for an identity that is active somewhere. -/
lemma resolve_of_active (hs : Sound isPlainURL s) (hsome : s.activeDomains identity ≠ []) :
    ∃ principalId kind domains, domains.Perm (s.activeDomains identity) ∧
      resolve isPlainURL s identity = if domains.length ≤ 64 then
        .ok ⟨principalId, kind, domains⟩ else .error bindingInvalid := by
  set rows := (s.activeBindings identity).insertionSort fun entry other =>
    entry.1.isolationDomainId ≤ other.1.isolationDomainId with hrows
  have hperm : rows.Perm (s.activeBindings identity) := List.perm_insertionSort _ _
  set domains := rows.map fun entry => entry.1.isolationDomainId with hdomains
  have hdomainsPerm : domains.Perm (s.activeDomains identity) := hperm.map _
  have hdomainsSome : domains ≠ [] := by
    intro hnone
    rw [hnone] at hdomainsPerm
    exact hsome hdomainsPerm.nil_eq.symm
  obtain ⟨⟨key, row⟩, rest, hcons⟩ : ∃ first rest, rows = first :: rest :=
    List.exists_cons_of_ne_nil fun hnone => hdomainsSome (by rw [hdomains, hnone]; rfl)
  have hmem : ∀ entry ∈ rows, s.bindings.lookup entry.1 = some entry.2 ∧
      entry.1.toOIDCIdentity = identity := by
    intro entry hentry
    obtain ⟨hrow, hidentity, -⟩ := mem_activeBindings.mp (hperm.mem_iff.mp hentry)
    exact ⟨hrow, hidentity⟩
  obtain ⟨hrow, hidentity⟩ := hmem (key, row) (hcons ▸ List.mem_cons_self)
  have hprincipal : ∀ entry ∈ rows,
      entry.2.principalId = row.principalId ∧ entry.2.principalKind = row.principalKind := by
    intro entry hentry
    obtain ⟨hother, hsame⟩ := hmem entry hentry
    exact hs.onePrincipal _ _ _ _ (hsame.trans hidentity.symm) hother hrow
  have hvalid : ∀ domainId ∈ domains, (⟨row.principalId, row.principalKind, [domainId]⟩ :
      OIDCIdentityBinding).validFor isPlainURL identity = true := by
    intro domainId hdomain
    obtain ⟨entry, hentry, rfl⟩ := List.mem_map.mp hdomain
    obtain ⟨hother, rfl⟩ := hmem entry hentry
    have hrecord := hs.valid _ _ hother
    simp only [OIDCIdentityRegistration.valid, Bool.and_eq_true] at hrecord
    rw [← (hprincipal entry hentry).1, ← (hprincipal entry hentry).2]
    exact hrecord.1.1.1.2
  have hfirst := validFor_eq_true.mp (hvalid key.isolationDomainId
    (by rw [hdomains, hcons]; exact List.mem_cons_self))
  have hid : row.principalId ≠ "" := principalId_ne_empty (newPrincipal_isOk.mp hfirst.2.2).1
  have hcollect : collectBinding ⟨"", .unknown "", []⟩ rows =
      .ok ⟨row.principalId, row.principalKind, domains⟩ := by
    rw [hcons, collectBinding, if_pos rfl, collectBinding_eq hid fun entry hentry =>
      hprincipal entry (hcons ▸ List.mem_cons_of_mem _ hentry), hdomains, hcons]
    simp
  have hiff := validFor_iff hdomainsSome
    (hdomainsPerm.nodup_iff.mpr (activeDomains_nodup s identity)) hvalid
  refine ⟨row.principalId, row.principalKind, domains, hdomainsPerm, ?_⟩
  unfold resolve
  rw [if_neg (by simp [hfirst.1])]
  dsimp only
  rw [← hrows, hcollect]
  dsimp only
  rw [if_neg hdomainsSome]
  by_cases hle : domains.length ≤ 64
  · rw [if_pos hle, if_neg (by simp [hiff.mpr hle])]
  · rw [if_neg hle, if_pos (by simpa [hle] using hiff)]

end Identities

/-- **The registry of identities.**  After every history of successful calls, all bindings of an
identity name one principal; a binding that is revoked is revoked after all further calls; and the
identity, if it is active in some domain, resolves to exactly the domains it is active in if and only
if these are at most 64. -/
theorem identity_resolves_iff (isPlainURL : String → Bool) (events : List IdentityEvent)
    (s : Identities) (h : Run.run (Identities.step isPlainURL) .empty events = some s)
    (identity : OIDCIdentity) :
    (∀ key key' row row', key.toOIDCIdentity = identity → key'.toOIDCIdentity = identity →
      s.bindings.lookup key = some row → s.bindings.lookup key' = some row' →
        row.principalId = row'.principalId ∧ row.principalKind = row'.principalKind) ∧
    (∀ later t domainId, Run.run (Identities.step isPlainURL) s later = some t →
      s.revocations.lookup ⟨identity, domainId⟩ ≠ none → ¬t.IsActive identity domainId) ∧
    (s.activeDomains identity ≠ [] →
      ((∃ binding, resolve isPlainURL s identity = .ok binding ∧
          ∀ domainId, domainId ∈ binding.isolationDomains ↔ s.IsActive identity domainId) ↔
        (s.activeDomains identity).length ≤ 64)) := by
  have hs : Identities.Sound isPlainURL s :=
    Run.run_invariant (fun _ _ _ hs hstep => hs.step hstep) Identities.sound_empty h
  refine ⟨fun key key' row row' hkey hkey' => hs.onePrincipal key key' row row'
    (hkey.trans hkey'.symm), fun later t domainId hlater hrevoked hactive => ?_, fun hsome => ?_⟩
  · have hstill : t.revocations.lookup ⟨identity, domainId⟩ ≠ none :=
      Run.run_invariant (fun _ _ _ hrevoked hstep => Identities.revoked_step hstep hrevoked)
        hrevoked hlater
    exact hstill hactive.2
  · obtain ⟨_, _, _, hperm, hresolve⟩ := Identities.resolve_of_active hs hsome
    rw [hresolve, ← hperm.length_eq]
    constructor
    · rintro ⟨binding, hok, -⟩
      by_contra hmany
      rw [if_neg hmany] at hok
      cases hok
    · intro hle
      refine ⟨_, if_pos hle, fun domainId => ?_⟩
      rw [← Identities.mem_activeDomains]
      exact hperm.mem_iff

namespace Scenario

/-- An identity. -/
def oidcIdentity : OIDCIdentity :=
  ⟨"https://issuer.example", "user"⟩

/-- Who it is bound to. -/
def boundPrincipal : BindingRow :=
  ⟨"principal", .human, "operator", "cor_0123456789abcdef0123", List.replicate 32 0⟩

/-- The letters of the name of a domain. -/
def domainLetters (number : ℕ) : List Char :=
  ['i', 's', 'o', '_'] ++ List.replicate 17 'a' ++ Nat.toDigits 10 (100 + number)

/-- Names of domains. -/
def domainNames : List String :=
  (List.range 65).map fun number => String.ofList (domainLetters number)

end Scenario

open Scenario

/-- An identity that is bound in 65 domains, by calls that all succeed, does not resolve any more. -/
theorem identity_in_many_domains : ∃ s,
    Run.run (Identities.step fun _ => true) .empty (domainNames.map fun domainId =>
      .register ⟨boundPrincipal, ⟨oidcIdentity, domainId⟩⟩) = some s ∧
    (s.activeDomains oidcIdentity).length = 65 ∧
    resolve (fun _ => true) s oidcIdentity = .error bindingInvalid := by
  refine Run.exists_some_and (by decide +kernel) fun s hs hmany => ?_
  have hsound : Identities.Sound (fun _ => true) s :=
    Run.run_invariant (fun _ _ _ hs hstep => hs.step hstep) Identities.sound_empty hs
  have hsome : s.activeDomains oidcIdentity ≠ [] := by
    intro hnone
    rw [hnone] at hmany
    cases hmany
  obtain ⟨_, _, _, hdomains, hresolve⟩ := Identities.resolve_of_active hsound hsome
  rw [hresolve, hdomains.length_eq, hmany]
  rfl

/-- An identity that is bound in two domains and revoked in one resolves to the other. -/
theorem identity_resolves_iff_once : ∃ s,
    Run.run (Identities.step fun _ => true) .empty
      [.register ⟨boundPrincipal, ⟨oidcIdentity, "iso_0123456789abcdef0123"⟩⟩,
        .register ⟨boundPrincipal, ⟨oidcIdentity, "iso_abcdef01234567890123"⟩⟩,
        .revoke ⟨⟨"principal", "operator", "cor_abcdef01234567890123", List.replicate 32 1⟩,
          ⟨oidcIdentity, "iso_0123456789abcdef0123"⟩⟩] = some s ∧
    s.activeDomains oidcIdentity = ["iso_abcdef01234567890123"] ∧
    ∃ binding, resolve (fun _ => true) s oidcIdentity = .ok binding ∧
      ∀ domainId, domainId ∈ binding.isolationDomains ↔ s.IsActive oidcIdentity domainId := by
  refine Run.exists_some_and (by decide +kernel) fun s hs hdomains => ?_
  have hresolves := (identity_resolves_iff _ _ s hs oidcIdentity).2.2
    (by rw [hdomains]; exact nofun)
  exact hresolves.mpr (by rw [hdomains]; decide)

end DataGround
