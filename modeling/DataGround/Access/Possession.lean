import DataGround.Access.Identity
import DataGround.Base.Times

/-!
# Proofs of possession

A DPoP proof is a signed token that a client sends with a request.  `Verify` checks it by the clock of
its process, and then reserves it in a table that all processes share: a proof that is there already is
refused.  Reservations are deleted once they have expired by the clock of the database.

Any number of processes verify proofs and delete reservations at once, and their clocks show anything.
The time bounds are the same for all.  Statements take place one after the other, at times of the
database that do not go back; they may fail, and an `INSERT` may take place without its
acknowledgement.
-/

namespace DataGround

open Process (ask ensure demand)

/-! ### Proofs -/

structure DPoPHeader where
  (type algorithm jwk : String)
  deriving DecidableEq

/-- `dpopClaims`; the time is in nanoseconds from the zero time on. -/
structure DPoPClaims where
  (proofId method uri : String)
  issuedAt : Option ℤ
  (accessToken nonce : String)
  deriving DecidableEq

structure DPoPRequest where
  (isolationDomainId method externalUri : String)
  proof : List UInt8
  deriving DecidableEq

structure DPoPReplayReservation where
  isolationDomainId : String
  (keyThumbprintDigest proofIdDigest : BitVec 256)
  expiresAt : ℤ
  deriving DecidableEq

/-- What the program takes from libraries: base64, JSON documents, keys and their thumbprints, signatures,
digests and URLs. -/
structure DPoPLibraries where
  /-- `base64.RawURLEncoding.Strict().DecodeString`. -/
  decodeBase64 : List UInt8 → Option (List UInt8)
  /-- `requireUniqueJSONObject`; the text of its error. -/
  uniqueObject : List UInt8 → Option String
  /-- `decodeClosedJSONObject` for a header. -/
  decodeHeader : List UInt8 → Option DPoPHeader
  /-- `decodeClosedJSONObject` for claims. -/
  decodeClaims : List UInt8 → Option DPoPClaims
  /-- `parseDPoPPublicKey`: the key and its thumbprint. -/
  parsePublicKey : (jwk algorithm : String) → Option (String × String)
  /-- `jwt.ParseSigned`: the algorithms of the headers. -/
  parseSigned : List UInt8 → (algorithm : String) → Option (List String)
  /-- `Claims` of the parsed token: the claims that are signed with the key. -/
  signedClaims : List UInt8 → (key : String) → Option DPoPClaims
  /-- `sha256.Sum256` of a text. -/
  digest : String → BitVec 256
  /-- `sha256.Sum256`. -/
  digestBytes : List UInt8 → BitVec 256
  /-- `base64.RawURLEncoding.EncodeToString`. -/
  encodeBase64 : BitVec 256 → String
  /-- `validDPoPExternalURI`. -/
  validExternalUri : String → Bool
  /-- `validDPoPThumbprint`. -/
  validThumbprint : String → Bool
  /-- `validDPoPNonce`. -/
  validNonce : String → Bool

variable (libraries : DPoPLibraries)

def DPoPRequest.valid (request : DPoPRequest) : Bool :=
  Writer.idMatches "iso" request.isolationDomainId &&
    3 ≤ request.method.length && request.method.length ≤ 16 &&
    (request.method.toList.all fun c => 'A' ≤ c && c ≤ 'Z') &&
    libraries.validExternalUri request.externalUri &&
    0 < request.proof.length && request.proof.length ≤ 8192

/-- `maximumDPoPReservationLifetime`, in nanoseconds. -/
def maximumDPoPReservationLifetime : ℤ :=
  (5 + 2) * 60 * 1000000000

/-- `DPoPReplayReservation.Valid`, at a time of the process. -/
def DPoPReplayReservation.valid (now : ℤ) (reservation : DPoPReplayReservation) : Bool :=
  Writer.idMatches "iso" reservation.isolationDomainId &&
    reservation.keyThumbprintDigest ≠ 0 && reservation.proofIdDigest ≠ 0 &&
    reservation.expiresAt ≠ 0 && now < reservation.expiresAt &&
    reservation.expiresAt ≤ now + maximumDPoPReservationLifetime

def validDPoPProofId (value : String) : Bool :=
  16 ≤ value.utf8ByteSize && value.utf8ByteSize ≤ 128 && validOIDCValue value

/-! ### The verifier -/

/-- The time bounds that all verifiers have, in nanoseconds. -/
structure DPoPTimeBounds where
  (clockSkew maximumProofAge : ℤ)
  deriving DecidableEq

/-- `DPoPNoncePolicy`, if there is a store. -/
structure DPoPNoncePolicy where
  lifetime : ℤ
  maximumActivePerKey : ℕ
  deriving DecidableEq

structure DPoPNonceRequest where
  isolationDomainId : String
  (keyThumbprintDigest presentedNonceDigest : BitVec 256)
  lifetime : ℤ
  maximumActivePerKey : ℕ
  deriving DecidableEq

def DPoPNonceRequest.valid (request : DPoPNonceRequest) : Bool :=
  Writer.idMatches "iso" request.isolationDomainId && request.keyThumbprintDigest ≠ 0 &&
    10 * 1000000000 ≤ request.lifetime && request.lifetime ≤ 5 * 60 * 1000000000 &&
    request.lifetime % 1000 = 0 && 0 < request.maximumActivePerKey &&
    request.maximumActivePerKey ≤ 16

structure DPoPNonceDecision where
  accepted : Bool
  challenge : String
  deriving DecidableEq

def DPoPNonceDecision.valid (decision : DPoPNonceDecision) : Bool :=
  if decision.accepted then decision.challenge = "" else libraries.validNonce decision.challenge

structure VerifiedOIDCToken where
  (issuer subject : String)
  audiences : List String
  confirmationThumbprint : String
  deriving DecidableEq

/-- The errors of `Verify`. -/
inductive AuthnError where
  /-- `ErrInvalidCredential`. -/
  | invalidCredential
  /-- `ErrUnavailable`. -/
  | unavailable
  /-- The error of the context. -/
  | cancelled
  /-- `dpopNonceChallengeError`. -/
  | nonceChallenge (challenge : String)
  deriving DecidableEq

/-- The errors of `ReserveDPoPProof`. -/
inductive ReserveError where
  /-- `ErrDPoPProofReplayed`. -/
  | replayed
  | other
  deriving DecidableEq

/-- What a process asks for. -/
inductive DPoPStatement where
  /-- `ctx.Err()`. -/
  | isCancelled
  /-- `delegate.Verify`. -/
  | verifyToken (accessToken : List UInt8)
  /-- `time.Now()`. -/
  | now
  /-- The `INSERT` of `ReserveDPoPProof`. -/
  | insert (reservation : DPoPReplayReservation)
  /-- `EvaluateDPoPNonce`. -/
  | evaluateNonce (request : DPoPNonceRequest)
  /-- The `DELETE` of `DeleteExpiredDPoPProofs`. -/
  | delete (isolationDomainId : String) (limit : ℕ)

/-- What comes back. -/
def DPoPStatement.Reply : DPoPStatement → Type
  | .isCancelled => Bool
  | .verifyToken _ => Except AuthnError VerifiedOIDCToken
  | .now => ℤ
  | .insert _ => Except ReserveError Unit
  | .evaluateNonce _ => Option DPoPNonceDecision
  | .delete _ _ => Option ℕ

/-- A program of a process. -/
abbrev DPoPProgram (α : Type) :=
  Process DPoPStatement DPoPStatement.Reply α

/-- A program of a process that may fail. -/
abbrev DPoPMethod (ε α : Type) :=
  ExceptT ε (Process DPoPStatement DPoPStatement.Reply) α

/-- `time.Now()`. -/
def readClock {ε : Type} : DPoPMethod ε ℤ :=
  ExceptT.lift (ask DPoPStatement.now)

/-- Fail if the context is done. -/
def checkContext : DPoPMethod AuthnError Unit :=
  ExceptT.mk do
    match (← ask DPoPStatement.isCancelled : Bool) with
    | true => pure (.error .cancelled)
    | false => pure (.ok ())

/-- Fail: with the error of the context if it is done, and otherwise as given. -/
def failUnlessCancelled {α : Type} (error : AuthnError) : DPoPMethod AuthnError α := do
  checkContext
  throw error

def supportedDPoPAlgorithm (algorithm : String) : Bool :=
  algorithm = "ES256" || algorithm = "EdDSA"

/-- `inspectDPoPProof`: a compact serialization has three parts with dots between them. -/
def inspectDPoPProof (proof : List UInt8) : Except String (DPoPHeader × DPoPClaims) := do
  if proof = [] ∨ 8192 < proof.length then throw "DPoP proof size is invalid"
  match proof.splitOn 46 with
  | [headerPart, payloadPart, signaturePart] =>
    if headerPart = [] ∨ payloadPart = [] ∨ signaturePart = [] then
      throw "DPoP compact serialization is invalid"
    let headerBytes := libraries.decodeBase64 headerPart
    let some headerBytes := headerBytes | throw "DPoP protected header is invalid"
    if headerBytes = [] ∨ 2048 < headerBytes.length then throw "DPoP protected header is invalid"
    let some payloadBytes := libraries.decodeBase64 payloadPart | throw "DPoP payload is invalid"
    if payloadBytes = [] then throw "DPoP payload is invalid"
    if let some error := libraries.uniqueObject headerBytes then throw error
    if let some error := libraries.uniqueObject payloadBytes then throw error
    let some header := libraries.decodeHeader headerBytes
      | throw "DPoP protected header is invalid"
    if header.type ≠ "dpop+jwt" ∨ supportedDPoPAlgorithm header.algorithm = false ∨
        header.jwk = "" then
      throw "DPoP protected header is invalid"
    let some claims := libraries.decodeClaims payloadBytes | throw "DPoP claims are invalid"
    return (header, claims)
  | _ => throw "DPoP compact serialization is invalid"

/-- `verifyDPoPProof`; the clock is read for the times of the proof, and again for the reservation. -/
def verifyDPoPProof (bounds : DPoPTimeBounds) (request : DPoPRequest) (accessToken : List UInt8)
    (expectedThumbprint : String) :
    DPoPMethod String (DPoPReplayReservation × String) := do
  let (header, claims) ← ExceptT.mk (pure (inspectDPoPProof libraries request.proof))
  let (key, thumbprint) ←
    demand (libraries.parsePublicKey header.jwk header.algorithm) "DPoP key binding is invalid"
  ensure (thumbprint = expectedThumbprint) "DPoP key binding is invalid"
  ensure (libraries.parseSigned request.proof header.algorithm = some [header.algorithm])
    "DPoP signature envelope is invalid"
  ensure (libraries.signedClaims request.proof key = some claims) "DPoP signature is invalid"
  ensure (claims.method = request.method ∧ claims.uri = request.externalUri)
    "DPoP claims are invalid"
  let issuedAt ← demand claims.issuedAt "DPoP claims are invalid"
  ensure (validDPoPProofId claims.proofId = true ∧
    libraries.validThumbprint claims.accessToken = true) "DPoP claims are invalid"
  ensure (claims.accessToken = libraries.encodeBase64 (libraries.digestBytes accessToken))
    "DPoP access token binding is invalid"
  let now ← readClock
  ensure (issuedAt ≤ now + bounds.clockSkew ∧
    now - issuedAt ≤ bounds.maximumProofAge + bounds.clockSkew) "DPoP proof time is invalid"
  let reservation : DPoPReplayReservation :=
    ⟨request.isolationDomainId, libraries.digest thumbprint, libraries.digest claims.proofId,
      issuedAt + (bounds.maximumProofAge + bounds.clockSkew)⟩
  let now ← readClock
  ensure (reservation.valid now = true) "DPoP replay reservation is invalid"
  pure (reservation, claims.nonce)

def reserveDPoPProof (reservation : DPoPReplayReservation) : DPoPMethod ReserveError Unit := do
  let now ← readClock
  ensure (reservation.valid now = true) .other
  ExceptT.mk (ask (DPoPStatement.insert reservation))

/-- What `Verify` makes of `ReserveDPoPProof`. -/
def reserveOrReject (reservation : DPoPReplayReservation) : DPoPMethod AuthnError Unit :=
  ExceptT.mk do
    match ← (reserveDPoPProof reservation).run with
    | .ok () => pure (.ok ())
    | .error .replayed => (failUnlessCancelled .invalidCredential).run
    | .error .other => (failUnlessCancelled .unavailable).run

def evaluateDPoPNonce (request : DPoPNonceRequest) : DPoPMethod AuthnError (Option DPoPNonceDecision) :=
  ExceptT.lift (ask (DPoPStatement.evaluateNonce request))

/-- The part of `Verify` about nonces. -/
def checkNonce (policy : Option DPoPNoncePolicy) (request : DPoPRequest)
    (reservation : DPoPReplayReservation) (nonce : String) : DPoPMethod AuthnError Unit :=
  match policy with
  | none => ensure (nonce = "") .invalidCredential
  | some policy => do
    let nonceRequest : DPoPNonceRequest :=
      ⟨request.isolationDomainId, reservation.keyThumbprintDigest,
        if libraries.validNonce nonce = true then libraries.digest nonce else 0, policy.lifetime,
        policy.maximumActivePerKey⟩
    ensure (nonceRequest.valid = true) .unavailable
    let decision ← evaluateDPoPNonce nonceRequest
    match decision.filter fun decision => decision.valid libraries with
    | none => failUnlessCancelled .unavailable
    | some decision =>
      -- `newDPoPNonceChallengeError`
      ensure (decision.accepted = true) (if libraries.validNonce decision.challenge = true then
        .nonceChallenge decision.challenge else .unavailable)

/-- `delegate.Verify`, with its errors as `Verify` passes them on. -/
def verifyAccessToken (accessToken : List UInt8) : DPoPMethod AuthnError VerifiedOIDCToken :=
  ExceptT.mk (ask (DPoPStatement.verifyToken accessToken))

/-- `Verify`; the request is what the context has. -/
def verifyDPoP (bounds : DPoPTimeBounds) (policy : Option DPoPNoncePolicy)
    (request : Option DPoPRequest) (accessToken : List UInt8) :
    DPoPMethod AuthnError VerifiedOIDCToken := do
  checkContext
  let request ← demand request .invalidCredential
  ensure (request.valid libraries = true) .invalidCredential
  let verified ← verifyAccessToken accessToken
  checkContext
  ensure (libraries.validThumbprint verified.confirmationThumbprint = true) .invalidCredential
  let (reservation, nonce) ← ExceptT.adapt (fun _ => .invalidCredential)
    (verifyDPoPProof libraries bounds request accessToken verified.confirmationThumbprint)
  reserveOrReject reservation
  checkNonce libraries policy request reservation nonce
  checkContext
  pure verified

/-- `DeleteExpiredDPoPProofs`: the number of rows, if the arguments are valid and nothing fails. -/
def deleteExpiredDPoPProofs (isolationDomainId : String) (limit : ℕ) : DPoPProgram (Option ℕ) :=
  if Writer.idMatches "iso" isolationDomainId = false ∨ limit < 1 ∨ 1000 < limit then pure none
  else ask (DPoPStatement.delete isolationDomainId limit)

/-! ### The table -/

/-- A row of `oidc_dpop_replays`; times are in microseconds. -/
structure DPoPReplayRow where
  sequence : ℕ
  isolationDomainId : String
  (keyThumbprintDigest proofIdDigest : BitVec 256)
  (expiresAt reservedAt : ℤ)
  deriving DecidableEq

/-- The table, the time of the database, and a note of every reservation that was ever inserted, with
the session that did it. -/
structure DPoPReplays where
  rows : List DPoPReplayRow
  sequence : ℕ
  clock : ℤ
  inserted : List (ℕ × DPoPReplayReservation)

namespace DPoPReplays

/-- No reservation yet. -/
def empty : DPoPReplays :=
  ⟨[], 1, 0, []⟩

/-- The `INSERT`, with the trigger `protect_oidc_dpop_replay`, the check on the expiry and the unique
constraint `oidc_dpop_replays_proof_key`. -/
def insert (s : DPoPReplays) (id : ℕ) (now : ℤ) (reservation : DPoPReplayReservation) :
    Except ReserveError DPoPReplays :=
  let expiresAt := storedTime reservation.expiresAt
  if now + 7 * 60 * 1000000 < expiresAt then .error .other
  else if expiresAt ≤ now then .error .other
  else if ∃ row ∈ s.rows, row.keyThumbprintDigest = reservation.keyThumbprintDigest ∧
      row.proofIdDigest = reservation.proofIdDigest then .error .replayed
  else .ok { s with
      rows := s.rows ++ [⟨s.sequence, reservation.isolationDomainId,
        reservation.keyThumbprintDigest, reservation.proofIdDigest, expiresAt, now⟩]
      sequence := s.sequence + 1, inserted := s.inserted ++ [(id, reservation)] }

/-- The rows that the `DELETE` removes.  New rows come last, so that they are in order. -/
def expired (s : DPoPReplays) (now : ℤ) (isolationDomainId : String) (limit : ℕ) :
    List DPoPReplayRow :=
  (s.rows.filter fun row => row.isolationDomainId = isolationDomainId ∧ row.expiresAt ≤ now).take limit

/-- The `DELETE`. -/
def delete (s : DPoPReplays) (now : ℤ) (isolationDomainId : String) (limit : ℕ) : DPoPReplays :=
  { s with rows := s.rows.filter fun row => row ∉ s.expired now isolationDomainId limit }

end DPoPReplays

/-- What a process gets from outside, and what becomes of a statement; the time of the database is
given with it. -/
inductive DPoPAnswer where
  | executed
  | failed
  | lost
  | isCancelled (value : Bool)
  | token (result : Except AuthnError VerifiedOIDCToken)
  | time (now : ℤ)
  | decision (result : Option DPoPNonceDecision)

/-- What a session has: the proof it is about, and the reservation that it knows to have made. -/
structure DPoPTx where
  proof : Option (List UInt8)
  reserved : Option DPoPReplayReservation

namespace DPoPTx

/-- Statements at the database, whose clock shows `now`. -/
def serveAt (s : DPoPReplays) (now : ℤ) (id : ℕ) (tx : DPoPTx) :
    (statement : DPoPStatement) → DPoPAnswer → Option (statement.Reply × DPoPTx × DPoPReplays)
  | .isCancelled, .isCancelled value => some (value, tx, s)
  | .verifyToken _, .token result => some (result, tx, s)
  | .now, .time time => some (time, tx, s)
  | .insert reservation, .executed =>
    match s.insert id now reservation with
    | .error error => some (.error error, tx, s)
    | .ok t => some (.ok (), { tx with reserved := some reservation }, t)
  | .insert reservation, .lost =>
    match s.insert id now reservation with
    | .error error => some (.error error, tx, s)
    | .ok t => some (.error .other, tx, t)
  | .insert _, .failed => some (.error .other, tx, s)
  | .evaluateNonce _, .decision result => some (result, tx, s)
  | .delete isolationDomainId limit, .executed =>
    some (some (s.expired now isolationDomainId limit).length, tx,
      s.delete now isolationDomainId limit)
  | .delete isolationDomainId limit, .lost =>
    some (none, tx, s.delete now isolationDomainId limit)
  | .delete _ _, .failed => some (none, tx, s)
  | _, _ => none

/-- The clock of the database does not go back. -/
def serve (s : DPoPReplays) (id : ℕ) (tx : DPoPTx) (statement : DPoPStatement)
    (answer : ℤ × DPoPAnswer) : Option (statement.Reply × DPoPTx × DPoPReplays) :=
  if s.clock ≤ answer.1 then
    tx.serveAt { s with clock := answer.1 } answer.1 id statement answer.2
  else none

end DPoPTx

/-- A call of one of the two methods. -/
inductive DPoPCall where
  | verify (policy : Option DPoPNoncePolicy) (request : Option DPoPRequest)
      (accessToken : List UInt8)
  | deleteExpired (isolationDomainId : String) (limit : ℕ)
  deriving DecidableEq

/-- What a call returns. -/
inductive DPoPResult where
  | verified (result : Except AuthnError VerifiedOIDCToken)
  | deleted (count : Option ℕ)

namespace DPoPCall

/-- The proof that a call is about. -/
def proof : DPoPCall → Option (List UInt8)
  | .verify _ request _ => request.map DPoPRequest.proof
  | .deleteExpired _ _ => none

/-- The method that a call runs. -/
def program (bounds : DPoPTimeBounds) : DPoPCall → DPoPProgram DPoPResult
  | .verify policy request accessToken => do
    let result ← (verifyDPoP libraries bounds policy request accessToken).run
    pure (.verified result)
  | .deleteExpired isolationDomainId limit => do
    let count ← deleteExpiredDPoPProofs isolationDomainId limit
    pure (.deleted count)

end DPoPCall

/-- The processes at their database. -/
def dpopServer (bounds : DPoPTimeBounds) :
    Server DPoPReplays DPoPTx (ℤ × DPoPAnswer) DPoPCall DPoPStatement DPoPStatement.Reply
      DPoPResult where
  start call := (⟨call.proof, none⟩, call.program libraries bounds)
  serve := DPoPTx.serve
  release s _ _ := s

end DataGround
