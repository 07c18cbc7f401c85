import DataGround.Access.Possession

/-!
# Proofs of possession are accepted once

A call of `Verify` that accepts has inserted a reservation, and the proof alone determines its key and
its expiry.  The row of a reservation is deleted only when it has expired, and from then on no
reservation with that expiry is inserted.

* `proof_accepted_once` -- no proof is accepted by two calls.
-/

namespace DataGround

open Process (ask ensure demand)

/-! ### The invariant -/

/-- The two reservations are for the same proof, with the same expiry. -/
def DPoPReplayReservation.Same (one other : DPoPReplayReservation) : Prop :=
  one.keyThumbprintDigest = other.keyThumbprintDigest ∧ one.proofIdDigest = other.proofIdDigest ∧
    one.expiresAt = other.expiresAt

lemma DPoPReplayReservation.Same.symm {one other : DPoPReplayReservation} (h : one.Same other) :
    other.Same one :=
  ⟨h.1.symm, h.2.1.symm, h.2.2.symm⟩

instance : Std.Symm fun one other : ℕ × DPoPReplayReservation => ¬one.2.Same other.2 :=
  ⟨fun _ _ h hsame => h hsame.symm⟩

namespace DPoPReplays

variable {s t : DPoPReplays} {id : ℕ} {now : ℤ} {reservation : DPoPReplayReservation}

/-- A reservation is in the table as long as it has not expired, and no two are the same. -/
structure Sound (s : DPoPReplays) : Prop where
  present : ∀ entry ∈ s.inserted, storedTime entry.2.expiresAt ≤ s.clock ∨
    ∃ row ∈ s.rows, row.keyThumbprintDigest = entry.2.keyThumbprintDigest ∧
      row.proofIdDigest = entry.2.proofIdDigest ∧
      row.expiresAt = storedTime entry.2.expiresAt
  once : s.inserted.Pairwise fun one other => ¬one.2.Same other.2

lemma sound_empty : empty.Sound :=
  ⟨fun _ hentry => (by cases hentry), List.Pairwise.nil⟩

/-- What an `INSERT` that succeeds has checked, and what it leaves. -/
lemma insert_eq_ok (h : s.insert id now reservation = .ok t) :
    now < storedTime reservation.expiresAt ∧
      (∀ row ∈ s.rows, row.keyThumbprintDigest = reservation.keyThumbprintDigest →
        row.proofIdDigest ≠ reservation.proofIdDigest) ∧
      t.clock = s.clock ∧ t.inserted = s.inserted ++ [(id, reservation)] ∧
      t.rows = s.rows ++ [⟨s.sequence, reservation.isolationDomainId,
        reservation.keyThumbprintDigest, reservation.proofIdDigest,
        storedTime reservation.expiresAt, now⟩] := by
  unfold insert at h
  simp only at h
  split_ifs at h with hlifetime hexpired hpresent
  cases h
  push Not at hpresent
  exact ⟨by omega, hpresent, rfl, rfl, rfl⟩

lemma Sound.at_time (h : s.Sound) (hnow : s.clock ≤ now) : Sound { s with clock := now } where
  present entry hentry := (h.present entry hentry).imp_left fun hexpired => hexpired.trans hnow
  once := h.once

/-- **An `INSERT` keeps the invariant.**  A reservation like the new one would either have its row, or
have expired, and so the new one. -/
lemma Sound.insert (h : s.Sound) (hinsert : s.insert id s.clock reservation = .ok t) : t.Sound := by
  obtain ⟨hlive, hnew, hclock, hinserted, hrows⟩ := insert_eq_ok hinsert
  constructor
  · intro entry hentry
    rw [hinserted, List.mem_append, List.mem_singleton] at hentry
    rw [hclock, hrows]
    rcases hentry with hold | rfl
    · refine (h.present entry hold).imp_right fun ⟨row, hrow, hsame⟩ => ?_
      exact ⟨row, List.mem_append_left _ hrow, hsame⟩
    · exact .inr ⟨_, List.mem_append_right _ List.mem_cons_self, rfl, rfl, rfl⟩
  · rw [hinserted, List.pairwise_append]
    refine ⟨h.once, List.pairwise_singleton _ _, ?_⟩
    rintro entry hentry other hother ⟨hkey, hproof, hexpiry⟩
    rw [List.mem_singleton.mp hother] at hkey hproof hexpiry
    rcases h.present entry hentry with hexpired | ⟨row, hrow, hrowKey, hrowProof, -⟩
    · exact absurd (hexpiry ▸ hexpired) (not_le.mpr hlive)
    · exact hnew row hrow (hrowKey.trans hkey) (hrowProof.trans hproof)

/-- **A `DELETE` keeps the invariant**, since it removes only what has expired. -/
lemma Sound.delete (h : s.Sound) (isolationDomainId : String) (limit : ℕ) :
    (s.delete s.clock isolationDomainId limit).Sound where
  present entry hentry := by
    rcases h.present entry hentry with hexpired | ⟨row, hrow, hkey, hproof, hexpiry⟩
    · exact .inl hexpired
    · by_cases hdeleted : row ∈ s.expired s.clock isolationDomainId limit
      · left
        have hmem := List.mem_of_mem_take hdeleted
        simp only [List.mem_filter, decide_eq_true_eq] at hmem
        rw [← hexpiry]
        exact hmem.2.2
      · refine .inr ⟨row, ?_, hkey, hproof, hexpiry⟩
        simpa [DPoPReplays.delete] using ⟨hrow, hdeleted⟩
  once := h.once

end DPoPReplays

variable {statement : DPoPStatement} {reply : statement.Reply}

namespace DPoPTx

variable {s t : DPoPReplays} {tx tx' : DPoPTx} {id : ℕ}

/-- A reservation that a session knows of was inserted by it. -/
def Agrees (tx : DPoPTx) (s : DPoPReplays) (id : ℕ) (_ : Bool) : Prop :=
  ∀ reservation, tx.reserved = some reservation → (id, reservation) ∈ s.inserted

/-- What a reply tells a session. -/
def Notes (tx : DPoPTx) : (statement : DPoPStatement) → statement.Reply → DPoPTx → Prop
  | .insert reservation, .ok (), tx' => tx' = { tx with reserved := some reservation }
  | _, _, tx' => tx' = tx

/-- **What a statement does.** -/
inductive Served (s : DPoPReplays) (id : ℕ) (tx : DPoPTx) : DPoPTx → DPoPReplays → Prop
  | quiet : Served s id tx tx s
  | inserted {reservation : DPoPReplayReservation} {t : DPoPReplays}
      (ok : s.insert id s.clock reservation = .ok t) :
      Served s id tx { tx with reserved := some reservation } t
  | lost {reservation : DPoPReplayReservation} {t : DPoPReplays}
      (ok : s.insert id s.clock reservation = .ok t) : Served s id tx tx t
  | deleted (isolationDomainId : String) (limit : ℕ) :
      Served s id tx tx (s.delete s.clock isolationDomainId limit)

lemma served_of_serveAt {answer : DPoPAnswer}
    (h : tx.serveAt s s.clock id statement answer = some (reply, tx', t)) :
    Served s id tx tx' t ∧ tx.Notes statement reply tx' := by
  cases statement <;> cases answer <;> simp only [serveAt, reduceCtorEq] at h
  case insert.executed reservation =>
    split at h
    · cases h
      exact ⟨.quiet, rfl⟩
    · rename_i hinsert
      cases h
      exact ⟨.inserted hinsert, rfl⟩
  case insert.lost reservation =>
    split at h
    · cases h
      exact ⟨.quiet, rfl⟩
    · rename_i hinsert
      cases h
      exact ⟨.lost hinsert, rfl⟩
  case delete.executed isolationDomainId limit =>
    cases h
    exact ⟨.deleted isolationDomainId limit, rfl⟩
  case delete.lost isolationDomainId limit =>
    cases h
    exact ⟨.deleted isolationDomainId limit, rfl⟩
  all_goals
    cases h
    exact ⟨.quiet, rfl⟩

/-- Statements take place at the time of the database. -/
lemma served_of_serve {answer : ℤ × DPoPAnswer}
    (h : tx.serve s id statement answer = some (reply, tx', t)) :
    s.clock ≤ answer.1 ∧ Served { s with clock := answer.1 } id tx tx' t ∧
      tx.Notes statement reply tx' := by
  unfold serve at h
  split_ifs at h with hclock
  obtain ⟨hserved, hnotes⟩ := served_of_serveAt (s := { s with clock := answer.1 }) h
  exact ⟨hclock, hserved, hnotes⟩

/-- A statement keeps the table sound. -/
lemma Served.sound (h : Served s id tx tx' t) (hs : s.Sound) : t.Sound := by
  cases h with
  | quiet => exact hs
  | inserted ok | lost ok => exact hs.insert ok
  | deleted isolationDomainId limit => exact hs.delete isolationDomainId limit

/-- What was inserted is not forgotten. -/
lemma Served.inserted_mem (h : Served s id tx tx' t) {entry : ℕ × DPoPReplayReservation}
    (hentry : entry ∈ s.inserted) : entry ∈ t.inserted := by
  cases h with
  | quiet | deleted => exact hentry
  | inserted ok | lost ok =>
    obtain ⟨-, -, -, hinserted, -⟩ := DPoPReplays.insert_eq_ok ok
    rw [hinserted]
    exact List.mem_append_left _ hentry

/-- A session knows of what it has inserted. -/
lemma Served.agrees (h : Served s id tx tx' t) (htx : tx.Agrees s id true) : tx'.Agrees t id true := by
  intro reservation hreserved
  cases h with
  | inserted ok =>
    obtain ⟨-, -, -, hinserted, -⟩ := DPoPReplays.insert_eq_ok ok
    cases hreserved
    rw [hinserted]
    exact List.mem_append_right _ List.mem_cons_self
  | quiet | deleted => exact htx reservation hreserved
  | lost ok =>
    have hlost : Served s id tx tx t := .lost ok
    exact hlost.inserted_mem (htx reservation hreserved)

end DPoPTx

section

variable {libraries : DPoPLibraries} {bounds : DPoPTimeBounds}

/-- The table stays sound, and sessions know what they have inserted, whatever is asked for. -/
lemma dpopServer_discipline : Server.Discipline DPoPReplays.Sound DPoPTx.Agrees
    (dpopServer libraries bounds) fun _ _ => True where
  serve s id tx statement answer reply tx' t hs htx _ h := by
    obtain ⟨hclock, hserved, -⟩ := DPoPTx.served_of_serve h
    refine ⟨hserved.sound (hs.at_time hclock), hserved.agrees htx, ?_⟩
    intro other tx₀ isOpen hne hagrees reservation hreserved
    exact hserved.inserted_mem (hagrees reservation hreserved)
  release s id tx hs htx := ⟨hs, htx, fun _ _ _ _ hagrees => hagrees⟩

/-! ### What `Verify` has done when it accepts -/

/-- The reservation of a proof: it is determined by the proof, up to the isolation domain. -/
def DPoPLibraries.Reserves (libraries : DPoPLibraries) (bounds : DPoPTimeBounds)
    (proof : List UInt8) (reservation : DPoPReplayReservation) : Prop :=
  ∃ header claims key thumbprint issuedAt,
    inspectDPoPProof libraries proof = .ok (header, claims) ∧
    libraries.parsePublicKey header.jwk header.algorithm = some (key, thumbprint) ∧
    claims.issuedAt = some issuedAt ∧
    reservation.keyThumbprintDigest = libraries.digest thumbprint ∧
    reservation.proofIdDigest = libraries.digest claims.proofId ∧
    reservation.expiresAt = issuedAt + (bounds.maximumProofAge + bounds.clockSkew)

/-- Two reservations of one proof are the same. -/
lemma DPoPLibraries.Reserves.same {proof : List UInt8} {one other : DPoPReplayReservation}
    (hone : libraries.Reserves bounds proof one) (hother : libraries.Reserves bounds proof other) :
    one.Same other := by
  obtain ⟨_, _, _, _, _, hinspect, hkey, hissued, h₁, h₂, h₃⟩ := hone
  obtain ⟨_, _, _, _, _, hinspect', hkey', hissued', h₁', h₂', h₃'⟩ :=
    hother
  cases hinspect.symm.trans hinspect'
  cases hkey.symm.trans hkey'
  cases hissued.symm.trans hissued'
  exact ⟨h₁.trans h₁'.symm, h₂.trans h₂'.symm, h₃.trans h₃'.symm⟩

/-- The moves of the sessions. -/
abbrev dpopMoves (libraries : DPoPLibraries) (bounds : DPoPTimeBounds) :=
  Server.Moves DPoPReplays.Sound DPoPTx.Agrees (dpopServer libraries bounds).serve

/-- Programs about one session. -/
abbrev DPoPTriple (libraries : DPoPLibraries) (bounds : DPoPTimeBounds) {ε α : Type}
    (P : DPoPTx → Prop) (x : DPoPMethod ε α) (Q : α → DPoPTx → Prop) : Prop :=
  Process.Triple (fun _ _ => True) (dpopMoves libraries bounds) P x Q

lemma notes_of_moves {tx tx' : DPoPTx} (h : dpopMoves libraries bounds tx statement reply tx') :
    tx.Notes statement reply tx' := by
  obtain ⟨_, _, _, _, -, -, hserve⟩ := h
  exact (DPoPTx.served_of_serve hserve).2.2

variable {ε : Type} {P : DPoPTx → Prop}

/-- The clock tells nothing about the session. -/
lemma readClock_triple : DPoPTriple libraries bounds P (readClock : DPoPMethod ε ℤ) fun _ => P := by
  refine Process.Triple.lift fun tx htx => ⟨trivial, fun reply tx' hmoves => ?_⟩
  rw [show tx' = tx from notes_of_moves hmoves]
  exact htx

lemma checkContext_triple : DPoPTriple libraries bounds P checkContext fun _ => P := by
  intro tx htx
  refine Process.Complies.ask_bind trivial fun reply tx' hmoves => ?_
  rw [show tx' = tx from notes_of_moves hmoves]
  cases reply with
  | true =>
    intro value hvalue
    cases hvalue
  | false =>
    intro value _
    exact htx

lemma failUnlessCancelled_triple {α : Type} {error : AuthnError} {Q : α → DPoPTx → Prop} :
    DPoPTriple libraries bounds P (failUnlessCancelled error) Q :=
  checkContext_triple.bind fun _ => .throw

variable {accessToken : List UInt8}

lemma verifyAccessToken_triple :
    DPoPTriple libraries bounds P (verifyAccessToken accessToken) fun _ => P := by
  intro tx htx
  refine ⟨trivial, fun reply tx' hmoves value _ => ?_⟩
  rw [show tx' = tx from notes_of_moves hmoves]
  exact htx

/-- **What `verifyDPoPProof` returns** is the reservation of the proof. -/
lemma verifyDPoPProof_triple {request : DPoPRequest} {expectedThumbprint : String} :
    DPoPTriple libraries bounds P
      (verifyDPoPProof libraries bounds request accessToken expectedThumbprint)
      fun result tx => libraries.Reserves bounds request.proof result.1 ∧ P tx := by
  unfold verifyDPoPProof
  refine .bind (Q := fun inspected tx =>
    inspectDPoPProof libraries request.proof = .ok inspected ∧ P tx)
    (fun tx htx inspected hinspected => ⟨hinspected, htx⟩) ?_
  rintro ⟨header, claims⟩
  refine .intro fun hinspect => ?_
  refine .bind .demand ?_
  rintro ⟨key, thumbprint⟩
  refine .intro fun hkey => ?_
  refine .ensure_bind fun _ => ?_
  refine .ensure_bind fun _ => ?_
  refine .ensure_bind fun _ => ?_
  refine .ensure_bind fun _ => ?_
  refine .bind .demand fun issuedAt => .intro fun hissued => ?_
  refine .ensure_bind fun _ => ?_
  refine .ensure_bind fun _ => ?_
  refine .bind readClock_triple fun now => ?_
  refine .ensure_bind fun _ => ?_
  refine .bind readClock_triple fun now => ?_
  refine .ensure_bind fun _ => ?_
  exact .pure fun tx htx =>
    ⟨⟨header, claims, key, thumbprint, issuedAt, hinspect, hkey, hissued, rfl, rfl, rfl⟩, htx⟩

variable {reservation : DPoPReplayReservation}

/-- **A reservation that succeeds is known.** -/
lemma reserveDPoPProof_triple {proof : Option (List UInt8)} :
    DPoPTriple libraries bounds (fun tx => tx.proof = proof) (reserveDPoPProof reservation)
      fun _ tx => tx.proof = proof ∧ tx.reserved = some reservation := by
  unfold reserveDPoPProof
  refine .bind readClock_triple fun now => ?_
  refine .ensure_bind fun _ => ?_
  intro tx htx
  refine ⟨trivial, fun reply tx' hmoves value hvalue => ?_⟩
  cases hvalue
  have hnotes : tx' = { tx with reserved := some reservation } := notes_of_moves hmoves
  rw [hnotes]
  exact ⟨htx, rfl⟩

lemma reserveOrReject_triple {proof : Option (List UInt8)} :
    DPoPTriple libraries bounds (fun tx => tx.proof = proof) (reserveOrReject reservation)
      fun _ tx => tx.proof = proof ∧ tx.reserved = some reservation := by
  intro tx htx
  refine Process.Complies.bind (reserveDPoPProof_triple tx htx) fun tx' result hresult => ?_
  cases result with
  | ok value =>
    intro value' _
    exact hresult value rfl
  | error error =>
    cases error with
    | replayed | other => exact failUnlessCancelled_triple (P := fun _ => True) tx' trivial

lemma checkNonce_triple {policy : Option DPoPNoncePolicy} {request : DPoPRequest} {nonce : String} :
    DPoPTriple libraries bounds P (checkNonce libraries policy request reservation nonce)
      fun _ => P := by
  unfold checkNonce
  cases policy with
  | none => exact Process.Triple.ensure.post fun _ _ htx => htx.2
  | some =>
    refine .ensure_bind fun _ => ?_
    refine .bind (Q := fun _ => P) (Process.Triple.lift fun tx htx => ?_) fun decision => ?_
    · refine ⟨trivial, fun reply tx' hmoves => ?_⟩
      rw [show tx' = tx from notes_of_moves hmoves]
      exact htx
    · cases decision.filter fun decision => decision.valid libraries with
      | none => exact failUnlessCancelled_triple
      | some => exact Process.Triple.ensure.post fun _ _ htx => htx.2

/-- **A call that accepts has reserved its proof.** -/
lemma verifyDPoP_triple {policy : Option DPoPNoncePolicy} {request : Option DPoPRequest} :
    DPoPTriple libraries bounds (fun tx => tx.proof = request.map DPoPRequest.proof)
      (verifyDPoP libraries bounds policy request accessToken)
      fun _ tx => ∃ proof reservation, tx.proof = some proof ∧ tx.reserved = some reservation ∧
        libraries.Reserves bounds proof reservation := by
  unfold verifyDPoP
  refine .bind checkContext_triple fun _ => ?_
  refine .bind .demand fun request' => .intro fun hrequest => ?_
  subst hrequest
  refine .ensure_bind fun _ => ?_
  refine .bind verifyAccessToken_triple fun verified => ?_
  refine .bind checkContext_triple fun _ => ?_
  refine .ensure_bind fun _ => ?_
  refine .bind verifyDPoPProof_triple.adapt ?_
  rintro ⟨reservation, nonce⟩
  refine .intro fun hreserves => ?_
  refine .bind reserveOrReject_triple fun _ => ?_
  refine .bind checkNonce_triple fun _ => ?_
  refine .bind checkContext_triple fun _ => ?_
  exact .pure fun tx htx => ⟨request'.proof, reservation, htx.1, htx.2, hreserves⟩

/-- What a session knows when its call has accepted. -/
def DPoPTx.Accepted (libraries : DPoPLibraries) (bounds : DPoPTimeBounds) (tx : DPoPTx) :
    DPoPResult → Prop
  | .verified (.ok _) => ∃ proof reservation, tx.proof = some proof ∧
      tx.reserved = some reservation ∧ libraries.Reserves bounds proof reservation
  | _ => True

lemma dpopServer_complies (call : DPoPCall) :
    ((dpopServer libraries bounds).start call).2.Complies (fun _ _ => True)
      (dpopMoves libraries bounds) (DPoPTx.Accepted libraries bounds)
      ((dpopServer libraries bounds).start call).1 := by
  cases call with
  | verify =>
    refine Process.Complies.bind (verifyDPoP_triple _ rfl) fun tx result hresult => ?_
    cases result with
    | error => trivial
    | ok token => exact hresult token rfl
  | deleteExpired =>
    exact Process.Complies.trivially.bind fun _ _ _ => trivial

lemma serve_proof {s t : DPoPReplays} {id : ℕ} {tx tx' : DPoPTx} {answer : ℤ × DPoPAnswer}
    (h : tx.serve s id statement answer = some (reply, tx', t)) : tx'.proof = tx.proof := by
  obtain ⟨-, hserved, -⟩ := DPoPTx.served_of_serve h
  cases hserved <;> rfl

end

/-- The call of this session has returned a token. -/
def Accepts (sys : Server.State DPoPReplays DPoPTx DPoPStatement DPoPStatement.Reply DPoPResult)
    (id : ℕ) : Prop :=
  ∃ tx token isOpen, sys.sessions id = some ⟨tx, .done (.verified (.ok token)), isOpen⟩

/-- **A proof is accepted once.**  Calls of `Verify` with the same proof -- by any processes, for any
requests and tokens, with any nonce policies and any clocks, in whatever order their statements take
place, and with expired reservations deleted at any time -- do not accept it both. -/
theorem proof_accepted_once (libraries : DPoPLibraries) (bounds : DPoPTimeBounds)
    {events : List (Server.Event (ℤ × DPoPAnswer) DPoPCall)}
    {sys : Server.State DPoPReplays DPoPTx DPoPStatement DPoPStatement.Reply DPoPResult}
    (h : Run.run (dpopServer libraries bounds).step (Server.initial DPoPReplays.empty) events = some sys)
    {id id' : ℕ} {policy policy' : Option DPoPNoncePolicy} {request request' : DPoPRequest}
    {accessToken accessToken' : List UInt8}
    (hstart : .start id (.verify policy (some request) accessToken) ∈ events)
    (hstart' : .start id' (.verify policy' (some request') accessToken') ∈ events)
    (hproof : request.proof = request'.proof) (hne : id ≠ id') :
    ¬(Accepts sys id ∧ Accepts sys id') := by
  rintro ⟨⟨tx, token, isOpen, hsession⟩, tx', token', isOpen', hsession'⟩
  have hsys := dpopServer_discipline.of_run dpopServer_complies DPoPReplays.sound_empty
    (fun _ _ _ hreserved => by cases hreserved) h
  have hinput : ∀ {k : ℕ} {call : DPoPCall} {tx₀ : DPoPTx} {rest isOpen₀},
      .start k call ∈ events → sys.sessions k = some ⟨tx₀, rest, isOpen₀⟩ →
        tx₀.proof = call.proof := by
    intro k call tx₀ rest isOpen₀ hcall hk
    obtain ⟨_, hfound, hf⟩ := Server.session_of_start (f := DPoPTx.proof)
      (fun _ _ _ _ _ _ _ _ hserve => serve_proof hserve) h hcall
    cases hk.symm.trans hfound
    exact hf
  obtain ⟨proof, reservation, htx, hreserved, hreserves⟩ := hsys.complying id _ hsession
  obtain ⟨proof', reservation', htx', hreserved', hreserves'⟩ := hsys.complying id' _ hsession'
  have hsame : proof = proof' := by
    have hone : some proof = some request.proof := htx.symm.trans (hinput hstart hsession)
    have hother : some proof' = some request'.proof := htx'.symm.trans (hinput hstart' hsession')
    rw [Option.some.inj hone, Option.some.inj hother, hproof]
  subst hsame
  have hmem := hsys.sessions id _ hsession reservation hreserved
  have hmem' := hsys.sessions id' _ hsession' reservation' hreserved'
  have hdistinct : (id, reservation) ≠ (id', reservation') := fun heq => hne (congrArg Prod.fst heq)
  exact hsys.sound.once.forall hmem hmem' hdistinct (hreserves.same hreserves')

namespace Scenario

/-- Libraries for which every serialization carries the same proof. -/
def dpopLibraries : DPoPLibraries where
  decodeBase64 := some
  uniqueObject _ := none
  decodeHeader _ := some ⟨"dpop+jwt", "ES256", "key"⟩
  decodeClaims _ := some ⟨"proof-0123456789", "GET", "https://host/path", some 1000000000, "1", ""⟩
  parsePublicKey _ _ := some ("key", "thumbprint")
  parseSigned _ algorithm := some [algorithm]
  signedClaims _ _ := some ⟨"proof-0123456789", "GET", "https://host/path", some 1000000000, "1", ""⟩
  digest text := BitVec.ofNat 256 text.length
  digestBytes bytes := BitVec.ofNat 256 bytes.length
  encodeBase64 digest := toString digest.toNat
  validExternalUri _ := true
  validThumbprint _ := true
  validNonce _ := false

/-- A call with this proof. -/
def verifyOnce : DPoPCall :=
  .verify none (some ⟨"iso_00000000000000000000", "GET", "https://host/path", [1, 46, 2, 46, 3]⟩) [0]

/-- What a call is told up to the `INSERT`; its process shows this time. -/
def beforeInsert (id : ℕ) (time : ℤ) : List (Server.Event (ℤ × DPoPAnswer) DPoPCall) :=
  [.start id verifyOnce, .answer id (0, .isCancelled false),
    .answer id (0, .token (.ok ⟨"issuer", "subject", [], "thumbprint"⟩)),
    .answer id (0, .isCancelled false), .answer id (0, .time time), .answer id (0, .time time),
    .answer id (0, .time time)]

/-- Two calls with one proof: the first one inserts, and then the second one tries. -/
def twoCalls : List (Server.Event (ℤ × DPoPAnswer) DPoPCall) :=
  beforeInsert 1 2000000000 ++ beforeInsert 2 3000000000 ++
    [.answer 1 (2000000, .executed), .answer 2 (2000001, .executed),
      .answer 1 (2000001, .isCancelled false), .answer 2 (2000001, .isCancelled false)]

/-- What a call has returned, if it has. -/
def outcome (sys : Server.State DPoPReplays DPoPTx DPoPStatement DPoPStatement.Reply DPoPResult)
    (id : ℕ) : Option (Except AuthnError VerifiedOIDCToken) :=
  match sys.sessions id with
  | some ⟨_, .done (.verified result), _⟩ => some result
  | _ => none

end Scenario

open Scenario in
/-- Two calls at once: the first one accepts the proof, the other one does not. -/
theorem proof_accepted_once_of_two :
    ∃ sys, Run.run (dpopServer dpopLibraries ⟨60000000000, 300000000000⟩).step
        (Server.initial DPoPReplays.empty) twoCalls = some sys ∧
      outcome sys 1 = some (.ok ⟨"issuer", "subject", [], "thumbprint"⟩) ∧
      outcome sys 2 = some (.error .invalidCredential) ∧ ¬(Accepts sys 1 ∧ Accepts sys 2) := by
  refine Run.exists_some_of (P := fun sys =>
    outcome sys 1 = some (.ok ⟨"issuer", "subject", [], "thumbprint"⟩) ∧
      outcome sys 2 = some (.error .invalidCredential))
    (by decide +kernel) fun sys hsys ⟨hone, hother⟩ => ⟨hone, hother, ?_⟩
  have hstart : .start 1 verifyOnce ∈ twoCalls := by simp [twoCalls, beforeInsert]
  have hagain : .start 2 verifyOnce ∈ twoCalls := by simp [twoCalls, beforeInsert]
  exact proof_accepted_once dpopLibraries ⟨60000000000, 300000000000⟩ hsys hstart hagain rfl (by decide)

end DataGround
