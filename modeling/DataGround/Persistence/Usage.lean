import DataGround.Persistence.JournalWriters
import DataGround.Persistence.Fenced

/-!
# The usage of an invocation

A runtime reports its usage in events that it numbers.  `RecordInvocationRuntimeEvent` keeps the latest
report in the row of the invocation as well, and the latest is the one with the greatest number,
whichever arrived last.

The transaction has locked the row of the invocation when it comes to the journal, so the calls for one
invocation follow one another, and each is a step here: `InvocationJournal.record`.  What was checked
before that -- the claim, the target and the artifact of the event -- and whether the lease is still
live at the insertion are answers of the database.
-/

namespace DataGround

/-- The journal of an invocation, and the columns of its row that a report changes. -/
structure InvocationJournal where
  events : List InvocationEvent
  usage : Option Json
  version : ℕ
  updatedAt : Time
  deriving DecidableEq

/-- What the database answers to a call. -/
structure RecordAnswer where
  checked : Except RepositoryError Unit
  now : Time
  live : Bool

/-- The number of a report of usage. -/
def InvocationEvent.usageSequence (event : InvocationEvent) : Option ℕ :=
  if event.eventType = "usage.recorded" then event.sourceSequence else none

namespace InvocationJournal

/-- `COALESCE(max(sequence), 0) + 1`. -/
def nextSequence (s : InvocationJournal) : ℕ :=
  (s.events.map InvocationEvent.sequence).foldr max 0 + 1

/-- The `UPDATE` of the usage: nothing changes if it is the same, or if there is a later report. -/
def projectUsage (sourceSequence : ℕ) (payload : Json) (now : Time) (s : InvocationJournal) :
    InvocationJournal :=
  if s.usage ≠ some payload ∧
      ∀ event ∈ s.events, ∀ later ∈ event.usageSequence, ¬sourceSequence < later then
    { s with
      usage := some payload, version := s.version + 1, updatedAt := now }
  else s

/-- `RecordInvocationRuntimeEvent`. -/
def record (env : RuntimeEnvironment) (target : RuntimeTarget) (event : Writer.InvocationRuntimeEvent)
    (answer : RecordAnswer) (s : InvocationJournal) :
    Except RepositoryError InvocationEvent × InvocationJournal :=
  match Writer.validatedPayload env event, answer.checked with
  | none, _ => (.error Writer.eventInvalid, s)
  | _, .error error => (.error error, s)
  | some payload, .ok () =>
    match s.events.find? (·.sourceSequence = some event.sourceSequence) with
    | some existing =>
      if existing.eventType = event.eventType ∧ env.reencode existing.payload = some payload then
        (.ok existing, s)
      else (.error Writer.eventConflict, s)
    | none =>
      if answer.live then
        let value := Writer.runtimeEnvelope env target event.sourceSequence event.eventType payload
          s.nextSequence answer.now
        let inserted := { s with events := s.events ++ [value] }
        (.ok value, if event.eventType = "usage.recorded" then
          inserted.projectUsage event.sourceSequence payload answer.now else inserted)
      else (.error .leaseLost, s)

end InvocationJournal

/-- A call for the invocation; an event of the platform has no number of a runtime. -/
inductive UsageCall where
  | record (target : RuntimeTarget) (event : Writer.InvocationRuntimeEvent) (answer : RecordAnswer)
  | platform (event : InvocationEvent)

namespace InvocationJournal

/-- One call. -/
def step (env : RuntimeEnvironment) (s : InvocationJournal) : UsageCall → InvocationJournal
  | .record target event answer => (s.record env target event answer).2
  | .platform event =>
    { s with events := s.events ++ [{ event with sourceSequence := none }] }

/-- An invocation that was accepted at `now`. -/
def accepted (now : Time) : InvocationJournal :=
  ⟨[], none, 1, now⟩

/-- The report with the greatest number is the usage. -/
def Current (s : InvocationJournal) : Prop :=
  ∀ event ∈ s.events, ∀ n ∈ event.usageSequence,
    (∀ other ∈ s.events, ∀ k ∈ other.usageSequence, k ≤ n) → s.usage = some event.payload

variable {env : RuntimeEnvironment} {s : InvocationJournal} {value : InvocationEvent} {n : ℕ}

/-- An event that is no report leaves the usage current. -/
lemma Current.insert (hs : s.Current) (hvalue : value.usageSequence = none) :
    Current { s with events := s.events ++ [value] } := by
  intro event hevent k hk hmax
  rcases List.mem_append.mp hevent with hold | hnew
  · exact hs event hold k hk fun other hother => hmax other (List.mem_append_left _ hother)
  · rw [List.mem_singleton.mp hnew, hvalue] at hk
    cases hk

/-- The latest report becomes the usage. -/
lemma projectUsage_of_latest (payload : Json)
    (h : ∀ event ∈ s.events, ∀ later ∈ event.usageSequence, ¬n < later) (now : Time) :
    ∃ version updatedAt, s.projectUsage n payload now = ⟨s.events, some payload, version, updatedAt⟩ := by
  by_cases husage : s.usage = some payload
  · refine ⟨s.version, s.updatedAt, ?_⟩
    rw [projectUsage, if_neg fun h => h.1 husage, ← husage]
  · exact ⟨_, _, if_pos ⟨husage, h⟩⟩

/-- A report with a new number makes the usage current again. -/
lemma Current.project (hs : s.Current) (hvalue : value.usageSequence = some n)
    (hnew : ∀ event ∈ s.events, event.sourceSequence ≠ some n) (now : Time) :
    Current (projectUsage n value.payload now { s with events := s.events ++ [value] }) := by
  by_cases hlatest : ∀ event ∈ s.events ++ [value], ∀ later ∈ event.usageSequence, ¬n < later
  · obtain ⟨_, _, hprojected⟩ := projectUsage_of_latest
      (s := { s with events := s.events ++ [value] }) value.payload hlatest now
    rw [hprojected]
    intro event hevent k hk hmax
    rcases List.mem_append.mp hevent with hold | hlast
    · -- an earlier report would have the new number
      have hle : n ≤ k := hmax value (List.mem_append_right _ List.mem_cons_self) n hvalue
      have hge : k ≤ n := Nat.not_lt.mp (hlatest event hevent k hk)
      simp only [InvocationEvent.usageSequence, Option.mem_def, Option.ite_none_right_eq_some] at hk
      exact absurd (hk.2.trans (by rw [le_antisymm hge hle])) (hnew event hold)
    · rw [List.mem_singleton.mp hlast]
  · -- there is a later report, and the usage stays
    rw [projectUsage, if_neg fun h => hlatest h.2]
    intro event hevent k hk hmax
    rcases List.mem_append.mp hevent with hold | hlast
    · exact hs event hold k hk fun other hother => hmax other (List.mem_append_left _ hother)
    · rw [List.mem_singleton.mp hlast, hvalue] at hk
      cases hk
      exact absurd (fun other hother later hlater => Nat.not_lt.mpr (hmax other hother later hlater))
        hlatest

/-- **Every call leaves the usage current.** -/
lemma Current.step (hs : s.Current) (call : UsageCall) : (s.step env call).Current := by
  cases call with
  | platform =>
    refine hs.insert ?_
    unfold InvocationEvent.usageSequence
    split <;> rfl
  | record target event answer =>
    change (s.record env target event answer).2.Current
    unfold record
    split
    · exact hs
    · exact hs
    · split
      · split <;> exact hs
      · rename_i payload _ _ hnone
        have hnew : ∀ other ∈ s.events, other.sourceSequence ≠ some event.sourceSequence :=
          fun other hother => by simpa using List.find?_eq_none.mp hnone other hother
        split
        · dsimp only
          split
          · rename_i husage
            exact hs.project (by rw [InvocationEvent.usageSequence, if_pos (by exact husage)]; rfl) hnew _
          · rename_i hother
            exact hs.insert (by rw [InvocationEvent.usageSequence, if_neg (by exact hother)])
        · exact hs

lemma current_of_run (calls : List UsageCall) (hs : s.Current) :
    (calls.foldl (step env) s).Current := by
  induction calls generalizing s with
  | nil => exact hs
  | cons call _ ih => exact ih (hs.step call)

end InvocationJournal

/-- **The usage is the report with the greatest number.**  Whatever calls have been made for an
invocation, in whatever order reports arrived and were repeated, and whichever calls failed: once the
reports of a set are recorded, and no others, the usage is the payload of the one with the greatest
number. -/
theorem usage_of_latest (env : RuntimeEnvironment) (created : Time) (calls : List UsageCall)
    (reports : List (ℕ × Json)) (s : InvocationJournal)
    (hs : calls.foldl (InvocationJournal.step env) (.accepted created) = s)
    (hrecorded : ∀ report ∈ reports, ∃ event ∈ s.events,
      event.usageSequence = some report.1 ∧ event.payload = report.2)
    (honly : ∀ event ∈ s.events, ∀ n ∈ event.usageSequence, (n, event.payload) ∈ reports)
    (latest : ℕ × Json) (hlatest : latest ∈ reports)
    (hmax : ∀ report ∈ reports, report.1 ≤ latest.1) : s.usage = some latest.2 := by
  have hcurrent : s.Current := hs ▸ InvocationJournal.current_of_run calls (fun _ h => by cases h)
  obtain ⟨event, hevent, hnumber, hpayload⟩ := hrecorded latest hlatest
  rw [← hpayload]
  refine hcurrent event hevent latest.1 hnumber fun other hother k hk => ?_
  exact hmax _ (honly other hother k hk)

namespace Scenario

/-- An environment whose documents are short and read as they are written. -/
def usageEnv : RuntimeEnvironment where
  toEnvironment := env
  encodedLength := fun _ => 0
  payloadParses := fun _ _ => true
  reencode := some
  formatTime := toString
  validQuestionPrompts := fun _ => true
  validQuestionAnswers := fun _ _ => true

/-- The report with number `n`, which counts to `n` as well. -/
def report (n : ℕ) : UsageCall :=
  .record ⟨⟨"iso", "op"⟩, "inv", "svc", "rev", "caller", "request"⟩
    ⟨n, "usage.recorded", some (.number n)⟩ ⟨.ok (), n, true⟩

end Scenario

open Scenario

/-- The third report arrives first and is repeated last. -/
theorem usage_of_latest_reordered :
    (([3, 1, 2, 3].map report).foldl (InvocationJournal.step usageEnv)
      (.accepted 0)).usage = some (.number 3) :=
  usage_of_latest usageEnv 0 ([3, 1, 2, 3].map report)
    [(1, .number 1), (2, .number 2), (3, .number 3)] _ rfl (by decide +kernel) (by decide +kernel)
    (3, .number 3) (by decide) (by decide)

end DataGround
