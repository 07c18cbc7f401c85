import DataGround.Library.Keyset
import DataGround.Persistence.Schema

/-!
# Replay of the events of an invocation

A client reads the journal of an invocation page by page, and names the last event it has got as the
cursor of the next request.  A page ends at a number of events or at a number of bytes, whichever
comes first.
-/

namespace DataGround.Api

open Keyset

/-- An event as it is sent. -/
structure Frame where
  id : ℕ
  (event data : String)
  deriving DecidableEq

/-- `"id: %d\nevent: %s\ndata: %s\n\n"`. -/
def Frame.text (frame : Frame) : String :=
  "id: " ++ toString frame.id ++ "\nevent: " ++ frame.event ++ "\ndata: " ++ frame.data ++ "\n\n"

/-- What the servers use of `encoding/json`: whether the payload of a row can be decoded, and the text
of an envelope. -/
structure ReplayLibraries where
  decodes : InvocationEvent → Bool
  marshal : InvocationEvent → Option String

def maximumEventReplayPageRecords : ℕ := 500

def maximumEventReplayPageBytes : ℕ := 2 ^ 20

/-- The answers; only a page comes with the header `X-DataGround-Has-More`. -/
inductive Replay where
  | notFound
  | readFailed
  | unavailable
  | recordTooLarge
  | stream (frames : List Frame)
  | page (frames : List Frame) (hasMore : Bool)
  deriving DecidableEq

variable (libraries : ReplayLibraries)

def ReplayLibraries.frame (event : InvocationEvent) : Option Frame :=
  (libraries.marshal event).map fun encoded => ⟨event.sequence, event.eventType, encoded⟩

/-- The answer without a limit, which ends at an event that cannot be encoded. -/
def writeStream (cursor : ℕ) : List InvocationEvent → List Frame
  | [] => []
  | event :: events =>
    if event.sequence ≤ cursor then writeStream cursor events
    else match libraries.frame event with
      | none => []
      | some frame => frame :: writeStream cursor events

/-- `page.Len()`. -/
def pageBytes (frames : List Frame) : ℕ :=
  (frames.map fun frame => frame.text.utf8ByteSize).sum

/-- The loop over the events of a page, behind the frames it has written so far. -/
def writePage (cursor limit : ℕ) : List Frame → List InvocationEvent → Replay
  | frames, [] => .page frames false
  | frames, event :: events =>
    if event.sequence ≤ cursor then writePage cursor limit frames events
    else if frames.length = limit then .page frames true
    else match libraries.frame event with
      | none => .unavailable
      | some frame =>
        if maximumEventReplayPageBytes < pageBytes frames + frame.text.utf8ByteSize then
          if frames.length = 0 then .recordTooLarge else .page frames true
        else writePage cursor limit (frames ++ [frame]) events

def writeInvocationEventReplay (events : List InvocationEvent) (cursor limit : ℕ) : Replay :=
  if limit = 0 then .stream (writeStream libraries cursor events)
  else writePage libraries cursor limit [] events

/-- The events behind a cursor. -/
abbrev behind (cursor : ℕ) (events : List InvocationEvent) : List InvocationEvent :=
  after InvocationEvent.sequence cursor events

/-- `Server.streamInvocationEvents`, for a journal in memory. -/
def Server.streamInvocationEvents (journal : Option (List InvocationEvent)) (limit cursor : ℕ) :
    Replay :=
  match journal with
  | none => .notFound
  | some events => writeInvocationEventReplay libraries
      (if limit = 0 then events else (behind cursor events).take (limit + 1)) cursor limit

/-- The query of `listEvents`, with `LIMIT NULLIF(limit, 0)`. -/
def listEvents (rows : List InvocationEvent) (invocation : ResourceKey) (cursor limit : ℕ) :
    List InvocationEvent :=
  let selected := orderBy InvocationEvent.sequence
    (rows.filter fun row => row.invocation = invocation ∧ cursor < row.sequence)
  if limit = 0 then selected else selected.take limit

/-- `DurableServer.streamInvocationEvents`, with the invocations that exist and the rows of
`invocation_events`. -/
def DurableServer.streamInvocationEvents (invocations : List ResourceKey)
    (rows : List InvocationEvent) (invocation : ResourceKey) (limit cursor : ℕ) : Replay :=
  if limit ≠ 0 ∧ 501 < limit + 1 then .readFailed
  else
    let events := listEvents rows invocation cursor (if limit = 0 then 0 else limit + 1)
    if ¬∀ event ∈ events, libraries.decodes event = true then .readFailed
    else if events = [] ∧ invocation ∉ invocations then .notFound
    else writeInvocationEventReplay libraries events cursor limit

/-- A client: it goes on behind the last event it has got as long as there is more, for some
requests. -/
def follow (serve : ℕ → Replay) : ℕ → ℕ → Option (List Frame)
  | 0, _ => none
  | requests + 1, cursor =>
    match serve cursor with
    | .page frames true => do
      let last ← frames.getLast?
      let rest ← follow serve requests last.id
      some (frames ++ rest)
    | .page frames false => some frames
    | _ => none

/-! ### Pages -/

/-- The journal of an invocation: its events are numbered upwards, from 1 on. -/
structure EventJournal where
  events : List InvocationEvent
  increasing : Increasing InvocationEvent.sequence events
  positive : ∀ event ∈ events, 0 < event.sequence

/-- Every event has its frame, of at most one megabyte. -/
def Frames (events : List InvocationEvent) (frame : InvocationEvent → Frame) : Prop :=
  ∀ event ∈ events, libraries.decodes event = true ∧ libraries.frame event = some (frame event) ∧
    (frame event).text.utf8ByteSize ≤ maximumEventReplayPageBytes

/-- The server answers with the first so many events behind the cursor, at least with one if there are
any, and says whether there are more. -/
def Pages (serve : ℕ → Replay) (events : List InvocationEvent) (frame : InvocationEvent → Frame)
    (limit : ℕ) : Prop :=
  ∀ cursor, ∃ n ≤ limit, serve cursor = .page (((behind cursor events).take n).map frame)
      (decide (n < (behind cursor events).length)) ∧ (behind cursor events ≠ [] → 0 < n)

variable {libraries} {frame : InvocationEvent → Frame} {events : List InvocationEvent}
  {cursor limit : ℕ} {serve : ℕ → Replay}

/-- **The loop** over events behind the cursor. -/
lemma writePage_eq (frames : List Frame) (h : Frames libraries events frame)
    (hcursor : ∀ event ∈ events, cursor < event.sequence) (hlimit : frames.length ≤ limit) :
    ∃ n, writePage libraries cursor limit frames events =
        .page (frames ++ (events.take n).map frame) (decide (n < events.length)) ∧
      frames.length + n ≤ limit ∧ (frames.length = 0 → 0 < limit → events ≠ [] → 0 < n) := by
  induction events generalizing frames with
  | nil => exact ⟨0, by simp [writePage], hlimit, fun _ _ hsome => (hsome rfl).elim⟩
  | cons event events ih =>
    obtain ⟨⟨-, hframe, hbytes⟩, hevents⟩ := List.forall_mem_cons.mp h
    obtain ⟨hevent, hrest⟩ := List.forall_mem_cons.mp hcursor
    rw [writePage, if_neg (by omega), hframe]
    dsimp only
    by_cases hcount : frames.length = limit
    · rw [if_pos hcount]
      exact ⟨0, by simp, hlimit, by omega⟩
    rw [if_neg hcount]
    by_cases hfull : maximumEventReplayPageBytes < pageBytes frames + (frame event).text.utf8ByteSize
    · -- a frame fits on a page of its own
      have hsome : frames.length ≠ 0 := by
        intro hnone
        rw [List.length_eq_zero_iff.mp hnone] at hfull
        simp only [pageBytes, List.map_nil, List.sum_nil, Nat.zero_add] at hfull
        omega
      rw [if_pos hfull, if_neg hsome]
      exact ⟨0, by simp, hlimit, fun hnone => (hsome hnone).elim⟩
    · rw [if_neg hfull]
      obtain ⟨n, hpage, hle, -⟩ := ih (frames ++ [frame event]) hevents hrest (by simp; omega)
      refine ⟨n + 1, by simp [hpage], ?_, fun _ _ _ => n.succ_pos⟩
      rw [List.length_append, List.length_singleton] at hle
      omega

/-- It is enough to select one event more than a page can take. -/
lemma pages_of_selected (h : Frames libraries events frame) (hlimit : 0 < limit)
    (hserve : ∀ cursor, serve cursor = writeInvocationEventReplay libraries
      ((behind cursor events).take (limit + 1)) cursor limit) : Pages serve events frame limit := by
  intro cursor
  have hmem : ∀ event ∈ (behind cursor events).take (limit + 1),
      event ∈ events ∧ cursor < event.sequence := by
    intro event hevent
    simpa [after] using List.mem_of_mem_take hevent
  obtain ⟨n, hpage, hle, hsome⟩ := writePage_eq []
    (fun event hevent => h event (hmem event hevent).1) (fun event hevent => (hmem event hevent).2)
    (Nat.zero_le limit)
  rw [List.length_nil, Nat.zero_add] at hle
  refine ⟨n, hle, ?_, fun hne => hsome rfl hlimit (by simpa using hne)⟩
  rw [hserve, writeInvocationEventReplay, if_neg hlimit.ne', hpage, List.take_take,
    Nat.min_eq_left (by omega), List.length_take, List.nil_append]
  exact congrArg _ (decide_eq_decide.mpr (by omega))

/-- **Following the pages** leads through all events behind the cursor: a page that is not the last one
takes at least one event. -/
lemma Pages.follow_eq (hpages : Pages serve events frame limit)
    (hevents : Increasing InvocationEvent.sequence events) (h : Frames libraries events frame)
    {requests : ℕ} (hrequests : (behind cursor events).length < requests) :
    follow serve requests cursor = some ((behind cursor events).map frame) := by
  induction requests generalizing cursor with
  | zero => cases hrequests
  | succ requests ih =>
    obtain ⟨n, -, hpage, hsome⟩ := hpages cursor
    rw [follow, hpage]
    by_cases hmore : n < (behind cursor events).length
    · have hpos : 0 < n := hsome (List.ne_nil_of_length_pos (by omega))
      have hne : (behind cursor events).take n ≠ [] := by
        simpa [List.take_eq_nil_iff, hpos.ne'] using List.ne_nil_of_length_pos (Nat.zero_lt_of_lt hmore)
      obtain ⟨last, hlast⟩ := Option.isSome_iff_exists.mp (List.getLast?_isSome.mpr hne)
      have hmem := List.mem_of_mem_filter (List.mem_of_mem_take (List.mem_of_getLast? hlast))
      obtain ⟨_, -, hframe⟩ := Option.map_eq_some_iff.mp (h last hmem).2.1
      have hrest : behind last.sequence events = (behind cursor events).drop n :=
        after_last hevents hlast
      have hnext : follow serve requests last.sequence = _ := ih (by rw [hrest, List.length_drop]; omega)
      rw [decide_eq_true hmore]
      simp only [List.getLast?_map, hlast, Option.map_some, Option.bind_eq_bind, Option.bind_some]
      rw [← hframe, hnext, hrest, Option.bind_some, ← List.map_append, List.take_append_drop]
    · rw [decide_eq_false hmore, List.take_of_length_le (by omega)]

/-- **Replay.**  With every limit on pages both servers lead a client through the events of a journal,
each once and in order, within one request more than there are events; and every page says that there
is more exactly if some events are left. -/
theorem replay_enumerates (libraries : ReplayLibraries) (journal : EventJournal)
    (frame : InvocationEvent → Frame) (hframes : Frames libraries journal.events frame)
    (invocation : ResourceKey) (invocations : List ResourceKey) (hknown : invocation ∈ invocations)
    (rows : List InvocationEvent) (hrows : orderBy InvocationEvent.sequence
      (rows.filter fun row => row.invocation = invocation) = journal.events)
    (limit : ℕ) (hpos : 1 ≤ limit) (hle : limit ≤ maximumEventReplayPageRecords) :
    ∀ serve ∈ [Server.streamInvocationEvents libraries (some journal.events) limit,
        DurableServer.streamInvocationEvents libraries invocations rows invocation limit],
      Pages serve journal.events frame limit ∧
      follow serve (journal.events.length + 1) 0 = some (journal.events.map frame) := by
  have hselected : ∀ cursor, listEvents rows invocation cursor (limit + 1) =
      (behind cursor journal.events).take (limit + 1) := by
    intro cursor
    have hperm : journal.events.Perm (rows.filter fun row => row.invocation = invocation) :=
      hrows ▸ orderBy_perm _
    have hnodup := (hperm.map InvocationEvent.sequence).nodup_iff.mp
      (List.pairwise_map.mpr (journal.increasing.imp ne_of_lt))
    have hfilter := orderBy_filter hnodup fun row => decide (cursor < row.sequence)
    rw [hrows, List.filter_filter] at hfilter
    rw [listEvents, if_neg limit.succ_ne_zero, behind, after, ← hfilter]
    simp [Bool.and_comm]
  have hall : behind 0 journal.events = journal.events :=
    List.filter_eq_self.mpr fun event hevent => decide_eq_true (journal.positive event hevent)
  intro serve hserve
  have hpages : Pages serve journal.events frame limit := by
    refine pages_of_selected hframes hpos fun cursor => ?_
    rcases List.mem_pair.mp hserve with rfl | rfl
    · rw [Server.streamInvocationEvents, if_neg (by omega)]
    · have hdecodes : ∀ event ∈ (behind cursor journal.events).take (limit + 1),
          libraries.decodes event = true := fun event hevent =>
        (hframes event (List.mem_of_mem_filter (List.mem_of_mem_take hevent))).1
      rw [DurableServer.streamInvocationEvents, if_neg (by rw [maximumEventReplayPageRecords] at hle; omega),
        if_neg (show ¬limit = 0 by omega), hselected]
      dsimp only
      rw [if_neg (not_not.mpr hdecodes), if_neg fun h => h.2 hknown]
  refine ⟨hpages, ?_⟩
  rw [hpages.follow_eq journal.increasing hframes (by rw [hall]; omega), hall]

namespace Scenario

/-- A journal of three events. -/
def threeEvents : EventJournal where
  events := [1, 2, 3].map fun sequence =>
    ⟨⟨"iso", "inv"⟩, "evt", sequence, "output", 0, 0, "cor", "actor", "svc", "rev", .null, none⟩
  increasing := by simp [Increasing]
  positive := by simp

/-- An encoder that is easy to read. -/
def replayLibraries : ReplayLibraries :=
  ⟨fun _ => true, fun event => some event.id⟩

end Scenario

open Api.Scenario

/-- Three events, in any order in the table, on pages of two. -/
theorem replay_enumerates_three : follow
    (DurableServer.streamInvocationEvents replayLibraries [⟨"iso", "inv"⟩] threeEvents.events.reverse
      ⟨"iso", "inv"⟩ 2) 4 0 = some [⟨1, "output", "evt"⟩, ⟨2, "output", "evt"⟩, ⟨3, "output", "evt"⟩] :=
  (replay_enumerates replayLibraries threeEvents
    (fun event => ⟨event.sequence, event.eventType, event.id⟩)
    (by unfold Frames; decide +kernel) ⟨"iso", "inv"⟩ _ List.mem_cons_self _ (by decide +kernel) 2
    (by decide) (by decide) _ (List.mem_cons_of_mem _ List.mem_cons_self)).2

end DataGround.Api
