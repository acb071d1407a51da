import PlanWeave.Lib.Runs
import PlanWeave.Remote.RunnerEventLog

namespace PlanWeave
open List Option Table

structure RunnerEventCall where
  database : RemoteDatabase
  hostId : OpaqueId
  messageId : String
  batch : RemoteRunnerEventBatch

namespace RunnerEventCall

def executionAttemptId (call : RunnerEventCall) : OpaqueId := call.batch.lease.executionAttemptId

end RunnerEventCall

namespace RemoteAcpEventStore
variable {retention : RemoteAcpEventRetention} {store next : RemoteAcpEventStore} {call : RunnerEventCall}

open RemoteAcpEventStream (Retained Ready Extends UsageSucceeds)

def step (retention : RemoteAcpEventRetention) (store : RemoteAcpEventStore) (call : RunnerEventCall) :
    RemoteAcpEventStore :=
  (store.ingest retention call.database call.hostId call.messageId call.batch).1

def recording (retention : RemoteAcpEventRetention) (store : RemoteAcpEventStore) (call : RunnerEventCall) :
    Option (RemoteAcpEventStream × RemoteAcpEventStream) :=
  match store.receipts.find (call.messageId, call.hostId),
    store.openStream call.database call.hostId call.batch with
  | none, .ok (some start) => (start.applyBatch retention call.batch).toOption.map fun stream => (start, stream)
  | _, _ => none

variable {stream : RemoteAcpEventStream}

theorem recording_some {start : RemoteAcpEventStream}
    (recorded : store.recording retention call = some (start, stream)) :
    store.openStream call.database call.hostId call.batch = .ok (some start) ∧
      start.applyBatch retention call.batch = .ok stream := by
  unfold recording at recorded
  split at recorded
  · rename_i opened
    obtain ⟨_, applied, pair⟩ := map_eq_some_iff.mp recorded
    cases pair
    exact ⟨opened, Checked.toOption_eq_some.mp applied⟩
  · cases recorded

theorem ingest_of_process {result : RemoteAcpEventStore × Bool × Option RemoteAcpEventStream}
    (processed : store.process retention call.database call.hostId call.messageId call.batch = .ok result) :
    store.step retention call = result.1 := by
  obtain ⟨_, _, _⟩ := result
  unfold step ingest
  rw [processed]
  dsimp only
  split <;> rfl

theorem step_of_receipt {receipt : HostEventReceipt}
    (found : store.receipts.find (call.messageId, call.hostId) = some receipt) : store.step retention call = store := by
  cases processed : store.process retention call.database call.hostId call.messageId call.batch with
  | error => rw [step, ingest, processed]
  | ok =>
    rw [ingest_of_process processed]
    unfold process at processed
    rw [found] at processed
    dsimp only at processed
    split at processed <;> cases processed
    rfl

theorem step_streams (retention : RemoteAcpEventRetention) (store : RemoteAcpEventStore) (call : RunnerEventCall) :
    (store.step retention call).streams =
      ((store.recording retention call).map fun streams => store.streams.put streams.2).getD store.streams := by
  cases found : store.receipts.find (call.messageId, call.hostId) with
  | some => rw [step_of_receipt found, recording, found]; rfl
  | none =>
    unfold step ingest process writeBatch recording
    rw [found]
    cases opened : store.openStream call.database call.hostId call.batch with
    | error => rfl
    | ok start =>
      cases start with
      | none => rfl
      | some start =>
        cases applied : start.applyBatch retention call.batch with
        | error =>
          simp only [applied, Bind.bind, Except.bind, Except.map]
          rfl
        | ok =>
          simp only [applied, Bind.bind, Except.bind, Except.map]
          rfl

theorem openStream_cases {start : RemoteAcpEventStream}
    (opened : store.openStream call.database call.hostId call.batch = .ok (some start)) :
    (store.streams.find call.executionAttemptId = none ∧
        ∃ operationId, start = .opened operationId call.hostId call.batch) ∨
      ∃ stream, store.streams.find call.executionAttemptId = some stream ∧
        start = { stream with leaseId := call.batch.lease.leaseId } := by
  unfold openStream at opened
  split at opened
  · cases opened
  split at opened
  · rename_i operationId _ _ absent
    cases opened
    exact .inl ⟨absent, operationId, rfl⟩
  · rename_i stream present
    obtain ⟨_, identity, same⟩ := Checked.map_ok.mp opened
    cases same
    unfold RemoteAcpEventStream.checkIdentity at identity
    split at identity <;> cases identity
    exact .inr ⟨stream, present, rfl⟩

section Streams

def Kept (retention : RemoteAcpEventRetention) (store : RemoteAcpEventStore) : Prop :=
  ∀ stream ∈ store.streams, Retained retention stream

theorem Kept.empty (retention : RemoteAcpEventRetention) : Kept retention .empty :=
  fun _ member => absurd member not_mem_empty

theorem Kept.start (kept : Kept retention store) {start : RemoteAcpEventStream}
    (opened : store.openStream call.database call.hostId call.batch = .ok (some start)) :
    Ready retention start ∧ start.executionAttemptId = call.executionAttemptId ∧
      start.usage = (store.streams.find call.executionAttemptId).bind (·.usage) := by
  rcases openStream_cases opened with ⟨absent, _, rfl⟩ | ⟨stream, found, rfl⟩
  · rw [absent]
    exact ⟨RemoteAcpEventStream.opened_ready _ _ _, rfl, rfl⟩
  · obtain ⟨member, keyed⟩ := find_eq_some.mp found
    rw [found]
    exact ⟨(kept stream member).toReady.underLease _, keyed, rfl⟩

theorem Kept.recording (kept : Kept retention store) {start : RemoteAcpEventStream}
    (recorded : store.recording retention call = some (start, stream)) :
    Retained retention stream ∧ stream.executionAttemptId = call.executionAttemptId ∧
      ∀ before, store.streams.find call.executionAttemptId = some before → Extends before stream := by
  obtain ⟨opened, applied⟩ := recording_some recorded
  obtain ⟨ready, attempt, _⟩ := kept.start opened
  obtain ⟨retained, extends_start⟩ := ready.applyBatch applied
  refine ⟨retained, extends_start.attempt.trans attempt, fun before found => ?_⟩
  rcases openStream_cases opened with ⟨absent, _⟩ | ⟨_, present, rfl⟩
  · rw [absent] at found
    cases found
  · rw [present] at found
    cases found
    exact ⟨extends_start.attempt, extends_start.latest, extends_start.rows⟩

theorem Kept.step (kept : Kept retention store) (call : RunnerEventCall) : Kept retention (store.step retention call) := by
  intro stream member
  rw [step_streams] at member
  cases recorded : store.recording retention call with
  | none =>
    rw [recorded] at member
    exact kept stream member
  | some =>
    rw [recorded] at member
    rcases mem_put.mp member with ⟨old, _⟩ | rfl
    · exact kept stream old
    · exact (kept.recording recorded).1

def Extended (store later : RemoteAcpEventStore) : Prop :=
  ∀ executionAttemptId stream, store.streams.find executionAttemptId = some stream →
    ∃ other, later.streams.find executionAttemptId = some other ∧ Extends stream other

theorem Kept.extended_step (kept : Kept retention store) (call : RunnerEventCall) :
    Extended store (store.step retention call) := by
  intro executionAttemptId stream found
  rw [step_streams]
  cases recorded : store.recording retention call with
  | none => exact ⟨stream, found, .refl stream⟩
  | some streams =>
    obtain ⟨_, attempt, extended⟩ := kept.recording recorded
    by_cases same : executionAttemptId = call.executionAttemptId
    · subst same
      refine ⟨streams.2, ?_, extended stream found⟩
      rw [← attempt]
      exact find_put
    · refine ⟨stream, ?_, .refl stream⟩
      rw [← found]
      exact find_put_of_ne (attempt ▸ same)

theorem Kept.run (kept : Kept retention store) (calls : List RunnerEventCall) :
    Kept retention (Runs.run (RemoteAcpEventStore.step retention) calls store) ∧
      Extended store (Runs.run (RemoteAcpEventStore.step retention) calls store) := by
  induction calls generalizing store with
  | nil => exact ⟨kept, fun _ stream found => ⟨stream, found, .refl stream⟩⟩
  | cons call _ ih =>
    obtain ⟨last, extended⟩ := ih (kept.step call)
    refine ⟨last, fun executionAttemptId stream found => ?_⟩
    obtain ⟨middle, present, left⟩ := kept.extended_step call executionAttemptId stream found
    obtain ⟨other, final, right⟩ := extended executionAttemptId middle present
    exact ⟨other, final, left.trans right⟩

end Streams

section Usage

def keptUsages (retention : RemoteAcpEventRetention) (executionAttemptId : OpaqueId) (store : RemoteAcpEventStore)
    (call : RunnerEventCall) : List (Nat × EngineUsageSnapshot) :=
  match store.recording retention call with
  | none => []
  | some (start, _) =>
    if call.executionAttemptId = executionAttemptId then start.keptUsages retention call.batch.events else []

def usageHistory (retention : RemoteAcpEventRetention) (executionAttemptId : OpaqueId) :
    RemoteAcpEventStore → List RunnerEventCall → List (Nat × EngineUsageSnapshot)
  | _, [] => []
  | store, call :: rest =>
    store.keptUsages retention executionAttemptId call ++
      usageHistory retention executionAttemptId (store.step retention call) rest

def usage (store : RemoteAcpEventStore) (executionAttemptId : OpaqueId) : Option (Nat × EngineUsageSnapshot) :=
  (store.streams.find executionAttemptId).bind (·.usage)

theorem Kept.usage_step (kept : Kept retention store) (call : RunnerEventCall) (executionAttemptId : OpaqueId) :
    ((store.usage executionAttemptId).toList ++ store.keptUsages retention executionAttemptId call).IsChain
        UsageSucceeds ∧
      (store.step retention call).usage executionAttemptId =
        ((store.usage executionAttemptId).toList ++ store.keptUsages retention executionAttemptId call).getLast? := by
  have unchanged : ((store.usage executionAttemptId).toList ++ []).IsChain UsageSucceeds ∧
      store.usage executionAttemptId = ((store.usage executionAttemptId).toList ++ []).getLast? := by
    cases store.usage executionAttemptId <;> simp
  unfold keptUsages
  cases recorded : store.recording retention call with
  | none =>
    have same : (store.step retention call).usage executionAttemptId = store.usage executionAttemptId := by
      rw [usage, step_streams, recorded]
      rfl
    rw [same]
    exact unchanged
  | some streams =>
    obtain ⟨start, stream⟩ := streams
    obtain ⟨opened, applied⟩ := recording_some recorded
    obtain ⟨ready, _, usageBefore⟩ := kept.start opened
    have attempt := (kept.recording recorded).2.1
    have after : (store.step retention call).usage executionAttemptId =
        ((store.streams.put stream).find executionAttemptId).bind (·.usage) := by
      rw [usage, step_streams, recorded]
      rfl
    dsimp only
    split
    · rename_i same
      subst same
      rw [after, ← attempt, find_put, bind_some, attempt, usage, ← usageBefore]
      exact ready.keptUsages applied
    · rename_i other
      rw [after, find_put_of_ne (attempt ▸ Ne.symm other)]
      exact unchanged

theorem isChain_append_of_last {α : Type} {related : α → α → Prop} {left right : List α} (chain : left.IsChain related)
    (further : (left.getLast?.toList ++ right).IsChain related) :
    (left ++ right).IsChain related ∧ (left ++ right).getLast? = (left.getLast?.toList ++ right).getLast? := by
  cases last : left.getLast? with
  | none =>
    rw [last] at further
    rw [getLast?_eq_none_iff.mp last]
    exact ⟨further, rfl⟩
  | some =>
    rw [last] at further
    obtain ⟨_, tail, joined⟩ := isChain_append.mp further
    constructor
    · refine isChain_append.mpr ⟨chain, tail, fun a mem b head => ?_⟩
      rw [last] at mem
      exact joined a (by simpa using mem) b head
    · rw [getLast?_append, getLast?_append, last]
      simp

theorem Kept.usageHistory (kept : Kept retention store) (executionAttemptId : OpaqueId) (calls : List RunnerEventCall) :
    ((store.usage executionAttemptId).toList ++ store.usageHistory retention executionAttemptId calls).IsChain
        UsageSucceeds ∧
      (Runs.run (RemoteAcpEventStore.step retention) calls store).usage executionAttemptId =
        ((store.usage executionAttemptId).toList ++ store.usageHistory retention executionAttemptId calls).getLast? := by
  induction calls generalizing store with
  | nil =>
    change ((store.usage executionAttemptId).toList ++ []).IsChain UsageSucceeds ∧
      store.usage executionAttemptId = ((store.usage executionAttemptId).toList ++ []).getLast?
    cases store.usage executionAttemptId <;> simp
  | cons call _ ih =>
    obtain ⟨chain, last⟩ := kept.usage_step call executionAttemptId
    obtain ⟨further, final⟩ := ih (kept.step call)
    rw [last] at further final
    obtain ⟨whole, end_eq⟩ := isChain_append_of_last chain further
    rw [RemoteAcpEventStore.usageHistory, ← append_assoc]
    exact ⟨whole, final.trans end_eq.symm⟩

end Usage

section Resend

theorem Kept.step_again (kept : Kept retention store) (member : stream ∈ store.streams)
    (attempt : stream.executionAttemptId = call.executionAttemptId) (reached : call.batch.cursor ≤ stream.latestCursor) :
    (store.step retention call).streams = store.streams ∨
      (store.step retention call).streams = store.streams.put { stream with leaseId := call.batch.lease.leaseId } := by
  rw [step_streams]
  cases recorded : store.recording retention call with
  | none => exact .inl rfl
  | some streams =>
    obtain ⟨opened, applied⟩ := recording_some recorded
    have found : store.streams.find call.executionAttemptId = some stream := attempt ▸ find_of_mem member
    rcases openStream_cases opened with ⟨absent, _⟩ | ⟨_, present, start⟩
    · rw [absent] at found
      cases found
    rw [present] at found
    cases found
    have retained : Retained retention streams.1 := start ▸ (kept stream member).underLease call.batch.lease.leaseId
    have latest : streams.1.latestCursor = stream.latestCursor := by rw [start]
    have unchanged := retained.applyBatch_again (latest.symm ▸ reached) applied
    rw [map_some, getD_some, unchanged, start]
    exact .inr rfl

end Resend

def Accounted (retention : RemoteAcpEventRetention) (stream : RemoteAcpEventStream) : Prop :=
  CursorLog.Spans RemoteAcpEventRow.cursor stream.retainedFromCursor stream.events ∧
    stream.retainedFromCursor + stream.events.length = stream.latestCursor + 1 ∧ stream.events ≠ [] ∧
    stream.retainedCount = stream.events.length ∧
    stream.retainedBytes = (stream.events.map fun row => retention.encodedBytes row.event).sum ∧
    stream.retainedCount ≤ retention.maxEvents ∧ stream.retainedBytes ≤ retention.maxBytes

theorem accounted_of_retained (retained : Retained retention stream) : Accounted retention stream := by
  have sizes : stream.events.map (·.encodedBytes) = stream.events.map fun row => retention.encodedBytes row.event :=
    map_congr_left fun row member => (retained.sizes row member).1
  refine ⟨retained.spans, retained.latest, retained.nonempty, retained.counted, ?_, ?_, ?_⟩
  · rw [← sizes]
    exact retained.measured
  · exact retained.counted.trans_le retained.fits.1
  · exact retained.measured.trans_le retained.fits.2

/-- Batches in any order, under any leases, leave every stream accounted for, with rows that never change and usage
that follows on the usage before it; a batch that is sent again changes nothing; pages replay what is retained. -/
theorem runner_events_kept (retention : RemoteAcpEventRetention) (calls : List RunnerEventCall) :
    let store := Runs.run (step retention) calls .empty
    (∀ stream ∈ store.streams.rows, Accounted retention stream) ∧
    (∀ earlier later, calls = earlier ++ later → ∀ stream ∈ (Runs.run (step retention) earlier .empty).streams.rows,
      ∃ kept ∈ store.streams.rows, kept.executionAttemptId = stream.executionAttemptId ∧
        ∀ row ∈ stream.events, ∀ same ∈ kept.events, row.cursor = same.cursor → row = same) ∧
    (∀ executionAttemptId,
      (usageHistory retention executionAttemptId .empty calls).IsChain UsageSucceeds ∧
        store.usage executionAttemptId = (usageHistory retention executionAttemptId .empty calls).getLast?) ∧
    (∀ stream ∈ store.streams.rows, ∀ again : RunnerEventCall, again.executionAttemptId = stream.executionAttemptId →
      (∀ event ∈ again.batch.events, ∃ row ∈ stream.events, row.cursor = event.cursor) →
        (store.step retention again).streams = store.streams ∨
          (store.step retention again).streams = store.streams.put { stream with leaseId := again.batch.lease.leaseId }) ∧
    (∀ stream ∈ store.streams.rows, ∀ after ≤ stream.latestCursor, ∀ fuel > stream.latestCursor - after,
      ∃ pages, RemoteAcpEventStream.followPages (store.replay stream.executionAttemptId) fuel after = .ok pages ∧
        pages.flatMap (·.events) = (stream.events.filter fun row => after < row.cursor).map (·.event) ∧
        pages.getLast?.map (·.hasMore) = some false ∧
        ∀ page ∈ pages, page.retentionGap.isSome = true ↔ page.afterCursor + 1 < stream.retainedFromCursor) := by
  intro store
  obtain ⟨kept, _⟩ := (Kept.empty retention).run calls
  refine ⟨fun stream member => accounted_of_retained (kept stream member), ?_, fun executionAttemptId => ?_, ?_, ?_⟩
  · rintro earlier later rfl stream member
    obtain ⟨first, _⟩ := (Kept.empty retention).run earlier
    obtain ⟨other, found, extended⟩ := (first.run later).2 stream.executionAttemptId stream (find_of_mem member)
    have same : store = Runs.run (step retention) later (Runs.run (step retention) earlier .empty) :=
      Runs.run_append earlier later _
    rw [← same] at found
    obtain ⟨present, keyed⟩ := find_eq_some.mp found
    refine ⟨other, present, keyed, fun row inside other_row otherInside cursor => ?_⟩
    have retained := first stream member
    rcases extended.rows other_row otherInside with old | _
    · exact retained.spans.eq_of_cursor inside old cursor
    · have range := (retained.spans.mem_range inside).2
      have top := retained.latest
      unfold RemoteAcpEventStream.nextCursor at top
      omega
  · exact (Kept.empty retention).usageHistory executionAttemptId calls
  · intro stream member again attempt inside
    refine kept.step_again member attempt.symm ?_
    have last := again.batch.final
    have positive := again.batch.length_pos
    obtain ⟨event, present, cursor⟩ : ∃ event ∈ again.batch.events, event.cursor = again.batch.cursor :=
      again.batch.spans.exists_row (by omega) (by omega)
    obtain ⟨_, rowMember, _⟩ := inside event present
    have retained := kept stream member
    have range := (retained.spans.mem_range rowMember).2
    have top := retained.latest
    unfold RemoteAcpEventStream.nextCursor at top
    omega
  · intro stream member after known fuel enough
    have replays : store.replay stream.executionAttemptId = stream.replay := by
      funext cursor
      rw [replay, find_of_mem member]
    rw [replays]
    exact (kept stream member).followPages known enough

section Sample

def runnerAttempt : OpaqueId := ⟨"runner-attempt", by decide⟩
def runnerDispatch : OpaqueId := ⟨"runner-dispatch", by decide⟩
def runnerLease : OpaqueId := ⟨"runner-lease", by decide⟩
def runnerHost : OpaqueId := ⟨"runner-host", by decide⟩

def runnerOwnership : BlockOwnership := ⟨runnerHost, runnerHost, runnerHost, "T-001#B-001", runnerHost⟩

def runnerDatabase : RemoteDatabase where
  operations := .empty
  attempts := ⟨[⟨runnerAttempt, runnerDispatch, runnerDispatch, runnerOwnership, .running,
    some ⟨runnerHost, runnerLease, 1, 30000⟩, 3, none⟩], by decide⟩
  reservations := ⟨[⟨runnerLease, runnerAttempt, runnerHost, 1, .active, 30000, 0⟩], by decide⟩
  dispatches := ⟨[⟨runnerDispatch, runnerHost, runnerHost, "T-001#B-001", runnerHost, .running, runnerLease,
    runnerAttempt, 30000, none, none, none⟩], by decide⟩
  mailbox := .empty
  hosts := .empty

def runnerRetention : RemoteAcpEventRetention := ⟨100000, 33554432, fun _ => 200, by decide, by decide⟩

def usageEvent (cursor : Nat) (thoughtTokens : Option Nat) : RemoteRunnerEvent :=
  ⟨cursor, cursor, "2026-01-01T00:00:00Z", .usageSnapshot ⟨400, 200, 100, thoughtTokens, none, none⟩⟩

def firstUsage : RunnerEventCall :=
  ⟨runnerDatabase, runnerHost, "message-1", ⟨⟨runnerDispatch, runnerLease, runnerAttempt⟩, "session", 0, 1,
    [usageEvent 1 (some 100)], by decide, by decide, by decide, by decide⟩⟩

/-- Thought tokens are left out, and then reported as fewer than before. -/
def laterUsages : RunnerEventCall :=
  ⟨runnerDatabase, runnerHost, "message-2", ⟨⟨runnerDispatch, runnerLease, runnerAttempt⟩, "session", 1, 3,
    [usageEvent 2 none, usageEvent 3 (some 50)], by decide, by decide, by decide, by decide⟩⟩

/-- From one call to the next a field that both kept snapshots report can decrease: a snapshot between them leaves it
out. -/
theorem usage_decreases_over_a_call :
    ¬ ∀ (retention : RemoteAcpEventRetention) (calls : List RunnerEventCall) (call : RunnerEventCall)
        (executionAttemptId : OpaqueId),
      ∀ before ∈ (Runs.run (step retention) calls .empty).usage executionAttemptId,
      ∀ after ∈ (Runs.run (step retention) (calls ++ [call]) .empty).usage executionAttemptId,
        before.2.NeverDecreases after.2 := by
  intro monotone
  have first : (1, ⟨400, 200, 100, some 100, none, none⟩) ∈
      (Runs.run (step runnerRetention) [firstUsage] .empty).usage runnerAttempt := by decide +kernel
  have later : (3, ⟨400, 200, 100, some 50, none, none⟩) ∈
      (Runs.run (step runnerRetention) ([firstUsage] ++ [laterUsages]) .empty).usage runnerAttempt := by decide +kernel
  have kept := monotone runnerRetention [firstUsage] laterUsages runnerAttempt _ first _ later
  exact absurd kept (by decide)

end Sample
end RemoteAcpEventStore
end PlanWeave
