import PlanWeave.Remote.RunnerEvents

namespace PlanWeave
open Checked List Nat Option

namespace EngineUsageSnapshot

def NeverDecreases (prior next : EngineUsageSnapshot) : Prop :=
  ∀ key ∈ numericKeys, ∀ before ∈ key prior, ∀ after ∈ key next, before ≤ after

instance (prior next : EngineUsageSnapshot) : Decidable (NeverDecreases prior next) :=
  inferInstanceAs (Decidable (∀ key ∈ numericKeys, ∀ before ∈ key prior, ∀ after ∈ key next, before ≤ after))

theorem neverDecreases_of_not_regresses {usage prior : EngineUsageSnapshot} (kept : usage.regresses prior = false) :
    NeverDecreases prior usage := by
  intro key member before reported after following
  have compared := any_eq_false.mp kept key member
  rw [mem_def.mp reported, mem_def.mp following] at compared
  simpa using compared

end EngineUsageSnapshot

namespace RemoteAcpEventStream
variable {retention : RemoteAcpEventRetention} {stream next : RemoteAcpEventStream} {candidate : RemoteRunnerEvent}

section Record

def nextCursor (stream : RemoteAcpEventStream) : Nat := stream.retainedFromCursor + stream.events.length

def UsageSucceeds (prior kept : Nat × EngineUsageSnapshot) : Prop := prior.1 < kept.1 ∧ prior.2.NeverDecreases kept.2

instance (prior kept : Nat × EngineUsageSnapshot) : Decidable (UsageSucceeds prior kept) :=
  inferInstanceAs (Decidable (_ ∧ _))

def KeepsUsage (prior : Option (Nat × EngineUsageSnapshot)) (kept : Nat × EngineUsageSnapshot) : Prop :=
  ∀ before ∈ prior, UsageSucceeds before kept

theorem normalizeUsageSnapshot_eq (stream : RemoteAcpEventStream) (candidate : RemoteRunnerEvent) :
    ∃ usage event, stream.normalizeUsageSnapshot candidate = ({ stream with usage := usage }, event) ∧
      event.cursor = candidate.cursor ∧
        (usage = stream.usage ∨ event = candidate ∧ ∃ kept, usage = some kept ∧ KeepsUsage stream.usage kept) := by
  unfold normalizeUsageSnapshot
  split
  · rename_i usage _
    split
    · exact ⟨stream.usage, candidate.usageRegressed, rfl, rfl, .inl rfl⟩
    rename_i accepted
    refine ⟨some (candidate.sourceSequence, usage), candidate, rfl, rfl, .inr ⟨rfl, _, rfl, ?_⟩⟩
    intro before reported
    rw [mem_def.mp reported] at accepted
    simp only [any_some, Bool.or_eq_true, decide_eq_true_eq, not_or, not_le, Bool.not_eq_true] at accepted
    exact ⟨accepted.1, EngineUsageSnapshot.neverDecreases_of_not_regresses accepted.2⟩
  · exact ⟨stream.usage, candidate, rfl, rfl, .inl rfl⟩
  · exact ⟨stream.usage, candidate, rfl, rfl, .inl rfl⟩

theorem find_some {cursor : Nat} {row : RemoteAcpEventRow} (found : stream.find cursor = some row) :
    row ∈ stream.events ∧ row.cursor = cursor :=
  ⟨mem_of_find?_eq_some found, by simpa using find?_some found⟩

theorem recordEvent_cases (recorded : stream.recordEvent retention candidate = .ok next) :
    (next = stream ∧ ∃ row ∈ stream.events, row.cursor = candidate.cursor) ∨
      ∃ event usage, event.cursor = candidate.cursor ∧
        candidate.cursor = max (stream.latestCursor + 1) (stream.maxCursor + 1) ∧
        retention.encodedBytes event ≤ retention.maxBytes ∧
        (usage = stream.usage ∨ ∃ kept, usage = some kept ∧ KeepsUsage stream.usage kept) ∧
        next = { stream with usage := usage, events := stream.events ++ [⟨event, retention.encodedBytes event⟩] } := by
  unfold recordEvent at recorded
  split at recorded
  · rename_i exactly
    cases recorded
    obtain ⟨row, found, _⟩ := map_eq_some_iff.mp exactly
    exact .inl ⟨rfl, row, find_some found⟩
  rename_i different
  obtain ⟨usage, event, shape, cursor, kept⟩ := stream.normalizeUsageSnapshot_eq candidate
  rw [shape] at recorded
  dsimp only at recorded
  split at recorded
  · cases recorded
  have lookup : ({ stream with usage := usage } : RemoteAcpEventStream).find event.cursor =
      stream.find candidate.cursor := by rw [cursor]; rfl
  rw [lookup] at recorded
  split at recorded
  · rename_i existing found
    split at recorded
    · cases recorded
    rename_i same
    have equal : existing.event = event := not_not.mp same
    rcases kept with rfl | ⟨rfl, _⟩
    · cases recorded
      exact .inl ⟨rfl, existing, find_some found⟩
    · rw [found, map_some, equal] at different
      exact absurd rfl different
  · split at recorded
    · cases recorded
    split at recorded
    · cases recorded
    rename_i expected fits
    cases recorded
    refine .inr ⟨event, usage, cursor, ?_, not_lt.mp fits, kept.imp_right And.right, rfl⟩
    rw [← cursor]
    exact not_not.mp expected

end Record

section Batch
variable {events : List RemoteRunnerEvent}

structure Growing (retention : RemoteAcpEventRetention) (stream : RemoteAcpEventStream) : Prop where
  positive : 0 < stream.retainedFromCursor
  spans : CursorLog.Spans RemoteAcpEventRow.cursor stream.retainedFromCursor stream.events
  reached : stream.latestCursor < stream.nextCursor
  first : stream.events = [] → stream.nextCursor = stream.latestCursor + 1
  sizes : ∀ row ∈ stream.events,
    row.encodedBytes = retention.encodedBytes row.event ∧ row.encodedBytes ≤ retention.maxBytes

theorem Growing.expected (growing : Growing retention stream) :
    max (stream.latestCursor + 1) (stream.maxCursor + 1) = stream.nextCursor := by
  have reached := growing.reached
  by_cases empty : stream.events = []
  · have first := growing.first empty
    have none : stream.maxCursor = 0 := by simp [maxCursor, empty]
    omega
  · have last : stream.maxCursor = stream.retainedFromCursor + stream.events.length - 1 := by
      rw [maxCursor, growing.spans.max? empty, getD_some]
    have next : stream.nextCursor = stream.retainedFromCursor + stream.events.length := rfl
    omega

structure Grown (before after : RemoteAcpEventStream) : Prop where
  frame : after = { before with usage := after.usage, events := after.events }
  added : ∃ rows, after.events = before.events ++ rows ∧ ∀ row ∈ rows, before.latestCursor < row.cursor

theorem Grown.refl (stream : RemoteAcpEventStream) : Grown stream stream := ⟨rfl, [], by simp, by simp⟩

theorem Grown.trans {first second third : RemoteAcpEventStream} (left : Grown first second)
    (right : Grown second third) : Grown first third := by
  obtain ⟨leftRows, leftEvents, leftAbove⟩ := left.added
  obtain ⟨rightRows, rightEvents, rightAbove⟩ := right.added
  have latest : second.latestCursor = first.latestCursor := by rw [left.frame]
  refine ⟨?_, leftRows ++ rightRows, by rw [rightEvents, leftEvents, append_assoc], ?_⟩
  · rw [right.frame, left.frame]
  · intro row member
    rcases mem_append.mp member with member | member
    · exact leftAbove row member
    · exact latest ▸ rightAbove row member

section
variable (growing : Growing retention stream)
include growing

theorem Growing.recordEvent (recorded : stream.recordEvent retention candidate = .ok next) :
    Growing retention next ∧ Grown stream next ∧ next.nextCursor = max stream.nextCursor (candidate.cursor + 1) ∧
      (next.usage = stream.usage ∨ ∃ kept, next.usage = some kept ∧ KeepsUsage stream.usage kept) := by
  rcases recordEvent_cases recorded with ⟨rfl, row, member, cursor⟩ |
    ⟨event, usage, cursor, position, fits, kept, rfl⟩
  · have inside := (growing.spans.mem_range member).2
    refine ⟨growing, .refl _, ?_, .inl rfl⟩
    unfold nextCursor
    omega
  · have expected : event.cursor = stream.nextCursor := by rw [cursor, position, growing.expected]
    have reached := growing.reached
    refine ⟨⟨growing.positive, growing.spans.snoc expected, ?_, by simp, ?_⟩, ⟨rfl, [_], rfl, ?_⟩, ?_, kept⟩
    · unfold nextCursor at reached ⊢
      simp only [length_append]
      omega
    · intro row member
      rcases mem_append.mp member with member | member
      · exact growing.sizes row member
      · rw [mem_singleton.mp member]
        exact ⟨rfl, fits⟩
    · intro row member
      rw [mem_singleton.mp member]
      exact reached.trans_eq expected.symm
    · unfold nextCursor at expected ⊢
      simp only [length_append, length_singleton]
      omega

section
variable (recorded : events.foldlM (RemoteAcpEventStream.recordEvent retention) stream = .ok next)
include recorded

theorem Growing.recordEvents : Growing retention next ∧ Grown stream next := by
  induction events generalizing stream with
  | nil =>
    cases recorded
    exact ⟨growing, .refl _⟩
  | cons _ _ ih =>
    obtain ⟨_, first, tail⟩ := foldlM_cons_inv recorded
    obtain ⟨middleGrowing, middleGrown, _, _⟩ := growing.recordEvent first
    obtain ⟨nextGrowing, nextGrown⟩ := ih middleGrowing tail
    exact ⟨nextGrowing, middleGrown.trans nextGrown⟩

theorem Growing.recordEvents_nonempty (nonempty : events ≠ []) : next.events ≠ [] := by
  obtain ⟨_, _, rfl⟩ := exists_cons_of_ne_nil nonempty
  obtain ⟨middle, first, tail⟩ := foldlM_cons_inv recorded
  obtain ⟨middleGrowing, _, _, _⟩ := growing.recordEvent first
  obtain ⟨rows, shape, _⟩ := (middleGrowing.recordEvents tail).2.added
  have some : middle.events ≠ [] := by
    rcases recordEvent_cases first with ⟨rfl, _, member, _⟩ | ⟨_, _, _, _, _, _, rfl⟩
    · exact ne_nil_of_mem member
    · simp
  rw [shape]
  exact append_ne_nil_of_left_ne_nil some rows

theorem Growing.recordEvents_next {after : Nat}
    (spans : CursorLog.Spans RemoteRunnerEvent.cursor (after + 1) events) (nonempty : events ≠ []) :
    next.nextCursor = max stream.nextCursor (after + events.length + 1) := by
  induction events generalizing stream after with
  | nil => exact absurd rfl nonempty
  | cons _ rest ih =>
    obtain ⟨_, first, tail⟩ := foldlM_cons_inv recorded
    obtain ⟨middleGrowing, _, reached, _⟩ := growing.recordEvent first
    obtain ⟨cursor, spans⟩ := CursorLog.spans_cons.mp spans
    rw [cursor] at reached
    by_cases last : rest = []
    · subst last
      cases tail
      simpa using reached
    · have further := ih middleGrowing tail spans last
      rw [length_cons]
      omega
end
end
end Batch

section Retention

def Fits (retention : RemoteAcpEventRetention) (stream : RemoteAcpEventStream) : Prop :=
  stream.count ≤ retention.maxEvents ∧ stream.bytes ≤ retention.maxBytes

theorem dropSurplus_of_fits {rounds : Nat} (fits : Fits retention stream) :
    dropSurplus retention rounds stream = stream := by
  cases rounds with
  | zero => rfl
  | succ => exact if_pos fits

theorem dropSurplus_eq (retention : RemoteAcpEventRetention) (rounds : Nat) (stream : RemoteAcpEventStream) :
    ∃ dropped ≤ rounds, dropSurplus retention rounds stream =
      { stream with events := stream.events.drop dropped, droppedCount := stream.droppedCount + dropped } := by
  induction rounds generalizing stream with
  | zero => exact ⟨0, le_refl 0, rfl⟩
  | succ _ ih =>
    unfold dropSurplus
    split
    · exact ⟨0, zero_le _, rfl⟩
    · obtain ⟨dropped, bound, shape⟩ := ih stream.dropOldest
      refine ⟨dropped + 1, succ_le_succ bound, ?_⟩
      rw [shape, dropOldest]
      simp only [drop_tail, add_assoc, add_comm 1]

theorem dropSurplus_fits {rounds : Nat} (enough : stream.events.length ≤ rounds) :
    Fits retention (dropSurplus retention rounds stream) := by
  induction rounds generalizing stream with
  | zero =>
    have empty : stream.events = [] := length_eq_zero_iff.mp (le_zero.mp enough)
    simp [dropSurplus, Fits, count, bytes, empty]
  | succ _ ih =>
    unfold dropSurplus
    split
    · rename_i fits
      exact fits
    · apply ih
      simp only [dropOldest, length_tail]
      omega

theorem dropSurplus_nonempty (rounds : Nat) (nonempty : stream.events ≠ [])
    (sizes : ∀ row ∈ stream.events, row.encodedBytes ≤ retention.maxBytes) :
    (dropSurplus retention rounds stream).events ≠ [] := by
  induction rounds generalizing stream with
  | zero => exact nonempty
  | succ _ ih =>
    unfold dropSurplus
    split
    · exact nonempty
    rename_i surplus
    have more : stream.dropOldest.events ≠ [] := by
      intro single
      obtain ⟨row, rest, shape⟩ := exists_cons_of_ne_nil nonempty
      have none : rest = [] := by simpa [dropOldest, shape] using single
      have small := sizes row (by simp [shape])
      have one := retention.maxEvents_pos
      apply surplus
      simp only [count, bytes, shape, none, length_singleton, map_cons, map_nil, sum_singleton]
      exact ⟨one, small⟩
    refine ih more fun row member => sizes row ?_
    exact mem_of_mem_tail member

end Retention

section Apply
variable {batch : RemoteRunnerEventBatch} {later : RemoteAcpEventStream}

structure Ready (retention : RemoteAcpEventRetention) (stream : RemoteAcpEventStream) : Prop
    extends Growing retention stream where
  latest : stream.nextCursor = stream.latestCursor + 1

theorem opened_ready (operationId hostId : OpaqueId) (batch : RemoteRunnerEventBatch) :
    Ready retention (.opened operationId hostId batch) where
  positive := Nat.one_pos
  spans := .nil
  reached := Nat.one_pos
  first := fun _ => rfl
  sizes := by simp [opened]
  latest := rfl

structure Retained (retention : RemoteAcpEventRetention) (stream : RemoteAcpEventStream) : Prop
    extends Ready retention stream where
  nonempty : stream.events ≠ []
  counted : stream.retainedCount = stream.count
  measured : stream.retainedBytes = stream.bytes
  fits : Fits retention stream

theorem Ready.underLease (ready : Ready retention stream) (leaseId : OpaqueId) :
    Ready retention { stream with leaseId := leaseId } where
  positive := ready.positive
  spans := ready.spans
  reached := ready.reached
  first := ready.first
  sizes := ready.sizes
  latest := ready.latest

theorem Retained.underLease (retained : Retained retention stream) (leaseId : OpaqueId) :
    Retained retention { stream with leaseId := leaseId } where
  toReady := retained.toReady.underLease leaseId
  nonempty := retained.nonempty
  counted := retained.counted
  measured := retained.measured
  fits := retained.fits

structure Extends (stream later : RemoteAcpEventStream) : Prop where
  attempt : later.executionAttemptId = stream.executionAttemptId
  latest : stream.latestCursor ≤ later.latestCursor
  rows : ∀ row ∈ later.events, row ∈ stream.events ∨ stream.latestCursor < row.cursor

theorem Extends.refl (stream : RemoteAcpEventStream) : Extends stream stream := ⟨rfl, le_refl _, fun _ => .inl⟩

theorem Extends.trans {first second third : RemoteAcpEventStream} (left : Extends first second)
    (right : Extends second third) : Extends first third := by
  refine ⟨right.attempt.trans left.attempt, left.latest.trans right.latest, fun row member => ?_⟩
  rcases right.rows row member with old | new
  · exact left.rows row old
  · exact .inr (left.latest.trans_lt new)

theorem Growing.enforceRetention (growing : Growing retention stream) (some : stream.events ≠ []) :
    ∃ dropped, dropped < stream.events.length ∧
      RemoteAcpEventStream.enforceRetention retention stream = { stream with
        events := stream.events.drop dropped
        droppedCount := stream.droppedCount + dropped
        retainedFromCursor := stream.retainedFromCursor + dropped
        retainedCount := (stream.events.drop dropped).length
        retainedBytes := ((stream.events.drop dropped).map (·.encodedBytes)).sum } ∧
      Fits retention (RemoteAcpEventStream.enforceRetention retention stream) := by
  have fits : Fits retention (dropSurplus retention stream.events.length stream) := dropSurplus_fits (le_refl _)
  have left := dropSurplus_nonempty stream.events.length some fun row member =>
    (growing.sizes row member).2
  obtain ⟨dropped, _, shape⟩ := dropSurplus_eq retention stream.events.length stream
  rw [shape] at left fits
  have first : ((stream.events.drop dropped).map (·.cursor)).min? = Option.some (stream.retainedFromCursor + dropped) :=
    (growing.spans.drop dropped).min? left
  rw [Ne, drop_eq_nil_iff] at left
  refine ⟨dropped, Nat.lt_of_not_le left, ?_, ?_⟩
  · simp only [RemoteAcpEventStream.enforceRetention, shape, first, getD_some, count, bytes]
  · rw [RemoteAcpEventStream.enforceRetention, shape]
    exact fits

theorem Ready.applyBatch (ready : Ready retention stream) (applied : stream.applyBatch retention batch = .ok next) :
    Retained retention next ∧ Extends stream next := by
  obtain ⟨recorded, loop, result⟩ := bind_ok.mp applied
  obtain ⟨growing, grown⟩ := ready.toGrowing.recordEvents loop
  have reached := ready.toGrowing.recordEvents_next loop batch.spans batch.nonempty
  have some := ready.toGrowing.recordEvents_nonempty loop batch.nonempty
  have latest : recorded.latestCursor = stream.latestCursor := by rw [grown.frame]
  obtain ⟨dropped, _, shape, fits⟩ := growing.enforceRetention some
  have left : recorded.events.drop dropped ≠ [] := by
    rw [Ne, drop_eq_nil_iff]
    omega
  rw [shape] at result fits
  cases result
  have ends := ready.latest
  have final := batch.final
  have top : recorded.retainedFromCursor + dropped + (recorded.events.drop dropped).length =
      max recorded.latestCursor batch.cursor + 1 := by
    have next : recorded.nextCursor = recorded.retainedFromCursor + recorded.events.length := rfl
    rw [length_drop]
    omega
  constructor
  · exact {
      positive := Nat.add_pos_left growing.positive dropped
      spans := growing.spans.drop dropped
      reached := by
        unfold nextCursor
        dsimp only
        omega
      first := fun none => absurd none left
      sizes := fun row member => growing.sizes row (mem_of_mem_drop member)
      latest := top
      nonempty := left
      counted := rfl
      measured := rfl
      fits := fits }
  · obtain ⟨rows, added, above⟩ := grown.added
    refine ⟨by rw [grown.frame], latest ▸ le_max_left _ _, fun row member => ?_⟩
    have inside : row ∈ stream.events ++ rows := added ▸ mem_of_mem_drop member
    exact (mem_append.mp inside).imp_right (above row)

theorem Retained.enforceRetention (retained : Retained retention stream) :
    RemoteAcpEventStream.enforceRetention retention stream = stream := by
  have first : (stream.events.map (·.cursor)).min? = some stream.retainedFromCursor :=
    retained.spans.min? retained.nonempty
  unfold RemoteAcpEventStream.enforceRetention
  rw [dropSurplus_of_fits retained.fits]
  simp only [first, getD_some, ← retained.counted, ← retained.measured]

theorem Ready.recordEvents_again (ready : Ready retention stream) {events : List RemoteRunnerEvent}
    (inside : ∀ event ∈ events, event.cursor ≤ stream.latestCursor)
    (recorded : events.foldlM (recordEvent retention) stream = .ok next) : next = stream := by
  induction events with
  | nil => cases recorded; rfl
  | cons event _ ih =>
    obtain ⟨_, first, tail⟩ := foldlM_cons_inv recorded
    rcases recordEvent_cases first with ⟨rfl, _⟩ | ⟨_, _, _, _, _⟩
    · exact ih (fun other member => inside other (mem_cons_of_mem _ member)) tail
    · have low := inside event mem_cons_self
      omega

theorem Retained.applyBatch_again (retained : Retained retention stream) (inside : batch.cursor ≤ stream.latestCursor)
    (applied : stream.applyBatch retention batch = .ok next) : next = stream := by
  obtain ⟨_, loop, result⟩ := bind_ok.mp applied
  have known : ∀ event ∈ batch.events, event.cursor ≤ stream.latestCursor := by
    intro event member
    have range := (batch.spans.mem_range member).2
    have final := batch.final
    omega
  rw [retained.toReady.recordEvents_again known loop] at result
  cases result
  simp only [retained.enforceRetention, max_eq_left inside]

end Apply

section Usage

def keptUsages (retention : RemoteAcpEventRetention) :
    RemoteAcpEventStream → List RemoteRunnerEvent → List (Nat × EngineUsageSnapshot)
  | _, [] => []
  | stream, event :: rest =>
    match stream.recordEvent retention event with
    | .error _ => []
    | .ok next => (if next.usage = stream.usage then [] else next.usage.toList) ++ keptUsages retention next rest

theorem Growing.keptUsages (growing : Growing retention stream) {events : List RemoteRunnerEvent}
    (recorded : events.foldlM (RemoteAcpEventStream.recordEvent retention) stream = .ok next) :
    (stream.usage.toList ++ stream.keptUsages retention events).IsChain UsageSucceeds ∧
      next.usage = (stream.usage.toList ++ stream.keptUsages retention events).getLast? := by
  induction events generalizing stream with
  | nil =>
    cases recorded
    cases usage : next.usage <;> simp [RemoteAcpEventStream.keptUsages]
  | cons _ _ ih =>
    obtain ⟨_, first, tail⟩ := foldlM_cons_inv recorded
    obtain ⟨middleGrowing, _, _, kept⟩ := growing.recordEvent first
    obtain ⟨chain, last⟩ := ih middleGrowing tail
    simp only [RemoteAcpEventStream.keptUsages, first]
    rcases kept with same | ⟨kept, new, keeps⟩
    · rw [if_pos same, ← same, nil_append]
      exact ⟨chain, last⟩
    cases prior : stream.usage with
    | none =>
      rw [new] at chain last ⊢
      simpa using ⟨chain, last⟩
    | some before =>
      have succeeds := keeps before prior
      rw [new] at chain last ⊢
      have changed : some kept ≠ some before := by
        intro same
        cases same
        exact absurd succeeds.1 (lt_irrefl _)
      simp only [if_neg changed, toList_some, cons_append, nil_append] at chain last ⊢
      exact ⟨isChain_cons_cons.mpr ⟨succeeds, chain⟩, by rw [last, getLast?_cons_cons]⟩

theorem Ready.keptUsages (ready : Ready retention stream) {batch : RemoteRunnerEventBatch}
    (applied : stream.applyBatch retention batch = .ok next) :
    (stream.usage.toList ++ stream.keptUsages retention batch.events).IsChain UsageSucceeds ∧
      next.usage = (stream.usage.toList ++ stream.keptUsages retention batch.events).getLast? := by
  obtain ⟨_, loop, result⟩ := bind_ok.mp applied
  obtain ⟨_, _, shape, _⟩ := (ready.toGrowing.recordEvents loop).1.enforceRetention
    (ready.toGrowing.recordEvents_nonempty loop batch.nonempty)
  obtain ⟨chain, last⟩ := ready.toGrowing.keptUsages loop
  rw [shape] at result
  cases result
  exact ⟨chain, last⟩

end Usage

section Replay

def above (stream : RemoteAcpEventStream) (after : Nat) : List RemoteAcpEventRow :=
  stream.events.filter fun row => after < row.cursor

theorem Retained.above_eq (retained : Retained retention stream) (after : Nat) :
    stream.above after = stream.events.drop (after + 1 - stream.retainedFromCursor) :=
  retained.spans.filter_above after

theorem Retained.above_clamped (retained : Retained retention stream) (after : Nat) :
    stream.above (max after (stream.retainedFromCursor - 1)) = stream.above after := by
  rw [retained.above_eq, retained.above_eq]
  congr 1
  omega

theorem Retained.replay (retained : Retained retention stream) {after : Nat} (known : after ≤ stream.latestCursor) :
    ∃ page, stream.replay after = .ok page ∧ page.afterCursor = after ∧
      page.events = ((stream.above after).take acpEventBatchMaxCount).map (·.event) ∧
      (page.retentionGap.isSome = true ↔ after + 1 < stream.retainedFromCursor) ∧
      page.cursor = max after (stream.retainedFromCursor - 1) + min acpEventBatchMaxCount (stream.above after).length ∧
      (page.hasMore = true ↔ page.cursor < stream.latestCursor) := by
  have clamped := retained.above_clamped after
  have spans : CursorLog.Spans RemoteAcpEventRow.cursor (max after (stream.retainedFromCursor - 1) + 1)
      ((stream.above after).take acpEventBatchMaxCount) := by
    have from_first := (retained.spans.drop (after + 1 - stream.retainedFromCursor)).take acpEventBatchMaxCount
    rw [← retained.above_eq] at from_first
    have start : stream.retainedFromCursor + (after + 1 - stream.retainedFromCursor) =
        max after (stream.retainedFromCursor - 1) + 1 := by omega
    exact start ▸ from_first
  have last := spans.getLast?_getD
  rw [List.length_take] at last
  unfold RemoteAcpEventStream.replay
  rw [if_neg (not_lt.mpr known)]
  refine ⟨_, rfl, rfl, ?_, ?_, ?_, ?_⟩
  · rw [← clamped]
    rfl
  · dsimp only
    split
    · simp only [Option.isSome_some, true_iff]
      omega
    · simp only [Option.isSome_none, Bool.false_eq_true, false_iff]
      omega
  · rw [← last, ← clamped]
    simp only [List.getLast?_map, Option.map_map]
    rfl
  · simp only [decide_eq_true_eq]

def followPages (replay : Nat → Except RemoteAcpEventError RemoteAcpEventReplay) :
    Nat → Nat → Except RemoteAcpEventError (List RemoteAcpEventReplay)
  | 0, _ => .ok []
  | fuel + 1, after => do
    let page ← replay after
    if page.hasMore then
      let following ← followPages replay fuel page.cursor
      return page :: following
    else return [page]

theorem Retained.followPages (retained : Retained retention stream) {fuel after : Nat}
    (known : after ≤ stream.latestCursor) (enough : stream.latestCursor - after < fuel) :
    ∃ pages, RemoteAcpEventStream.followPages stream.replay fuel after = .ok pages ∧ (pages.flatMap (·.events)) = (stream.above after).map (·.event) ∧
      (pages.getLast?.map (·.hasMore)) = some false ∧
      ∀ page ∈ pages, page.retentionGap.isSome = true ↔ page.afterCursor + 1 < stream.retainedFromCursor := by
  induction fuel generalizing after with
  | zero => exact absurd enough (not_lt_zero _)
  | succ _ ih =>
    obtain ⟨page, replayed, afterCursor, events, gap, cursor, more⟩ := retained.replay known
    have length := congrArg List.length (retained.above_eq after)
    have top := retained.latest
    have next : stream.nextCursor = stream.retainedFromCursor + stream.events.length := rfl
    rw [length_drop] at length
    have counted : acpEventBatchMaxCount = 128 := rfl
    unfold RemoteAcpEventStream.followPages
    rw [replayed]
    cases continues : page.hasMore with
    | false =>
      have ended : ¬ page.cursor < stream.latestCursor := by
        rw [← more, continues]
        exact Bool.false_ne_true
      have whole : (stream.above after).take acpEventBatchMaxCount = stream.above after :=
        take_of_length_le (by omega)
      refine ⟨[page], by simp [continues, Bind.bind, Except.bind, pure, Except.pure], ?_, by simp [continues], ?_⟩
      · rw [flatMap_singleton, events, whole]
      · intro other member
        rw [mem_singleton.mp member, gap, afterCursor]
    | true =>
      have further := more.mp continues
      have reached : page.cursor ≤ stream.latestCursor := by omega
      obtain ⟨pages, rest, together, last, gaps⟩ := ih reached (by omega)
      have behind : stream.above page.cursor = (stream.above after).drop acpEventBatchMaxCount := by
        rw [retained.above_eq, retained.above_eq, drop_drop]
        congr 1
        omega
      refine ⟨page :: pages, by simp [continues, rest, Bind.bind, Except.bind, pure, Except.pure], ?_, ?_, ?_⟩
      · rw [flatMap_cons, together, behind, events, ← map_append, take_append_drop]
      · have some : pages ≠ [] := by
          rintro rfl
          cases last
        rw [getLast?_cons_of_ne_nil some, last]
      · intro other member
        rcases mem_cons.mp member with rfl | member
        · rw [gap, afterCursor]
        · exact gaps other member

end Replay
end RemoteAcpEventStream
end PlanWeave
