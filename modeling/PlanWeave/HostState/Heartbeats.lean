import Mathlib.Algebra.GroupWithZero.Nat
import PlanWeave.HostState.EventOutbox
import PlanWeave.Lib.Packing

namespace PlanWeave
open List Nat Table

/-- How heartbeats are written: the draws of `randomUUID()` have one length, and fewer leases take no more bytes. -/
structure HeartbeatFormat (limits : OutboxLimits) where
  randomUUID : Nat → String
  bytes : List LeaseIdentity → Option String → Nat
  bytes_event : ∀ draw leases readiness, limits.bytes ⟨randomUUID draw, .heartbeat leases readiness⟩ = bytes leases readiness
  bytes_fewer : ∀ fewer leases readiness, List.Sublist fewer leases → bytes fewer readiness ≤ bytes leases readiness

def heartbeatKey (index : Nat) : HostEventKey :=
  .other (if index = 0 then "host.heartbeat" else "host.heartbeat:" ++ index.repr)

theorem heartbeatKey_injective : Function.Injective heartbeatKey := by
  intro left right same
  have texts := HostEventKey.other.inj same
  have base (index : Nat) : "host.heartbeat" ≠ "host.heartbeat:" ++ index.repr := by
    intro equal
    have lists := congrArg String.toList equal
    simp at lists
  split at texts <;> split at texts
  · omega
  · exact absurd texts (base right)
  · exact absurd texts.symm (base left)
  · have digits := congrArg String.toList texts
    rw [String.toList_append, String.toList_append, append_cancel_left_eq, toList_repr, toList_repr] at digits
    rw [← ofDigitChars_ten_toDigits (n := left), digits, ofDigitChars_ten_toDigits]

namespace HeartbeatFormat
variable {limits : OutboxLimits} (format : HeartbeatFormat limits)

def create (readiness : Option String) (draw : Nat) (leases : List LeaseIdentity) (includeReadiness : Bool) : QueuedHostEvent :=
  ⟨format.randomUUID draw, .heartbeat leases (if includeReadiness then readiness else none)⟩

/-- The group of a heartbeat with one more lease, tried against the limits. -/
def enlarge (outbox : EventOutbox) (readiness : Option String) (draw : Nat) (leases : List LeaseIdentity) (lease : LeaseIdentity)
    (includeReadiness : Bool) : Except HostStateError Unit :=
  if leases.length = 128 then .error .outboundPayloadTooLarge
  else outbox.encode limits (format.create readiness draw (leases ++ [lease]) includeReadiness)

/-- The loop of `queueHeartbeat` with the heartbeats that are complete and the leases of the next one. -/
def split (outbox : EventOutbox) (readiness : Option String) (draw : Nat) (heartbeats : List QueuedHostEvent)
    (leases : List LeaseIdentity) : List LeaseIdentity → Except HostStateError (List QueuedHostEvent)
  | [] => .ok (heartbeats ++ [format.create readiness draw leases heartbeats.isEmpty])
  | lease :: activeLeases =>
    match format.enlarge outbox readiness draw leases lease heartbeats.isEmpty with
    | .ok () => split outbox readiness (draw + 1) heartbeats (leases ++ [lease]) activeLeases
    | .error .outboundPayloadTooLarge => do
      let heartbeats := heartbeats ++ [format.create readiness (draw + 1) leases heartbeats.isEmpty]
      outbox.encode limits (format.create readiness (draw + 2) [lease] false)
      split outbox readiness (draw + 3) heartbeats [lease] activeLeases
    | .error other => .error other

end HeartbeatFormat

namespace EventOutbox
variable (limits : OutboxLimits)

/-- `DELETE FROM agent_host_outbox WHERE event_key=?` -/
def deleteKey (outbox : EventOutbox) (eventKey : HostEventKey) : EventOutbox :=
  { outbox with rows := outbox.rows.delete (·.eventKey = eventKey) }

def replaceHeartbeat (outbox : EventOutbox) (eventKey : HostEventKey) (heartbeat : QueuedHostEvent) :
    Except HostStateError (EventOutbox × QueuedHostEvent) := do
  outbox.encode limits heartbeat
  match outbox.rows.find eventKey with
  | some existing =>
    if existing.acknowledged = false ∧ existing.event.sameEventPayload heartbeat = true then .ok (outbox, existing.event)
    else (outbox.deleteKey eventKey).queue limits eventKey heartbeat
  | none => outbox.queue limits eventKey heartbeat

def replaceHeartbeats (outbox : EventOutbox) (index : Nat) :
    List QueuedHostEvent → Except HostStateError (EventOutbox × List QueuedHostEvent)
  | [] => .ok (outbox, [])
  | heartbeat :: heartbeats => do
    let (outbox, queued) ← outbox.replaceHeartbeat limits (heartbeatKey index) heartbeat
    let (outbox, others) ← outbox.replaceHeartbeats (index + 1) heartbeats
    return (outbox, queued :: others)

variable {limits} {outbox next : EventOutbox} {eventKey : HostEventKey} {heartbeat : QueuedHostEvent} {index : Nat}
variable {heartbeats : List QueuedHostEvent} {leases : List LeaseIdentity} {readiness : Option String}

/-- The outbox holds an unacknowledged row under the key, in whose place a new one needs no room. -/
def waits (outbox : EventOutbox) (eventKey : HostEventKey) : Bool :=
  (outbox.rows.find eventKey).any (·.acknowledged = false)

def added (outbox : EventOutbox) (index : Nat) : Nat → Nat
  | 0 => 0
  | more + 1 => (if outbox.waits (heartbeatKey index) then 0 else 1) + outbox.added (index + 1) more

theorem deleteKey_count {existing : OutboxRow} (found : outbox.rows.find eventKey = some existing) :
    outbox.pendingCount = (outbox.deleteKey eventKey).pendingCount + if existing.acknowledged = false then 1 else 0 := by
  obtain ⟨member, rfl⟩ := find_eq_some.mp found
  apply Inserted.count
  refine ⟨fun other inside => (mem_delete.mp inside).2, fun other => ?_⟩
  constructor
  · intro present
    by_cases same : other.eventKey = existing.eventKey
    · exact .inr (eq_of_key present member same)
    · exact .inl (mem_delete.mpr ⟨present, same⟩)
  · rintro (inside | rfl)
    · exact (mem_delete.mp inside).1
    · exact member

theorem deleteKey_find : (outbox.deleteKey eventKey).rows.find eventKey = none := by
  rw [find_eq_none]
  intro row member
  exact (mem_delete.mp member).2

theorem deleteKey_find_of_ne {key : HostEventKey} (other : key ≠ eventKey) :
    (outbox.deleteKey eventKey).rows.find key = outbox.rows.find key := by
  ext row
  rw [find_eq_some, find_eq_some, deleteKey, mem_delete]
  constructor
  · rintro ⟨⟨member, _⟩, same⟩
    exact ⟨member, same⟩
  · rintro ⟨member, rfl⟩
    exact ⟨⟨member, other⟩, rfl⟩

structure Held (limits : OutboxLimits) (eventKey : HostEventKey) (payload : HostEventPayload Json) (outbox next : EventOutbox) : Prop where
  written : ∃ row, next.rows.find eventKey = some row ∧ row.acknowledged = false ∧ row.event.payload = payload
  kept : ∀ key ≠ eventKey, next.rows.find key = outbox.rows.find key
  budget : next.maxPayloadBytes = outbox.maxPayloadBytes
  count : next.pendingCount = outbox.pendingCount + if outbox.waits eventKey then 0 else 1
  room : outbox.pendingCount ≤ limits.maxPendingEvents → next.pendingCount ≤ limits.maxPendingEvents

theorem queue_fresh (fits : limits.bytes heartbeat ≤ outbox.maxPayloadBytes) (absent : outbox.rows.find eventKey = none) :
    match outbox.queue limits eventKey heartbeat with
    | .error _ => limits.maxPendingEvents ≤ outbox.pendingCount
    | .ok (next, _) => Held limits eventKey heartbeat.payload outbox next := by
  unfold queue encode
  rw [if_neg (not_lt.mpr fits), absent]
  by_cases full : limits.maxPendingEvents ≤ outbox.pendingCount
  · simp [Bind.bind, Except.bind, full]
  · simp only [Bind.bind, Except.bind, if_neg full]
    have count : ({ outbox with rows := outbox.rows.put ⟨eventKey, heartbeat, false⟩ } : EventOutbox).pendingCount =
        outbox.pendingCount + 1 := by
      rw [pendingCount, pendingCount, Table.count, put_fresh absent, countP_append]
      simp [Table.count]
    refine ⟨⟨_, find_put, rfl, rfl⟩, fun key other => find_put_of_ne other, rfl, ?_, fun _ => ?_⟩
    · simp [count, waits, absent]
    · omega

theorem replaceHeartbeat_spec (fits : limits.bytes heartbeat ≤ outbox.maxPayloadBytes)
    (text : heartbeat.payload = .heartbeat leases readiness) :
    match outbox.replaceHeartbeat limits eventKey heartbeat with
    | .error _ => limits.maxPendingEvents < outbox.pendingCount + if outbox.waits eventKey then 0 else 1
    | .ok (next, _) => Held limits eventKey (.heartbeat leases readiness) outbox next := by
  unfold replaceHeartbeat
  rw [encode, if_neg (not_lt.mpr fits)]
  cases found : outbox.rows.find eventKey with
  | none =>
    have fresh := queue_fresh fits found
    rw [text] at fresh
    simp only [Bind.bind, Except.bind]
    cases done : outbox.queue limits eventKey heartbeat with
    | error =>
      rw [done] at fresh
      simpa [waits, found] using Nat.lt_succ_of_le fresh
    | ok =>
      rw [done] at fresh
      exact fresh
  | some existing =>
    have counted := deleteKey_count found
    have waiting : outbox.waits eventKey = decide (existing.acknowledged = false) := by rw [waits, found]; rfl
    simp only [Bind.bind, Except.bind]
    by_cases unchanged : existing.acknowledged = false ∧ existing.event.sameEventPayload heartbeat = true
    · rw [if_pos unchanged]
      have equal := of_decide_eq_true unchanged.2
      rw [QueuedHostEvent.text, QueuedHostEvent.text, text] at equal
      refine ⟨⟨existing, found, unchanged.1, ?_⟩, fun _ _ => rfl, rfl, by simp [waiting, unchanged.1], id⟩
      cases payload : existing.event.payload with
      | heartbeat => rw [payload] at equal; cases equal; rfl
      | _ => rw [payload] at equal; cases equal
    · rw [if_neg unchanged]
      have fresh := @queue_fresh limits (outbox.deleteKey eventKey) eventKey heartbeat fits deleteKey_find
      rw [text] at fresh
      cases done : (outbox.deleteKey eventKey).queue limits eventKey heartbeat with
      | error =>
        rw [done] at fresh
        simp only [waiting, decide_eq_true_eq]
        split at counted <;> simp_all [Nat.lt_succ_iff]
      | ok =>
        rw [done] at fresh
        have absent : (outbox.deleteKey eventKey).waits eventKey = false := by rw [waits, deleteKey_find]; rfl
        have count := fresh.count
        rw [absent] at count
        refine ⟨fresh.written, fun key other => (fresh.kept key other).trans (deleteKey_find_of_ne other), fresh.budget,
          ?_, fun bounded => fresh.room ?_⟩
        · rw [count, waiting]
          split at counted <;> simp_all
        · omega

structure HeldFrom (index : Nat) (payloads : List (HostEventPayload Json)) (outbox next : EventOutbox) : Prop where
  written : ∀ i payload, payloads[i]? = some payload →
    ∃ row, next.rows.find (heartbeatKey (index + i)) = some row ∧ row.acknowledged = false ∧ row.event.payload = payload
  kept : ∀ key, (∀ i < payloads.length, key ≠ heartbeatKey (index + i)) → next.rows.find key = outbox.rows.find key

theorem Held.cons {middle : EventOutbox} {payload : HostEventPayload Json} {payloads : List (HostEventPayload Json)}
    (held : Held limits (heartbeatKey index) payload outbox middle) (later : HeldFrom (index + 1) payloads middle next) :
    HeldFrom index (payload :: payloads) outbox next := by
  constructor
  · intro i written member
    cases i with
    | zero =>
      cases member
      obtain ⟨row, found, rest⟩ := held.written
      refine ⟨row, ?_, rest⟩
      rw [add_zero, later.kept, found]
      intro i _ same
      have := heartbeatKey_injective same
      omega
    | succ i =>
      rw [← succ_add_eq_add_succ]
      exact later.written i written member
  · intro key apart
    rw [later.kept key, held.kept key]
    · exact apart 0 (succ_pos _)
    · intro i bound
      have other := apart (i + 1) (succ_lt_succ bound)
      rwa [← Nat.add_assoc, Nat.add_right_comm] at other

theorem added_congr {middle : EventOutbox} {count : Nat}
    (kept : ∀ i < count, middle.rows.find (heartbeatKey (index + i)) = outbox.rows.find (heartbeatKey (index + i))) :
    middle.added index count = outbox.added index count := by
  induction count generalizing index with
  | zero => rfl
  | succ count ih =>
    have rest := @ih (index + 1) fun i bound => by
      have same := kept (i + 1) (succ_lt_succ bound)
      rwa [← Nat.add_assoc, Nat.add_right_comm] at same
    have same : middle.rows.find (heartbeatKey index) = outbox.rows.find (heartbeatKey index) := kept 0 (succ_pos _)
    rw [added, added, rest, waits, waits, same]

theorem added_mono {few many : Nat} (fewer : few ≤ many) : outbox.added index few ≤ outbox.added index many := by
  induction few generalizing index many with
  | zero => exact Nat.zero_le _
  | succ few ih =>
    cases many with
    | zero => cases fewer
    | succ many => exact Nat.add_le_add_left (ih (Nat.le_of_succ_le_succ fewer)) _

theorem replaceHeartbeats_spec (sized : ∀ heartbeat ∈ heartbeats, limits.bytes heartbeat ≤ outbox.maxPayloadBytes ∧
      ∃ leases readiness, heartbeat.payload = .heartbeat leases readiness) :
    match outbox.replaceHeartbeats limits index heartbeats with
    | .error _ => limits.maxPendingEvents < outbox.pendingCount + outbox.added index heartbeats.length
    | .ok (next, _) => HeldFrom index (heartbeats.map (·.payload)) outbox next ∧
        (outbox.pendingCount ≤ limits.maxPendingEvents →
          outbox.pendingCount + outbox.added index heartbeats.length ≤ limits.maxPendingEvents) := by
  induction heartbeats generalizing index outbox with
  | nil => exact ⟨⟨fun _ _ member => (by cases member), fun _ _ => rfl⟩, id⟩
  | cons heartbeat heartbeats ih =>
    obtain ⟨fits, leases, readiness, text⟩ := sized heartbeat (by simp)
    have step := @replaceHeartbeat_spec limits outbox (heartbeatKey index) heartbeat leases readiness fits text
    unfold replaceHeartbeats
    cases done : outbox.replaceHeartbeat limits (heartbeatKey index) heartbeat with
    | error =>
      rw [done] at step
      dsimp only at step
      simp only [length_cons, added, Bind.bind, Except.bind]
      omega
    | ok result =>
      obtain ⟨middle, _⟩ := result
      rw [done] at step
      have later := @ih middle (index + 1) fun other member => by
        rw [step.budget]
        exact sized other (mem_cons_of_mem _ member)
      have same : middle.added (index + 1) heartbeats.length = outbox.added (index + 1) heartbeats.length := by
        apply added_congr
        intro i _
        apply step.kept
        intro equal
        have := heartbeatKey_injective equal
        omega
      have count := step.count
      rw [same, count] at later
      simp only [Bind.bind, Except.bind, length_cons, added, ← Nat.add_assoc]
      cases rest : middle.replaceHeartbeats limits (index + 1) heartbeats with
      | error =>
        rw [rest] at later
        exact later
      | ok =>
        rw [rest] at later
        rw [map_cons, text]
        refine ⟨step.cons later.1, fun bounded => later.2 ?_⟩
        rw [← count]
        exact step.room bounded

end EventOutbox

namespace HeartbeatFormat
variable {limits : OutboxLimits} (format : HeartbeatFormat limits)

def queueHeartbeat (outbox : EventOutbox) (activeLeases : List LeaseIdentity) (readiness : Option String) :
    Except HostStateError (EventOutbox × Option QueuedHostEvent) := do
  outbox.encode limits (format.create readiness 0 [] true)
  let heartbeats ← format.split outbox readiness 1 [] [] activeLeases
  let (outbox, queued) ← outbox.replaceHeartbeats limits 0 heartbeats
  return (outbox, queued.head?)

variable {format} {outbox next : EventOutbox} {readiness : Option String} {activeLeases leases : List LeaseIdentity}
variable {first : Bool} {draw : Nat} {lease : LeaseIdentity} {heartbeats : List QueuedHostEvent}

def within (format : HeartbeatFormat limits) (budget : Nat) (readiness : Option String) (first : Bool)
    (leases : List LeaseIdentity) : Bool :=
  leases.length ≤ 128 && format.bytes leases (if first then readiness else none) ≤ budget

theorem within_fewer (budget : Nat) (first : Bool) (fewer leases : List LeaseIdentity) (sublist : List.Sublist fewer leases)
    (fits : format.within budget readiness first leases = true) : format.within budget readiness first fewer = true := by
  simp only [within, Bool.and_eq_true, decide_eq_true_eq] at fits ⊢
  exact ⟨sublist.length_le.trans fits.1, (format.bytes_fewer _ _ _ sublist).trans fits.2⟩

theorem encode_create : outbox.encode limits (format.create readiness draw leases first) =
    if outbox.maxPayloadBytes < format.bytes leases (if first then readiness else none)
    then .error .outboundPayloadTooLarge else .ok () := by
  rw [EventOutbox.encode, create, format.bytes_event]

theorem enlarge_eq (fits : format.within outbox.maxPayloadBytes readiness first leases = true) :
    format.enlarge outbox readiness draw leases lease first =
      if format.within outbox.maxPayloadBytes readiness first (leases ++ [lease]) = true then .ok ()
      else .error .outboundPayloadTooLarge := by
  simp only [within, Bool.and_eq_true, decide_eq_true_eq, length_append, length_singleton] at fits ⊢
  rw [enlarge, encode_create]
  by_cases full : leases.length = 128
  · rw [if_pos full, if_neg]
    omega
  rw [if_neg full]
  by_cases large : outbox.maxPayloadBytes < format.bytes (leases ++ [lease]) (if first then readiness else none)
  · rw [if_pos large, if_neg]
    omega
  · rw [if_neg large, if_pos]
    omega

def payload (readiness : Option String) (index : Nat) (leases : List LeaseIdentity) :
    HostEventPayload Json :=
  .heartbeat leases (if index = 0 then readiness else none)

structure Carry (format : HeartbeatFormat limits) (budget : Nat) (readiness : Option String) (heartbeats : List QueuedHostEvent)
    (groups : List (List LeaseIdentity)) : Prop where
  payloads : heartbeats.map (·.payload) = groups.mapIdx (payload readiness)
  sized : ∀ heartbeat ∈ heartbeats, limits.bytes heartbeat ≤ budget

variable {budget : Nat} {groups : List (List LeaseIdentity)}

section
variable (carry : format.Carry budget readiness heartbeats groups)
include carry

theorem Carry.length : heartbeats.length = groups.length := by
  have lengths := congrArg List.length carry.payloads
  rwa [length_map, length_mapIdx] at lengths

theorem Carry.isEmpty : heartbeats.isEmpty = groups.isEmpty := by
  rw [Bool.eq_iff_iff, isEmpty_iff_length_eq_zero, isEmpty_iff_length_eq_zero, carry.length]

theorem Carry.snoc (fits : format.within budget readiness groups.isEmpty leases = true) :
    format.Carry budget readiness (heartbeats ++ [format.create readiness draw leases groups.isEmpty]) (groups ++ [leases]) := by
  constructor
  · rw [map_append, mapIdx_append, carry.payloads]
    cases groups <;> simp [create, payload]
  intro heartbeat member
  rcases mem_append.mp member with old | new
  · exact carry.sized heartbeat old
  · rw [mem_singleton.mp new, create, format.bytes_event]
    simp only [within, Bool.and_eq_true, decide_eq_true_eq] at fits
    exact fits.2
end

open Packing in
theorem split_spec (carry : format.Carry outbox.maxPayloadBytes readiness heartbeats groups)
    (fits : format.within outbox.maxPayloadBytes readiness groups.isEmpty leases = true)
    (alone : ∀ lease ∈ activeLeases, format.within outbox.maxPayloadBytes readiness false [lease] = true) :
    ∃ sent, format.split outbox readiness draw heartbeats leases activeLeases = .ok sent ∧
      format.Carry outbox.maxPayloadBytes readiness sent
        (groups ++ pack (format.within outbox.maxPayloadBytes readiness) groups.isEmpty leases activeLeases) := by
  induction activeLeases generalizing draw heartbeats groups leases with
  | nil =>
    rw [split, carry.isEmpty]
    exact ⟨_, rfl, carry.snoc fits⟩
  | cons lease _ ih =>
    have others := fun other member => alone other (mem_cons_of_mem lease member)
    rw [split, carry.isEmpty, enlarge_eq fits, pack]
    by_cases larger : format.within outbox.maxPayloadBytes readiness groups.isEmpty (leases ++ [lease]) = true
    · rw [if_pos larger, if_pos larger]
      exact ih carry larger others
    have single := alone lease (by simp)
    rw [if_neg larger, if_neg larger]
    have encoded : outbox.encode limits (format.create readiness (draw + 2) [lease] false) = .ok () := by
      simp only [within, Bool.and_eq_true, decide_eq_true_eq] at single
      rw [encode_create, if_neg]
      exact not_lt.mpr single.2
    have later : (groups ++ [leases]).isEmpty = false := by simp
    have pushed : format.Carry outbox.maxPayloadBytes readiness
        (heartbeats ++ [format.create readiness (draw + 1) leases groups.isEmpty]) (groups ++ [leases]) := carry.snoc fits
    have next := @ih [lease] (draw + 3) _ _ pushed (later.symm ▸ single) others
    rw [later, append_assoc, singleton_append] at next
    simp only [encoded]
    exact next

def Reports (outbox : EventOutbox) (lease : LeaseIdentity) : Prop :=
  ∃ row ∈ outbox.rows, row.acknowledged = false ∧
    ∃ leases readiness, row.event.payload = .heartbeat leases readiness ∧ lease ∈ leases

/-- Leases cut in order into groups of which each fits in its heartbeat. -/
structure Cut (format : HeartbeatFormat limits) (budget : Nat) (readiness : Option String) (activeLeases : List LeaseIdentity)
    (groups : List (List LeaseIdentity)) : Prop where
  nonempty : groups ≠ []
  packed : Packing.Packed (format.within budget readiness) true groups
  flat : groups.flatten = activeLeases

/-- Heartbeats within the budget can carry the leases, and the outbox has room for those that replace no pending one. -/
def HasRoom (format : HeartbeatFormat limits) (outbox : EventOutbox) (readiness : Option String)
    (activeLeases : List LeaseIdentity) : Prop :=
  ∃ groups, format.Cut outbox.maxPayloadBytes readiness activeLeases groups ∧
    outbox.pendingCount + outbox.added 0 groups.length ≤ limits.maxPendingEvents

/-- The heartbeats under the keys from the first one on carry the leases in order, in groups that fit. -/
def Delivers (format : HeartbeatFormat limits) (budget : Nat) (readiness : Option String) (activeLeases : List LeaseIdentity)
    (next : EventOutbox) : Prop :=
  ∃ groups, format.Cut budget readiness activeLeases groups ∧ ∀ index (bound : index < groups.length),
    ∃ row, next.rows.find (heartbeatKey index) = some row ∧ row.acknowledged = false ∧
      row.event.payload = payload readiness index groups[index]

/-- Unacknowledged heartbeats that name a lease outside the list are under keys that the list cannot do without. -/
def StaleReplaced (format : HeartbeatFormat limits) (outbox : EventOutbox) (readiness : Option String)
    (activeLeases : List LeaseIdentity) : Prop :=
  ∀ row ∈ outbox.rows, row.acknowledged = false → ∀ leases known, row.event.payload = .heartbeat leases known →
    (∃ lease ∈ leases, lease ∉ activeLeases) → ∃ index, row.eventKey = heartbeatKey index ∧
      ∀ groups, format.Cut outbox.maxPayloadBytes readiness activeLeases groups → index < groups.length

/-- The call returns, its heartbeats carry the leases, and the pending heartbeats name these leases and no others. -/
def QueuesExactly (format : HeartbeatFormat limits) (outbox : EventOutbox) (readiness : Option String)
    (activeLeases : List LeaseIdentity) : Prop :=
  ∃ next queued, format.queueHeartbeat outbox activeLeases readiness = .ok (next, queued) ∧
    format.Delivers outbox.maxPayloadBytes readiness activeLeases next ∧
      ∀ lease, Reports next lease ↔ lease ∈ activeLeases

section Reports
variable (cut : format.Cut outbox.maxPayloadBytes readiness activeLeases groups)
variable (held : EventOutbox.HeldFrom 0 (groups.mapIdx (payload readiness)) outbox next)
include held

theorem held_at {index : Nat} (bound : index < groups.length) : ∃ row, next.rows.find (heartbeatKey index) = some row ∧
    row.acknowledged = false ∧ row.event.payload = payload readiness index groups[index] := by
  have written := held.written index (payload readiness index groups[index]) (by simp [bound])
  rwa [zero_add] at written

theorem row_kept {row : OutboxRow} (apart : ∀ index < groups.length, row.eventKey ≠ heartbeatKey index) :
    row ∈ next.rows ↔ row ∈ outbox.rows := by
  have same := held.kept row.eventKey fun index bound => by
    rw [zero_add]
    exact apart index (by simpa using bound)
  constructor
  · intro member
    exact (find_eq_some.mp (same.symm.trans (find_of_mem member))).1
  · intro member
    exact (find_eq_some.mp (same.trans (find_of_mem member))).1

include cut

theorem reports_iff (fewest : ∀ others, format.Cut outbox.maxPayloadBytes readiness activeLeases others →
      groups.length ≤ others.length) :
    (∀ lease, Reports next lease ↔ lease ∈ activeLeases) ↔ format.StaleReplaced outbox readiness activeLeases := by
  constructor
  · rintro exactly row member pending leases known text ⟨lease, named, stale⟩
    by_contra unreplaced
    refine stale ((exactly lease).mp ⟨row, ?_, pending, leases, known, text, named⟩)
    apply (row_kept held fun index bound key => unreplaced ⟨index, key, ?_⟩).mpr member
    exact fun others another => bound.trans_le (fewest others another)
  · intro replaced lease
    constructor
    · rintro ⟨row, member, pending, leases, known, text, named⟩
      by_cases written : ∃ index < groups.length, row.eventKey = heartbeatKey index
      · obtain ⟨_, bound, key⟩ := written
        obtain ⟨other, found, _, carried⟩ := held_at held bound
        rw [← key, find_of_mem member] at found
        obtain rfl := Option.some.inj found
        cases text.symm.trans carried
        rw [← cut.flat]
        exact mem_flatten.mpr ⟨_, getElem_mem bound, named⟩
      · by_contra stale
        have old := (row_kept held fun index bound key => written ⟨index, bound, key⟩).mp member
        obtain ⟨index, key, needed⟩ := replaced row old pending leases known text ⟨lease, named, stale⟩
        exact written ⟨index, needed groups cut, key⟩
    · intro active
      rw [← cut.flat] at active
      obtain ⟨_, member, named⟩ := mem_flatten.mp active
      obtain ⟨_, bound, rfl⟩ := getElem_of_mem member
      obtain ⟨row, found, pending, carried⟩ := held_at held bound
      exact ⟨row, (find_eq_some.mp found).1, pending, _, _, carried, named⟩

end Reports

theorem Cut.empty_fits (cut : format.Cut outbox.maxPayloadBytes readiness activeLeases groups) :
    format.bytes [] readiness ≤ outbox.maxPayloadBytes := by
  obtain ⟨first, rest, rfl⟩ := exists_cons_of_ne_nil cut.nonempty
  have fits := cut.packed.1
  simp only [within, Bool.and_eq_true, decide_eq_true_eq] at fits
  exact (format.bytes_fewer [] first readiness (nil_sublist first)).trans fits.2

section Split
variable (fit : ∀ lease ∈ activeLeases, format.bytes [lease] none ≤ outbox.maxPayloadBytes)
include fit

/-- The split is a cut of the leases, and no other one needs fewer heartbeats. -/
theorem split_cut (empty : format.bytes [] readiness ≤ outbox.maxPayloadBytes) :
    ∃ sent groups, format.split outbox readiness 1 [] [] activeLeases = .ok sent ∧
      format.Carry outbox.maxPayloadBytes readiness sent groups ∧
      format.Cut outbox.maxPayloadBytes readiness activeLeases groups ∧
      ∀ others, format.Cut outbox.maxPayloadBytes readiness activeLeases others → groups.length ≤ others.length := by
  have alone : ∀ lease ∈ activeLeases, format.within outbox.maxPayloadBytes readiness false [lease] = true := by
    intro lease member
    simp only [within, Bool.and_eq_true, decide_eq_true_eq]
    exact ⟨by simp, fit lease member⟩
  have start : format.within outbox.maxPayloadBytes readiness true [] = true := by
    simp only [within, Bool.and_eq_true, decide_eq_true_eq]
    exact ⟨by simp, empty⟩
  have nothing : format.Carry outbox.maxPayloadBytes readiness [] [] := ⟨rfl, fun _ member => by cases member⟩
  obtain ⟨sent, split, carry⟩ := @split_spec limits format outbox readiness activeLeases [] 1 [] [] nothing start alone
  refine ⟨sent, _, split, carry, ⟨Packing.pack_ne_nil, Packing.packed_pack start alone, Packing.pack_flatten⟩, ?_⟩
  intro others another
  exact Packing.pack_fewest (within_fewer outbox.maxPayloadBytes) another.packed another.nonempty another.flat

/-- A heartbeat call over an outbox that holds no more than it may does what it is for exactly when it has room and leaves
no stale heartbeat behind. -/
theorem queueHeartbeat_exact (bounded : outbox.pendingCount ≤ limits.maxPendingEvents) :
    format.QueuesExactly outbox readiness activeLeases ↔
      format.HasRoom outbox readiness activeLeases ∧ format.StaleReplaced outbox readiness activeLeases := by
  unfold QueuesExactly queueHeartbeat
  rw [encode_create]
  by_cases large : outbox.maxPayloadBytes < format.bytes [] readiness
  · rw [if_pos (by simpa using large)]
    constructor
    · rintro ⟨_, _, done, _⟩
      cases done
    · rintro ⟨⟨_, cut, _⟩, _⟩
      exact absurd large (not_lt.mpr cut.empty_fits)
  rw [if_neg (by simpa using large)]
  obtain ⟨sent, groups, split, carry, cut, fewest⟩ := split_cut fit (not_lt.mp large)
  have rows := @EventOutbox.replaceHeartbeats_spec limits outbox 0 sent fun heartbeat member => by
    have written := mem_map_of_mem (f := (·.payload)) member
    rw [carry.payloads] at written
    obtain ⟨_, _, same⟩ := mem_mapIdx.mp written
    exact ⟨carry.sized heartbeat member, _, _, same.symm⟩
  simp only [Bind.bind, Except.bind, split]
  cases done : outbox.replaceHeartbeats limits 0 sent with
  | error =>
    rw [done, carry.length] at rows
    constructor
    · rintro ⟨_, _, failed, _⟩
      cases failed
    · rintro ⟨⟨others, another, room⟩, _⟩
      have more := @EventOutbox.added_mono outbox 0 _ _ (fewest others another)
      dsimp only at rows
      omega
  | ok result =>
    rw [done, carry.length, carry.payloads] at rows
    have reports := reports_iff cut rows.1 fewest
    constructor
    · rintro ⟨_, _, same, _, exactly⟩
      cases same
      exact ⟨⟨groups, cut, rows.2 bounded⟩, reports.mp exactly⟩
    · rintro ⟨_, replaced⟩
      exact ⟨result.1, _, rfl, ⟨groups, cut, fun index bound => held_at rows.1 bound⟩, reports.mpr replaced⟩

end Split
end HeartbeatFormat

section Sample

def leaseSize (lease : LeaseIdentity) : Nat :=
  lease.dispatchId.text.utf8ByteSize + lease.leaseId.text.utf8ByteSize + lease.executionAttemptId.text.utf8ByteSize + 55

/-- The length of a heartbeat's JSON: a message id of 36 characters, the leases with commas between them, and the readiness. -/
def heartbeatSize (leases : List LeaseIdentity) (readiness : Option String) : Nat :=
  (if leases = [] then 115 else 114) + (leases.map leaseSize).sum + (readiness.map fun json => json.utf8ByteSize + 13).getD 0

theorem heartbeatSize_fewer (fewer leases : List LeaseIdentity) (readiness : Option String)
    (sublist : List.Sublist fewer leases) : heartbeatSize fewer readiness ≤ heartbeatSize leases readiness := by
  unfold heartbeatSize
  have less : (fewer.map leaseSize).sum ≤ (leases.map leaseSize).sum := by
    induction sublist with
    | slnil => exact le_refl _
    | cons _ _ ih => exact ih.trans (le_add_left _ _)
    | cons_cons _ _ ih => exact Nat.add_le_add_left ih _
  cases leases with
  | nil => rw [sublist_nil.mp sublist]
  | cons =>
    cases fewer with
    | nil =>
      simp [leaseSize]
      omega
    | cons => simpa using less

def sampleLimits : OutboxLimits where
  maxPendingEvents := 8
  bytes event :=
    match event.payload with
    | .heartbeat leases readiness => heartbeatSize leases readiness
    | _ => 0

def sampleFormat : HeartbeatFormat sampleLimits where
  randomUUID draw := "00000000-0000-4000-8000-" ++ draw.repr
  bytes := heartbeatSize
  bytes_event _ _ _ := rfl
  bytes_fewer := heartbeatSize_fewer

def heldLease : LeaseIdentity := ⟨⟨"dispatch-1", by decide⟩, ⟨"lease-1", by decide⟩, ⟨"attempt-1", by decide⟩⟩

def lapsedLease : LeaseIdentity := ⟨⟨"dispatch-2", by decide⟩, ⟨"lease-2", by decide⟩, ⟨"attempt-2", by decide⟩⟩

def newLease : LeaseIdentity := ⟨⟨"dispatch-3", by decide⟩, ⟨"lease-3", by decide⟩, ⟨"attempt-3", by decide⟩⟩

def twoHeartbeats : EventOutbox where
  rows := (Table.empty.put ⟨heartbeatKey 0, sampleFormat.create none 3 [heldLease] true, false⟩).put
    ⟨heartbeatKey 1, sampleFormat.create none 5 [lapsedLease] false, false⟩
  maxPayloadBytes := 240

theorem twoHeartbeats_queued : sampleFormat.queueHeartbeat ⟨.empty, 240⟩ [heldLease, lapsedLease] none =
    .ok (twoHeartbeats, some (sampleFormat.create none 3 [heldLease] true)) := by rfl

/-- The heartbeat of the lapsed lease is replaced by the one of a new lease, for the two do not fit in one. -/
theorem queueHeartbeat_exact_new_lease : sampleFormat.QueuesExactly twoHeartbeats none [heldLease, newLease] := by
  have cut : sampleFormat.Cut 240 none [heldLease, newLease] [[heldLease], [newLease]] := by
    refine ⟨by simp, ⟨?_, ?_, trivial⟩, rfl⟩ <;> decide +kernel
  apply (@HeartbeatFormat.queueHeartbeat_exact _ sampleFormat twoHeartbeats none [heldLease, newLease] ?_ ?_).mpr
  · refine ⟨⟨_, cut, by decide +kernel⟩, ?_⟩
    rintro _ (_ | ⟨_, _ | ⟨_, none⟩⟩) _ leases known text ⟨lease, named, stale⟩
    · cases text
      rw [mem_singleton.mp named] at stale
      exact absurd mem_cons_self stale
    · refine ⟨1, rfl, fun groups another => ?_⟩
      have packed := another.packed
      have flat := another.flat
      match groups with
      | [] => cases flat
      | [group] =>
        obtain rfl : group = [heldLease, newLease] := by simpa using flat
        exact absurd packed.1 (by decide +kernel)
      | _ :: _ :: _ => simp
    · cases none
  · intro lease member
    rcases mem_pair.mp member with rfl | rfl <;> decide +kernel
  · decide +kernel

theorem lapsed_lease_reported : ∃ after first,
    sampleFormat.queueHeartbeat ⟨.empty, 240⟩ [heldLease, lapsedLease] none = .ok (twoHeartbeats, first) ∧
      sampleFormat.queueHeartbeat twoHeartbeats [heldLease] none = .ok (after, first) ∧
      HeartbeatFormat.Reports after lapsedLease :=
  ⟨twoHeartbeats, _, twoHeartbeats_queued, rfl, ⟨heartbeatKey 1, sampleFormat.create none 5 [lapsedLease] false, false⟩,
    .tail _ (.head _), rfl, [lapsedLease], none, rfl, .head _⟩

end Sample
end PlanWeave
