import PlanWeave.Access.MutationSteps
import PlanWeave.Lib.RecordedDigest
import PlanWeave.Lib.Runs

namespace PlanWeave.Access
open Checked List ServerDatabase

inductive AccessRequest where
  | compareAndSet (actor : ActorRef) (request : AccessMutationRequest)
  | grant (input : GrantInput)
  | revoke (input : RevokeInput)
deriving DecidableEq

namespace AccessRequest

def scope : AccessRequest → AccessScope
  | compareAndSet _ request => request.scope
  | grant input => input.scope
  | revoke input => input.scope

def expectedAclRevision : AccessRequest → Option Nat
  | compareAndSet _ request => some request.expectedAclRevision
  | grant _ => none
  | revoke input => some input.expectedAclRevision

end AccessRequest

inductive AccessOutcome where
  | answered (answer : AccessMutationResult)
  | returned (grant : MembershipGrant)
  | threw (reason : AccessError)
deriving DecidableEq

/-- How far a call is; an authorized grant has the canonical id of its person. -/
inductive AccessProgress where
  | asked
  | authorized (humanPrincipalId : String)
  | ended (outcome : AccessOutcome)
deriving DecidableEq

structure AccessCall where
  request : AccessRequest
  progress : AccessProgress
deriving DecidableEq

structure AccessServer where
  database : ServerDatabase
  calls : List AccessCall

inductive AccessEvent where
  | call (request : AccessRequest)
  | advance (index : Nat) (now : Timestamp)

section Step
variable (sha256 : Sha256) (engine : LatestFirst)

def endCall {α : Type} (wrap : α → AccessOutcome) (action : ServerDatabase → Except AccessError (α × ServerDatabase))
    (db : ServerDatabase) : AccessProgress × ServerDatabase :=
  match inWriteTransaction action db with
  | (.ok value, changed) => (.ended (wrap value), changed)
  | (.error reason, unchanged) => (.ended (.threw reason), unchanged)

def advanceCall (call : AccessCall) (now : Timestamp) (db : ServerDatabase) : AccessProgress × ServerDatabase :=
  match call.request, call.progress with
  | .compareAndSet actor request, .asked =>
    match db.compareAndSetAllowed engine actor request with
    | .ok _ => (.authorized actor.id, db)
    | .error answer => (.ended (.answered answer), db)
  | .compareAndSet actor request, .authorized _ =>
    endCall .answered (fun db => db.compareAndSetTransaction sha256 actor request now) db
  | .grant input, .asked =>
    match db.grantAllowed engine input with
    | .ok humanPrincipalId => (.authorized humanPrincipalId, db)
    | .error reason => (.ended (.threw reason), db)
  | .grant input, .authorized humanPrincipalId =>
    endCall .returned (fun db => db.grantTransaction sha256 input humanPrincipalId now) db
  | .revoke input, .asked => endCall .returned (fun db => db.revokeTransaction engine input now) db
  | _, progress => (progress, db)

namespace AccessServer

def start (db : ServerDatabase) : AccessServer := ⟨db, []⟩

def step (server : AccessServer) : AccessEvent → AccessServer
  | .call request => { server with calls := server.calls ++ [⟨request, .asked⟩] }
  | .advance index now =>
    match server.calls[index]? with
    | none => server
    | some call =>
      let next := advanceCall sha256 engine call now server.database
      ⟨next.2, server.calls.set index { call with progress := next.1 }⟩

def Blocked (server : AccessServer) (event : AccessEvent) : Prop :=
  ∃ (index : Nat) (now : Timestamp) (actor : ActorRef) (request : AccessMutationRequest) (id : String),
    event = .advance index now ∧
    server.calls[index]? = some ⟨.compareAndSet actor request, .authorized id⟩ ∧
    server.database.currentAclRevision request.scope = request.expectedAclRevision ∧
    server.database.GrantBlocked sha256 request

def AllAnswered (server : AccessServer) : Prop :=
  ∀ (index : Nat) actor request reason, server.calls[index]? ≠ some ⟨.compareAndSet actor request, .ended (.threw reason)⟩

def Writes (server : AccessServer) (event : AccessEvent) (scope : AccessScope) (expected : Nat) : Prop :=
  ∃ (index : Nat) (now : Timestamp) (call : AccessCall), event = .advance index now ∧ server.calls[index]? = some call ∧ call.request.scope = scope ∧
    call.request.expectedAclRevision = some expected ∧ (server.step sha256 engine event).database ≠ server.database

end AccessServer
end Step

def StepLaw (request : AccessRequest) (db : ServerDatabase) (progress : AccessProgress) (db' : ServerDatabase) : Prop :=
  match progress with
  | .asked | .authorized _ | .ended (.threw _) | .ended (.answered (.conflict _)) | .ended (.answered (.denied _ _)) => db' = db
  | .ended (.answered (.applied aclRevision _)) => ∃ entry, Applied request.scope entry db db' ∧
      aclRevision = entry.aclRevision + 1 ∧ request.expectedAclRevision = some entry.aclRevision
  | .ended (.returned _) => (db' = db ∧ request.expectedAclRevision ≠ none) ∨ ∃ entry, Applied request.scope entry db db' ∧
      ∀ expected ∈ request.expectedAclRevision, expected = entry.aclRevision

variable {request : AccessMutationRequest}

namespace ServerDatabase
variable {engine : LatestFirst} {db : ServerDatabase} {scope : AccessScope} {actor : ActorRef}
variable {view : EffectiveAccessView}

theorem evaluate_live {session : AccessSessionState}
    (evaluated : db.evaluate engine scope actor session = .ok view) : db.Live scope := by
  obtain ⟨project, projectFound, evaluated⟩ := bind_ok.mp evaluated
  obtain ⟨_, canvasFound, _⟩ := bind_ok.mp evaluated
  obtain ⟨present, unrevoked⟩ := scopeProject_ok.mp projectFound
  have project_live : db.scopeRevokedAt scope.project = some none := by
    simp only [scopeRevokedAt, entry, AccessScope.project] at present ⊢
    rw [present]
    simp [InternalProjectRecord.entry, unrevoked]
  refine ⟨?_, project_live⟩
  rcases scopeCanvas_ok.mp canvasFound with ⟨kind, _⟩ | ⟨_, kind, _, here, active⟩
  · have same : scope.project = scope := by
      cases scope
      cases kind
      rfl
    rw [← same]
    exact project_live
  · obtain ⟨_, kind⟩ := Option.ne_none_iff_exists'.mp kind
    simp [scopeRevokedAt, entry, kind, here, InternalCanvasRecord.entry, active]

theorem assertCapability_live {capability : AccessCapability}
    (allowed : db.assertCapability engine scope actor capability false = .ok view) : db.Live scope := by
  unfold assertCapability at allowed
  split at allowed
  · obtain ⟨_, refused, _⟩ := bind_ok.mp allowed
    simp at refused
  · obtain ⟨_, evaluated, _⟩ := bind_ok.mp allowed
    exact evaluate_live evaluated

theorem compareAndSetAllowed_live {done : Unit}
    (allowed : db.compareAndSetAllowed engine actor request = .ok done) : db.Live request.scope := by
  unfold compareAndSetAllowed at allowed
  split at allowed
  · rename_i view asserted
    exact assertCapability_live asserted
  · cases allowed

theorem compareAndSetAllowed_error {answer : AccessMutationResult}
    (refused : db.compareAndSetAllowed engine actor request = .error answer) :
    ∃ reason revision, answer = .denied reason revision := by
  unfold compareAndSetAllowed at refused
  split at refused
  · cases refused
  · cases refused
    exact ⟨_, _, rfl⟩

end ServerDatabase

section Calls
variable {sha256 : Sha256} {engine : LatestFirst} {call : AccessCall} {now : Timestamp} {db : ServerDatabase}

theorem endCall_law {α : Type} {wrap : α → AccessOutcome} {action : ServerDatabase → Except AccessError (α × ServerDatabase)}
    {request : AccessRequest}
    (returns : ∀ value db', action db = .ok (value, db') → StepLaw request db (.ended (wrap value)) db') :
    StepLaw request db (endCall wrap action db).1 (endCall wrap action db).2 := by
  unfold endCall inWriteTransaction
  cases result : action db with
  | error => rfl
  | ok pair => exact returns pair.1 pair.2 result

theorem advanceCall_law (sha256 : Sha256) (engine : LatestFirst) (now : Timestamp) (db : ServerDatabase) (unfinished : ∀ outcome, call.progress ≠ .ended outcome) :
    StepLaw call.request db (advanceCall sha256 engine call now db).1 (advanceCall sha256 engine call now db).2 := by
  obtain ⟨request, progress⟩ := call
  cases progress with
  | ended outcome => exact absurd rfl (unfinished outcome)
  | asked =>
    cases request with
    | compareAndSet =>
      simp only [advanceCall]
      split
      · rfl
      · rename_i answer refused
        obtain ⟨_, _, rfl⟩ := ServerDatabase.compareAndSetAllowed_error refused
        rfl
    | grant =>
      simp only [advanceCall]
      split <;> rfl
    | revoke =>
      apply endCall_law
      intro grant db' done
      rcases revokeTransaction_ok done with same | ⟨_, write⟩
      · exact .inl ⟨same, Option.some_ne_none _⟩
      · obtain ⟨entry, applied, expected⟩ := write.applied
        refine .inr ⟨entry, applied, fun revision chosen => ?_⟩
        cases chosen
        exact expected.symm
  | authorized =>
    cases request with
    | compareAndSet =>
      apply endCall_law
      intro answer db' done
      obtain ⟨answered, expected⟩ := compareAndSetTransaction_ok done
      cases answer with
      | applied =>
        obtain ⟨_, write, raised⟩ := answered
        obtain ⟨entry, applied, rfl⟩ := write.applied
        have current := currentAclRevision_of_entry applied.found
        exact ⟨entry, applied, raised, congrArg some ((expected applied.changes).symm.trans current)⟩
      | conflict => exact answered
      | denied => exact answered
    | grant =>
      apply endCall_law
      intro grant db' done
      obtain ⟨_, _, write⟩ := grantTransaction_ok done
      obtain ⟨entry, applied, _⟩ := write.applied
      exact .inr ⟨entry, applied, fun _ chosen => by cases chosen⟩
    | revoke => rfl

theorem StepLaw.change {request : AccessRequest} {progress : AccessProgress} {db' : ServerDatabase}
    (law : StepLaw request db progress db') : db' = db ∨ ∃ entry, Applied request.scope entry db db' ∧
      ∀ expected ∈ request.expectedAclRevision, expected = entry.aclRevision := by
  unfold StepLaw at law
  split at law
  · exact .inl law
  · exact .inl law
  · exact .inl law
  · exact .inl law
  · exact .inl law
  · obtain ⟨entry, applied, _, expected⟩ := law
    refine .inr ⟨entry, applied, fun revision chosen => ?_⟩
    rw [expected] at chosen
    cases chosen
    rfl
  · rcases law with ⟨same, _⟩ | changed
    · exact .inl same
    · exact .inr changed

theorem advanceCall_ended {outcome : AccessOutcome} (ended : call.progress = .ended outcome) :
    advanceCall sha256 engine call now db = (.ended outcome, db) := by
  obtain ⟨request, _⟩ := call
  cases ended
  cases request <;> rfl

theorem advanceCall_change (sha256 : Sha256) (engine : LatestFirst) (call : AccessCall) (now : Timestamp)
    (db : ServerDatabase) : (advanceCall sha256 engine call now db).2 = db ∨
    ∃ entry, Applied call.request.scope entry db (advanceCall sha256 engine call now db).2 ∧
      ∀ expected ∈ call.request.expectedAclRevision, expected = entry.aclRevision := by
  by_cases finished : ∃ outcome, call.progress = .ended outcome
  · obtain ⟨_, ended⟩ := finished
    rw [advanceCall_ended ended]
    exact .inl rfl
  · exact (advanceCall_law sha256 engine now db fun outcome ended => finished ⟨outcome, ended⟩).change

end Calls

namespace AccessServer
variable {sha256 : Sha256} {engine : LatestFirst} {server : AccessServer} {event : AccessEvent}

structure Ordered (server : AccessServer) : Prop where
  linear : server.database.Linear
  acyclic : server.database.Acyclic
  live : ∀ (index : Nat) actor request id, server.calls[index]? = some ⟨.compareAndSet actor request, .authorized id⟩ →
    server.database.Live request.scope

variable {db : ServerDatabase} {call : AccessCall} {now : Timestamp} {actor : ActorRef} {expected : Nat}

theorem start_ordered (linear : db.Linear) (acyclic : db.Acyclic) : (start db).Ordered where
  linear := linear
  acyclic := acyclic
  live index actor request id found := by cases found

theorem step_change (sha256 : Sha256) (engine : LatestFirst) (server : AccessServer) (event : AccessEvent) :
    (server.step sha256 engine event).database = server.database ∨
      ∃ scope entry, Applied scope entry server.database (server.step sha256 engine event).database := by
  cases event with
  | call => exact .inl rfl
  | advance index now =>
    cases found : server.calls[index]? with
    | none => exact .inl (by simp only [step, found])
    | some call =>
      simp only [step, found]
      rcases advanceCall_change sha256 engine call now server.database with same | ⟨entry, applied, _⟩
      · exact .inl same
      · exact .inr ⟨_, entry, applied⟩

theorem live_after {scope : AccessScope} (live : server.database.Live scope) :
    (server.step sha256 engine event).database.Live scope := by
  rcases step_change sha256 engine server event with same | ⟨_, _, applied⟩
  · rw [same]
    exact live
  · unfold ServerDatabase.Live
    rw [applied.scopeRevokedAt, applied.scopeRevokedAt]
    exact live

theorem advanceCall_authorized
    {id : String} (asked : call.request = .compareAndSet actor request)
    (authorized : (advanceCall sha256 engine call now db).1 = .authorized id) : db.Live request.scope := by
  obtain ⟨_, progress⟩ := call
  cases asked
  cases progress with
  | asked =>
    simp only [advanceCall] at authorized
    split at authorized
    · rename_i done allowed
      exact ServerDatabase.compareAndSetAllowed_live allowed
    · cases authorized
  | authorized =>
    simp only [advanceCall, endCall, inWriteTransaction] at authorized
    cases result : db.compareAndSetTransaction sha256 actor request now <;> simp [result] at authorized
  | ended => cases authorized

theorem calls_advance {index other : Nat} (found : server.calls[index]? = some call) :
    (server.step sha256 engine (.advance index now)).calls[other]? = if index = other
      then some { call with progress := (advanceCall sha256 engine call now server.database).1 } else server.calls[other]? := by
  have inside : index < server.calls.length := (List.getElem?_eq_some_iff.mp found).1
  simp only [step, found, List.getElem?_set, inside, if_true]

theorem Ordered.step (sha256 : Sha256) (engine : LatestFirst) (event : AccessEvent) (ordered : server.Ordered) :
    (server.step sha256 engine event).Ordered := by
  constructor
  · rcases step_change sha256 engine server event with same | ⟨_, _, applied⟩
    · rw [same]
      exact ordered.linear
    · exact ordered.linear.applied applied
  · rcases step_change sha256 engine server event with same | ⟨_, _, applied⟩
    · rw [same]
      exact ordered.acyclic
    · exact applied.same.acyclic ordered.acyclic
  · intro index actor request id found
    apply live_after
    cases event with
    | call =>
      simp only [AccessServer.step, getElem?_append] at found
      split at found
      · exact ordered.live index actor request id found
      · rw [getElem?_singleton] at found
        split at found <;> cases found
    | advance moved =>
      cases present : server.calls[moved]? with
      | none =>
        simp only [AccessServer.step, present] at found
        exact ordered.live index actor request id found
      | some =>
        rw [calls_advance present] at found
        split at found
        · rw [Option.some.injEq, AccessCall.mk.injEq] at found
          exact advanceCall_authorized found.1 found.2
        · exact ordered.live index actor request id found

theorem advanceCall_threw (sha256 : Sha256) (engine : LatestFirst) (now : Timestamp)
    (asked : call.request = .compareAndSet actor request)
    (unfinished : ∀ outcome, call.progress ≠ .ended outcome) (acyclic : db.Acyclic)
    (live : ∀ id, call.progress = .authorized id → db.Live request.scope) :
    (∃ reason, (advanceCall sha256 engine call now db).1 = .ended (.threw reason)) ↔
      (∃ id, call.progress = .authorized id) ∧ db.currentAclRevision request.scope = request.expectedAclRevision ∧
        db.GrantBlocked sha256 request := by
  obtain ⟨_, progress⟩ := call
  cases asked
  cases progress with
  | asked =>
    simp only [advanceCall, reduceCtorEq, exists_false, false_and, iff_false]
    split <;> simp
  | authorized humanPrincipalId =>
    rw [← compareAndSetTransaction_error actor now acyclic (live humanPrincipalId rfl)]
    simp only [advanceCall, endCall, inWriteTransaction]
    cases result : db.compareAndSetTransaction sha256 actor request now <;> simp
  | ended outcome => exact absurd rfl (unfinished outcome)

theorem Ordered.allAnswered_step (ordered : server.Ordered) :
    (server.step sha256 engine event).AllAnswered ↔ server.AllAnswered ∧ ¬ server.Blocked sha256 event := by
  cases event with
  | call request' =>
    have unblocked : ¬ server.Blocked sha256 (.call request') := by
      rintro ⟨_, _, _, _, _, same, _⟩
      cases same
    simp only [unblocked, not_false_eq_true, and_true]
    have later : ∀ (index : Nat) actor request reason, (server.step sha256 engine (.call request')).calls[index]? =
        some ⟨.compareAndSet actor request, .ended (.threw reason)⟩ ↔
        server.calls[index]? = some ⟨.compareAndSet actor request, .ended (.threw reason)⟩ := by
      intro index actor request reason
      simp only [AccessServer.step, getElem?_append]
      split
      · exact Iff.rfl
      · rename_i beyond
        rw [getElem?_singleton, getElem?_eq_none (Nat.le_of_not_lt beyond)]
        split <;> simp
    exact forall_congr' fun index => forall_congr' fun actor => forall_congr' fun request => forall_congr' fun reason =>
      not_congr (later index actor request reason)
  | advance moved now =>
    cases present : server.calls[moved]? with
    | none =>
      have unblocked : ¬ server.Blocked sha256 (.advance moved now) := by
        rintro ⟨_, _, _, _, _, same, found, _⟩
        cases same
        rw [present] at found
        cases found
      simp only [AccessServer.step, present, unblocked, not_false_eq_true, and_true]
    | some call =>
      have live : ∀ actor request, call.request = .compareAndSet actor request → ∀ id, call.progress = .authorized id →
          server.database.Live request.scope := by
        intro actor request asked id authorized
        apply ordered.live moved actor request id
        rw [present, ← asked, ← authorized]
      constructor
      · intro answered
        constructor
        · intro index actor request reason found
          apply answered index actor request reason
          rw [calls_advance present]
          split
          · rename_i same
            rw [← same, present, Option.some.injEq] at found
            rw [found, advanceCall_ended rfl]
          · exact found
        · rintro ⟨_, _, actor, request, id, same, found, blocked⟩
          cases same
          rw [present, Option.some.injEq] at found
          have unfinished : ∀ outcome, call.progress ≠ .ended outcome := by
            intro outcome ended
            rw [found] at ended
            cases ended
          have asked : call.request = .compareAndSet actor request := by rw [found]
          obtain ⟨reason, threw⟩ := (advanceCall_threw sha256 engine now asked unfinished
            ordered.acyclic (live actor request asked)).mpr ⟨⟨id, by rw [found]⟩, blocked⟩
          apply answered moved actor request reason
          rw [calls_advance present, if_pos rfl, threw, asked]
      · rintro ⟨answered, unblocked⟩ index actor request reason found
        rw [calls_advance present] at found
        split at found
        · rename_i same
          rw [Option.some.injEq, AccessCall.mk.injEq] at found
          obtain ⟨asked, threw⟩ := found
          by_cases finished : ∃ outcome, call.progress = .ended outcome
          · obtain ⟨_, ended⟩ := finished
            rw [advanceCall_ended ended] at threw
            apply answered moved actor request reason
            rw [present, ← asked, ← threw, ← ended]
          · have unfinished : ∀ outcome, call.progress ≠ .ended outcome := fun outcome ended => finished ⟨outcome, ended⟩
            obtain ⟨⟨id, authorized⟩, blocked⟩ := (advanceCall_threw sha256 engine now asked unfinished ordered.acyclic
              (live actor request asked)).mp ⟨reason, threw⟩
            apply unblocked
            refine ⟨moved, now, actor, request, id, rfl, ?_, blocked⟩
            rw [present, ← asked, ← authorized]
        · exact answered index actor request reason found

theorem Ordered.allAnswered_run (ordered : server.Ordered) (events : List AccessEvent) :
    (Runs.run (AccessServer.step sha256 engine) events server).AllAnswered ↔ server.AllAnswered ∧
      Runs.Along (AccessServer.step sha256 engine) (fun server event => ¬ server.Blocked sha256 event) events server := by
  induction events generalizing server with
  | nil => simp [Runs.run, Runs.Along]
  | cons event _ ih =>
    have next := ih (ordered.step sha256 engine event)
    rw [ordered.allAnswered_step, and_assoc] at next
    exact next

theorem Ordered.run (sha256 : Sha256) (engine : LatestFirst) (ordered : server.Ordered) (events : List AccessEvent) :
    (Runs.run (AccessServer.step sha256 engine) events server).Ordered :=
  Runs.Along.invariant Ordered (fun _ event held _ => held.step sha256 engine event) (Runs.along_all events server) ordered

theorem revision_run (sha256 : Sha256) (engine : LatestFirst) {scope : AccessScope} (events : List AccessEvent) {revision : Nat}
    (before : server.database.revisionOf scope = some revision) :
    ∃ later, (Runs.run (step sha256 engine) events server).database.revisionOf scope = some later ∧ revision ≤ later := by
  induction events generalizing server revision with
  | nil => exact ⟨revision, before, Nat.le_refl _⟩
  | cons event _ ih =>
    have next : ∃ middle, (server.step sha256 engine event).database.revisionOf scope = some middle ∧ revision ≤ middle := by
      rcases step_change sha256 engine server event with same | ⟨_, _, applied⟩
      · exact ⟨revision, same ▸ before, Nat.le_refl _⟩
      · exact applied.revision_le before
    obtain ⟨_, reached, more⟩ := next
    obtain ⟨later, last, further⟩ := ih reached
    exact ⟨later, last, Nat.le_trans more further⟩

theorem Writes.revisions {scope : AccessScope} (writes : server.Writes sha256 engine event scope expected) :
    server.database.revisionOf scope = some expected ∧
      (server.step sha256 engine event).database.revisionOf scope = some (expected + 1) := by
  obtain ⟨_, now, call, rfl, found, placed, carried, changed⟩ := writes
  simp only [step, found] at changed ⊢
  rcases advanceCall_change sha256 engine call now server.database with same | ⟨_, applied, expects⟩
  · exact absurd same changed
  · rw [placed] at applied
    have revision := expects expected carried
    rw [revision]
    exact ⟨applied.revisionOf_before, applied.revisionOf⟩

theorem writes_once {scope : AccessScope} {second : AccessEvent} (events : List AccessEvent)
    (writes : server.Writes sha256 engine event scope expected) :
    ¬ (Runs.run (step sha256 engine) (event :: events) server).Writes sha256 engine second scope expected := by
  intro again
  obtain ⟨_, reached, _⟩ := revision_run sha256 engine events writes.revisions.2
  have found := again.revisions.1
  change (Runs.run (step sha256 engine) events (step sha256 engine server event)).database.revisionOf scope = _ at found
  rw [reached, Option.some.injEq] at found
  omega

end AccessServer

/-- In every run of access mutations that starts from an ordered database: the grants stay ordered by their revisions,
so that nobody has two unrevoked grants of a scope and the newest is unrevoked if any is; each step obeys the law of its
outcome; no two writes share an expected revision; and every `compareAndSetAccess` is answered exactly when none of them
comes to insert a grant that is blocked. -/
theorem access_mutations_linear (sha256 : Sha256) (engine : LatestFirst) {db : ServerDatabase} (linear : db.Linear)
    (acyclic : db.Acyclic) (events : List AccessEvent) :
    let run := fun events => Runs.run (AccessServer.step sha256 engine) events (AccessServer.start db)
    (∀ row ∈ (run events).database.grants, ∀ other ∈ (run events).database.grants, other.scope = row.scope →
      other.humanPrincipalId = row.humanPrincipalId → row.revokedAt = none →
        (other.revokedAt = none → other = row) ∧ (other ≠ row → other.aclRevision < row.aclRevision)) ∧
    (∀ before index now after, events = before ++ .advance index now :: after →
      ∀ call, (run before).calls[index]? = some call → (∀ outcome, call.progress ≠ .ended outcome) →
        ∃ progress, (run (before ++ [.advance index now])).calls[index]? = some ⟨call.request, progress⟩ ∧
          StepLaw call.request (run before).database progress (run (before ++ [.advance index now])).database) ∧
    (∀ before first middle second after scope expected, events = before ++ first :: (middle ++ second :: after) →
      (run before).Writes sha256 engine first scope expected →
        ¬ (run (before ++ first :: middle)).Writes sha256 engine second scope expected) ∧
    ((run events).AllAnswered ↔ Runs.Along (AccessServer.step sha256 engine)
      (fun server event => ¬ server.Blocked sha256 event) events (AccessServer.start db)) := by
  intro run
  have ordered := AccessServer.start_ordered linear acyclic
  refine ⟨?_, ?_, ?_, ?_⟩
  · intro row member other member' placed person unrevoked
    have final := (ordered.run sha256 engine events).linear
    exact ⟨final.unique member member' placed person unrevoked, final.newest row member other member' placed person unrevoked⟩
  · intro before index now after _ call found unfinished
    have law := advanceCall_law sha256 engine now (run before).database unfinished
    have next : run (before ++ [.advance index now]) = (run before).step sha256 engine (.advance index now) :=
      Runs.run_append before [.advance index now] _
    refine ⟨(advanceCall sha256 engine call now (run before).database).1, ?_, ?_⟩
    · rw [next, AccessServer.calls_advance found, if_pos rfl]
    · rw [next]
      simp only [AccessServer.step, found]
      exact law
  · intro before first middle second after scope expected _ writes
    have split : run (before ++ first :: middle) = Runs.run (AccessServer.step sha256 engine) (first :: middle) (run before) :=
      Runs.run_append before (first :: middle) _
    rw [split]
    exact AccessServer.writes_once middle writes
  · have clean : (AccessServer.start db).AllAnswered := by
      intro index actor request reason found
      cases found
    rw [ordered.allAnswered_run]
    exact and_iff_right clean

section Regrant

def recordedSha256 : Sha256 := RecordedDigest.digest
  [("w\x00p\x00\x00bo\x001", "62ddde67736d638259602c631515fb64ab39839e74aff9eb85f7ef99c5ecd86f"),
    ("w\x00p\x00\x00bo\x002", "e781d79aeaa8e16ddbb17bc61677975a4efa748828aacd7cf37b0c1cf828bf0c")]

def regrantDatabase : ServerDatabase :=
  { empty with
    principals := ⟨[⟨"w", "ana", "Ana", "t0", none⟩, ⟨"w", "bo", "Bo", "t0", none⟩], by decide⟩
    memberships := ⟨[⟨"w", "m1", "ana", .owner, 1, "t0", "t0", none⟩, ⟨"w", "m2", "bo", .member, 1, "t0", "t0", none⟩], by decide⟩
    projects := ⟨[⟨"w", "p", none, .«private», some "ana", 0, "t0", none⟩], by decide⟩ }

def regrantEvents : List AccessEvent :=
  [.call (.compareAndSet ⟨.human, "ana"⟩ ⟨⟨"w", "p", none⟩, 0, .grant "bo" .viewer⟩), .advance 0 "t1", .advance 0 "t1",
    .call (.compareAndSet ⟨.human, "ana"⟩ ⟨⟨"w", "p", none⟩, 1, .grant "bo" .editor⟩), .advance 1 "t2", .advance 1 "t2"]

def regrantRun (events : List AccessEvent) : AccessServer :=
  Runs.run (AccessServer.step recordedSha256 .earliest) events (.start regrantDatabase)

theorem regrantDatabase_linear : regrantDatabase.Linear := linear_of_no_grants fun _ => Table.not_mem_empty

theorem regrantDatabase_acyclic : regrantDatabase.Acyclic := fun _ => ⟨_, .here rfl⟩

/-- A grant of a new role to someone who already holds one ends with a constraint error of the database. -/
theorem regrant_throws : regrantDatabase.Linear ∧ regrantDatabase.Acyclic ∧
    (regrantRun regrantEvents).calls[1]? = some ⟨.compareAndSet ⟨.human, "ana"⟩ ⟨⟨"w", "p", none⟩, 1, .grant "bo" .editor⟩,
      .ended (.threw .uniqueConstraint)⟩ ∧ ¬ (regrantRun regrantEvents).AllAnswered := by
  have threw : (regrantRun regrantEvents).calls[1]? = some ⟨.compareAndSet ⟨.human, "ana"⟩
      ⟨⟨"w", "p", none⟩, 1, .grant "bo" .editor⟩, .ended (.threw .uniqueConstraint)⟩ := by decide +kernel
  exact ⟨regrantDatabase_linear, regrantDatabase_acyclic, threw, fun answered => answered 1 _ _ _ threw⟩

/-- A grant to `bo`, another one under the same revision, and the revocation of the first. -/
def revokeEvents : List AccessEvent :=
  regrantEvents.take 1 ++ [.call (.compareAndSet ⟨.human, "ana"⟩ ⟨⟨"w", "p", none⟩, 0, .grant "bo" .editor⟩)] ++
    regrantEvents.tail.take 2 ++ [.advance 1 "t2", .advance 1 "t2",
    .call (.compareAndSet ⟨.human, "ana"⟩ ⟨⟨"w", "p", none⟩, 1, .revoke (grantIdFor recordedSha256 ⟨"w", "p", none⟩ "bo" 1)⟩),
    .advance 2 "t3", .advance 2 "t3"]

theorem access_mutations_linear_of_revocation :
    (regrantRun revokeEvents).database.grants.rows.map (fun row => (row.humanPrincipalId, row.role, row.revokedAt)) =
      [("bo", .viewer, some "t3")] ∧
    Runs.Along (AccessServer.step recordedSha256 .earliest) (fun server event => ¬ server.Blocked recordedSha256 event)
      revokeEvents (.start regrantDatabase) := by
  refine ⟨by decide +kernel, ?_⟩
  apply (access_mutations_linear recordedSha256 .earliest regrantDatabase_linear regrantDatabase_acyclic revokeEvents).2.2.2.mp
  have answered : (regrantRun revokeEvents).calls.all (fun call => match call.progress with
      | .ended (.threw _) => false
      | _ => true) = true := by decide +kernel
  intro index actor request reason found
  cases all_eq_true.mp answered _ (mem_of_getElem? found)

end Regrant
end PlanWeave.Access
