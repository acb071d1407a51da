import PlanWeave.Access.MutationRuns
import PlanWeave.Access.RestoreMembers

namespace PlanWeave.Access
open Checked Option ServerDatabase Table
variable {start : RestoreStart}

namespace ServerDatabase
variable {db db' : ServerDatabase} {restore input : RestoreInput} {engine : LatestFirst}

section Snapshots

theorem snapshots_held {snapshots : Table PackageSnapshot.snapshotId}
    (kept : ∀ row ∈ db.snapshots, row.snapshotId = restore.snapshotId → pending row = true → row ∈ snapshots) :
    Held restore db { db with snapshots } :=
  ⟨rfl, rfl, .refl, .refl, fun _ member _ => member, fun _ _ => rfl, kept⟩

variable {f : PackageSnapshot → PackageSnapshot} {row : PackageSnapshot}
variable {keeps : ∀ row, (f row).snapshotId = row.snapshotId} {scope : AccessScope}

theorem mem_updateOne {p : PackageSnapshot → Prop} [DecidablePred p]
    {t t' : Table PackageSnapshot.snapshotId}
    (done : t.updateOne p f keeps = some t') (member : row ∈ t) (untouched : ¬ p row) : row ∈ t' := by
  unfold Table.updateOne at done
  split at done
  · cases done
    exact mem_update.mpr ⟨row, member, if_neg untouched⟩
  · cases done

theorem setPending_held (done : db.setPending input = some db') : Held restore db db' := by
  obtain ⟨_, updated, rfl⟩ := map_eq_some_iff.mp done
  refine snapshots_held fun row member _ pending => mem_updateOne updated member ?_
  rintro ⟨_, _, unmarked⟩
  have marked := (of_decide_eq_true pending).2
  rw [unmarked] at marked
  cases marked

section
variable (done : db.claimRestore engine input = .ok (start, db'))
include done

theorem claimRestore_ok :
    (start ≠ .claimed ∧ db' = db) ∨ (db.assertRestoreAuthorization engine input = .ok () ∧ db.setPending input = some db') := by
  unfold claimRestore at done
  split at done
  · cases done
    exact .inl ⟨nofun, rfl⟩
  rename_i aclRevision decided
  obtain ⟨_, managed, done⟩ := bind_ok.mp done
  split at done
  · cases done
    exact .inl ⟨nofun, rfl⟩
  rename_i current
  split at done
  · cases done
    exact .inl ⟨nofun, rfl⟩
  split at done
  · cases done
    exact .inl ⟨nofun, rfl⟩
  split at done
  · cases done
    exact .inl ⟨nofun, rfl⟩
  rename_i claimed marked
  cases done
  refine .inr ⟨?_, marked⟩
  unfold assertRestoreAuthorization
  rw [decided, managed]
  exact demand_ok.mpr (not_not.mp current)

theorem claimRestore_held : Held restore db db' := by
  rcases claimRestore_ok done with ⟨_, rfl⟩ | ⟨_, marked⟩
  · exact .refl
  · exact setPending_held marked
end

theorem settleRestore_held
    (other : input.snapshotId ≠ restore.snapshotId) : Held restore db (db.settleRestore input f keeps).2 := by
  unfold settleRestore
  split
  · exact .refl
  · rename_i snapshots updated
    refine snapshots_held fun row member keyed _ => mem_updateOne updated member ?_
    rintro ⟨named, _⟩
    exact other ((of_decide_eq_true named).1.symm.trans keyed)

theorem publishSnapshot_held {canvasId snapshotId : String} :
    Held restore db (db.publishSnapshot scope canvasId snapshotId) := by
  unfold publishSnapshot
  split
  · exact .refl
  · rename_i fresh
    rw [not_isSome_iff_eq_none] at fresh
    refine snapshots_held fun row member _ _ => mem_put.mpr (.inl ⟨member, ?_⟩)
    exact find_eq_none.mp fresh row member

theorem not_revocable (marked : pending row = true) : ¬ row.restoreMarker ≠ .restorePending :=
  not_not.mpr (of_decide_eq_true marked).2

theorem reconcileRetentionWindow_held : Held restore db (db.reconcileRetentionWindow scope) := by
  refine snapshots_held fun row member _ marked => mem_update.mpr ⟨row, member, if_neg ?_⟩
  exact fun chosen => not_revocable marked chosen.2

theorem revokeSnapshot_held (done : db.revokeSnapshot engine input = .ok ((), db')) : Held restore db db' := by
  obtain ⟨_, done⟩ := rest_ok done
  split at done
  · cases done
  obtain ⟨_, _, _, done⟩ := rest_ok₃ done
  split at done
  · rename_i changed set
    cases done
    obtain ⟨_, updated, rfl⟩ := map_eq_some_iff.mp set
    refine snapshots_held fun row member _ marked => mem_updateOne updated member ?_
    exact fun chosen => not_revocable marked chosen.2.2
  · obtain ⟨_, done⟩ := rest_ok done
    cases done
    exact .refl

end Snapshots

section Decisions
variable {asker : String} {session : AccessSessionState} {view : EffectiveAccessView} {actor : ActorRef} {scope : AccessScope}

theorem evaluate_human (evaluated : db.evaluate engine scope actor session = .ok view) (role : view.effectiveRole ≠ none) :
    actor.kind = .human := by
  by_contra other
  obtain ⟨_, _, _, evaluated⟩ := rest_ok₃ evaluated
  simp only [if_neg other] at evaluated
  obtain ⟨_, inactive, evaluated⟩ := bind_ok.mp evaluated
  cases inactive
  obtain ⟨_, _, _, evaluated⟩ := rest_ok₃ evaluated
  split at evaluated
  · obtain ⟨_, evaluated⟩ := rest_ok evaluated
    have admitted := evaluateEffectiveAccess_role.mp ⟨view, evaluated, role⟩
    cases admitted.2.1
  · obtain ⟨_, evaluated⟩ := rest_ok evaluated
    have admitted := evaluateEffectiveAccess_role.mp ⟨view, evaluated, role⟩
    cases admitted.2.1

section
variable (held : Held restore db db')
include held

theorem scopeProject_held : db'.scopeProject restore.scope = db.scopeProject restore.scope := by
  have same : db'.projectInternal restore.scope.workspaceId restore.scope.projectId =
      db.projectInternal restore.scope.workspaceId restore.scope.projectId := held.project
  unfold scopeProject
  rw [same]

theorem scopeCanvas_held : db'.scopeCanvas restore.scope = db.scopeCanvas restore.scope := by
  have same : db'.canvasInternal restore.workspaceId restore.projectId restore.canvasId =
      db.canvasInternal restore.workspaceId restore.projectId restore.canvasId := held.canvas
  unfold scopeCanvas
  simp only [RestoreInput.scope, same]

theorem newestGrant_held {ids : List String} (covered : restore.covers scope) :
    db'.newestGrant engine scope ids = db.newestGrant engine scope ids := by
  unfold newestGrant
  rw [held.grants.filter]
  intro row chosen
  rw [(of_decide_eq_true chosen).1]
  exact covered

theorem evaluate_held (active : db.activeWorkspacePrincipal restore.workspaceId asker = .ok true)
    (evaluated : db.evaluate engine restore.scope ⟨.human, asker⟩ session = .ok view) :
    db'.evaluate engine restore.scope ⟨.human, asker⟩ session = .ok view := by
  rw [evaluate_ok] at evaluated ⊢
  obtain ⟨project, canvas, ids, projectFound, canvasFound, resolved, owned, owned', evaluated⟩ := evaluated
  rw [scopeProject_held held, scopeCanvas_held held, held.persons asker active]
  refine ⟨project, canvas, ids, projectFound, canvasFound, resolved, owned, owned', ?_⟩
  have later := held.active active
  rw [activeWorkspacePrincipal_eq resolved] at active
  rw [activeWorkspacePrincipal_eq ((held.persons asker (activeWorkspacePrincipal_eq resolved ▸ active)).trans resolved)] at later
  have among : db.activeAmong restore.scope.workspaceId ids = true := Except.ok.inj active
  have among' : db'.activeAmong restore.scope.workspaceId ids = true := Except.ok.inj later
  have placed : project.scope = restore.scope.project := (find_eq_some.mp (scopeProject_ok.mp projectFound).1).2
  have projectGrant : db'.newestGrant engine project.scope ids = db.newestGrant engine project.scope ids :=
    newestGrant_held held (.inr placed)
  have canvasGrant : (canvas.bind fun row => db'.newestGrant engine row.scope ids) =
      canvas.bind fun row => db.newestGrant engine row.scope ids := by
    rcases scopeCanvas_ok.mp canvasFound with ⟨_, rfl⟩ | ⟨_, _, rfl, found, _⟩
    · rfl
    · exact newestGrant_held held (.inl (find_eq_some.mp found).2)
  unfold evaluation at evaluated ⊢
  rw [among', projectGrant, canvasGrant]
  rw [among] at evaluated
  exact evaluated
end

theorem active_of_allowed {revision : Nat} (allowed : db.decideScope engine scope actor = .allow revision) :
    actor.kind = .human ∧ db.activeWorkspacePrincipal scope.workspaceId actor.id = .ok true ∧
      ∃ view, db.evaluate engine scope actor .active = .ok view ∧ view.capabilities .read = true ∧ view.aclRevision = revision := by
  unfold decideScope at allowed
  split at allowed
  · rename_i view evaluated
    split at allowed
    · rename_i reads
      cases allowed
      have role := accessCapabilityFlags_read.mp reads
      have human := evaluate_human evaluated role
      obtain ⟨_, _⟩ := actor
      cases human
      refine ⟨rfl, ?_, view, evaluated, reads, rfl⟩
      obtain ⟨_, _, _, _, _, resolved, _, _, answered⟩ := evaluate_ok.mp evaluated
      have member := (evaluateEffectiveAccess_role.mp ⟨view, answered, role⟩).2.1
      rw [activeWorkspacePrincipal_eq resolved]
      unfold evaluation at member
      split at member
      · rename_i among
        exact congrArg Except.ok among
      · cases member
    · cases allowed
  · cases allowed

theorem assertCapability_held {capability : AccessCapability} (held : Held restore db db')
    (active : db.activeWorkspacePrincipal restore.workspaceId asker = .ok true)
    (capable : db.assertCapability engine restore.scope ⟨.human, asker⟩ capability false = .ok view) :
    db'.assertCapability engine restore.scope ⟨.human, asker⟩ capability false = .ok view := by
  have person : ActorKind.human ≠ .localAdmin := by decide
  unfold assertCapability at capable ⊢
  rw [if_neg person] at capable ⊢
  obtain ⟨_, evaluated, capable⟩ := bind_ok.mp capable
  rw [evaluate_held held active evaluated]
  exact capable

theorem assertRestoreAuthorization_held (held : Held restore db db')
    (authorized : db.assertRestoreAuthorization engine restore = .ok ()) : db'.assertRestoreAuthorization engine restore = .ok () := by
  unfold assertRestoreAuthorization at authorized
  split at authorized
  · rename_i aclRevision done decided managed
    obtain ⟨human, active, _, evaluated, reads, revised⟩ := active_of_allowed decided
    obtain ⟨access, capable, finished⟩ := bind_ok.mp managed
    have person : restore.actor = ⟨.human, restore.actor.id⟩ := by rw [← human]
    rw [person] at evaluated capable
    have decided' : db'.decideCanvas engine restore.workspaceId restore.projectId restore.canvasId restore.actor = .allow aclRevision := by
      have evaluated' := evaluate_held held active evaluated
      rw [← person] at evaluated'
      unfold decideCanvas decideScope
      unfold RestoreInput.scope at evaluated'
      rw [evaluated', ← revised]
      exact if_pos reads
    have managed' : db'.assertCanManage engine restore.scope restore.actor = .ok done := by
      have capable' := assertCapability_held held active capable
      rw [← person] at capable'
      exact bind_ok.mpr ⟨access, capable', finished⟩
    unfold assertRestoreAuthorization
    rw [decided', managed']
    exact authorized
  · cases authorized

end Decisions
end ServerDatabase

namespace AuthorityEvent

def clears (restore : RestoreInput) : AuthorityEvent → Prop
  | .recoverMarker input _ | .completeRestore input => input.snapshotId = restore.snapshotId
  | _ => False

/-- The event is no one's to fence: an up-to-date `compareAndSetAccess` of the canvas or its project, an operation on the members
of another project of the workspace, the revocation of a device there, a new member whom no trusted project stops, and a merge of
people whom the workspace knows. -/
def unfenced (sha256 : Sha256) (restore : RestoreInput) (db : IdentityDatabase) : AuthorityEvent → Prop
  | .compareAndSetAccess _ request _ =>
    restore.covers request.scope ∧ db.currentAclRevision request.scope = request.expectedAclRevision
  | .membership _ projectId _ _ =>
    (db.ensureWorkspaceForLegacyProject sha256 projectId).1 = restore.workspaceId ∧
      db.assertNoPendingProjectRestore projectId = .ok ()
  | .revokeDevice projectId _ => (db.ensureWorkspaceForLegacyProject sha256 projectId).1 = restore.workspaceId
  | .redeemDevice trusted workspaceId humanPrincipalId _ =>
    workspaceId = restore.workspaceId ∧ db.findActiveMembership workspaceId humanPrincipalId = .ok none ∧
      restore.scope.project ∉ trusted.map AccessScope.project
  | .merge request _ =>
    ∃ id, (db.SamePerson request.source id ∨ db.SamePerson request.canonical id) ∧ db.Knows restore.workspaceId id
  | _ => False

def fenced (restore : RestoreInput) (db : IdentityDatabase) : AuthorityEvent → Prop
  | .grant input _ _ => restore.covers input.scope
  | .revoke input _ => restore.covers input.scope
  | .registerCanvas input _ => ⟨input.workspaceId, input.projectId, some input.canvasId⟩ = restore.scope
  | .registerPathlessCanvas scope canvasId _ => { scope with canvasId := some canvasId } = restore.scope
  | .initializeProjectOwner workspaceId projectId _ _ => ⟨workspaceId, projectId, none⟩ = restore.scope.project
  | .reconcileRuntimeCanvases workspaceId projectId _ _ => ⟨workspaceId, projectId, none⟩ = restore.scope.project
  | .membership _ projectId _ _ =>
    projectId = restore.projectId ∧ db.workspaceForLegacyProject projectId = some restore.workspaceId
  | .redeemDevice trusted workspaceId humanPrincipalId _ =>
    workspaceId = restore.workspaceId ∧ db.findActiveMembership workspaceId humanPrincipalId = .ok none ∧
      restore.scope.project ∈ trusted.map AccessScope.project
  | _ => False

end AuthorityEvent

namespace IdentityDatabase
variable {sha256 : Sha256} {engine : LatestFirst} {restore : RestoreInput} {db db' : IdentityDatabase} {event : AuthorityEvent}

theorem onServer_ok {α : Type} {action : Except AccessError (α × ServerDatabase)} (done : db.onServer action = .ok db') :
    ∃ value changed, action = .ok (value, changed) ∧ db'.toServerDatabase = changed := by
  obtain ⟨⟨value, changed⟩, acted, rfl⟩ := map_ok.mp done
  exact ⟨value, changed, acted, rfl⟩

theorem step_claimRestore {input : RestoreInput} {changed : ServerDatabase}
    (claims : db.claimRestore engine input = .ok (start, changed)) :
    (db.step sha256 engine (.claimRestore input)).toServerDatabase = changed := by
  have performed : db.perform sha256 engine (.claimRestore input) = .ok { db with toServerDatabase := changed } :=
    congrArg db.onServer claims
  unfold step
  rw [performed]

section
variable (leased : Leased restore db.toServerDatabase)
include leased

theorem assertNoPendingProjectRestore_fenced {projectId : String}
    (same : projectId = restore.projectId) (mapped : db.workspaceForLegacyProject projectId = some restore.workspaceId) :
    db.assertNoPendingProjectRestore projectId = .error .snapshotRestorePending := by
  unfold assertNoPendingProjectRestore
  rw [mapped]
  apply leased.fenced
  rw [same]
  exact .inr rfl

theorem perform_held (spared : ¬ event.unfenced sha256 restore db)
    (pending : ¬ event.clears restore) (done : db.perform sha256 engine event = .ok db') :
    Held restore db.toServerDatabase db'.toServerDatabase := by
  cases event with
  | grant =>
    obtain ⟨_, _, acted, rfl⟩ := onServer_ok done
    exact grantTransaction_held leased acted
  | revoke =>
    obtain ⟨_, _, acted, rfl⟩ := onServer_ok done
    exact revokeTransaction_held leased acted
  | compareAndSetAccess =>
    obtain ⟨_, _, acted, rfl⟩ := onServer_ok done
    exact compareAndSetTransaction_held spared acted
  | registerProject =>
    obtain ⟨_, _, acted, rfl⟩ := onServer_ok done
    exact registerProjectInternal_held leased acted
  | registerCanvas =>
    obtain ⟨_, _, acted, rfl⟩ := onServer_ok done
    exact registerCanvasInternal_held leased acted
  | registerPathlessCanvas =>
    obtain ⟨_, _, acted, rfl⟩ := onServer_ok done
    exact registerPathlessCanvas_held leased acted
  | initializeProjectOwner =>
    obtain ⟨_, _, acted, rfl⟩ := onServer_ok done
    exact initializeProjectOwner_held leased acted
  | initializeCanvasOwner =>
    obtain ⟨_, _, acted, rfl⟩ := onServer_ok done
    exact initializeCanvasOwner_held leased acted
  | reconcileRuntimeCanvases =>
    obtain ⟨_, _, acted, rfl⟩ := onServer_ok done
    exact reconcileRuntimeCanvases_held leased acted
  | membership operation projectId humanPrincipalId call =>
    by_cases apart : (db.ensureWorkspaceForLegacyProject sha256 projectId).1 = restore.workspaceId
    · cases fence : db.assertNoPendingProjectRestore projectId with
      | ok => exact absurd ⟨apart, fence⟩ spared
      | error =>
        change db.operate sha256 operation projectId humanPrincipalId call = .ok db' at done
        rw [operate_fenced fence] at done
        cases done
    · exact operate_held apart done
  | revokeDevice => exact revokeDevice_held spared done
  | redeemDevice => exact redeemDevice_held leased spared done
  | merge =>
    obtain ⟨_, _, acted, rfl⟩ := onServer_ok done
    exact mergeLocked_held (fun id same known => spared ⟨id, same, known⟩) acted
  | claimRestore =>
    obtain ⟨_, _, acted, rfl⟩ := onServer_ok done
    exact ServerDatabase.claimRestore_held acted
  | recoverMarker =>
    cases done
    exact ServerDatabase.settleRestore_held pending
  | completeRestore =>
    cases done
    exact ServerDatabase.settleRestore_held pending
  | publishSnapshot =>
    cases done
    exact ServerDatabase.publishSnapshot_held
  | reconcileRetentionWindow =>
    cases done
    exact ServerDatabase.reconcileRetentionWindow_held
  | revokeSnapshot =>
    obtain ⟨_, _, acted, rfl⟩ := onServer_ok done
    exact ServerDatabase.revokeSnapshot_held acted

theorem perform_fenced (fenced : event.fenced restore db) :
    (∃ reason, db.perform sha256 engine event = .error reason) ∧ db.step sha256 engine event = db := by
  have refused : ∀ db', db.perform sha256 engine event ≠ .ok db' := by
    intro db' done
    cases event with
    | grant =>
      obtain ⟨_, _, acted, _⟩ := onServer_ok done
      obtain ⟨_, fence, _⟩ := bind_ok.mp acted
      exact leased.elsewhere fence fenced
    | revoke =>
      obtain ⟨_, _, acted, _⟩ := onServer_ok done
      obtain ⟨_, fence, _⟩ := bind_ok.mp acted
      exact leased.elsewhere fence fenced
    | registerCanvas =>
      obtain ⟨_, _, acted, _⟩ := onServer_ok done
      obtain ⟨_, _, _, acted⟩ := rest_ok₃ acted
      obtain ⟨_, fence, _⟩ := bind_ok.mp acted
      exact leased.elsewhere fence (.inl fenced)
    | registerPathlessCanvas =>
      obtain ⟨_, _, acted, _⟩ := onServer_ok done
      obtain ⟨_, _, _, acted⟩ := rest_ok₃ acted
      obtain ⟨_, fence, _⟩ := bind_ok.mp acted
      exact leased.elsewhere fence (.inl fenced)
    | initializeProjectOwner =>
      obtain ⟨_, _, acted, _⟩ := onServer_ok done
      obtain ⟨_, _, _, acted⟩ := rest_ok₃ acted
      obtain ⟨_, _, acted⟩ := rest_ok₂ acted
      obtain ⟨_, fence, _⟩ := bind_ok.mp acted
      exact leased.elsewhere fence (.inr fenced)
    | reconcileRuntimeCanvases =>
      obtain ⟨_, _, acted, _⟩ := onServer_ok done
      obtain ⟨_, _, acted⟩ := rest_ok₂ acted
      obtain ⟨_, fence, _⟩ := bind_ok.mp acted
      exact leased.elsewhere fence (.inr fenced)
    | membership operation projectId humanPrincipalId call =>
      change db.operate sha256 operation projectId humanPrincipalId call = .ok db' at done
      rw [operate_fenced (assertNoPendingProjectRestore_fenced leased fenced.1 fenced.2)] at done
      cases done
    | redeemDevice =>
      obtain ⟨rfl, found, listed⟩ := fenced
      exact redeemDevice_fenced leased found listed done
    | _ => exact fenced
  unfold step
  cases done : db.perform sha256 engine event with
  | ok db' => exact absurd done (refused db')
  | error reason => exact ⟨⟨reason, rfl⟩, rfl⟩

theorem step_held (spared : ¬ event.unfenced sha256 restore db)
    (pending : ¬ event.clears restore) : Held restore db.toServerDatabase (db.step sha256 engine event).toServerDatabase := by
  unfold step
  cases done : db.perform sha256 engine event with
  | ok => exact perform_held leased spared pending done
  | error => exact .refl
end

theorem run_held {start : IdentityDatabase} (leased : Leased restore start.toServerDatabase) {events : List AuthorityEvent}
    (along : Runs.Along (step sha256 engine)
      (fun state event => ¬ event.unfenced sha256 restore state ∧ ¬ event.clears restore) events start) :
    Held restore start.toServerDatabase (Runs.run (step sha256 engine) events start).toServerDatabase := by
  apply along.invariant fun state => Held restore start.toServerDatabase state.toServerDatabase
  · intro state event held ⟨spared, pending⟩
    exact held.trans (step_held (leased.held held) spared pending)
  · exact .refl

end IdentityDatabase

namespace ServerDatabase
variable {db claimed : ServerDatabase} {restore : RestoreInput} {engine : LatestFirst}

theorem claimed_leased (claims : db.claimRestore engine restore = .ok (.claimed, claimed)) :
    Leased restore claimed ∧ claimed.assertRestoreAuthorization engine restore = .ok () := by
  rcases claimRestore_ok claims with ⟨answered, _⟩ | ⟨authorized, marked⟩
  · exact absurd rfl answered
  have held : Held restore db claimed := setPending_held marked
  refine ⟨⟨?_, ?_⟩, assertRestoreAuthorization_held held authorized⟩
  · obtain ⟨_, updated, rfl⟩ := map_eq_some_iff.mp marked
    obtain ⟨_, ⟨named, available, _⟩, replaced⟩ := updateOne_replaced updated
    exact ⟨_, replaced.new_mem, named, decide_eq_true ⟨available, rfl⟩⟩
  · unfold assertRestoreAuthorization at authorized
    split at authorized
    · rename_i decided _
      obtain ⟨_, _, _, evaluated, _⟩ := active_of_allowed decided
      obtain ⟨project, found, _⟩ := bind_ok.mp evaluated
      have present := (scopeProject_ok.mp found).1
      rw [held.project]
      exact isSome_of_eq_some present
    · cases authorized

end ServerDatabase

/-- From the claim of a restore on, in every run without an unfenced event, the restore stays pending until it is settled, what the
decision of its canvas is made from stays as it was, each event that a fence is for fails and changes nothing, and the restore is
completed under the authorization that it was started with. -/
theorem restore_fences_authorization {sha256 : Sha256} {engine : LatestFirst} {restore : RestoreInput} {db claimed : IdentityDatabase}
    (claims : db.claimRestore engine restore = .ok (.claimed, claimed.toServerDatabase)) {events : List AuthorityEvent}
    (along : Runs.Along (IdentityDatabase.step sha256 engine)
      (fun state event => ¬ event.unfenced sha256 restore state ∧ ¬ event.clears restore) events claimed) :
    let reached := Runs.run (IdentityDatabase.step sha256 engine) events claimed
    Leased restore reached.toServerDatabase ∧ Held restore claimed.toServerDatabase reached.toServerDatabase ∧
      (∀ event : AuthorityEvent, event.fenced restore reached →
        (∃ reason, reached.perform sha256 engine event = .error reason) ∧ reached.step sha256 engine event = reached) ∧
      reached.assertRestoreAuthorization engine restore = .ok () := by
  obtain ⟨leased, authorized⟩ := ServerDatabase.claimed_leased claims
  have held := IdentityDatabase.run_held leased along
  refine ⟨leased.held held, held, ?_, ServerDatabase.assertRestoreAuthorization_held held authorized⟩
  intro event fenced
  exact IdentityDatabase.perform_fenced (leased.held held) fenced

section Lease

def snapshotDatabase : IdentityDatabase :=
  { regrantDatabase with
    canvases := ⟨[⟨"w", "p", "c", none, .shared, some "ana", 0, "t0", none⟩], by decide⟩
    snapshots := ⟨[⟨"s", "w", "p", "c", .available, .none⟩], by decide⟩
    legacyProjects := .empty }

def snapshotRestore : RestoreInput := ⟨"w", "p", "c", "s", ⟨.human, "ana"⟩, 0⟩

def restoreSha256 : Sha256 := RecordedDigest.digest
  [("w\x00p\x00c\x00bo\x001", "9bc9193c90ba931f0feb5592551b56ee14de58a4ddc067ea592cbd36d6047af7")]

def claimedDatabase : IdentityDatabase := snapshotDatabase.step restoreSha256 .earliest (.claimRestore snapshotRestore)

def withdrawnDatabase : IdentityDatabase :=
  claimedDatabase.step restoreSha256 .earliest
    (.compareAndSetAccess ⟨.human, "ana"⟩ ⟨snapshotRestore.scope, 0, .visibility .«private»⟩ "t1")

def grantToBo : AuthorityEvent := .grant ⟨snapshotRestore.scope, "bo", .editor, ⟨.human, "ana"⟩⟩ "bo" "t1"

/-- A grant is refused while the restore is pending, but its canvas can be made private, and the restore completes all the same. -/
theorem restore_completes_after_withdrawal :
    (snapshotDatabase.claimRestore .earliest snapshotRestore).map Prod.fst = .ok .claimed ∧
    Checked.errorOf (claimedDatabase.perform restoreSha256 .earliest grantToBo) = some .snapshotRestorePending ∧
    claimedDatabase.decideCanvas .earliest "w" "p" "c" ⟨.human, "bo"⟩ = .allow 0 ∧
    withdrawnDatabase.decideCanvas .earliest "w" "p" "c" ⟨.human, "bo"⟩ = .deny .missing 1 ∧
    (withdrawnDatabase.snapshots.find "s").map ServerDatabase.pending = some true ∧
    (claimedDatabase.entry snapshotRestore.scope).map (fun entry => (entry.visibility, entry.aclRevision)) = some (.shared, 0) ∧
    (withdrawnDatabase.entry snapshotRestore.scope).map (fun entry => (entry.visibility, entry.aclRevision)) =
      some (.«private», 1) ∧
    withdrawnDatabase.assertRestoreAuthorization .earliest snapshotRestore = .error .aclRevision ∧
    (withdrawnDatabase.completeRestore snapshotRestore).1 = true := by
  refine ⟨by decide +kernel, by decide +kernel, by decide +kernel, by decide +kernel, by decide +kernel, by decide +kernel,
    by decide +kernel, by decide +kernel, by decide +kernel⟩

def refusedEvents : List AuthorityEvent :=
  [grantToBo, .revoke ⟨snapshotRestore.scope, "g", ⟨.human, "ana"⟩, 0⟩ "t1",
    .compareAndSetAccess ⟨.human, "ana"⟩ ⟨snapshotRestore.scope, 1, .visibility .«private»⟩ "t1"]

/-- A grant, a revocation and a request of another revision leave the pending restore under its authorization. -/
theorem restore_fences_authorization_of_refused :
    let reached := Runs.run (IdentityDatabase.step restoreSha256 .earliest) refusedEvents claimedDatabase
    reached.step restoreSha256 .earliest grantToBo = reached ∧
      reached.assertRestoreAuthorization .earliest snapshotRestore = .ok () := by
  have claims : snapshotDatabase.claimRestore .earliest snapshotRestore = .ok (.claimed, claimedDatabase.toServerDatabase) := by
    have claimed : (snapshotDatabase.claimRestore .earliest snapshotRestore).map Prod.fst = .ok .claimed := by decide +kernel
    obtain ⟨⟨_, _⟩, claims, same⟩ := map_ok.mp claimed
    cases same
    rw [claimedDatabase, IdentityDatabase.step_claimRestore claims, claims]
  have along : Runs.Along (IdentityDatabase.step restoreSha256 .earliest)
      (fun state event => ¬ event.unfenced restoreSha256 snapshotRestore state ∧ ¬ event.clears snapshotRestore)
      refusedEvents claimedDatabase :=
    ⟨⟨id, id⟩, ⟨id, id⟩, ⟨fun unfenced => absurd unfenced.2 (by decide +kernel), id⟩, trivial⟩
  obtain ⟨_, _, fenced, authorized⟩ := restore_fences_authorization claims along
  exact ⟨(fenced grantToBo (.inl rfl)).2, authorized⟩

end Lease
end PlanWeave.Access
