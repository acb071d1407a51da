import PlanWeave.Access.Identity
import PlanWeave.Access.Merge

namespace PlanWeave.Access

def packageSnapshotMaxRetained : Nat := 256

structure RestoreInput where
  workspaceId : String
  projectId : String
  canvasId : String
  snapshotId : String
  actor : ActorRef
  expectedAclRevision : Nat

def RestoreInput.scope (input : RestoreInput) : AccessScope := ⟨input.workspaceId, input.projectId, some input.canvasId⟩

inductive RestoreOutcome where
  | missing | conflict | unavailable (state : SnapshotState)
deriving DecidableEq

inductive RestoreStart where
  | answered (outcome : RestoreOutcome) (aclRevision : Nat) (detail : String)
  | claimed
deriving DecidableEq

inductive RestoreConflict where
  | authorization | aclRevision
deriving DecidableEq

namespace PackageSnapshot

def scope (row : PackageSnapshot) : AccessScope := ⟨row.workspaceId, row.projectId, some row.canvasId⟩

def marked (marker : RestoreMarker) (row : PackageSnapshot) : PackageSnapshot := { row with restoreMarker := marker }

theorem marked_snapshotId (marker : RestoreMarker) (row : PackageSnapshot) : (row.marked marker).snapshotId = row.snapshotId := rfl

def recovered (state : SnapshotState) (row : PackageSnapshot) : PackageSnapshot := { row with state, restoreMarker := .none }

theorem recovered_snapshotId (state : SnapshotState) (row : PackageSnapshot) : (row.recovered state).snapshotId = row.snapshotId := rfl

def revoked (row : PackageSnapshot) : PackageSnapshot := { row with state := .revoked }

theorem revoked_snapshotId (row : PackageSnapshot) : row.revoked.snapshotId = row.snapshotId := rfl

end PackageSnapshot

def RestoreInput.names (input : RestoreInput) (row : PackageSnapshot) : Bool :=
  row.snapshotId = input.snapshotId ∧ row.scope = input.scope

namespace ServerDatabase
variable (engine : LatestFirst) (input : RestoreInput) (db : ServerDatabase)

def snapshotOf : Option PackageSnapshot := db.snapshots.rows.find? input.names

/-- `SET restore_marker='restore_pending' … AND state='available' AND restore_marker='none'` -/
def setPending : Option ServerDatabase :=
  (db.snapshots.updateOne (fun row => input.names row ∧ row.state = .available ∧ row.restoreMarker = .none)
    (PackageSnapshot.marked .restorePending) (PackageSnapshot.marked_snapshotId .restorePending)).map fun snapshots =>
      { db with snapshots }

/-- `SET state='revoked' … AND state<>'revoked' AND restore_marker<>'restore_pending'` -/
def setSnapshotRevoked : Option ServerDatabase :=
  (db.snapshots.updateOne (fun row => input.names row ∧ row.state ≠ .revoked ∧ row.restoreMarker ≠ .restorePending)
    PackageSnapshot.revoked PackageSnapshot.revoked_snapshotId).map fun snapshots => { db with snapshots }

def claimRestore : Except AccessError (RestoreStart × ServerDatabase) :=
  match db.decideCanvas engine input.workspaceId input.projectId input.canvasId input.actor with
  | .deny _ aclRevision => .ok (.answered .missing aclRevision "canvas_access_denied", db)
  | .allow aclRevision => do
    db.assertCanManage engine input.scope input.actor
    if aclRevision ≠ input.expectedAclRevision then return (.answered .conflict aclRevision "stale_acl_revision", db)
    else match db.snapshotOf input with
      | none => return (.answered .missing aclRevision "snapshot_not_found", db)
      | some row =>
        if row.state ≠ .available then return (.answered (.unavailable row.state) aclRevision "snapshot_unavailable", db)
        else match db.setPending input with
          | none => return (.answered .conflict aclRevision "restore_pending", db)
          | some claimed => return (.claimed, claimed)

def assertRestoreAuthorization : Except RestoreConflict Unit :=
  match db.decideCanvas engine input.workspaceId input.projectId input.canvasId input.actor,
    db.assertCanManage engine input.scope input.actor with
  | .allow aclRevision, .ok _ => Checked.demand (aclRevision = input.expectedAclRevision) .aclRevision
  | _, _ => .error .authorization

def settleRestore (f : PackageSnapshot → PackageSnapshot) (keeps : ∀ row, (f row).snapshotId = row.snapshotId) :
    Bool × ServerDatabase :=
  match db.snapshots.updateOne (fun row => input.names row ∧ pending row) f keeps with
  | none => (false, db)
  | some snapshots => (true, { db with snapshots })

def recoverMarker (state : SnapshotState) : Bool × ServerDatabase :=
  db.settleRestore input (PackageSnapshot.recovered state) (PackageSnapshot.recovered_snapshotId state)

def completeRestore : Bool × ServerDatabase :=
  db.settleRestore input (PackageSnapshot.marked .restoreComplete) (PackageSnapshot.marked_snapshotId .restoreComplete)

/-- The row that `create` inserts, unless the snapshot is there. -/
def publishSnapshot (scope : AccessScope) (canvasId snapshotId : String) : ServerDatabase :=
  if (db.snapshots.find snapshotId).isSome then db
  else { db with
    snapshots := db.snapshots.put ⟨snapshotId, scope.workspaceId, scope.projectId, canvasId, .available, .none⟩ }

/-- `reconcileRetentionWindow`: of the available snapshots of a canvas the newest are retained, and those being restored. -/
def reconcileRetentionWindow (scope : AccessScope) : ServerDatabase :=
  let available := db.snapshots.rows.filter fun row => row.scope = scope ∧ row.state = .available
  let outdated := (available.take (available.length - packageSnapshotMaxRetained)).map (·.snapshotId)
  { db with
    snapshots := db.snapshots.update (fun row => row.snapshotId ∈ outdated ∧ row.restoreMarker ≠ .restorePending)
      PackageSnapshot.revoked PackageSnapshot.revoked_snapshotId }

def revokeSnapshot : Except AccessError (Unit × ServerDatabase) := do
  db.assertCanManage engine input.scope input.actor
  match db.decideCanvas engine input.workspaceId input.projectId input.canvasId input.actor with
  | .deny _ _ => .error .snapshotNotFound
  | .allow aclRevision =>
    Checked.demand (aclRevision = input.expectedAclRevision) .snapshotStaleAclRevision
    let row ← Checked.present (db.snapshotOf input) .snapshotNotFound
    Checked.demand (¬ pending row) .snapshotRestorePending
    match db.setSnapshotRevoked input with
    | some changed => return ((), changed)
    | none =>
      Checked.demand (row.state = .revoked) .snapshotRevokeConflict
      return ((), db)

end ServerDatabase

inductive MembershipOperation where
  | bootstrapOwner
  | consumeInvitation (existing : Bool)
  | removeMember | promoteToOwner | demoteOwner

def IdentityDatabase.operate (sha256 : Sha256) (operation : MembershipOperation) (projectId humanPrincipalId : String)
    (call : IdentityCall) (db : IdentityDatabase) : Except AccessError IdentityDatabase :=
  match operation with
  | .bootstrapOwner => db.bootstrapOwner sha256 projectId humanPrincipalId call
  | .consumeInvitation existing => db.consumeInvitation sha256 projectId humanPrincipalId existing call
  | .removeMember => db.removeMember sha256 projectId humanPrincipalId call
  | .promoteToOwner => db.promoteToOwner sha256 projectId humanPrincipalId call
  | .demoteOwner => db.demoteOwner sha256 projectId humanPrincipalId call

/-- What happens to the database: each event is one transaction. A grant was allowed, under the canonical id of its person, and
`compareAndSetAccess` was allowed, before its transaction. -/
inductive AuthorityEvent where
  | grant (input : GrantInput) (humanPrincipalId : String) (now : Timestamp)
  | revoke (input : RevokeInput) (now : Timestamp)
  | compareAndSetAccess (actor : ActorRef) (request : AccessMutationRequest) (now : Timestamp)
  | registerProject (input : ProjectRegistration) (now : Timestamp)
  | registerCanvas (input : CanvasRegistration) (now : Timestamp)
  | registerPathlessCanvas (scope : AccessScope) (canvasId : String) (now : Timestamp)
  | initializeProjectOwner (workspaceId projectId owner : String) (now : Timestamp)
  | initializeCanvasOwner (workspaceId projectId canvasId owner : String) (now : Timestamp)
  | reconcileRuntimeCanvases (workspaceId projectId : String) (trusted : List String) (now : Timestamp)
  | membership (operation : MembershipOperation) (projectId humanPrincipalId : String) (call : IdentityCall)
  | revokeDevice (projectId : String) (call : IdentityCall)
  | redeemDevice (trusted : List AccessScope) (workspaceId humanPrincipalId : String) (call : IdentityCall)
  | merge (request : MergeRequest) (now : Timestamp)
  | claimRestore (input : RestoreInput)
  | recoverMarker (input : RestoreInput) (state : SnapshotState)
  | completeRestore (input : RestoreInput)
  | publishSnapshot (scope : AccessScope) (canvasId snapshotId : String)
  | reconcileRetentionWindow (scope : AccessScope)
  | revokeSnapshot (input : RestoreInput)

namespace IdentityDatabase
variable (sha256 : Sha256) (engine : LatestFirst)

def onServer {α : Type} (db : IdentityDatabase) (action : Except AccessError (α × ServerDatabase)) :
    Except AccessError IdentityDatabase :=
  action.map fun done => { db with toServerDatabase := done.2 }

def perform (db : IdentityDatabase) : AuthorityEvent → Except AccessError IdentityDatabase
  | .grant input humanPrincipalId now => db.onServer (db.grantTransaction sha256 input humanPrincipalId now)
  | .revoke input now => db.onServer (db.revokeTransaction engine input now)
  | .compareAndSetAccess actor request now => db.onServer (db.compareAndSetTransaction sha256 actor request now)
  | .registerProject input now => db.onServer (db.registerProjectInternal input now)
  | .registerCanvas input now => db.onServer (db.registerCanvasInternal input now)
  | .registerPathlessCanvas scope canvasId now => db.onServer (db.registerPathlessCanvas scope canvasId now)
  | .initializeProjectOwner workspaceId projectId owner now =>
    db.onServer (db.initializeProjectOwner workspaceId projectId owner now)
  | .initializeCanvasOwner workspaceId projectId canvasId owner now =>
    db.onServer (db.initializeCanvasOwner workspaceId projectId canvasId owner now)
  | .reconcileRuntimeCanvases workspaceId projectId trusted now =>
    db.onServer (db.reconcileRuntimeCanvases workspaceId projectId trusted now)
  | .membership operation projectId humanPrincipalId call => db.operate sha256 operation projectId humanPrincipalId call
  | .revokeDevice projectId call => db.revokeDevice sha256 projectId call
  | .redeemDevice trusted workspaceId humanPrincipalId call => db.redeemDevice trusted workspaceId humanPrincipalId call
  | .merge request now => db.onServer (db.mergeLocked request now)
  | .claimRestore input => db.onServer (db.claimRestore engine input)
  | .recoverMarker input state => db.onServer (.ok (db.recoverMarker input state))
  | .completeRestore input => db.onServer (.ok (db.completeRestore input))
  | .publishSnapshot scope canvasId snapshotId => db.onServer (.ok ((), db.publishSnapshot scope canvasId snapshotId))
  | .reconcileRetentionWindow scope => db.onServer (.ok ((), db.reconcileRetentionWindow scope))
  | .revokeSnapshot input => db.onServer (db.revokeSnapshot engine input)

def step (db : IdentityDatabase) (event : AuthorityEvent) : IdentityDatabase :=
  match db.perform sha256 engine event with
  | .ok changed => changed
  | .error _ => db

end IdentityDatabase
end PlanWeave.Access
