import PlanWeave.Access.Policy

namespace PlanWeave.Access
open Checked

abbrev Sha256 := String → String

def deterministicId (sha256 : Sha256) (kind : String) (parts : List String) : String :=
  kind ++ "-" ++ String.ofList ((sha256 (String.intercalate "\x00" parts)).toList.take 32)

def grantIdFor (sha256 : Sha256) (scope : AccessScope) (humanPrincipalId : String) (revision : Nat) : String :=
  deterministicId sha256 "grant" [scope.workspaceId, scope.projectId, scope.canvasId.getD "", humanPrincipalId, toString revision]

def projectRegistryIdFor (sha256 : Sha256) (scope : AccessScope) : String :=
  deterministicId sha256 "registry-project" [scope.workspaceId, scope.projectId]

def canvasRegistryIdFor (sha256 : Sha256) (scope : AccessScope) : String :=
  deterministicId sha256 "registry-canvas" [scope.workspaceId, scope.projectId, scope.canvasId.getD ""]

structure RegistryEntry where
  visibility : Visibility
  ownerHumanPrincipalId : Option String
  aclRevision : Nat
  revokedAt : Option Timestamp

def InternalProjectRecord.entry (row : InternalProjectRecord) : RegistryEntry :=
  ⟨row.visibility, row.ownerHumanPrincipalId, row.aclRevision, row.revokedAt⟩

def InternalProjectRecord.withEntry (row : InternalProjectRecord) (entry : RegistryEntry) (now : Timestamp) :
    InternalProjectRecord :=
  { row with
    visibility := entry.visibility
    ownerHumanPrincipalId := entry.ownerHumanPrincipalId
    aclRevision := entry.aclRevision
    revokedAt := entry.revokedAt
    updatedAt := now }

theorem InternalProjectRecord.withEntry_scope (row : InternalProjectRecord) (entry : RegistryEntry) (now : Timestamp) :
    (row.withEntry entry now).scope = row.scope := rfl

def InternalCanvasRecord.entry (row : InternalCanvasRecord) : RegistryEntry :=
  ⟨row.visibility, row.ownerHumanPrincipalId, row.aclRevision, row.revokedAt⟩

def InternalCanvasRecord.withEntry (row : InternalCanvasRecord) (entry : RegistryEntry) (now : Timestamp) :
    InternalCanvasRecord :=
  { row with
    visibility := entry.visibility
    ownerHumanPrincipalId := entry.ownerHumanPrincipalId
    aclRevision := entry.aclRevision
    revokedAt := entry.revokedAt
    updatedAt := now }

theorem InternalCanvasRecord.withEntry_scope (row : InternalCanvasRecord) (entry : RegistryEntry) (now : Timestamp) :
    (row.withEntry entry now).scope = row.scope := rfl

namespace ServerDatabase
variable (db : ServerDatabase)

/-- Two unrevoked grants of one scope to one person break the partial unique indexes. -/
def breaksActiveUnique (row : MembershipGrant) : Bool :=
  row.revokedAt = none ∧ db.grants.rows.any fun other =>
    other.revokedAt = none ∧ other.scope = row.scope ∧ other.humanPrincipalId = row.humanPrincipalId

def referencesExist (row : MembershipGrant) : Bool :=
  (db.principals.find (row.workspaceId, row.humanPrincipalId)).isSome &&
    (db.projects.find row.scope.project).isSome &&
    (row.canvasId = none || (db.canvases.find row.scope).isSome)

def insertGrant (row : MembershipGrant) : Except AccessError ServerDatabase :=
  if db.breaksActiveUnique row then .error .uniqueConstraint
  else if !db.referencesExist row then .error .foreignKeyConstraint
  else match db.grants.insert row with
    | none => .error .uniqueConstraint
    | some grants => .ok { db with grants }

/-- `UPDATE project_registry` or `UPDATE canvas_registry` of the row of a scope; none when it does not change one row. -/
def updateRegistry (scope : AccessScope) (p : RegistryEntry → Prop) [DecidablePred p] (f : RegistryEntry → RegistryEntry)
    (now : Timestamp) : Option ServerDatabase :=
  match scope.canvasId with
  | none => (db.projects.updateOne (fun row => row.scope = scope ∧ p row.entry)
      (fun row => row.withEntry (f row.entry) now) fun row => row.withEntry_scope _ now).map fun projects => { db with projects }
  | some _ => (db.canvases.updateOne (fun row => row.scope = scope ∧ p row.entry)
      (fun row => row.withEntry (f row.entry) now) fun row => row.withEntry_scope _ now).map fun canvases => { db with canvases }

def setRevision (scope : AccessScope) (revision current : Nat) (unrevoked : Bool) (now : Timestamp) : Option ServerDatabase :=
  db.updateRegistry scope (fun entry => entry.aclRevision = current ∧ (unrevoked → entry.revokedAt = none))
    (fun entry => { entry with aclRevision := revision }) now

/-- `SET visibility=?,acl_revision=? … AND acl_revision=? AND revoked_at IS NULL` -/
def setVisibility (scope : AccessScope) (visibility : Visibility) (current : Nat) (now : Timestamp) : Option ServerDatabase :=
  db.updateRegistry scope (fun entry => entry.aclRevision = current ∧ entry.revokedAt = none)
    (fun entry => { entry with visibility, aclRevision := current + 1 }) now

/-- `UPDATE project_access_grants SET revoked_at=?,acl_revision=? WHERE grant_id=? AND revoked_at IS NULL` -/
def setRevoked (grantId : String) (revision : Nat) (now : Timestamp) : Option ServerDatabase :=
  (db.grants.updateOne (fun row => row.grantId = grantId ∧ row.revokedAt = none)
    (fun row => { row with revokedAt := some now, aclRevision := revision }) fun _ => rfl).map fun grants => { db with grants }

def entry (scope : AccessScope) : Option RegistryEntry :=
  match scope.canvasId with
  | none => (db.projects.find scope).map InternalProjectRecord.entry
  | some _ => (db.canvases.find scope).map InternalCanvasRecord.entry

def revisionOf (scope : AccessScope) : Option Nat := (db.entry scope).map (·.aclRevision)

def scopeRevokedAt (scope : AccessScope) : Option (Option Timestamp) := (db.entry scope).map (·.revokedAt)

def currentAclRevision (scope : AccessScope) : Nat := (db.revisionOf scope).getD 0

def grantOf (grantId : String) (scope : AccessScope) : Option MembershipGrant :=
  db.grants.rows.find? fun row => row.grantId = grantId ∧ row.scope = scope

end ServerDatabase

def grantRow (sha256 : Sha256) (scope : AccessScope) (humanPrincipalId : String) (role : ProjectAccessRole) (revision : Nat)
    (grantedBy : ActorRef) (now : Timestamp) : MembershipGrant where
  grantId := grantIdFor sha256 scope humanPrincipalId revision
  workspaceId := scope.workspaceId
  projectId := scope.projectId
  canvasId := scope.canvasId
  humanPrincipalId := humanPrincipalId
  role := role
  aclRevision := revision
  grantedBy := grantedBy
  grantedAt := now
  revokedAt := none

structure GrantInput where
  scope : AccessScope
  humanPrincipalId : String
  role : ProjectAccessRole
  grantedBy : ActorRef
deriving DecidableEq

structure RevokeInput where
  scope : AccessScope
  grantId : String
  actor : ActorRef
  expectedAclRevision : Nat
deriving DecidableEq

inductive GrantableRole where
  | editor | viewer
deriving DecidableEq

def GrantableRole.role : GrantableRole → ProjectAccessRole
  | .editor => .editor
  | .viewer => .viewer

inductive AccessOperation where
  | grant (humanPrincipalId : String) (role : GrantableRole)
  | revoke (grantId : String)
  | visibility (visibility : Visibility)
deriving DecidableEq

structure AccessMutationRequest where
  scope : AccessScope
  expectedAclRevision : Nat
  operation : AccessOperation
deriving DecidableEq

def requiredCapabilityForAccessMutation : AccessOperation → AccessCapability
  | .grant _ _ => .grant
  | .revoke _ => .revoke
  | .visibility _ => .visibility

inductive AccessMutationResult where
  | applied (aclRevision : Nat) (updatedAt : Timestamp)
  | conflict (aclRevision : Nat)
  | denied (reason : AccessDisabledReason) (aclRevision : Nat)
deriving DecidableEq

namespace ServerDatabase
variable (sha256 : Sha256) (engine : LatestFirst)

/-- The checks of `grant` before its transaction; they give the canonical id of the person. -/
def grantAllowed (input : GrantInput) (db : ServerDatabase) : Except AccessError String := do
  let humanPrincipalId ← db.canonicalizeTarget input.humanPrincipalId
  demand (input.role ≠ .owner) .projectOwnerGrantForbidden
  db.assertCanManage engine input.scope input.grantedBy
  return humanPrincipalId

def grantTransaction (input : GrantInput) (humanPrincipalId : String) (now : Timestamp) (db : ServerDatabase) :
    Except AccessError (MembershipGrant × ServerDatabase) := do
  let scope := input.scope
  db.assertNoPendingSnapshotRestore scope
  let project ← present (db.projectInternal scope.workspaceId scope.projectId) .projectRegistryNotFound
  demand (project.revokedAt = none) .projectRegistryNotFound
  let active ← db.activeWorkspacePrincipal scope.workspaceId humanPrincipalId
  demand active .accessGrantPrincipalNotActive
  let currentRevision ← present (db.revisionOf scope) .canvasRegistryNotFound
  let revision := currentRevision + 1
  let raised ← present (db.setRevision scope revision currentRevision false now) .accessGrantStaleRevision
  let grant := grantRow sha256 scope humanPrincipalId input.role revision input.grantedBy now
  let inserted ← raised.insertGrant grant
  return (grant, inserted)

def revokeRow (row : MembershipGrant) (expected : Nat) (now : Timestamp) (db : ServerDatabase) :
    Except AccessError (MembershipGrant × ServerDatabase) := do
  db.assertNoPendingSnapshotRestore row.scope
  demand (db.revisionOf row.scope = some expected) .accessGrantStaleRevision
  let nextRevision := expected + 1
  let raised ← present (db.setRevision row.scope nextRevision expected false now) .accessGrantStaleRevision
  let revoked ← present (raised.setRevoked row.grantId nextRevision now) .accessGrantRevisionConflict
  let after ← present (revoked.grants.find row.grantId) .accessGrantNotFound
  return (after, revoked)

def revokeTransaction (input : RevokeInput) (now : Timestamp) (db : ServerDatabase) :
    Except AccessError (MembershipGrant × ServerDatabase) := do
  let expected := input.expectedAclRevision
  db.assertNoPendingSnapshotRestore input.scope
  db.assertCanManage engine input.scope input.actor
  let row ← present (db.grantOf input.grantId input.scope) .accessGrantNotFound
  if row.revokedAt = none then db.revokeRow row expected now
  else
    demand (db.revisionOf row.scope = some row.aclRevision ∧
      (expected = row.aclRevision ∨ expected + 1 = row.aclRevision)) .accessGrantStaleRevision
    return (row, db)

/-- The answer when the capability is missing or the scope cannot be evaluated. -/
def denialOf (error : AccessError) : AccessDisabledReason :=
  match error with
  | .accessCapabilityDenied reason => reason
  | _ => .capabilityDenied

/-- The check of `compareAndSetAccess` before its transaction. -/
def compareAndSetAllowed (actor : ActorRef) (request : AccessMutationRequest) (db : ServerDatabase) :
    Except AccessMutationResult Unit :=
  match db.assertCapability engine request.scope actor (requiredCapabilityForAccessMutation request.operation) false with
  | .ok _ => .ok ()
  | .error error => .error (.denied (denialOf error) (db.currentAclRevision request.scope))

def visibilityTransaction (request : AccessMutationRequest) (visibility : Visibility) (now : Timestamp) (db : ServerDatabase) :
    AccessMutationResult × ServerDatabase :=
  let scope := request.scope
  let current := db.currentAclRevision scope
  if db.scopeRevokedAt scope ≠ some none then (.denied .scopePrivate current, db)
  else match db.setVisibility scope visibility current now with
    | none => (.conflict current, db)
    | some changed => (.applied (current + 1) now, changed)

def casGrantTransaction (actor : ActorRef) (request : AccessMutationRequest) (humanPrincipalId : String)
    (role : GrantableRole) (now : Timestamp) (db : ServerDatabase) :
    Except AccessError (AccessMutationResult × ServerDatabase) := do
  let scope := request.scope
  let current := db.currentAclRevision scope
  let grantTarget ← db.canonicalizeTarget humanPrincipalId
  let active ← db.activeWorkspacePrincipal scope.workspaceId grantTarget
  if !active then return (.denied .membershipMissing current, db)
  else if db.scopeRevokedAt scope.project ≠ some none ∨ (scope.canvasId ≠ none ∧ db.scopeRevokedAt scope ≠ some none) then
    return (.denied .scopePrivate current, db)
  else match db.setRevision scope (current + 1) current true now with
    | none => return (.conflict current, db)
    | some raised =>
      let inserted ← raised.insertGrant (grantRow sha256 scope grantTarget role.role (current + 1) actor now)
      return (.applied (current + 1) now, inserted)

def casRevokeTransaction (request : AccessMutationRequest) (grantId : String) (now : Timestamp) (db : ServerDatabase) :
    Except AccessError (AccessMutationResult × ServerDatabase) :=
  let scope := request.scope
  let current := db.currentAclRevision scope
  match db.grantOf grantId scope with
  | none => .ok (.denied .scopePrivate current, db)
  | some grant =>
    if grant.revokedAt ≠ none then .ok (.conflict current, db)
    else do
      let raised ← present (db.setRevision scope (current + 1) current true now) .accessScopeRevisionRace
      let revoked ← present (raised.setRevoked grantId (current + 1) now) .accessGrantRevisionRace
      return (.applied (current + 1) now, revoked)

def compareAndSetTransaction (actor : ActorRef) (request : AccessMutationRequest) (now : Timestamp) (db : ServerDatabase) :
    Except AccessError (AccessMutationResult × ServerDatabase) :=
  let current := db.currentAclRevision request.scope
  if current ≠ request.expectedAclRevision then .ok (.conflict current, db)
  else match request.operation with
    | .visibility visibility => .ok (db.visibilityTransaction request visibility now)
    | .grant humanPrincipalId role => db.casGrantTransaction sha256 actor request humanPrincipalId role now
    | .revoke grantId => db.casRevokeTransaction request grantId now

end ServerDatabase
end PlanWeave.Access
