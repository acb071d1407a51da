import Mathlib.Data.Prod.Lex
import Mathlib.Data.String.Basic
import PlanWeave.Access.Mutations

namespace PlanWeave.Access
open Checked InternalCanvasRecord

structure ProjectRegistration where
  workspaceId : String
  projectId : String
  projectRoot : String
  visibility : Visibility
  ownerHumanPrincipalId : Option String

structure CanvasRegistration where
  workspaceId : String
  projectId : String
  canvasId : String
  packageDir : String
  visibility : Visibility
  ownerHumanPrincipalId : Option String

def InternalProjectRecord.withOwner (owner : String) (now : Timestamp) (row : InternalProjectRecord) : InternalProjectRecord :=
  { row with ownerHumanPrincipalId := some owner, updatedAt := now }

theorem InternalProjectRecord.withOwner_scope (owner : String) (now : Timestamp) (row : InternalProjectRecord) :
    (row.withOwner owner now).scope = row.scope := rfl

def InternalCanvasRecord.withOwner (owner : String) (now : Timestamp) (row : InternalCanvasRecord) : InternalCanvasRecord :=
  { row with ownerHumanPrincipalId := some owner, updatedAt := now }

theorem InternalCanvasRecord.withOwner_scope (owner : String) (now : Timestamp) (row : InternalCanvasRecord) :
    (row.withOwner owner now).scope = row.scope := rfl

def InternalCanvasRecord.revoked (now : Timestamp) (row : InternalCanvasRecord) : InternalCanvasRecord :=
  { row with revokedAt := some now, updatedAt := now }

theorem InternalCanvasRecord.revoked_scope (now : Timestamp) (row : InternalCanvasRecord) : (row.revoked now).scope = row.scope :=
  rfl

inductive MembershipTransition where
  | memberJoined | memberRemoved | ownerPromoted | ownerDemoted
deriving DecidableEq

namespace ServerDatabase
variable (db : ServerDatabase)

def ownersMatch (left right : Option String) : Except AccessError Bool :=
  match left, right with
  | some left, some right => db.areEquivalent (some left) right
  | left, right => .ok (left == right)

/-- `upsertAclRegistryMigration`, of a migration in progress. -/
def upsertMigration (sourceKind : MigrationSource) (scope : AccessScope) : Except AccessError ServerDatabase :=
  match db.migrations.find (sourceKind, scope) with
  | some prior =>
    if prior.status = .completed then .error .aclRegistryCompletedCutoverImmutable
    else .ok { db with migrations := db.migrations.put ⟨sourceKind, scope, .inProgress⟩ }
  | none => .ok { db with migrations := db.migrations.put ⟨sourceKind, scope, .inProgress⟩ }

def ownerActive (workspaceId : String) (owner : Option String) : Except AccessError Bool :=
  match owner with
  | none => .ok true
  | some owner => db.activeWorkspacePrincipal workspaceId owner

/-- A registered project that is registered again must be as it was. -/
def registeredProject (input : ProjectRegistration) (owner : Option String) (project : InternalProjectRecord) :
    Except AccessError InternalProjectRecord := do
  demand (project.projectRoot = some input.projectRoot ∧ project.visibility = input.visibility) .projectRegistryConflict
  let same ← if owner = none then pure true else db.ownersMatch project.ownerHumanPrincipalId owner
  demand same (if project.ownerHumanPrincipalId = none then .projectRegistryOwnerInitializationRequired
    else .projectRegistryConflict)
  demand (project.revokedAt = none) .projectRegistryRevoked
  return project

def registerProjectInternal (input : ProjectRegistration) (now : Timestamp) :
    Except AccessError (InternalProjectRecord × ServerDatabase) := do
  let owner ← input.ownerHumanPrincipalId.mapM db.canonicalizeTarget
  match db.projectInternal input.workspaceId input.projectId with
  | some row =>
    let project ← db.registeredProject input owner row
    return (project, db)
  | none =>
    let active ← db.ownerActive input.workspaceId owner
    demand active .projectRegistryOwnerNotActive
    let project : InternalProjectRecord :=
      { workspaceId := input.workspaceId
        projectId := input.projectId
        projectRoot := some input.projectRoot
        visibility := input.visibility
        ownerHumanPrincipalId := owner
        aclRevision := 0
        updatedAt := now
        revokedAt := none }
    let projects ← present (db.projects.insert project) .uniqueConstraint
    let changed ← { db with projects }.upsertMigration .trustedProject project.scope
    return (project, changed)

/-- A registered canvas that is registered again must be as it was; a canvas without a path gets one. -/
def registeredCanvas (input : CanvasRegistration) (requestedOwner : Option String) (project : InternalProjectRecord)
    (canvas : InternalCanvasRecord) (now : Timestamp) : Except AccessError (InternalCanvasRecord × ServerDatabase) := do
  let expectedOwner := requestedOwner <|> project.ownerHumanPrincipalId
  demand ((canvas.packageDir = none ∨ canvas.packageDir = some input.packageDir) ∧ canvas.visibility = input.visibility)
    .canvasRegistryConflict
  let same ← if expectedOwner = none then pure true else db.ownersMatch canvas.ownerHumanPrincipalId expectedOwner
  demand same (if canvas.ownerHumanPrincipalId = none then .canvasRegistryOwnerInitializationRequired
    else .canvasRegistryConflict)
  demand (canvas.revokedAt = none) .canvasRegistryRevoked
  if canvas.packageDir ≠ none then return (canvas, db)
  else
    let migration := db.migrations.find (.trustedCanvas, canvas.scope)
    demand (migration.all fun migration => migration.status ≠ .completed) .canvasRegistryMigrationConflict
    let bound := { canvas with packageDir := some input.packageDir, updatedAt := now }
    let changed ← { db with canvases := db.canvases.put bound }.upsertMigration .trustedCanvas canvas.scope
    return (bound, changed)

def registerCanvasInternal (input : CanvasRegistration) (now : Timestamp) :
    Except AccessError (InternalCanvasRecord × ServerDatabase) := do
  let scope : AccessScope := ⟨input.workspaceId, input.projectId, some input.canvasId⟩
  let requestedOwner ← input.ownerHumanPrincipalId.mapM db.canonicalizeTarget
  let project ← present (db.projectInternal input.workspaceId input.projectId) .projectRegistryNotFound
  demand (project.revokedAt = none) .projectRegistryRevoked
  db.assertNoPendingSnapshotRestore scope
  match db.canvasInternal input.workspaceId input.projectId input.canvasId with
  | some row => db.registeredCanvas input requestedOwner project row now
  | none =>
    let owner := requestedOwner <|> project.ownerHumanPrincipalId
    let active ← db.ownerActive input.workspaceId owner
    demand active .canvasRegistryOwnerNotActive
    let canvas : InternalCanvasRecord :=
      { workspaceId := input.workspaceId
        projectId := input.projectId
        canvasId := input.canvasId
        packageDir := some input.packageDir
        visibility := input.visibility
        ownerHumanPrincipalId := owner
        aclRevision := 0
        updatedAt := now
        revokedAt := none }
    let canvases ← present (db.canvases.insert canvas) .uniqueConstraint
    let changed ← { db with canvases }.upsertMigration .trustedCanvas scope
    return (canvas, changed)

def registerPathlessCanvas (scope : AccessScope) (canvasId : String) (now : Timestamp) :
    Except AccessError (InternalCanvasRecord × ServerDatabase) := do
  let project ← present (db.projectInternal scope.workspaceId scope.projectId) .projectRegistryNotFound
  demand (project.revokedAt = none) .projectRegistryNotFound
  let owner ← present project.ownerHumanPrincipalId .projectRegistryOwnerMissing
  db.assertNoPendingSnapshotRestore { scope with canvasId := some canvasId }
  match db.canvasInternal scope.workspaceId scope.projectId canvasId with
  | some existing =>
    demand (existing.ownerHumanPrincipalId = some owner) .canvasRegistryConflict
    if existing.revokedAt = none then return (existing, db)
    else
      let restored := { existing with packageDir := none, revokedAt := none, updatedAt := now }
      return (restored, { db with canvases := db.canvases.put restored })
  | none =>
    let active ← db.activeWorkspacePrincipal scope.workspaceId owner
    demand active .canvasRegistryOwnerNotActive
    let canvas : InternalCanvasRecord :=
      { workspaceId := scope.workspaceId
        projectId := scope.projectId
        canvasId
        packageDir := none
        visibility := .private
        ownerHumanPrincipalId := some owner
        aclRevision := 0
        updatedAt := now
        revokedAt := none }
    let canvases ← present (db.canvases.insert canvas) .uniqueConstraint
    return (canvas, { db with canvases })

def replaceProjectOwner (scope : AccessScope) (previous : Option String) (owner : String) (now : Timestamp) :
    Except AccessError ServerDatabase := do
  let projects ← present (db.projects.updateOne
    (fun row => row.scope = scope ∧ row.ownerHumanPrincipalId = previous ∧ row.revokedAt = none)
    (InternalProjectRecord.withOwner owner now) (InternalProjectRecord.withOwner_scope owner now)) .projectRegistryOwnerConflict
  return { db with projects }

def replaceCanvasOwners (scope : AccessScope) (previous : Option String) (owner : String) (now : Timestamp) : ServerDatabase :=
  { db with
    canvases := db.canvases.update
      (fun row => row.scope.project = scope ∧ row.ownerHumanPrincipalId = previous ∧ row.revokedAt = none)
      (withOwner owner now) (withOwner_scope owner now) }

def initializeProjectOwner (workspaceId projectId owner : String) (now : Timestamp) :
    Except AccessError (InternalProjectRecord × ServerDatabase) := do
  let scope : AccessScope := ⟨workspaceId, projectId, none⟩
  let owner ← db.canonicalizeTarget owner
  let active ← db.activeWorkspacePrincipal workspaceId owner
  demand active .projectRegistryOwnerNotActive
  let project ← present (db.projectInternal workspaceId projectId) .projectRegistryNotFound
  demand (project.revokedAt = none) .projectRegistryNotFound
  db.assertNoPendingSnapshotRestore scope
  if project.ownerHumanPrincipalId ≠ none then
    let same ← db.ownersMatch project.ownerHumanPrincipalId (some owner)
    demand same .projectRegistryOwnerConflict
    return (project, db)
  else
    let owned ← db.replaceProjectOwner scope none owner now
    return (project.withOwner owner now, owned.replaceCanvasOwners scope none owner now)

def initializeCanvasOwner (workspaceId projectId canvasId owner : String) (now : Timestamp) :
    Except AccessError (InternalCanvasRecord × ServerDatabase) := do
  let scope : AccessScope := ⟨workspaceId, projectId, some canvasId⟩
  let owner ← db.canonicalizeTarget owner
  let active ← db.activeWorkspacePrincipal workspaceId owner
  demand active .canvasRegistryOwnerNotActive
  let canvas ← present (db.canvasInternal workspaceId projectId canvasId) .canvasRegistryNotFound
  demand (canvas.revokedAt = none) .canvasRegistryNotFound
  if canvas.ownerHumanPrincipalId ≠ none then
    let same ← db.ownersMatch canvas.ownerHumanPrincipalId (some owner)
    demand same .canvasRegistryOwnerConflict
    return (canvas, db)
  else
    db.assertNoPendingSnapshotRestore scope
    let canvases ← present (db.canvases.updateOne
      (fun row => row.scope = scope ∧ row.ownerHumanPrincipalId = none ∧ row.revokedAt = none)
      (withOwner owner now) (withOwner_scope owner now)) .canvasRegistryOwnerConflict
    return (canvas.withOwner owner now, { db with canvases })

/-- `materializeProjectOwnerInCallerTransaction`: a project without an owner gets one. -/
def materializeProjectOwner (project : InternalProjectRecord) (owner : String) (now : Timestamp) :
    Except AccessError ServerDatabase := do
  let owner ← db.canonicalizeTarget owner
  if project.ownerHumanPrincipalId ≠ none then return db
  else
    let active ← db.activeWorkspacePrincipal project.workspaceId owner
    demand active .projectRegistryOwnerNotActive
    let owned ← db.replaceProjectOwner project.scope none owner now
    return owned.replaceCanvasOwners project.scope none owner now

def nextActiveOwner (workspaceId projectId : String) : Option String :=
  ((db.projectMemberships.rows.filter fun row => row.projectId = projectId ∧ row.role = .owner ∧ row.revokedAt = none ∧
      db.activeAmong workspaceId [row.humanPrincipalId]).argmin
    fun row => toLex (row.createdAt, row.membershipId)).map (·.humanPrincipalId)

def transferProjectOwner (project : InternalProjectRecord) (owner : String) (now : Timestamp) :
    Except AccessError ServerDatabase := do
  let owner ← db.canonicalizeTarget owner
  let previous ← present project.ownerHumanPrincipalId .projectRegistryOwnerMissing
  let active ← db.activeWorkspacePrincipal project.workspaceId owner
  demand active .projectRegistryOwnerNotActive
  let owned ← db.replaceProjectOwner project.scope (some previous) owner now
  return owned.replaceCanvasOwners project.scope (some previous) owner now

def synchronizeHumanMembershipOwner (workspaceId projectId humanPrincipalId : String) (transition : MembershipTransition)
    (role : MembershipRole) (now : Timestamp) : Except AccessError ServerDatabase := do
  let scope : AccessScope := ⟨workspaceId, projectId, none⟩
  let humanPrincipalId ← db.canonicalizeTarget humanPrincipalId
  let project ← present (db.projectInternal workspaceId projectId) .projectRegistryNotFound
  demand (project.revokedAt = none) .projectRegistryNotFound
  db.assertNoPendingSnapshotRestore scope
  if (transition = .memberJoined ∧ role = .owner) ∨ transition = .ownerPromoted then
    db.materializeProjectOwner project humanPrincipalId now
  else if (transition = .memberRemoved ∨ transition = .ownerDemoted) ∧ project.ownerHumanPrincipalId = some humanPrincipalId then
    let replacement ← present (db.nextActiveOwner workspaceId projectId) .projectRegistryOwnerTransferRequired
    db.transferProjectOwner project replacement now
  else if transition = .memberRemoved then
    let owner ← present project.ownerHumanPrincipalId .projectRegistryOwnerMissing
    let active ← db.activeWorkspacePrincipal workspaceId owner
    demand active .projectRegistryOwnerNotActive
    return db.replaceCanvasOwners scope (some humanPrincipalId) owner now
  else return db

def reconcileRuntimeCanvases (workspaceId projectId : String) (trusted : List String) (now : Timestamp) :
    Except AccessError (Unit × ServerDatabase) := do
  let scope : AccessScope := ⟨workspaceId, projectId, none⟩
  let project ← present (db.projectInternal workspaceId projectId) .projectRegistryNotFound
  demand (project.revokedAt = none) .projectRegistryNotFound
  db.assertNoPendingSnapshotRestore scope
  let canvases := db.canvases.update
    (fun row => row.scope.project = scope ∧ row.revokedAt = none ∧ row.packageDir ≠ none ∧ row.canvasId ∉ trusted)
    (revoked now) (revoked_scope now)
  return ((), { db with canvases })

end ServerDatabase
end PlanWeave.Access
