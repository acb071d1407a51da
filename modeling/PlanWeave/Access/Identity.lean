import Mathlib.Data.List.Sort
import PlanWeave.Access.Registry

namespace PlanWeave.Access
open Checked

structure LegacyProject where
  projectId : String
  workspaceId : String
  cutoverComplete : Bool

structure IdentityDatabase extends ServerDatabase where
  legacyProjects : Table LegacyProject.projectId

/-- What a call brings: whether its checks on invitations, devices, display names, limits and the read cutover of the workspace
pass, the id of a new membership, the name of a new principal and the time at which it is created, and the time of the rest. -/
structure IdentityCall where
  accepted : Bool
  membershipId : String
  displayName : String
  createdAt : Timestamp
  now : Timestamp

def workspaceIdForLegacyProject (sha256 : Sha256) (projectId : String) : String :=
  "workspace-legacy-" ++ String.ofList ((sha256 projectId).toList.take 32)

def workspaceMembershipIdFor (sha256 : Sha256) (workspaceId humanPrincipalId : String) : String :=
  "workspace-membership-" ++ String.ofList ((sha256 (workspaceId ++ ":" ++ humanPrincipalId)).toList.take 32)

namespace ProjectMembership

def revoked (now : Timestamp) (row : ProjectMembership) : ProjectMembership :=
  { row with revokedAt := some now, updatedAt := now, revision := row.revision + 1 }

theorem revoked_membershipId (now : Timestamp) (row : ProjectMembership) : (row.revoked now).membershipId = row.membershipId := rfl

def withRole (role : MembershipRole) (now : Timestamp) (row : ProjectMembership) : ProjectMembership :=
  { row with role, updatedAt := now, revision := row.revision + 1 }

theorem withRole_membershipId (role : MembershipRole) (now : Timestamp) (row : ProjectMembership) :
    (row.withRole role now).membershipId = row.membershipId := rfl

def projection (sha256 : Sha256) (workspaceId humanPrincipalId : String) (rows : List ProjectMembership) :
    Option WorkspaceMembership := do
  let active := rows.filter (·.revokedAt = none)
  let newest ← rows.argmax fun row => toLex (row.revision, toLex (row.updatedAt, row.membershipId))
  let createdAt ← (rows.map ProjectMembership.createdAt).min?
  let updatedAt ← (rows.map ProjectMembership.updatedAt).max?
  let revision ← (rows.map ProjectMembership.revision).max?
  let lastRevoked ← (rows.map fun row => row.revokedAt.getD row.updatedAt).max?
  return {
    workspaceId
    membershipId := workspaceMembershipIdFor sha256 workspaceId humanPrincipalId
    humanPrincipalId
    role := if active.any (·.role = .owner) then .owner else if active ≠ [] then .member else newest.role
    revision
    createdAt
    updatedAt
    revokedAt := if active ≠ [] then none else some lastRevoked }

end ProjectMembership

/-- The canonical id's row, else an owner's, else the first. -/
def selectMembership {R : Type} (person : R → String) (role : R → MembershipRole) (canonical : String) (rows : List R) : Option R :=
  (rows.find? fun row => person row = canonical).or ((rows.find? fun row => role row = .owner).or rows.head?)

/-- The place of a character of an identifier in the root collation: marks, digits, and letters whatever their case. -/
def collationRank (c : Char) : Nat :=
  if c.isAlpha then 14 + (c.toLower.toNat - 'a'.toNat)
  else if c.isDigit then 4 + (c.toNat - '0'.toNat)
  else ['_', '-', ':', '.'].idxOf c

/-- `localeCompare` of identifiers; a small letter comes before the same capital one. -/
def collationKey (id : String) : List Nat ×ₗ List Nat :=
  toLex (id.toList.map collationRank, id.toList.map fun c => if c.isUpper then 1 else 0)

/-- `INSERT … ON CONFLICT(workspace_id,membership_id) DO UPDATE`; a person has one active membership of a workspace. -/
def upsertMembership (memberships : Table WorkspaceMembership.key) (row : WorkspaceMembership) :
    Except AccessError (Table WorkspaceMembership.key) := do
  demand (row.revokedAt = none → memberships.count (fun other => other.workspaceId = row.workspaceId ∧
    other.humanPrincipalId = row.humanPrincipalId ∧ other.revokedAt = none ∧ other.membershipId ≠ row.membershipId) = 0)
    .uniqueConstraint
  return memberships.put row

namespace IdentityDatabase
variable (sha256 : Sha256) (db : IdentityDatabase)

def workspaceForLegacyProject (projectId : String) : Option String := (db.legacyProjects.find projectId).map (·.workspaceId)

def ensureWorkspaceForLegacyProject (projectId : String) : String × IdentityDatabase :=
  match db.workspaceForLegacyProject projectId with
  | some workspaceId => (workspaceId, db)
  | none =>
    let workspaceId := workspaceIdForLegacyProject sha256 projectId
    (workspaceId, { db with legacyProjects := db.legacyProjects.put ⟨projectId, workspaceId, true⟩ })

def assertNoPendingProjectRestore (projectId : String) : Except AccessError Unit :=
  match db.workspaceForLegacyProject projectId with
  | some workspaceId => db.assertNoPendingSnapshotRestore ⟨workspaceId, projectId, none⟩
  | none => .ok ()

section Memberships

def getActiveMembership (projectId humanPrincipalId : String) : Except AccessError (Option ProjectMembership) := do
  let ids ← db.equivalentIds humanPrincipalId
  let canonical ← db.resolveCanonical humanPrincipalId
  return selectMembership ProjectMembership.humanPrincipalId ProjectMembership.role canonical
    (db.projectMemberships.rows.filter fun row => row.projectId = projectId ∧ row.humanPrincipalId ∈ ids ∧ row.revokedAt = none)

def countActiveOwners (projectId : String) : Nat :=
  db.projectMemberships.count fun row => row.projectId = projectId ∧ row.role = .owner ∧ row.revokedAt = none

/-- `insertPrincipal` of the membership store: a principal that is there is kept. -/
def insertHuman (humanPrincipalId : String) (call : IdentityCall) : IdentityDatabase :=
  if (db.humanPrincipals.find humanPrincipalId).isSome then db
  else { db with humanPrincipals := db.humanPrincipals.put ⟨humanPrincipalId, call.displayName, call.createdAt⟩ }

def insertMembership (projectId humanPrincipalId : String) (role : MembershipRole) (call : IdentityCall) :
    Except AccessError IdentityDatabase := do
  demand ((db.humanPrincipals.find humanPrincipalId).isSome) .foreignKeyConstraint
  demand (db.projectMemberships.count (fun row => row.projectId = projectId ∧ row.humanPrincipalId = humanPrincipalId ∧
    row.revokedAt = none) = 0) .humanInputInvalid
  let row : ProjectMembership := ⟨call.membershipId, projectId, humanPrincipalId, role, 1, call.now, call.now, none⟩
  let projectMemberships ← Checked.present (db.projectMemberships.insert row) .humanInputInvalid
  return { db with projectMemberships }

/-- `UPDATE project_memberships … WHERE membership_id=? AND revoked_at IS NULL` -/
def updateMembership (membershipId : String) (f : ProjectMembership → ProjectMembership)
    (keeps : ∀ row, (f row).membershipId = row.membershipId) : Except AccessError IdentityDatabase := do
  let projectMemberships ← Checked.present (db.projectMemberships.updateOne
    (fun row => row.membershipId = membershipId ∧ row.revokedAt = none) f keeps) .humanMembershipRequired
  return { db with projectMemberships }

def removeMembership (projectId humanPrincipalId : String) (now : Timestamp) :
    Except AccessError (ProjectMembership × IdentityDatabase) := do
  let found ← db.getActiveMembership projectId humanPrincipalId
  let membership ← Checked.present found .humanMembershipRequired
  demand (membership.role = .owner → 1 < db.countActiveOwners projectId) .humanLastOwnerProtected
  let changed ← db.updateMembership membership.membershipId (ProjectMembership.revoked now) (ProjectMembership.revoked_membershipId now)
  return (membership, changed)

def promoteMembership (projectId humanPrincipalId : String) (now : Timestamp) :
    Except AccessError (ProjectMembership × Bool × IdentityDatabase) := do
  let found ← db.getActiveMembership projectId humanPrincipalId
  let membership ← Checked.present found .humanMembershipRequired
  if membership.role = .owner then return (membership, false, db)
  else
    let changed ← db.updateMembership membership.membershipId (ProjectMembership.withRole .owner now)
      (ProjectMembership.withRole_membershipId .owner now)
    return (membership.withRole .owner now, true, changed)

def demoteMembership (projectId humanPrincipalId : String) (now : Timestamp) :
    Except AccessError (ProjectMembership × IdentityDatabase) := do
  let found ← db.getActiveMembership projectId humanPrincipalId
  let membership ← Checked.present found .humanMembershipRequired
  demand (membership.role = .owner) .humanInputInvalid
  demand (1 < db.countActiveOwners projectId) .humanLastOwnerProtected
  let changed ← db.updateMembership membership.membershipId (ProjectMembership.withRole .member now)
    (ProjectMembership.withRole_membershipId .member now)
  return (membership.withRole .member now, changed)

end Memberships

section Projection

def sourceMemberships (workspaceId currentProjectId : String) : List ProjectMembership :=
  db.projectMemberships.rows.filter fun row => (db.legacyProjects.find row.projectId).any fun project =>
    project.workspaceId = workspaceId ∧ (project.cutoverComplete = true ∨ project.projectId = currentProjectId)

def workspaceMembershipProjections (workspaceId currentProjectId : String) : List WorkspaceMembership :=
  let sources := db.sourceMemberships workspaceId currentProjectId
  let people := (sources.map ProjectMembership.humanPrincipalId).dedup.insertionSort fun left right =>
    collationKey left ≤ collationKey right
  people.filterMap fun humanPrincipalId =>
    ProjectMembership.projection sha256 workspaceId humanPrincipalId (sources.filter (·.humanPrincipalId = humanPrincipalId))

/-- Every membership of the workspace is replaced by its projection, or deleted. -/
def projectWorkspaceMemberships (workspaceId currentProjectId : String) : Except AccessError IdentityDatabase := do
  let projections := db.workspaceMembershipProjections sha256 workspaceId currentProjectId
  let kept := db.memberships.delete fun row => row.workspaceId = workspaceId ∧ row.membershipId ∉ projections.map (·.membershipId)
  let present := projections.filter fun row => (db.principals.find (workspaceId, row.humanPrincipalId)).isSome
  let memberships ← present.foldlM upsertMembership kept
  return { db with memberships }

def workspaceIdsForHumanPrincipal (humanPrincipalId : String) : Except AccessError (List String) := do
  let ids ← db.equivalentIds humanPrincipalId
  return (db.principals.rows.filter (·.humanPrincipalId ∈ ids)).map (·.workspaceId) ++
    (db.projectMemberships.rows.filter (·.humanPrincipalId ∈ ids)).filterMap fun row => db.workspaceForLegacyProject row.projectId

def assertPrincipalWorkspace (humanPrincipalId workspaceId : String) : Except AccessError Unit := do
  let bound ← db.workspaceIdsForHumanPrincipal humanPrincipalId
  demand (∀ candidate ∈ bound, candidate = workspaceId) .humanIdentityWorkspaceMismatch

/-- The principal of a member is inserted; a revoked one, or one of another name or time, is a conflict. -/
def syncPrincipal (workspaceId : String) (db : IdentityDatabase) (human : HumanPrincipal) : Except AccessError IdentityDatabase := do
  db.assertPrincipalWorkspace human.humanPrincipalId workspaceId
  match db.principals.find (workspaceId, human.humanPrincipalId) with
  | some principal =>
    demand (principal.displayName = human.displayName ∧ principal.createdAt = human.createdAt ∧ principal.revokedAt = none)
      .workspacePrincipalProjectionConflict
    return db
  | none =>
    let principal : WorkspacePrincipal := ⟨workspaceId, human.humanPrincipalId, human.displayName, human.createdAt, none⟩
    return { db with principals := db.principals.put principal }

def projectPeople (projectId : String) : List HumanPrincipal :=
  db.humanPrincipals.rows.filter fun human =>
    db.projectMemberships.rows.any fun row => row.projectId = projectId ∧ row.humanPrincipalId = human.humanPrincipalId

def syncWorkspaceProject (workspaceId projectId : String) : Except AccessError IdentityDatabase := do
  let joined ← (db.projectPeople projectId).foldlM (syncPrincipal workspaceId) db
  joined.projectWorkspaceMemberships sha256 workspaceId projectId

end Projection

section Operations

def transition (projectId humanPrincipalId : String) (kind : MembershipTransition) (role : MembershipRole) (now : Timestamp) :
    Except AccessError IdentityDatabase := do
  let workspaceId ← Checked.present (db.workspaceForLegacyProject projectId) .workspaceNotFound
  let changed ← db.synchronizeHumanMembershipOwner workspaceId projectId humanPrincipalId kind role now
  return { db with toServerDatabase := changed }

def bootstrapOwner (projectId humanPrincipalId : String) (call : IdentityCall) : Except AccessError IdentityDatabase := do
  db.assertNoPendingProjectRestore projectId
  let (workspaceId, ensured) := db.ensureWorkspaceForLegacyProject sha256 projectId
  demand call.accepted .identityCheckRefused
  ensured.assertPrincipalWorkspace humanPrincipalId workspaceId
  let owners := ensured.projectMemberships.rows.filter fun row =>
    row.projectId = projectId ∧ row.role = .owner ∧ row.revokedAt = none
  let same ← owners.mapM fun row => ensured.areEquivalent (some row.humanPrincipalId) humanPrincipalId
  demand (owners = [] ∨ same.any id) .humanBootstrapConflict
  let known := ensured.insertHuman humanPrincipalId call
  if same.any id then known.syncWorkspaceProject sha256 workspaceId projectId
  else
    let joined ← known.insertMembership projectId humanPrincipalId .owner call
    let synced ← joined.syncWorkspaceProject sha256 workspaceId projectId
    synced.transition projectId humanPrincipalId .memberJoined .owner call.now

def consumeInvitation (projectId humanPrincipalId : String) (existing : Bool) (call : IdentityCall) :
    Except AccessError IdentityDatabase := do
  db.assertNoPendingProjectRestore projectId
  let (workspaceId, ensured) := db.ensureWorkspaceForLegacyProject sha256 projectId
  demand call.accepted .identityCheckRefused
  if existing then
    demand ((ensured.humanPrincipals.find humanPrincipalId).isSome) .identityCheckRefused
    ensured.assertPrincipalWorkspace humanPrincipalId workspaceId
  let known := ensured.insertHuman humanPrincipalId call
  let member ← known.getActiveMembership projectId humanPrincipalId
  demand (member = none) .humanInputInvalid
  let joined ← known.insertMembership projectId humanPrincipalId .member call
  let synced ← joined.syncWorkspaceProject sha256 workspaceId projectId
  synced.transition projectId humanPrincipalId .memberJoined .member call.now

def removeMember (projectId humanPrincipalId : String) (call : IdentityCall) : Except AccessError IdentityDatabase := do
  db.assertNoPendingProjectRestore projectId
  let (membership, removed) ← db.removeMembership projectId humanPrincipalId call.now
  demand call.accepted .identityCheckRefused
  let (workspaceId, ensured) := removed.ensureWorkspaceForLegacyProject sha256 projectId
  let synced ← ensured.syncWorkspaceProject sha256 workspaceId projectId
  synced.transition projectId membership.humanPrincipalId .memberRemoved membership.role call.now

def promoteToOwner (projectId humanPrincipalId : String) (call : IdentityCall) : Except AccessError IdentityDatabase := do
  db.assertNoPendingProjectRestore projectId
  let (membership, changed, promoted) ← db.promoteMembership projectId humanPrincipalId call.now
  demand call.accepted .identityCheckRefused
  let owned ← if changed then promoted.transition projectId membership.humanPrincipalId .ownerPromoted membership.role call.now
    else pure promoted
  let (workspaceId, ensured) := owned.ensureWorkspaceForLegacyProject sha256 projectId
  ensured.syncWorkspaceProject sha256 workspaceId projectId

def demoteOwner (projectId humanPrincipalId : String) (call : IdentityCall) : Except AccessError IdentityDatabase := do
  db.assertNoPendingProjectRestore projectId
  let (membership, demoted) ← db.demoteMembership projectId humanPrincipalId call.now
  demand call.accepted .identityCheckRefused
  let (workspaceId, ensured) := demoted.ensureWorkspaceForLegacyProject sha256 projectId
  let synced ← ensured.syncWorkspaceProject sha256 workspaceId projectId
  synced.transition projectId membership.humanPrincipalId .ownerDemoted membership.role call.now

def revokeDevice (projectId : String) (call : IdentityCall) : Except AccessError IdentityDatabase := do
  demand call.accepted .identityCheckRefused
  let (workspaceId, ensured) := db.ensureWorkspaceForLegacyProject sha256 projectId
  ensured.syncWorkspaceProject sha256 workspaceId projectId

def findActiveMembership (workspaceId humanPrincipalId : String) : Except AccessError (Option WorkspaceMembership) := do
  let ids ← db.equivalentIds humanPrincipalId
  let canonical ← db.resolveCanonical humanPrincipalId
  return selectMembership WorkspaceMembership.humanPrincipalId WorkspaceMembership.role canonical
    (db.memberships.rows.filter fun row => row.workspaceId = workspaceId ∧ row.humanPrincipalId ∈ ids ∧ row.revokedAt = none ∧
      (db.principals.find (workspaceId, row.humanPrincipalId)).any (·.revokedAt = none))

def insertPrincipal (workspaceId humanPrincipalId : String) (call : IdentityCall) : IdentityDatabase :=
  if (db.principals.find (workspaceId, humanPrincipalId)).isSome then db
  else
    let principal : WorkspacePrincipal := ⟨workspaceId, humanPrincipalId, call.displayName, call.now, none⟩
    { db with principals := db.principals.put principal }

def insertWorkspaceMembership (workspaceId humanPrincipalId : String) (role : MembershipRole) (call : IdentityCall) :
    Except AccessError IdentityDatabase := do
  demand (db.memberships.count (fun row => row.workspaceId = workspaceId ∧ row.humanPrincipalId = humanPrincipalId ∧
    row.revokedAt = none) = 0) .uniqueConstraint
  let row : WorkspaceMembership :=
    ⟨workspaceId, "membership-" ++ call.membershipId, humanPrincipalId, role, 1, call.now, call.now, none⟩
  let memberships ← Checked.present (db.memberships.insert row) .uniqueConstraint
  return { db with memberships }

/-- `redeemDevice`, of a code of the workspace, by a person whom an existing credential names, or under a new id; a new member
becomes the owner of the trusted projects that have none. -/
def redeemDevice (trusted : List AccessScope) (workspaceId humanPrincipalId : String) (call : IdentityCall) :
    Except AccessError IdentityDatabase := do
  demand call.accepted .identityCheckRefused
  let person ← db.resolveCanonical humanPrincipalId
  let resolved := db.insertHuman person call
  let existing ← resolved.findActiveMembership workspaceId person
  let members := resolved.memberships.count fun row => row.workspaceId = workspaceId ∧ row.revokedAt = none
  let known := resolved.insertPrincipal workspaceId person call
  match existing with
  | some _ => return known
  | none =>
    let role := if members = 0 then MembershipRole.owner else .member
    let joined ← known.insertWorkspaceMembership workspaceId person role call
    let projects := (trusted.filter (·.workspaceId = workspaceId)).map (·.projectId)
    let changed ← projects.dedup.foldlM (fun (current : ServerDatabase) projectId =>
      current.synchronizeHumanMembershipOwner workspaceId projectId person .memberJoined role call.now) joined.toServerDatabase
    return { joined with toServerDatabase := changed }

end Operations
end IdentityDatabase
end PlanWeave.Access
