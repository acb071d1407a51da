import PlanWeave.Lib.Table
import PlanWeave.Lib.Checked
import PlanWeave.Lib.Forwarding

namespace PlanWeave.Access
open List

abbrev Timestamp := String

inductive ActorKind where
  | human | localAdmin | system
deriving DecidableEq

structure ActorRef where
  kind : ActorKind
  id : String
deriving DecidableEq

inductive ProjectAccessRole where
  | owner | editor | viewer
deriving DecidableEq

inductive MembershipRole where
  | owner | member
deriving DecidableEq

inductive Visibility where
  | «private» | shared
deriving DecidableEq

/-- `accessScopeSchema`: a project scope has no canvas. -/
structure AccessScope where
  workspaceId : String
  projectId : String
  canvasId : Option String
deriving DecidableEq

namespace AccessScope

def project (scope : AccessScope) : AccessScope := { scope with canvasId := none }

end AccessScope

structure HumanPrincipal where
  humanPrincipalId : String
  displayName : String
  createdAt : Timestamp

structure WorkspacePrincipal where
  workspaceId : String
  humanPrincipalId : String
  displayName : String
  createdAt : Timestamp
  revokedAt : Option Timestamp

def WorkspacePrincipal.key (row : WorkspacePrincipal) : String × String := (row.workspaceId, row.humanPrincipalId)

structure WorkspaceMembership where
  workspaceId : String
  membershipId : String
  humanPrincipalId : String
  role : MembershipRole
  revision : Nat
  createdAt : Timestamp
  updatedAt : Timestamp
  revokedAt : Option Timestamp
deriving DecidableEq

def WorkspaceMembership.key (row : WorkspaceMembership) : String × String := (row.workspaceId, row.membershipId)

structure ProjectMembership where
  membershipId : String
  projectId : String
  humanPrincipalId : String
  role : MembershipRole
  revision : Nat
  createdAt : Timestamp
  updatedAt : Timestamp
  revokedAt : Option Timestamp
deriving DecidableEq

structure HumanPrincipalAlias where
  aliasHumanPrincipalId : String
  canonicalHumanPrincipalId : String

/-- `project_registry`; the registry id is the digest of workspace and project and stands for the two. -/
structure InternalProjectRecord where
  workspaceId : String
  projectId : String
  projectRoot : Option String
  visibility : Visibility
  ownerHumanPrincipalId : Option String
  aclRevision : Nat
  updatedAt : Timestamp
  revokedAt : Option Timestamp
deriving DecidableEq

def InternalProjectRecord.scope (row : InternalProjectRecord) : AccessScope := ⟨row.workspaceId, row.projectId, none⟩

/-- `canvas_registry`; the registry id is the digest of workspace, project and canvas and stands for the three. -/
structure InternalCanvasRecord where
  workspaceId : String
  projectId : String
  canvasId : String
  packageDir : Option String
  visibility : Visibility
  ownerHumanPrincipalId : Option String
  aclRevision : Nat
  updatedAt : Timestamp
  revokedAt : Option Timestamp

def InternalCanvasRecord.scope (row : InternalCanvasRecord) : AccessScope :=
  ⟨row.workspaceId, row.projectId, some row.canvasId⟩

/-- `project_access_grants`; `scope_kind` is canvas for the rows with a canvas. -/
structure MembershipGrant where
  grantId : String
  workspaceId : String
  projectId : String
  canvasId : Option String
  humanPrincipalId : String
  role : ProjectAccessRole
  aclRevision : Nat
  grantedBy : ActorRef
  grantedAt : Timestamp
  revokedAt : Option Timestamp
deriving DecidableEq

def MembershipGrant.scope (row : MembershipGrant) : AccessScope := ⟨row.workspaceId, row.projectId, row.canvasId⟩

inductive SnapshotState where
  | available | missing | revoked | stale | malformed
deriving DecidableEq

inductive RestoreMarker where
  | none | restorePending | restoreComplete
deriving DecidableEq

structure PackageSnapshot where
  snapshotId : String
  workspaceId : String
  projectId : String
  canvasId : String
  state : SnapshotState
  restoreMarker : RestoreMarker

inductive MigrationSource where
  | legacyProject | trustedProject | trustedCanvas
deriving DecidableEq

inductive MigrationStatus where
  | pending | inProgress | completed | interrupted | repairRequired | rolledBack
deriving DecidableEq

/-- `acl_registry_migrations`; the migration id is the digest of source and scope and stands for the two. -/
structure AclRegistryMigration where
  sourceKind : MigrationSource
  scope : AccessScope
  status : MigrationStatus

def AclRegistryMigration.key (row : AclRegistryMigration) : MigrationSource × AccessScope := (row.sourceKind, row.scope)

structure ServerDatabase where
  principals : Table WorkspacePrincipal.key
  memberships : Table WorkspaceMembership.key
  projectMemberships : Table ProjectMembership.membershipId
  aliases : Table HumanPrincipalAlias.aliasHumanPrincipalId
  projects : Table InternalProjectRecord.scope
  canvases : Table InternalCanvasRecord.scope
  grants : Table MembershipGrant.grantId
  snapshots : Table PackageSnapshot.snapshotId
  migrations : Table AclRegistryMigration.key
  humanPrincipals : Table HumanPrincipal.humanPrincipalId

namespace ServerDatabase

def empty : ServerDatabase := ⟨.empty, .empty, .empty, .empty, .empty, .empty, .empty, .empty, .empty, .empty⟩

end ServerDatabase

inductive AccessDisabledReason where
  | membershipMissing | membershipRevoked | sessionMissing | sessionExpired | sessionRevoked | scopePrivate
  | grantRevoked | capabilityDenied | aclRevisionConflict | crossWorkspace | crossProject | crossCanvas
deriving DecidableEq

/-- What a statement or a check of access control throws; `schema` is a value that its schema refuses. -/
inductive AccessError where
  | identityAliasCycle | accessScopeNotFound | accessScopeOwnerMissing | localAdminBootstrapOnly
  | accessCapabilityDenied (reason : AccessDisabledReason)
  | snapshotRestorePending | projectOwnerGrantForbidden | accessGrantPrincipalNotActive
  | accessGrantStaleRevision | accessGrantNotFound | accessGrantRevisionConflict
  | accessScopeRevisionRace | accessGrantRevisionRace
  | projectRegistryNotFound | projectRegistryRevoked | projectRegistryConflict
  | projectRegistryOwnerInitializationRequired | projectRegistryOwnerNotActive | projectRegistryOwnerMissing
  | projectRegistryOwnerConflict | projectRegistryOwnerTransferRequired
  | canvasRegistryNotFound | canvasRegistryRevoked | canvasRegistryConflict
  | canvasRegistryOwnerInitializationRequired | canvasRegistryOwnerNotActive | canvasRegistryOwnerMissing
  | canvasRegistryOwnerConflict | canvasRegistryMigrationConflict | aclRegistryCompletedCutoverImmutable
  | humanMembershipRequired | humanLastOwnerProtected | humanInputInvalid | humanBootstrapConflict
  | humanIdentityWorkspaceMismatch | workspacePrincipalProjectionConflict | workspaceNotFound | identityCheckRefused
  | identityMergeSamePrincipal | identityLimitExceeded | identityMergeConflict
  | snapshotNotFound | snapshotStaleAclRevision | snapshotRevokeConflict
  | uniqueConstraint | foreignKeyConstraint | schema (issue : String)
deriving DecidableEq

def inWriteTransaction {α : Type} (action : ServerDatabase → Except AccessError (α × ServerDatabase))
    (db : ServerDatabase) : Except AccessError α × ServerDatabase :=
  match action db with
  | .ok (value, changed) => (.ok value, changed)
  | .error reason => (.error reason, db)

namespace ServerDatabase
variable (db : ServerDatabase)

section Identity

/-- `SELECT canonical_human_principal_id FROM human_principal_aliases WHERE alias_human_principal_id=?` -/
def aliasOf (humanPrincipalId : String) : Option String :=
  (db.aliases.find humanPrincipalId).map (·.canonicalHumanPrincipalId)

def resolveCanonical (humanPrincipalId : String) : Except AccessError String :=
  match Forwarding.follow db.aliasOf (db.aliases.rows.length + 1) [] humanPrincipalId with
  | some canonical => .ok canonical
  | none => .error .identityAliasCycle

def canonicalizeTarget (humanPrincipalId : String) : Except AccessError String := db.resolveCanonical humanPrincipalId

def areEquivalent (left : Option String) (right : String) : Except AccessError Bool :=
  match left with
  | none => .ok false
  | some left => do
    let leftCanonical ← db.resolveCanonical left
    let rightCanonical ← db.resolveCanonical right
    return leftCanonical == rightCanonical

def equivalentIds (humanPrincipalId : String) : Except AccessError (List String) := do
  let canonical ← db.resolveCanonical humanPrincipalId
  return canonical :: (db.aliases.rows.map (·.aliasHumanPrincipalId)).filter fun id =>
    db.resolveCanonical id = .ok canonical

def Acyclic : Prop := ∀ id, ∃ canonical, Forwarding.Ends db.aliasOf id canonical

variable {db} {id canonical : String}

theorem resolveCanonical_ok : db.resolveCanonical id = .ok canonical ↔ Forwarding.Ends db.aliasOf id canonical := by
  have bounded : ∀ id, db.aliasOf id ≠ none → id ∈ db.aliases.rows.map (·.aliasHumanPrincipalId) := by
    intro id linked
    cases found : db.aliases.find id with
    | none => exact absurd (by rw [aliasOf, found]; rfl) linked
    | some =>
      obtain ⟨member, keyed⟩ := Table.find_eq_some.mp found
      exact keyed ▸ mem_map_of_mem member
  have ends : _ ↔ Forwarding.Ends db.aliasOf id canonical := Forwarding.follow_eq_some bounded
  rw [length_map] at ends
  unfold resolveCanonical
  rw [← ends]
  cases Forwarding.follow db.aliasOf (db.aliases.rows.length + 1) [] id with
  | none => simp
  | some => simp

theorem Acyclic.resolves (acyclic : db.Acyclic) (id : String) : ∃ canonical, db.resolveCanonical id = .ok canonical := by
  obtain ⟨canonical, ends⟩ := acyclic id
  exact ⟨canonical, resolveCanonical_ok.mpr ends⟩

def SamePerson (db : ServerDatabase) (id other : String) : Prop :=
  ∃ canonical, Forwarding.Ends db.aliasOf id canonical ∧ Forwarding.Ends db.aliasOf other canonical

theorem samePerson_iff (resolved : db.resolveCanonical id = .ok canonical) {other : String} :
    db.SamePerson id other ↔ db.resolveCanonical other = .ok canonical := by
  have ends := resolveCanonical_ok.mp resolved
  rw [resolveCanonical_ok]
  constructor
  · rintro ⟨_, ends', reaches⟩
    exact ends'.functional ends ▸ reaches
  · intro reaches
    exact ⟨canonical, ends, reaches⟩

theorem mem_equivalentIds {ids : List String} (found : db.equivalentIds id = .ok ids) {other : String} :
    other ∈ ids ↔ db.SamePerson id other := by
  obtain ⟨canonical, resolved, rest⟩ := Checked.bind_ok.mp found
  have ends := resolveCanonical_ok.mp resolved
  cases rest
  rw [mem_cons, mem_filter, decide_eq_true_eq, resolveCanonical_ok]
  constructor
  · rintro (rfl | ⟨_, reaches⟩)
    · exact ⟨other, ends, .here ends.last_none⟩
    · exact ⟨canonical, ends, reaches⟩
  · rintro ⟨_, ends', reaches⟩
    have same := ends'.functional ends
    subst same
    cases reaches with
    | here => exact .inl rfl
    | step link rest =>
      refine .inr ⟨?_, .step link rest⟩
      cases present : db.aliases.find other with
      | none => rw [aliasOf, present] at link; cases link
      | some =>
        obtain ⟨member, keyed⟩ := Table.find_eq_some.mp present
        exact keyed ▸ mem_map_of_mem member

end Identity

section Scopes

def projectInternal (workspaceId projectId : String) : Option InternalProjectRecord :=
  db.projects.find ⟨workspaceId, projectId, none⟩

def canvasInternal (workspaceId projectId canvasId : String) : Option InternalCanvasRecord :=
  db.canvases.find ⟨workspaceId, projectId, some canvasId⟩

/-- `SELECT 1 FROM workspace_principals p JOIN workspace_memberships m …` -/
def activeAmong (workspaceId : String) (ids : List String) : Bool :=
  db.principals.rows.any fun principal =>
    principal.workspaceId = workspaceId ∧ principal.humanPrincipalId ∈ ids ∧ principal.revokedAt = none ∧
      db.memberships.rows.any fun membership =>
        membership.workspaceId = principal.workspaceId ∧ membership.humanPrincipalId = principal.humanPrincipalId ∧
          membership.revokedAt = none

def activeWorkspacePrincipal (workspaceId principalId : String) : Except AccessError Bool := do
  let ids ← db.equivalentIds principalId
  return db.activeAmong workspaceId ids

def pending (snapshot : PackageSnapshot) : Bool :=
  snapshot.state = .available ∧ snapshot.restoreMarker = .restorePending

/-- `assertNoPendingSnapshotRestore`: of the canvas, or of any canvas of the project. -/
def assertNoPendingSnapshotRestore (scope : AccessScope) : Except AccessError Unit :=
  if db.snapshots.rows.any fun snapshot =>
      snapshot.workspaceId = scope.workspaceId ∧ snapshot.projectId = scope.projectId ∧
        (scope.canvasId = none ∨ scope.canvasId = some snapshot.canvasId) ∧ pending snapshot
  then .error .snapshotRestorePending
  else .ok ()

end Scopes
end ServerDatabase
end PlanWeave.Access
