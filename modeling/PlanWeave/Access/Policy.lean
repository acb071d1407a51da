import Mathlib.Data.List.MinMax
import PlanWeave.Access.Schema

namespace PlanWeave.Access
open Checked

inductive AccessCapability where
  | list | read | persistentCanvasCommand | assignment | comment | grant | revoke | administration | visibility
deriving DecidableEq

def accessCapabilities : List AccessCapability :=
  [.list, .read, .persistentCanvasCommand, .assignment, .comment, .grant, .revoke, .administration, .visibility]

def accessCapabilityMatrix : ProjectAccessRole → List AccessCapability
  | .viewer => [.list, .read]
  | .editor => [.list, .read, .persistentCanvasCommand, .assignment, .comment]
  | .owner => accessCapabilities

def roleHasAccessCapability (role : ProjectAccessRole) (capability : AccessCapability) : Bool :=
  capability ∈ accessCapabilityMatrix role

def accessCapabilityFlags (role : Option ProjectAccessRole) (capability : AccessCapability) : Bool :=
  role.any fun role => roleHasAccessCapability role capability

theorem accessCapabilityFlags_read {role : Option ProjectAccessRole} :
    accessCapabilityFlags role .read = true ↔ role ≠ none := by
  cases role with
  | none => decide
  | some role => cases role <;> decide

inductive AccessMembershipState where
  | active | missing | revoked

inductive AccessSessionState where
  | active | missing | expired | revoked

inductive EffectiveRoleSource where
  | scopeOwner | canvasGrant | projectGrant | sharedWorkspaceMembership
deriving DecidableEq

structure AccessRecord where
  scope : AccessScope
  visibility : Visibility
  aclRevision : Nat
  owner : String
  updatedAt : Timestamp

def projectAccessRecord (project : InternalProjectRecord) : Except AccessError AccessRecord :=
  match project.ownerHumanPrincipalId with
  | none => .error .projectRegistryOwnerMissing
  | some owner => .ok ⟨project.scope, project.visibility, project.aclRevision, owner, project.updatedAt⟩

def canvasAccessRecord (canvas : InternalCanvasRecord) : Except AccessError AccessRecord :=
  match canvas.ownerHumanPrincipalId with
  | none => .error .canvasRegistryOwnerMissing
  | some owner => .ok ⟨canvas.scope, canvas.visibility, canvas.aclRevision, owner, canvas.updatedAt⟩

structure EffectiveAccessEvaluation where
  scope : AccessScope
  humanPrincipalId : String
  membership : AccessMembershipState
  session : AccessSessionState
  project : AccessRecord
  canvas : Option AccessRecord
  projectGrant : Option MembershipGrant
  canvasGrant : Option MembershipGrant

structure EffectiveAccessView where
  scope : AccessScope
  aclRevision : Nat
  effectiveRole : Option ProjectAccessRole
  roleSource : Option EffectiveRoleSource
  disabledReason : Option AccessDisabledReason
deriving DecidableEq

def EffectiveAccessView.capabilities (view : EffectiveAccessView) : AccessCapability → Bool :=
  accessCapabilityFlags view.effectiveRole

/-- `checkGrant`: a grant of the evaluated scope, of the project or of the canvas, to the evaluated person. -/
def EffectiveAccessEvaluation.grantMatches (input : EffectiveAccessEvaluation) (expected : AccessScope)
    (grant : Option MembershipGrant) : Bool :=
  grant.all fun grant => grant.scope = expected ∧ grant.humanPrincipalId = input.humanPrincipalId

def EffectiveAccessEvaluation.canvasMatches (input : EffectiveAccessEvaluation) : Except AccessError Unit :=
  match input.scope.canvasId, input.canvas with
  | none, none => .ok ()
  | none, some _ => .error (.schema "project_scope_must_not_supply_canvas")
  | some _, none => .error (.schema "canvas_scope_requires_canvas")
  | some _, some canvas => demand (canvas.scope = input.scope) (.schema "cross_canvas")

def effectiveAccessEvaluationSchema (input : EffectiveAccessEvaluation) : Except AccessError Unit := do
  demand (input.project.scope = input.scope.project) (.schema "cross_project")
  input.canvasMatches
  demand (input.grantMatches input.scope.project input.projectGrant) (.schema "grant_scope_mismatch")
  demand (input.scope.canvasId = none → input.canvasGrant = none)
    (.schema "project_scope_must_not_supply_canvas_grant")
  demand (input.grantMatches input.scope input.canvasGrant) (.schema "grant_scope_mismatch")

def EffectiveAccessEvaluation.target (input : EffectiveAccessEvaluation) : AccessRecord :=
  input.canvas.getD input.project

def deniedAccess (input : EffectiveAccessEvaluation) (reason : AccessDisabledReason) : EffectiveAccessView :=
  ⟨input.scope, input.target.aclRevision, none, none, some reason⟩

def activeGrant (grant : Option MembershipGrant) : Option MembershipGrant := grant.filter (·.revokedAt = none)

/-- The canvas grant comes before the project grant, and both before the visibility. -/
def roleOf (input : EffectiveAccessEvaluation) : Option (ProjectAccessRole × EffectiveRoleSource) :=
  if input.target.owner = input.humanPrincipalId then some (.owner, .scopeOwner)
  else match activeGrant input.canvasGrant with
    | some grant => some (grant.role, .canvasGrant)
    | none => match activeGrant input.projectGrant with
      | some grant => some (grant.role, .projectGrant)
      | none => if input.target.visibility = .shared then some (.viewer, .sharedWorkspaceMembership) else none

def grantRevoked (input : EffectiveAccessEvaluation) : Bool :=
  input.canvasGrant.any (·.revokedAt ≠ none) || input.projectGrant.any (·.revokedAt ≠ none)

def evaluateEffectiveAccess (input : EffectiveAccessEvaluation) : Except AccessError EffectiveAccessView := do
  effectiveAccessEvaluationSchema input
  match input.membership, input.session with
  | .missing, _ => return deniedAccess input .membershipMissing
  | .revoked, _ => return deniedAccess input .membershipRevoked
  | .active, .missing => return deniedAccess input .sessionMissing
  | .active, .expired => return deniedAccess input .sessionExpired
  | .active, .revoked => return deniedAccess input .sessionRevoked
  | .active, .active =>
    match roleOf input with
    | none => return deniedAccess input (if grantRevoked input then .grantRevoked else .scopePrivate)
    | some (role, source) => return ⟨input.scope, input.target.aclRevision, some role, some source, none⟩

/-- `ORDER BY acl_revision DESC LIMIT 1`. Which of several rows of one revision comes first is left to the engine. -/
structure LatestFirst where
  first : List MembershipGrant → Option MembershipGrant
  first_none : ∀ rows, first rows = none → rows = []
  first_mem : ∀ rows row, first rows = some row → row ∈ rows
  first_highest : ∀ rows row, first rows = some row → ∀ other ∈ rows, other.aclRevision ≤ row.aclRevision

def LatestFirst.earliest : LatestFirst where
  first := List.argmax MembershipGrant.aclRevision
  first_none _ := List.argmax_eq_none.mp
  first_mem _ _ := List.argmax_mem
  first_highest _ _ found _ member := List.le_of_mem_argmax member found

namespace ServerDatabase
variable (engine : LatestFirst) (db : ServerDatabase)

def latestGrant (scope : AccessScope) (principalId : String) : Except AccessError (Option MembershipGrant) := do
  let ids ← db.equivalentIds principalId
  return engine.first (db.grants.rows.filter fun row => row.scope = scope ∧ row.humanPrincipalId ∈ ids)

def latestProjectGrant (project : InternalProjectRecord) (principalId : String) :
    Except AccessError (Option MembershipGrant) := db.latestGrant engine project.scope principalId

def latestCanvasGrant (canvas : InternalCanvasRecord) (principalId : String) :
    Except AccessError (Option MembershipGrant) := db.latestGrant engine canvas.scope principalId

/-- The canvas row of a scope: none asked for, missing or revoked, or there. -/
def scopeCanvas (scope : AccessScope) : Except AccessError (Option InternalCanvasRecord) :=
  match scope.canvasId with
  | none => .ok none
  | some canvasId => match db.canvasInternal scope.workspaceId scope.projectId canvasId with
    | none => .error .accessScopeNotFound
    | some canvas => if canvas.revokedAt ≠ none then .error .accessScopeNotFound else .ok (some canvas)

def scopeProject (scope : AccessScope) : Except AccessError InternalProjectRecord :=
  match db.projectInternal scope.workspaceId scope.projectId with
  | none => .error .accessScopeNotFound
  | some project => if project.revokedAt ≠ none then .error .accessScopeNotFound else .ok project

variable {scope : AccessScope}
variable {db} in
theorem scopeProject_ok {project : InternalProjectRecord} : db.scopeProject scope = .ok project ↔
    db.projects.find scope.project = some project ∧ project.revokedAt = none := by
  have same : db.projectInternal scope.workspaceId scope.projectId = db.projects.find scope.project := rfl
  unfold scopeProject
  rw [same]
  cases db.projects.find scope.project with
  | none => simp
  | some row => by_cases revoked : row.revokedAt = none <;> grind

variable {db} in
theorem scopeCanvas_ok {canvas : Option InternalCanvasRecord} : db.scopeCanvas scope = .ok canvas ↔
    (scope.canvasId = none ∧ canvas = none) ∨
      ∃ row, scope.canvasId ≠ none ∧ canvas = some row ∧ db.canvases.find scope = some row ∧ row.revokedAt = none := by
  obtain ⟨workspaceId, projectId, canvasId⟩ := scope
  cases canvasId with
  | none => simp [scopeCanvas, eq_comm]
  | some canvasId =>
    have same : db.canvasInternal workspaceId projectId canvasId =
      db.canvases.find ⟨workspaceId, projectId, some canvasId⟩ := rfl
    simp only [scopeCanvas, same]
    cases db.canvases.find ⟨workspaceId, projectId, some canvasId⟩ with
    | none => simp
    | some row => by_cases revoked : row.revokedAt = none <;> grind

def evaluate (scope : AccessScope) (actor : ActorRef) (session : AccessSessionState) :
    Except AccessError EffectiveAccessView := do
  let project ← db.scopeProject scope
  let canvas ← db.scopeCanvas scope
  demand (project.ownerHumanPrincipalId ≠ none ∧ !canvas.any (·.ownerHumanPrincipalId = none)) .accessScopeOwnerMissing
  let humanPrincipalId := if actor.kind = .human then actor.id else "non-human"
  let active ← if actor.kind = .human then db.activeWorkspacePrincipal scope.workspaceId humanPrincipalId else pure false
  let projectRecord ← projectAccessRecord project
  let canvasRecord ← canvas.mapM canvasAccessRecord
  let projectGrant ← db.latestProjectGrant engine project humanPrincipalId
  let canvasGrant ← match canvas with
    | none => pure none
    | some canvas => db.latestCanvasGrant engine canvas humanPrincipalId
  evaluateEffectiveAccess
    { scope, humanPrincipalId
      membership := if active then .active else .missing
      session
      project := projectRecord
      canvas := canvasRecord
      projectGrant, canvasGrant }

def assertCapability (scope : AccessScope) (actor : ActorRef) (capability : AccessCapability) (bootstrap : Bool) :
    Except AccessError EffectiveAccessView := do
  if actor.kind = .localAdmin then
    demand bootstrap .localAdminBootstrapOnly
    db.evaluate engine scope ⟨.human, "bootstrap"⟩ .active
  else
    let access ← db.evaluate engine scope actor .active
    demand (access.capabilities capability) (.accessCapabilityDenied (access.disabledReason.getD .capabilityDenied))
    return access

def assertCanManage (scope : AccessScope) (actor : ActorRef) : Except AccessError Unit := do
  let _ ← db.assertCapability engine scope actor .administration false

end ServerDatabase

inductive AccessDeniedReason where
  | missing | revoked
deriving DecidableEq

inductive ProjectAccessDecision where
  | allow (aclRevision : Nat)
  | deny (reason : AccessDeniedReason) (aclRevision : Nat)
deriving DecidableEq

def legacyDeniedReason : AccessDisabledReason → AccessDeniedReason
  | .membershipRevoked | .sessionRevoked | .grantRevoked => .revoked
  | _ => .missing

namespace ServerDatabase
variable (engine : LatestFirst) (db : ServerDatabase)

def decideScope (scope : AccessScope) (actor : ActorRef) : ProjectAccessDecision :=
  match db.evaluate engine scope actor .active with
  | .ok access =>
    if access.capabilities .read then .allow access.aclRevision
    else .deny (legacyDeniedReason (access.disabledReason.getD .capabilityDenied)) access.aclRevision
  | .error _ => .deny .missing 0

def decideProject (workspaceId projectId : String) (actor : ActorRef) : ProjectAccessDecision :=
  db.decideScope engine ⟨workspaceId, projectId, none⟩ actor

def decideCanvas (workspaceId projectId canvasId : String) (actor : ActorRef) : ProjectAccessDecision :=
  db.decideScope engine ⟨workspaceId, projectId, some canvasId⟩ actor

end ServerDatabase
end PlanWeave.Access
