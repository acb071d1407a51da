import PlanWeave.Access.Registry
import PlanWeave.Lib.Consolidation

namespace PlanWeave.Access
open List Option WorkspacePrincipal

def keptRole (roles : List MembershipRole) : MembershipRole := if .owner ∈ roles then .owner else .member

section Memberships
variable {R : Type}

/-- The row of the canonical id, else the first of the kept role. -/
def membershipSurvivor (person : R → String) (role : R → MembershipRole) (target : String) (rows : List R) : Option R :=
  (rows.find? fun row => person row = target).or ((rows.find? fun row => role row = keptRole (rows.map role)).or rows.head?)

variable {person : R → String} {role : R → MembershipRole}

theorem keptRole_owner {rows : List R} : keptRole (rows.map role) = .owner ↔ ∃ row ∈ rows, role row = .owner := by
  unfold keptRole
  split
  · rename_i present
    exact iff_of_true rfl (mem_map.mp present)
  · rename_i absent
    exact iff_of_false MembershipRole.noConfusion fun found => absent (mem_map.mpr found)

theorem membershipSurvivor_mem {target : String} (rows : List R) (row : R)
    (survives : membershipSurvivor person role target rows = some row) : row ∈ rows := by
  rcases or_eq_some_iff.mp survives with found | ⟨_, later⟩
  · exact mem_of_find?_eq_some found
  · rcases or_eq_some_iff.mp later with found | ⟨_, first⟩
    · exact mem_of_find?_eq_some found
    · exact mem_of_head? first

theorem membershipSurvivor_none {target : String} (rows : List R)
    (none : membershipSurvivor person role target rows = none) : rows = [] := by
  rw [membershipSurvivor, or_eq_none_iff, or_eq_none_iff] at none
  exact head?_eq_none_iff.mp none.2.2

end Memberships

def WorkspaceMembership.rewritten (row : WorkspaceMembership) (target : String) (role : MembershipRole) (now : Timestamp) :
    WorkspaceMembership :=
  { row with humanPrincipalId := target, role, updatedAt := now, revision := row.revision + 1 }

def membershipConsolidation (ids : List String) (target : String) (now : Timestamp) :
    Consolidation WorkspaceMembership.key String where
  touched row := row.humanPrincipalId ∈ ids ∧ row.revokedAt = none
  group := WorkspaceMembership.workspaceId
  survivor := membershipSurvivor WorkspaceMembership.humanPrincipalId WorkspaceMembership.role target
  settle rows row :=
    let role := keptRole (rows.map WorkspaceMembership.role)
    if row.humanPrincipalId = target ∧ row.role = role then row else row.rewritten target role now
  drop row := { row with revokedAt := some now, updatedAt := now, revision := row.revision + 1 }
  survivor_mem := membershipSurvivor_mem
  survivor_none := membershipSurvivor_none
  settle_key rows row := by
    dsimp only
    split <;> rfl
  drop_key _ := rfl

def ProjectMembership.rewritten (row : ProjectMembership) (target : String) (role : MembershipRole) (now : Timestamp) :
    ProjectMembership :=
  { row with humanPrincipalId := target, role, updatedAt := now, revision := row.revision + 1 }

def projectMembershipConsolidation (ids : List String) (target : String) (now : Timestamp) :
    Consolidation ProjectMembership.membershipId String where
  touched row := row.humanPrincipalId ∈ ids ∧ row.revokedAt = none
  group := ProjectMembership.projectId
  survivor := membershipSurvivor ProjectMembership.humanPrincipalId ProjectMembership.role target
  settle rows row :=
    let role := keptRole (rows.map ProjectMembership.role)
    if row.humanPrincipalId = target ∧ row.role = role then row else row.rewritten target role now
  drop row := { row with revokedAt := some now, updatedAt := now, revision := row.revision + 1 }
  survivor_mem := membershipSurvivor_mem
  survivor_none := membershipSurvivor_none
  settle_key rows row := by
    dsimp only
    split <;> rfl
  drop_key _ := rfl

def grantRank : ProjectAccessRole → Nat
  | .owner => 3
  | .editor => 2
  | .viewer => 1

/-- The more permissive role is better, and of equal roles the higher revision. -/
def grantBetter (left right : MembershipGrant) : Bool :=
  if grantRank left.role ≠ grantRank right.role then grantRank right.role < grantRank left.role
  else right.aclRevision < left.aclRevision

def bestGrant : List MembershipGrant → Option MembershipGrant
  | [] => none
  | first :: rest => some (rest.foldl (fun best row => if grantBetter row best then row else best) first)

def grantSurvivor (target : String) (rows : List MembershipGrant) : Option MembershipGrant :=
  (rows.find? fun row => row.humanPrincipalId = target).or (bestGrant rows)

/-- The canonical grant takes the role of a better one, and the higher revision; without a canonical grant the best one
gets the canonical id. -/
def settleGrant (target : String) (rows : List MembershipGrant) (row : MembershipGrant) : MembershipGrant :=
  if row.humanPrincipalId ≠ target then { row with humanPrincipalId := target }
  else match bestGrant rows with
    | none => row
    | some kept => if grantBetter kept row then
        { row with role := kept.role, aclRevision := max kept.aclRevision row.aclRevision, revokedAt := none }
      else row

theorem foldl_best_mem {rest : List MembershipGrant} {first : MembershipGrant} :
    rest.foldl (fun best row => if grantBetter row best then row else best) first ∈ first :: rest := by
  induction rest generalizing first with
  | nil => exact mem_singleton_self first
  | cons _ _ ih =>
    rw [foldl_cons]
    split
    · exact mem_cons_of_mem _ ih
    · rcases mem_cons.mp ih with same | member
      · exact mem_cons.mpr (.inl same)
      · exact mem_cons_of_mem _ (mem_cons_of_mem _ member)

theorem bestGrant_mem {rows : List MembershipGrant} {kept : MembershipGrant} (best : bestGrant rows = some kept) :
    kept ∈ rows := by
  cases rows with
  | nil => cases best
  | cons =>
    cases best
    exact foldl_best_mem

theorem grantSurvivor_mem (target : String) (rows : List MembershipGrant) (row : MembershipGrant)
    (survives : grantSurvivor target rows = some row) : row ∈ rows := by
  rcases or_eq_some_iff.mp survives with found | ⟨_, best⟩
  · exact mem_of_find?_eq_some found
  · exact bestGrant_mem best

theorem grantSurvivor_none (target : String) (rows : List MembershipGrant) (none : grantSurvivor target rows = none) :
    rows = [] := by
  cases rows with
  | nil => rfl
  | cons => simp [grantSurvivor, bestGrant] at none

def grantConsolidation (ids : List String) (target : String) (now : Timestamp) :
    Consolidation MembershipGrant.grantId AccessScope where
  touched row := row.humanPrincipalId ∈ ids ∧ row.revokedAt = none
  group := MembershipGrant.scope
  survivor := grantSurvivor target
  settle := settleGrant target
  drop row := { row with revokedAt := some now }
  survivor_mem := grantSurvivor_mem target
  survivor_none := grantSurvivor_none target
  settle_key rows row := by
    unfold settleGrant
    split
    · rfl
    · split
      · rfl
      · split <;> rfl
  drop_key _ := rfl

def WorkspacePrincipal.revoked (now : Timestamp) (row : WorkspacePrincipal) : WorkspacePrincipal :=
  { row with revokedAt := some now }

theorem WorkspacePrincipal.revoked_key (now : Timestamp) (row : WorkspacePrincipal) : (row.revoked now).key = row.key := rfl

namespace ServerDatabase
variable (db : ServerDatabase)

def workspacesOf (ids : List String) : List String :=
  ((db.principals.rows.filter fun row => row.humanPrincipalId ∈ ids).map WorkspacePrincipal.workspaceId).dedup

/-- The canonical principal of a workspace is inserted under the name of the first of the others, or is no longer revoked. -/
def ensureCanonicalPrincipal (ids : List String) (target : String) (now : Timestamp) (principals : Table key)
    (workspaceId : String) : Table key :=
  match principals.find (workspaceId, target) with
  | some row => if row.revokedAt ≠ none then principals.put { row with revokedAt := none } else principals
  | none =>
    match principals.rows.find? fun row => row.workspaceId = workspaceId ∧ row.humanPrincipalId ∈ ids with
    | some donor => principals.put ⟨workspaceId, target, donor.displayName, now, none⟩
    | none => principals

def ensureCanonicalPrincipals (ids : List String) (target : String) (now : Timestamp) : ServerDatabase :=
  { db with principals := (db.workspacesOf ids).foldl (ensureCanonicalPrincipal ids target now) db.principals }

def consolidateMemberships (ids : List String) (target : String) (now : Timestamp) : ServerDatabase :=
  { db with memberships := (membershipConsolidation ids target now).consolidate db.memberships }

def consolidateLegacyProjectMemberships (ids : List String) (target : String) (now : Timestamp) : ServerDatabase :=
  { db with projectMemberships := (projectMembershipConsolidation ids target now).consolidate db.projectMemberships }

def rewriteOwners (others : List String) (target : String) (now : Timestamp) : ServerDatabase :=
  { db with
    projects := db.projects.update (fun row => row.ownerHumanPrincipalId.any (· ∈ others) = true)
      (InternalProjectRecord.withOwner target now) (InternalProjectRecord.withOwner_scope target now)
    canvases := db.canvases.update (fun row => row.ownerHumanPrincipalId.any (· ∈ others) = true)
      (InternalCanvasRecord.withOwner target now) (InternalCanvasRecord.withOwner_scope target now) }

def consolidateGrants (ids : List String) (target : String) (now : Timestamp) : ServerDatabase :=
  { db with grants := (grantConsolidation ids target now).consolidate db.grants }

def revokeAliasPrincipals (others : List String) (now : Timestamp) : ServerDatabase :=
  { db with
    principals := db.principals.update (fun row => row.humanPrincipalId ∈ others ∧ row.revokedAt = none)
      (revoked now) (revoked_key now) }

def consolidateCanonicalAuthorization (target : String) (now : Timestamp) : Except AccessError ServerDatabase := do
  let ids ← db.equivalentIds target
  let others := ids.filter (· ≠ target)
  if others = [] then return db
  else return ((((((db.ensureCanonicalPrincipals ids target now).consolidateMemberships ids target now)
    ).consolidateLegacyProjectMemberships ids target now).rewriteOwners others target now).consolidateGrants ids target now
    ).revokeAliasPrincipals others now

end ServerDatabase

/-- The principals of the two credentials, and whether their credentials together stay within the limit. -/
structure MergeRequest where
  source : String
  canonical : String
  withinLimit : Bool

structure MergeResult where
  canonicalHumanPrincipalId : String
  alreadyEquivalent : Bool
deriving DecidableEq

namespace ServerDatabase

def mergeLocked (request : MergeRequest) (now : Timestamp) (db : ServerDatabase) :
    Except AccessError (MergeResult × ServerDatabase) := do
  let sourceCanonical ← db.resolveCanonical request.source
  let targetCanonical ← db.resolveCanonical request.canonical
  Checked.demand (request.source ≠ request.canonical) .identityMergeSamePrincipal
  if sourceCanonical = targetCanonical then return (⟨targetCanonical, true⟩, db)
  else
    Checked.demand request.withinLimit .identityLimitExceeded
    Checked.demand ((db.aliasOf sourceCanonical).all (· = targetCanonical)) .identityMergeConflict
    let aliases ← Checked.present (db.aliases.insert ⟨sourceCanonical, targetCanonical⟩) .uniqueConstraint
    Checked.demand ((db.humanPrincipals.find targetCanonical).isSome) .foreignKeyConstraint
    let merged ← { db with aliases }.consolidateCanonicalAuthorization targetCanonical now
    return (⟨targetCanonical, false⟩, merged)

def merge (request : MergeRequest) (now : Timestamp) (db : ServerDatabase) : Except AccessError MergeResult × ServerDatabase :=
  inWriteTransaction (mergeLocked request now) db

end ServerDatabase
end PlanWeave.Access
