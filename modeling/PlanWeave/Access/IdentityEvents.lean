import PlanWeave.Access.RestoreFence

namespace PlanWeave.Access
open WorkspacePrincipal

def HumanPrincipal.renamed (displayName : String) (row : HumanPrincipal) : HumanPrincipal := { row with displayName }

theorem HumanPrincipal.renamed_humanPrincipalId (displayName : String) (row : HumanPrincipal) :
    (row.renamed displayName).humanPrincipalId = row.humanPrincipalId := rfl

def WorkspacePrincipal.renamed (displayName : String) (row : WorkspacePrincipal) : WorkspacePrincipal := { row with displayName }

theorem WorkspacePrincipal.renamed_key (displayName : String) (row : WorkspacePrincipal) :
    (row.renamed displayName).key = row.key := rfl

namespace IdentityDatabase
variable (db : IdentityDatabase)

def updateHumanDisplayName (humanPrincipalId displayName : String) : Except AccessError IdentityDatabase := do
  let humanPrincipals ← Checked.present (db.humanPrincipals.updateOne (fun row => row.humanPrincipalId = humanPrincipalId)
    (HumanPrincipal.renamed displayName) (HumanPrincipal.renamed_humanPrincipalId displayName)) .humanInputInvalid
  return { db with
    humanPrincipals
    principals := db.principals.update (fun row => row.humanPrincipalId = humanPrincipalId)
      (renamed displayName) (renamed_key displayName) }

/-- `updateWorkspaceConnectionDisplayName` by a session of the workspace; nothing happens for one that is no longer accepted. -/
def updateWorkspaceConnectionDisplayName (workspaceId humanPrincipalId displayName : String) :
    Except AccessError IdentityDatabase := do
  let session ← db.findActiveMembership workspaceId humanPrincipalId
  match session with
  | none => return db
  | some membership =>
    match db.principals.updateOne (fun row => row.workspaceId = workspaceId ∧
        row.humanPrincipalId = membership.humanPrincipalId ∧ row.revokedAt = none)
      (renamed displayName) (renamed_key displayName) with
    | none => return db
    | some principals =>
      let humanPrincipals := db.humanPrincipals.update (fun row => row.humanPrincipalId = membership.humanPrincipalId)
        (HumanPrincipal.renamed displayName) (HumanPrincipal.renamed_humanPrincipalId displayName)
      return { db with principals, humanPrincipals }

end IdentityDatabase

inductive IdentityEvent where
  | membership (operation : MembershipOperation) (projectId humanPrincipalId : String) (call : IdentityCall)
  | revokeDevice (projectId : String) (call : IdentityCall)
  | redeemDevice (trusted : List AccessScope) (workspaceId humanPrincipalId : String) (call : IdentityCall)
  | merge (request : MergeRequest) (now : Timestamp)
  | updateHumanDisplayName (humanPrincipalId displayName : String)
  | updateWorkspaceConnectionDisplayName (workspaceId humanPrincipalId displayName : String)

namespace IdentityDatabase
variable (sha256 : Sha256)

def attempt (db : IdentityDatabase) : IdentityEvent → Except AccessError IdentityDatabase
  | .membership operation projectId humanPrincipalId call => db.operate sha256 operation projectId humanPrincipalId call
  | .revokeDevice projectId call => db.revokeDevice sha256 projectId call
  | .redeemDevice trusted workspaceId humanPrincipalId call => db.redeemDevice trusted workspaceId humanPrincipalId call
  | .merge request now => db.onServer (db.mergeLocked request now)
  | .updateHumanDisplayName humanPrincipalId displayName => db.updateHumanDisplayName humanPrincipalId displayName
  | .updateWorkspaceConnectionDisplayName workspaceId humanPrincipalId displayName =>
    db.updateWorkspaceConnectionDisplayName workspaceId humanPrincipalId displayName

def advance (db : IdentityDatabase) (event : IdentityEvent) : IdentityDatabase :=
  match db.attempt sha256 event with
  | .ok changed => changed
  | .error _ => db

end IdentityDatabase
end PlanWeave.Access
