import PlanWeave.Access.StaffingSteps
import PlanWeave.Lib.RecordedDigest
import PlanWeave.Lib.Runs

namespace PlanWeave.Access
open IdentityDatabase List

namespace IdentityEvent
variable (sha256 : Sha256)

def Removes (db : IdentityDatabase) (id : String) : IdentityEvent → Prop
  | .membership .removeMember _ target _ => db.SamePerson target id
  | _ => False

def Complete (db : IdentityDatabase) : IdentityEvent → Prop
  | .membership operation projectId person _ =>
    Covers sha256 db (db.ensureWorkspaceForLegacyProject sha256 projectId).1 projectId [person] ∧
      (operation.joins db projectId → db.aliasOf person = none)
  | .revokeDevice projectId _ => Covers sha256 db (db.ensureWorkspaceForLegacyProject sha256 projectId).1 projectId []
  | .redeemDevice .. | .merge .. | .updateHumanDisplayName .. | .updateWorkspaceConnectionDisplayName .. => True

/-- Every member whom the event does not remove stays one, and every project that has an owner keeps one. -/
structure Keeps (event : IdentityEvent) (db db' : IdentityDatabase) : Prop where
  members : ∀ workspaceId id, db.Member workspaceId id → ¬ event.Removes db id → db'.Member workspaceId id
  owners : ∀ projectId, db.HasOwner projectId → db'.HasOwner projectId

end IdentityEvent

namespace IdentityDatabase

def RolesHold (db : IdentityDatabase) : Prop := ∀ workspaceId id membership,
  db.findActiveMembership workspaceId id = .ok (some membership) → db.OwnsProject workspaceId id → membership.role = .owner

variable {sha256 : Sha256} {db db' : IdentityDatabase} {event : IdentityEvent}

theorem keeps_of_grows (grows : Grows db db') : event.Keeps db db' :=
  ⟨fun _ _ member _ => grows.member member, fun _ owned => grows.hasOwner owned⟩

variable {call : IdentityCall}

section
variable (staffed : Staffed db)
include staffed

theorem operate_keeps {operation : MembershipOperation} {projectId person : String}
    (complete : (IdentityEvent.membership operation projectId person call).Complete sha256 db)
    (done : db.operate sha256 operation projectId person call = .ok db') :
    Staffed db' ∧ (IdentityEvent.membership operation projectId person call).Keeps db db' := by
  obtain ⟨covers, canonical⟩ := complete
  obtain ⟨_, _, _, operated⟩ := operate_ok done
  rw [operated.prepared.ensured] at covers
  have projects := projects_of_operated operated canonical
  have grows := (operated_moved operated).grows
  refine ⟨grows.staffed (projects.staffed staffed covers), fun place id member spared => ?_, fun other owned => ?_⟩
  · refine grows.member (projects.member staffed covers member ?_)
    rintro _ same ⟨removal, target⟩
    subst removal
    exact spared (target.trans same.symm)
  · obtain ⟨row, there, rest⟩ := hasOwner_of_edit operated.edit owned
    exact grows.hasOwner ⟨row, projects.synced.projectMemberships ▸ there, rest⟩

theorem revokeDevice_keeps {projectId : String}
    (complete : (IdentityEvent.revokeDevice projectId call).Complete sha256 db)
    (done : db.revokeDevice sha256 projectId call = .ok db') :
    Staffed db' ∧ (IdentityEvent.revokeDevice projectId call).Keeps db db' := by
  obtain ⟨_, same, projects⟩ := revokeDevice_projects done
  refine ⟨projects.staffed staffed complete, fun place id member _ => ?_, fun other owned => ?_⟩
  · exact projects.member staffed complete member fun _ _ gone => gone
  · obtain ⟨row, member, rest⟩ := owned
    have rows := projects.synced.projectMemberships.trans same
    exact ⟨row, rows ▸ member, rest⟩

theorem attempt_keeps (complete : event.Complete sha256 db) (done : db.attempt sha256 event = .ok db') :
    Staffed db' ∧ event.Keeps db db' := by
  cases event with
  | membership => exact operate_keeps staffed complete done
  | revokeDevice => exact revokeDevice_keeps staffed complete done
  | redeemDevice =>
    have grows := redeemDevice_grows done
    exact ⟨grows.staffed staffed, keeps_of_grows grows⟩
  | merge =>
    obtain ⟨⟨_, _⟩, locked, same⟩ := Checked.map_ok.mp done
    cases same
    rcases ServerDatabase.mergeLocked_ok locked with ⟨_, unchanged⟩ | ⟨_, _, _, _, _, merges⟩
    · cases unchanged
      exact ⟨staffed, keeps_of_grows .refl⟩
    · exact ⟨merges.staffed staffed, fun _ _ member _ => merges.member member, fun _ owned => merges.hasOwner owned⟩
  | updateHumanDisplayName =>
    have grows := updateHumanDisplayName_grows done
    exact ⟨grows.staffed staffed, keeps_of_grows grows⟩
  | updateWorkspaceConnectionDisplayName =>
    have grows := updateWorkspaceConnectionDisplayName_grows done
    exact ⟨grows.staffed staffed, keeps_of_grows grows⟩

theorem advance_keeps (complete : event.Complete sha256 db) :
    Staffed (db.advance sha256 event) ∧ event.Keeps db (db.advance sha256 event) := by
  unfold advance
  cases done : db.attempt sha256 event with
  | ok => exact attempt_keeps staffed complete done
  | error => exact ⟨staffed, keeps_of_grows .refl⟩
end

theorem staffed_of_empty (fresh : db.projectMemberships = .empty) : Staffed db := by
  have none : ∀ row, row ∉ db.projectMemberships := by
    intro row
    rw [fresh]
    exact Table.not_mem_empty
  constructor
  · exact fun row member => absurd member (none row)
  · exact fun row member => absurd member (none row)
  · exact fun _ row engaged => absurd engaged.1 (none row)
  · exact fun _ row engaged => absurd engaged.1 (none row)
  · exact fun _ row engaged => absurd engaged.1 (none row)
  · exact fun row member => absurd member (none row)

end IdentityDatabase

/-- From a database without project memberships, a run of which every projection leaves no one out keeps all members whom it
does not remove and an owner of every owned project, and the owners of projects are owners of their workspace. -/
theorem members_kept {sha256 : Sha256} {start : IdentityDatabase} {events : List IdentityEvent}
    (fresh : start.projectMemberships = .empty)
    (complete : Runs.Along (IdentityDatabase.advance sha256) (fun db event => event.Complete sha256 db) events start) :
    Runs.Along (IdentityDatabase.advance sha256) (fun db event => event.Keeps db (db.advance sha256 event)) events start ∧
      (Runs.run (IdentityDatabase.advance sha256) events start).RolesHold := by
  have staffed := staffed_of_empty fresh
  clear fresh
  induction events generalizing start with
  | nil => exact ⟨trivial, fun _ _ _ => staffed.role_owner⟩
  | cons _ _ ih =>
    obtain ⟨next, keeps⟩ := advance_keeps staffed complete.1
    obtain ⟨along, roles⟩ := ih complete.2 next
    exact ⟨⟨keeps, along⟩, roles⟩

section Loss

def memberSha256 : Sha256 := RecordedDigest.digest
  [("w:ana", "dee4f9836c5cfcc9ef325565c3b56c168d04adbe74e81076884f4ec5e6ac7600"),
    ("w:cy", "2c7eb024827b50e91989da047d382c986b51c083ba845b37e039e2c6946a041d"),
    ("w:dee", "4b6d8f2c65c551c38fba17a700af867b842c11d8d69de110c0e0293d13a426fd")]

def vacantDatabase : IdentityDatabase :=
  { ServerDatabase.empty with
    projects := ⟨[⟨"w", "p", none, .«private», none, 0, "t0", none⟩], by decide⟩
    legacyProjects := ⟨[⟨"p", "w", true⟩], by decide⟩ }

def joinEvents : List IdentityEvent :=
  [.membership .bootstrapOwner "p" "ana" ⟨true, "1", "Ana", "t1", "t1"⟩,
    .membership (.consumeInvitation false) "p" "cy" ⟨true, "2", "Cy", "t2", "t2"⟩,
    .redeemDevice [⟨"w", "p", none⟩] "w" "bo" ⟨true, "3", "Bo", "t3", "t3"⟩]

def joinedByCodeDatabase : IdentityDatabase := Runs.run (IdentityDatabase.advance memberSha256) joinEvents vacantDatabase

theorem covers_of_rows {sha256 : Sha256} {db : IdentityDatabase} {workspaceId projectId : String} {named : List String}
    (members : ∀ row ∈ db.memberships.rows, row.workspaceId = workspaceId → row.revokedAt = none →
      ∃ source ∈ db.sourceMemberships workspaceId projectId,
        source.revokedAt = none ∧ source.humanPrincipalId = row.humanPrincipalId)
    (counted : ∀ row ∈ db.projectMemberships.rows, row ∈ db.sourceMemberships workspaceId projectId)
    (distinct : ∀ left ∈ named ++ db.projectMemberships.rows.map (·.humanPrincipalId),
      ∀ right ∈ named ++ db.projectMemberships.rows.map (·.humanPrincipalId),
        workspaceMembershipIdFor sha256 workspaceId left = workspaceMembershipIdFor sha256 workspaceId right → left = right) :
    Covers sha256 db workspaceId projectId named where
  members id member := by
    obtain ⟨_, membership, _, ⟨there, placed, person, unrevoked⟩, _⟩ := member_iff.mp member
    obtain ⟨source, among, active, equal⟩ := members membership there placed unrevoked
    exact .inr ⟨source, among, active, by rwa [equal, person]⟩
  counted row engaged := counted row engaged.1
  distinct := by
    have listed : ∀ id, (id ∈ named ∨ ∃ row ∈ db.projectMemberships, db.workspaceForLegacyProject row.projectId = some workspaceId ∧
        row.humanPrincipalId = id) → id ∈ named ++ db.projectMemberships.rows.map (·.humanPrincipalId) := by
      rintro _ (inside | ⟨_, member, _, rfl⟩)
      · exact mem_append_left _ inside
      · exact mem_append_right _ (mem_map_of_mem member)
    intro left inside right inside' same
    exact distinct left (listed left inside) right (listed right inside') same

def otherInvitation : IdentityEvent := .membership (.consumeInvitation false) "p" "dee" ⟨true, "4", "Dee", "t4", "t4"⟩

/-- `bo` is a member, until `dee` accepts an invitation. -/
theorem member_lost_by_invitation :
    joinedByCodeDatabase.Member "w" "bo" ∧ ¬ otherInvitation.Removes joinedByCodeDatabase "bo" ∧
      ¬ (joinedByCodeDatabase.advance memberSha256 otherInvitation).Member "w" "bo" := by
  have before : (joinedByCodeDatabase.findActiveMembership "w" "bo").map Option.isSome = .ok true := by decide +kernel
  have after : (joinedByCodeDatabase.advance memberSha256 otherInvitation).findActiveMembership "w" "bo" = .ok none := by
    decide +kernel
  refine ⟨?_, id, ?_⟩
  · obtain ⟨_, same, some⟩ := Checked.map_ok.mp before
    obtain ⟨membership, rfl⟩ := Option.isSome_iff_exists.mp some
    exact ⟨membership, same⟩
  · rintro ⟨_, found⟩
    rw [after] at found
    cases found

/-- The three who join are kept, and `ana` is an owner. -/
theorem members_kept_of_joinEvents :
    Runs.Along (IdentityDatabase.advance memberSha256) (fun db event => event.Keeps db (db.advance memberSha256 event)) joinEvents
      vacantDatabase ∧ joinedByCodeDatabase.RolesHold := by
  have complete : Runs.Along (IdentityDatabase.advance memberSha256) (fun db event => event.Complete memberSha256 db) joinEvents
      vacantDatabase := by
    refine ⟨⟨covers_of_rows ?_ ?_ ?_, fun _ => ?_⟩, ⟨covers_of_rows ?_ ?_ ?_, fun _ => ?_⟩, trivial, trivial⟩
    all_goals decide +kernel
  exact members_kept rfl complete

end Loss
end PlanWeave.Access
