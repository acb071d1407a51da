import PlanWeave.Access.IdentityEvents

namespace PlanWeave.Access
open Checked List Option ProjectMembership Table

section Selection
variable {R : Type} {person : R → String} {role : R → MembershipRole} {canonical : String} {rows : List R}

theorem selectMembership_mem {row : R} (selected : selectMembership person role canonical rows = some row) : row ∈ rows := by
  rcases or_eq_some_iff.mp selected with found | ⟨_, later⟩
  · exact mem_of_find?_eq_some found
  · rcases or_eq_some_iff.mp later with found | ⟨_, first⟩
    · exact mem_of_find?_eq_some found
    · exact mem_of_head? first

theorem selectMembership_none (missing : selectMembership person role canonical rows = none) : rows = [] := by
  unfold selectMembership at missing
  rw [or_eq_none_iff, or_eq_none_iff] at missing
  exact head?_eq_none_iff.mp missing.2.2

theorem selectMembership_canonical {row selected : R} (member : row ∈ rows) (named : person row = canonical)
    (chosen : selectMembership person role canonical rows = some selected) : person selected = canonical := by
  rcases or_eq_some_iff.mp chosen with found | ⟨missing, _⟩
  · exact of_decide_eq_true (find?_some (p := fun row => decide (person row = canonical)) found)
  · exact absurd (decide_eq_true named) (find?_eq_none.mp missing row member)

end Selection

def MembershipOperation.joins (db : IdentityDatabase) (projectId : String) : MembershipOperation → Prop
  | .bootstrapOwner => db.countActiveOwners projectId = 0
  | .consumeInvitation _ => True
  | .removeMember | .promoteToOwner | .demoteOwner => False

/-- What an operation makes of the memberships of a project, before the workspace is projected from them. -/
inductive MemberEdit (db : IdentityDatabase) (projectId person : String) :
    MembershipOperation → Table membershipId → Prop
  | again {row : ProjectMembership} (member : row ∈ db.projectMemberships) (placed : row.projectId = projectId)
      (owner : row.role = .owner) (active : row.revokedAt = none) (same : db.SamePerson row.humanPrincipalId person) :
    MemberEdit db projectId person .bootstrapOwner db.projectMemberships
  | owned {row : ProjectMembership} {rows : Table membershipId} (vacant : db.countActiveOwners projectId = 0)
      (placed : row.projectId = projectId) (named : row.humanPrincipalId = person) (role : row.role = .owner)
      (active : row.revokedAt = none) (inserted : Table.Inserted row db.projectMemberships rows) :
    MemberEdit db projectId person .bootstrapOwner rows
  | joined {existing : Bool} {row : ProjectMembership} {rows : Table membershipId}
      (placed : row.projectId = projectId) (named : row.humanPrincipalId = person) (role : row.role = .member)
      (active : row.revokedAt = none) (inserted : Table.Inserted row db.projectMemberships rows) :
    MemberEdit db projectId person (.consumeInvitation existing) rows
  | removed {row : ProjectMembership} {rows : Table membershipId} {now : Timestamp}
      (placed : row.projectId = projectId) (active : row.revokedAt = none) (same : db.SamePerson person row.humanPrincipalId)
      (spare : row.role = .owner → 1 < db.countActiveOwners projectId)
      (replaced : Table.Replaced row (row.revoked now) db.projectMemberships rows) :
    MemberEdit db projectId person .removeMember rows
  | owns {row : ProjectMembership} (member : row ∈ db.projectMemberships) (placed : row.projectId = projectId)
      (active : row.revokedAt = none) (same : db.SamePerson person row.humanPrincipalId) :
    MemberEdit db projectId person .promoteToOwner db.projectMemberships
  | promoted {row : ProjectMembership} {rows : Table membershipId} {now : Timestamp}
      (placed : row.projectId = projectId) (active : row.revokedAt = none) (same : db.SamePerson person row.humanPrincipalId)
      (replaced : Table.Replaced row (row.withRole .owner now) db.projectMemberships rows) :
    MemberEdit db projectId person .promoteToOwner rows
  | demoted {row : ProjectMembership} {rows : Table membershipId} {now : Timestamp}
      (placed : row.projectId = projectId) (active : row.revokedAt = none) (same : db.SamePerson person row.humanPrincipalId)
      (role : row.role = .owner) (spare : 1 < db.countActiveOwners projectId)
      (replaced : Table.Replaced row (row.withRole .member now) db.projectMemberships rows) :
    MemberEdit db projectId person .demoteOwner rows

/-- The owner of a project follows a membership, and the workspaces stay. -/
structure OwnersMoved (scope : AccessScope) (db db' : IdentityDatabase) : Prop where
  set : OwnersSet scope db.toServerDatabase db'.toServerDatabase
  legacyProjects : db'.legacyProjects = db.legacyProjects

theorem OwnersMoved.refl {db : IdentityDatabase} {scope : AccessScope} : OwnersMoved scope db db := ⟨.refl, rfl⟩

structure Prepared (sha256 : Sha256) (db : IdentityDatabase) (workspaceId projectId person : String) (call : IdentityCall)
    (before : IdentityDatabase) : Prop where
  set : OwnersSet ⟨workspaceId, projectId, none⟩ db.toServerDatabase
    { before.toServerDatabase with humanPrincipals := db.humanPrincipals, projectMemberships := db.projectMemberships }
  ensured : (db.ensureWorkspaceForLegacyProject sha256 projectId).1 = workspaceId
  mapped : before.workspaceForLegacyProject projectId = some workspaceId
  elsewhere : ∀ other, other ≠ projectId → before.legacyProjects.find other = db.legacyProjects.find other
  humans : ∀ human ∈ db.humanPrincipals, human ∈ before.humanPrincipals
  fresh : ∀ human ∈ before.humanPrincipals, human ∈ db.humanPrincipals ∨
    db.humanPrincipals.find person = none ∧ human = ⟨person, call.displayName, call.createdAt⟩

theorem IdentityDatabase.ensureWorkspaceForLegacyProject_of_mapped {sha256 : Sha256} {db : IdentityDatabase}
    {workspaceId projectId : String} (mapped : db.workspaceForLegacyProject projectId = some workspaceId) :
    db.ensureWorkspaceForLegacyProject sha256 projectId = (workspaceId, db) := by
  unfold IdentityDatabase.ensureWorkspaceForLegacyProject
  rw [mapped]

theorem Prepared.mappings {sha256 : Sha256} {db before : IdentityDatabase} {workspaceId projectId person other place : String}
    {call : IdentityCall} (prepared : Prepared sha256 db workspaceId projectId person call before)
    (mapped : db.workspaceForLegacyProject other = some place) : before.workspaceForLegacyProject other = some place := by
  by_cases same : other = projectId
  · subst same
    have here := prepared.ensured
    rw [IdentityDatabase.ensureWorkspaceForLegacyProject_of_mapped mapped] at here
    exact prepared.mapped.trans (congrArg some here.symm)
  · unfold IdentityDatabase.workspaceForLegacyProject at mapped ⊢
    rw [prepared.elsewhere other same]
    exact mapped

structure Operated (sha256 : Sha256) (db : IdentityDatabase) (operation : MembershipOperation) (projectId person : String)
    (call : IdentityCall) (workspaceId : String) (before after db' : IdentityDatabase) : Prop where
  prepared : Prepared sha256 db workspaceId projectId person call before
  edit : MemberEdit db projectId person operation before.projectMemberships
  known : operation.joins db projectId → (before.humanPrincipals.find person).isSome
  synced : before.syncWorkspaceProject sha256 workspaceId projectId = .ok after
  followed : ∀ place, after.workspaceForLegacyProject projectId = some place → OwnersMoved ⟨place, projectId, none⟩ after db'

namespace IdentityDatabase
variable {sha256 : Sha256} {db db' : IdentityDatabase} {workspaceId projectId humanPrincipalId : String} {call : IdentityCall}
variable {kind : MembershipTransition} {role : MembershipRole}

theorem transition_moved {now : Timestamp}
    (done : db.transition projectId humanPrincipalId kind role now = .ok db') :
    ∃ place, db.workspaceForLegacyProject projectId = some place ∧ OwnersMoved ⟨place, projectId, none⟩ db db' := by
  obtain ⟨place, mapped, done⟩ := bind_ok.mp done
  obtain ⟨_, synchronized, done⟩ := bind_ok.mp done
  cases done
  rw [present_ok] at mapped
  exact ⟨place, mapped, ServerDatabase.synchronizeHumanMembershipOwner_set synchronized, rfl⟩

theorem followed_of_transition {now : Timestamp}
    (done : db.transition projectId humanPrincipalId kind role now = .ok db') {place : String}
    (mapped : db.workspaceForLegacyProject projectId = some place) : OwnersMoved ⟨place, projectId, none⟩ db db' := by
  obtain ⟨_, mapped', moved⟩ := transition_moved done
  rw [mapped', some_inj] at mapped
  exact mapped ▸ moved

variable {ensured : IdentityDatabase}

theorem ensureWorkspaceForLegacyProject_mapped
    (ensures : db.ensureWorkspaceForLegacyProject sha256 projectId = (workspaceId, ensured)) :
    ensured.toServerDatabase = db.toServerDatabase ∧ ensured.workspaceForLegacyProject projectId = some workspaceId := by
  unfold ensureWorkspaceForLegacyProject at ensures
  split at ensures
  · rename_i mapped
    cases ensures
    exact ⟨rfl, mapped⟩
  · cases ensures
    refine ⟨rfl, ?_⟩
    unfold workspaceForLegacyProject
    rw [find_put_eq, if_pos rfl]
    rfl

theorem ensureWorkspaceForLegacyProject_congr (same : db'.legacyProjects = db.legacyProjects) (projectId : String) :
    (db'.ensureWorkspaceForLegacyProject sha256 projectId).1 = (db.ensureWorkspaceForLegacyProject sha256 projectId).1 := by
  unfold ensureWorkspaceForLegacyProject workspaceForLegacyProject
  rw [same]
  split <;> rfl

theorem ensureWorkspaceForLegacyProject_elsewhere {other : String}
    (ensures : db.ensureWorkspaceForLegacyProject sha256 projectId = (workspaceId, ensured)) (apart : other ≠ projectId) :
    ensured.legacyProjects.find other = db.legacyProjects.find other := by
  unfold ensureWorkspaceForLegacyProject at ensures
  split at ensures
  · cases ensures
    rfl
  · cases ensures
    exact find_put_of_ne apart

theorem mem_insertHuman {human : HumanPrincipal} : human ∈ (db.insertHuman humanPrincipalId call).humanPrincipals ↔
    human ∈ db.humanPrincipals ∨
      db.humanPrincipals.find humanPrincipalId = none ∧ human = ⟨humanPrincipalId, call.displayName, call.createdAt⟩ := by
  unfold insertHuman
  split
  · rename_i there
    have present : db.humanPrincipals.find humanPrincipalId ≠ none := isSome_iff_ne_none.mp there
    simp [present]
  · rename_i missing
    have absent : db.humanPrincipals.find humanPrincipalId = none := not_isSome_iff_eq_none.mp missing
    simp only [mem_put, absent, true_and]
    constructor
    · rintro (⟨member, _⟩ | rfl)
      · exact .inl member
      · exact .inr rfl
    · rintro (member | rfl)
      · exact .inl ⟨member, find_eq_none.mp absent human member⟩
      · exact .inr rfl

theorem insertHuman_eq : db.insertHuman humanPrincipalId call = { db with
    humanPrincipals := (db.insertHuman humanPrincipalId call).humanPrincipals
    projectMemberships := (db.insertHuman humanPrincipalId call).projectMemberships } := by
  unfold insertHuman
  split <;> rfl

theorem insertHuman_projectMemberships :
    (db.insertHuman humanPrincipalId call).projectMemberships = db.projectMemberships := by
  unfold insertHuman
  split <;> rfl

theorem prepared_of_ensures {changed before : IdentityDatabase}
    (moved : OwnersMoved ⟨workspaceId, projectId, none⟩ { db with projectMemberships := changed.projectMemberships } changed)
    (ensures : changed.ensureWorkspaceForLegacyProject sha256 projectId = (workspaceId, ensured))
    (rest : before = { ensured with humanPrincipals := before.humanPrincipals, projectMemberships := before.projectMemberships })
    (people : before.humanPrincipals = ensured.humanPrincipals ∨
      before.humanPrincipals = (ensured.insertHuman humanPrincipalId call).humanPrincipals) :
    Prepared sha256 db workspaceId projectId humanPrincipalId call before := by
  obtain ⟨server, mapped⟩ := ensureWorkspaceForLegacyProject_mapped ensures
  have humans : ensured.humanPrincipals = db.humanPrincipals := server ▸ moved.set.same.humanPrincipals
  constructor
  · rw [rest, server]
    exact ⟨moved.set.projects, moved.set.canvases, moved.set.grants, moved.set.same.principals, moved.set.same.memberships, rfl,
      moved.set.same.aliases, moved.set.same.snapshots, rfl⟩
  · have legacy : changed.legacyProjects = db.legacyProjects := moved.legacyProjects
    rw [← ensureWorkspaceForLegacyProject_congr legacy, ensures]
  · rw [rest]
    exact mapped
  · intro other apart
    rw [rest]
    exact (ensureWorkspaceForLegacyProject_elsewhere ensures apart).trans (congrArg (·.find other) moved.legacyProjects)
  · intro human member
    rw [← humans] at member
    rcases people with same | same
    · exact same ▸ member
    · exact same ▸ mem_insertHuman.mpr (.inl member)
  · intro human member
    rw [← humans]
    rcases people with same | same
    · exact .inl (same ▸ member)
    · exact mem_insertHuman.mp (same ▸ member)

section Members
variable {membership : ProjectMembership} {now : Timestamp}

theorem getActiveMembership_some (found : db.getActiveMembership projectId humanPrincipalId = .ok (some membership)) :
    membership ∈ db.projectMemberships ∧ membership.projectId = projectId ∧ membership.revokedAt = none ∧
      db.SamePerson humanPrincipalId membership.humanPrincipalId := by
  obtain ⟨_, resolved, found⟩ := bind_ok.mp found
  obtain ⟨_, found⟩ := rest_ok found
  obtain ⟨member, conditions⟩ := mem_filter.mp (selectMembership_mem (Except.ok.inj found))
  obtain ⟨placed, named, active⟩ := of_decide_eq_true conditions
  exact ⟨member, placed, active, (ServerDatabase.mem_equivalentIds resolved).mp named⟩

theorem updateMembership_ok {f : ProjectMembership → ProjectMembership} {keeps : ∀ row, (f row).membershipId = row.membershipId}
    (member : membership ∈ db.projectMemberships) (done : db.updateMembership membership.membershipId f keeps = .ok db') :
    Table.Replaced membership (f membership) db.projectMemberships db'.projectMemberships ∧
      db' = { db with projectMemberships := db'.projectMemberships } := by
  obtain ⟨_, updated, done⟩ := bind_ok.mp done
  cases done
  rw [present_ok] at updated
  obtain ⟨old, ⟨keyed, _⟩, replaced⟩ := updateOne_replaced updated
  have same : old = membership := eq_of_key replaced.old_mem member keyed
  exact ⟨same ▸ replaced, rfl⟩

theorem removeMembership_ok (done : db.removeMembership projectId humanPrincipalId now = .ok (membership, db')) :
    MemberEdit db projectId humanPrincipalId .removeMember db'.projectMemberships ∧
      db' = { db with projectMemberships := db'.projectMemberships } := by
  obtain ⟨_, active, done⟩ := bind_ok.mp done
  obtain ⟨_, present, done⟩ := bind_ok.mp done
  obtain ⟨_, spare, done⟩ := bind_ok.mp done
  obtain ⟨_, updated, done⟩ := bind_ok.mp done
  cases done
  rw [present_ok] at present
  obtain ⟨member, placed, unrevoked, same⟩ := getActiveMembership_some (present ▸ active)
  obtain ⟨replaced, rest⟩ := updateMembership_ok member updated
  exact ⟨.removed placed unrevoked same (demand_ok.mp spare) replaced, rest⟩

theorem promoteMembership_ok {changes : Bool}
    (done : db.promoteMembership projectId humanPrincipalId now = .ok (membership, changes, db')) :
    MemberEdit db projectId humanPrincipalId .promoteToOwner db'.projectMemberships ∧
      db' = { db with projectMemberships := db'.projectMemberships } := by
  obtain ⟨_, active, done⟩ := bind_ok.mp done
  obtain ⟨_, present, done⟩ := bind_ok.mp done
  rw [present_ok] at present
  obtain ⟨member, placed, unrevoked, same⟩ := getActiveMembership_some (present ▸ active)
  split at done
  · cases done
    exact ⟨.owns member placed unrevoked same, rfl⟩
  · obtain ⟨_, updated, done⟩ := bind_ok.mp done
    cases done
    obtain ⟨replaced, rest⟩ := updateMembership_ok member updated
    exact ⟨.promoted placed unrevoked same replaced, rest⟩

theorem demoteMembership_ok (done : db.demoteMembership projectId humanPrincipalId now = .ok (membership, db')) :
    MemberEdit db projectId humanPrincipalId .demoteOwner db'.projectMemberships ∧
      db' = { db with projectMemberships := db'.projectMemberships } := by
  obtain ⟨_, active, done⟩ := bind_ok.mp done
  obtain ⟨_, present, done⟩ := bind_ok.mp done
  obtain ⟨_, role, done⟩ := bind_ok.mp done
  obtain ⟨_, spare, done⟩ := bind_ok.mp done
  obtain ⟨_, updated, done⟩ := bind_ok.mp done
  cases done
  rw [present_ok] at present
  obtain ⟨member, placed, unrevoked, same⟩ := getActiveMembership_some (present ▸ active)
  obtain ⟨replaced, rest⟩ := updateMembership_ok member updated
  exact ⟨.demoted placed unrevoked same (demand_ok.mp role) (demand_ok.mp spare) replaced, rest⟩

theorem insertMembership_ok {role : MembershipRole} (done : db.insertMembership projectId humanPrincipalId role call = .ok db') :
    (db.humanPrincipals.find humanPrincipalId).isSome ∧ db' = { db with projectMemberships := db'.projectMemberships } ∧
      ∃ row : ProjectMembership, row.projectId = projectId ∧ row.humanPrincipalId = humanPrincipalId ∧ row.role = role ∧
        row.revokedAt = none ∧ Table.Inserted row db.projectMemberships db'.projectMemberships := by
  obtain ⟨_, known, done⟩ := bind_ok.mp done
  obtain ⟨_, done⟩ := rest_ok done
  obtain ⟨_, inserted, done⟩ := bind_ok.mp done
  cases done
  rw [present_ok] at inserted
  exact ⟨demand_ok.mp known, rfl, _, rfl, rfl, rfl, rfl, Table.inserted inserted⟩

end Members

section Operations
variable {operation : MembershipOperation}
variable {existing : Bool} {changed synced : IdentityDatabase}

theorem consumeInvitation_steps
    (done : db.consumeInvitation sha256 projectId humanPrincipalId existing call = .ok db') :
    ∃ workspaceId ensured joined synced, db.ensureWorkspaceForLegacyProject sha256 projectId = (workspaceId, ensured) ∧
      (ensured.insertHuman humanPrincipalId call).insertMembership projectId humanPrincipalId .member call = .ok joined ∧
      joined.syncWorkspaceProject sha256 workspaceId projectId = .ok synced ∧
      synced.transition projectId humanPrincipalId .memberJoined .member call.now = .ok db' := by
  obtain ⟨_, done⟩ := rest_ok done
  cases ensures : db.ensureWorkspaceForLegacyProject sha256 projectId with
  | mk =>
    simp only [ensures] at done
    obtain ⟨_, done⟩ := rest_ok done
    split at done
    · obtain ⟨_, _, _, done⟩ := rest_ok₃ done
      obtain ⟨_, done⟩ := rest_ok done
      obtain ⟨joined, inserted, done⟩ := bind_ok.mp done
      obtain ⟨synced, synchronized, done⟩ := bind_ok.mp done
      exact ⟨_, _, joined, synced, rfl, inserted, synchronized, done⟩
    · obtain ⟨_, _, done⟩ := rest_ok₂ done
      obtain ⟨joined, inserted, done⟩ := bind_ok.mp done
      obtain ⟨synced, synchronized, done⟩ := bind_ok.mp done
      exact ⟨_, _, joined, synced, rfl, inserted, synchronized, done⟩

theorem operated_of_edit
    (edit : MemberEdit db projectId humanPrincipalId operation changed.projectMemberships)
    (moved : OwnersMoved ⟨workspaceId, projectId, none⟩ { db with projectMemberships := changed.projectMemberships } changed)
    (ensures : changed.ensureWorkspaceForLegacyProject sha256 projectId = (workspaceId, ensured))
    (synchronized : ensured.syncWorkspaceProject sha256 workspaceId projectId = .ok synced)
    (followed : ∀ place, synced.workspaceForLegacyProject projectId = some place → OwnersMoved ⟨place, projectId, none⟩ synced db')
    (settled : ¬ operation.joins db projectId) :
    Operated sha256 db operation projectId humanPrincipalId call workspaceId ensured synced db' := by
  have rows : ensured.projectMemberships = changed.projectMemberships := by
    rw [(ensureWorkspaceForLegacyProject_mapped ensures).1]
  exact ⟨prepared_of_ensures moved ensures rfl (.inl rfl), rows ▸ edit, fun joins => absurd joins settled, synchronized, followed⟩

theorem moved_of_rows {scope : AccessScope}
    (same : changed = { db with projectMemberships := changed.projectMemberships }) :
    OwnersMoved scope { db with projectMemberships := changed.projectMemberships } changed := by
  rw [← same]
  exact .refl

theorem operated_of_insert {role : MembershipRole} {joined : IdentityDatabase}
    (edit : MemberEdit db projectId humanPrincipalId operation joined.projectMemberships)
    (ensures : db.ensureWorkspaceForLegacyProject sha256 projectId = (workspaceId, ensured))
    (inserted : (ensured.insertHuman humanPrincipalId call).insertMembership projectId humanPrincipalId role call = .ok joined)
    (synchronized : joined.syncWorkspaceProject sha256 workspaceId projectId = .ok synced)
    (followed : ∀ place, synced.workspaceForLegacyProject projectId = some place → OwnersMoved ⟨place, projectId, none⟩ synced db') :
    Operated sha256 db operation projectId humanPrincipalId call workspaceId joined synced db' := by
  obtain ⟨known, rest, _⟩ := insertMembership_ok inserted
  have humans : joined.humanPrincipals = (ensured.insertHuman humanPrincipalId call).humanPrincipals := by rw [rest]
  have only : joined = { ensured with humanPrincipals := joined.humanPrincipals, projectMemberships := joined.projectMemberships } := by
    rw [humans]
    rw [insertHuman_eq] at rest
    exact rest
  exact ⟨prepared_of_ensures .refl ensures only (.inr humans), edit, fun _ => humans ▸ known, synchronized, followed⟩

theorem bootstrapOwner_ok (done : db.bootstrapOwner sha256 projectId humanPrincipalId call = .ok db') :
    ∃ workspaceId before after,
      Operated sha256 db .bootstrapOwner projectId humanPrincipalId call workspaceId before after db' := by
  obtain ⟨_, done⟩ := rest_ok done
  cases ensures : db.ensureWorkspaceForLegacyProject sha256 projectId with
  | mk workspaceId ensured =>
    obtain ⟨sameServer, _⟩ := ensureWorkspaceForLegacyProject_mapped ensures
    have rows : ensured.projectMemberships = db.projectMemberships := by rw [sameServer]
    simp only [ensures] at done
    obtain ⟨_, _, done⟩ := rest_ok₂ done
    obtain ⟨_, compared, done⟩ := bind_ok.mp done
    obtain ⟨_, allowed, done⟩ := bind_ok.mp done
    rw [demand_ok] at allowed
    split at done
    · rename_i again
      obtain ⟨_, among, rfl⟩ := any_eq_true.mp again
      obtain ⟨row, listed, equivalent⟩ := mapM_result compared among
      obtain ⟨member, conditions⟩ := mem_filter.mp listed
      obtain ⟨placed, owner, active⟩ := of_decide_eq_true conditions
      have same : db.SamePerson row.humanPrincipalId humanPrincipalId := by
        obtain ⟨left, leftFound, equivalent⟩ := bind_ok.mp equivalent
        obtain ⟨right, rightFound, equivalent⟩ := bind_ok.mp equivalent
        have equal : left = right := eq_of_beq (Except.ok.inj equivalent)
        rw [sameServer, ServerDatabase.resolveCanonical_ok] at leftFound rightFound
        exact ⟨left, leftFound, equal ▸ rightFound⟩
      refine ⟨workspaceId, _, db', prepared_of_ensures .refl ensures insertHuman_eq (.inr rfl), ?_, fun vacant => ?_, done, fun _ _ => .refl⟩
      · rw [insertHuman_projectMemberships, rows]
        exact .again (rows ▸ member) placed owner active same
      · exact absurd ⟨placed, owner, active⟩ (count_eq_zero.mp vacant row (rows ▸ member))
    · rename_i different
      obtain ⟨joined, inserted, done⟩ := bind_ok.mp done
      obtain ⟨synced, synchronized, done⟩ := bind_ok.mp done
      have vacant : db.countActiveOwners projectId = 0 := by
        have none := allowed.resolve_right different
        rw [rows, filter_eq_nil_iff] at none
        exact count_eq_zero.mpr fun row member holds => none row member (decide_eq_true holds)
      obtain ⟨_, _, _, placed, named, role, active, inserts⟩ := insertMembership_ok inserted
      rw [insertHuman_projectMemberships, rows] at inserts
      exact ⟨workspaceId, joined, synced,
        operated_of_insert (.owned vacant placed named role active inserts) ensures inserted synchronized fun _ => followed_of_transition done⟩

theorem consumeInvitation_ok
    (done : db.consumeInvitation sha256 projectId humanPrincipalId existing call = .ok db') :
    ∃ workspaceId before after,
      Operated sha256 db (.consumeInvitation existing) projectId humanPrincipalId call workspaceId before after db' := by
  obtain ⟨workspaceId, ensured, joined, synced, ensures, inserted, synchronized, done⟩ := consumeInvitation_steps done
  obtain ⟨_, _, _, placed, named, role, active, inserts⟩ := insertMembership_ok inserted
  rw [insertHuman_projectMemberships, (ensureWorkspaceForLegacyProject_mapped ensures).1] at inserts
  exact ⟨workspaceId, joined, synced,
    operated_of_insert (.joined placed named role active inserts) ensures inserted synchronized fun _ => followed_of_transition done⟩

theorem removeMember_ok (done : db.removeMember sha256 projectId humanPrincipalId call = .ok db') :
    ∃ workspaceId before after,
      Operated sha256 db .removeMember projectId humanPrincipalId call workspaceId before after db' := by
  obtain ⟨_, done⟩ := rest_ok done
  obtain ⟨_, removes, done⟩ := bind_ok.mp done
  obtain ⟨_, done⟩ := rest_ok done
  obtain ⟨synced, synchronized, done⟩ := bind_ok.mp done
  obtain ⟨edit, same⟩ := removeMembership_ok removes
  exact ⟨_, _, synced,
    operated_of_edit edit (moved_of_rows same) rfl synchronized (fun _ => followed_of_transition done) id⟩

theorem promoteToOwner_ok (done : db.promoteToOwner sha256 projectId humanPrincipalId call = .ok db') :
    ∃ workspaceId before after,
      Operated sha256 db .promoteToOwner projectId humanPrincipalId call workspaceId before after db' := by
  obtain ⟨_, done⟩ := rest_ok done
  obtain ⟨⟨_, _, promoted⟩, promotes, done⟩ := bind_ok.mp done
  obtain ⟨_, done⟩ := rest_ok done
  obtain ⟨edit, same⟩ := promoteMembership_ok promotes
  obtain ⟨owned, follows⟩ : ∃ owned, ∀ workspaceId ensured,
      owned.ensureWorkspaceForLegacyProject sha256 projectId = (workspaceId, ensured) →
        OwnersMoved ⟨workspaceId, projectId, none⟩ promoted owned ∧
          ensured.syncWorkspaceProject sha256 workspaceId projectId = .ok db' := by
    split at done
    · obtain ⟨owned, transitions, done⟩ := bind_ok.mp done
      refine ⟨owned, fun workspaceId ensured ensures => ?_⟩
      simp only [ensures] at done
      obtain ⟨place, mapped, moved⟩ := transition_moved transitions
      have here : owned.workspaceForLegacyProject projectId = some place := by
        unfold workspaceForLegacyProject at mapped ⊢
        rw [moved.legacyProjects]
        exact mapped
      rw [ensureWorkspaceForLegacyProject_of_mapped here] at ensures
      cases ensures
      exact ⟨moved, done⟩
    · obtain ⟨_, unchanged, done⟩ := bind_ok.mp done
      cases unchanged
      refine ⟨promoted, fun workspaceId ensured ensures => ?_⟩
      simp only [ensures] at done
      exact ⟨.refl, done⟩
  cases ensures : owned.ensureWorkspaceForLegacyProject sha256 projectId with
  | mk workspaceId ensured =>
    obtain ⟨moved, synchronized⟩ := follows _ _ ensures
    rw [← moved.set.same.projectMemberships] at edit same
    have people : OwnersMoved ⟨workspaceId, projectId, none⟩ { db with projectMemberships := owned.projectMemberships } owned := by
      rw [← same]
      exact moved
    exact ⟨workspaceId, ensured, db', operated_of_edit edit people ensures synchronized (fun _ _ => .refl) id⟩

theorem demoteOwner_ok (done : db.demoteOwner sha256 projectId humanPrincipalId call = .ok db') :
    ∃ workspaceId before after,
      Operated sha256 db .demoteOwner projectId humanPrincipalId call workspaceId before after db' := by
  obtain ⟨_, done⟩ := rest_ok done
  obtain ⟨_, demotes, done⟩ := bind_ok.mp done
  obtain ⟨_, done⟩ := rest_ok done
  obtain ⟨synced, synchronized, done⟩ := bind_ok.mp done
  obtain ⟨edit, same⟩ := demoteMembership_ok demotes
  exact ⟨_, _, synced,
    operated_of_edit edit (moved_of_rows same) rfl synchronized (fun _ => followed_of_transition done) id⟩

theorem operate_ok (done : db.operate sha256 operation projectId humanPrincipalId call = .ok db') :
    ∃ workspaceId before after, Operated sha256 db operation projectId humanPrincipalId call workspaceId before after db' := by
  cases operation with
  | bootstrapOwner => exact bootstrapOwner_ok done
  | consumeInvitation => exact consumeInvitation_ok done
  | removeMember => exact removeMember_ok done
  | promoteToOwner => exact promoteToOwner_ok done
  | demoteOwner => exact demoteOwner_ok done

theorem revokeDevice_ok (done : db.revokeDevice sha256 projectId call = .ok db') :
    ∃ workspaceId before, Prepared sha256 db workspaceId projectId "" call before ∧
      before.projectMemberships = db.projectMemberships ∧
      before.syncWorkspaceProject sha256 workspaceId projectId = .ok db' := by
  obtain ⟨_, done⟩ := rest_ok done
  cases ensures : db.ensureWorkspaceForLegacyProject sha256 projectId with
  | mk workspaceId ensured =>
    simp only [ensures] at done
    refine ⟨workspaceId, ensured, prepared_of_ensures .refl ensures rfl (.inl rfl), ?_, done⟩
    rw [(ensureWorkspaceForLegacyProject_mapped ensures).1]

end Operations
end IdentityDatabase
end PlanWeave.Access
