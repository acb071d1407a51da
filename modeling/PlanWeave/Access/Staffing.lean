import Mathlib.Data.Set.Function
import PlanWeave.Access.MergedPeople
import PlanWeave.Access.RestoreMembers

namespace PlanWeave.Access
open Checked List Option ProjectMembership ServerDatabase Table

namespace ServerDatabase
variable {db db' : ServerDatabase} {id other third : String}

theorem SamePerson.symm (same : db.SamePerson id other) : db.SamePerson other id := by
  obtain ⟨canonical, left, right⟩ := same
  exact ⟨canonical, right, left⟩

theorem SamePerson.trans (first : db.SamePerson id other) (second : db.SamePerson other third) : db.SamePerson id third := by
  obtain ⟨canonical, left, middle⟩ := first
  obtain ⟨_, middle', right⟩ := second
  exact ⟨canonical, left, middle'.functional middle ▸ right⟩

theorem samePerson_self (ends : db.aliasOf id = none) : db.SamePerson id id := ⟨id, .here ends, .here ends⟩

theorem aliasOf_congr (same : db'.aliases = db.aliases) : db'.aliasOf = db.aliasOf := by
  unfold aliasOf
  rw [same]

theorem samePerson_congr (same : db'.aliases = db.aliases) : db'.SamePerson id other ↔ db.SamePerson id other := by
  unfold SamePerson
  rw [aliasOf_congr same]

end ServerDatabase

namespace IdentityDatabase

def Member (db : IdentityDatabase) (workspaceId humanPrincipalId : String) : Prop :=
  ∃ membership, db.findActiveMembership workspaceId humanPrincipalId = .ok (some membership)

def OwnsProject (db : IdentityDatabase) (workspaceId humanPrincipalId : String) : Prop :=
  ∃ row ∈ db.projectMemberships, db.workspaceForLegacyProject row.projectId = some workspaceId ∧
    db.SamePerson humanPrincipalId row.humanPrincipalId ∧ row.role = .owner ∧ row.revokedAt = none

def HasOwner (db : IdentityDatabase) (projectId : String) : Prop :=
  ∃ row ∈ db.projectMemberships, row.projectId = projectId ∧ row.role = .owner ∧ row.revokedAt = none

def ActivePrincipal (db : IdentityDatabase) (workspaceId humanPrincipalId : String) : Prop :=
  ∃ principal ∈ db.principals, principal.key = (workspaceId, humanPrincipalId) ∧ principal.revokedAt = none

def ActiveMembership (db : IdentityDatabase) (workspaceId humanPrincipalId : String) (row : WorkspaceMembership) : Prop :=
  row ∈ db.memberships ∧ row.workspaceId = workspaceId ∧ row.humanPrincipalId = humanPrincipalId ∧ row.revokedAt = none

def Engaged (db : IdentityDatabase) (workspaceId : String) (row : ProjectMembership) : Prop :=
  row ∈ db.projectMemberships ∧ db.workspaceForLegacyProject row.projectId = some workspaceId ∧ row.revokedAt = none

/-- Everyone who is active in a project is so in its workspace, under a canonical id and in the role of an owner if they own. -/
structure Staffed (db : IdentityDatabase) : Prop where
  mapped : ∀ row ∈ db.projectMemberships, ∃ workspaceId, db.workspaceForLegacyProject row.projectId = some workspaceId
  known : ∀ row ∈ db.projectMemberships, ∀ workspaceId, db.workspaceForLegacyProject row.projectId = some workspaceId →
    ∃ principal ∈ db.principals, principal.key = (workspaceId, row.humanPrincipalId)
  current : ∀ workspaceId row, db.Engaged workspaceId row → db.ActivePrincipal workspaceId row.humanPrincipalId
  listed : ∀ workspaceId row, db.Engaged workspaceId row →
    ∃ membership, db.ActiveMembership workspaceId row.humanPrincipalId membership
  owned : ∀ workspaceId row, db.Engaged workspaceId row → row.role = .owner → ∀ membership,
    db.ActiveMembership workspaceId row.humanPrincipalId membership → membership.role = .owner
  canonical : ∀ row ∈ db.projectMemberships, row.revokedAt = none → db.aliasOf row.humanPrincipalId = none

variable {sha256 : Sha256} {db before after : IdentityDatabase} {workspaceId projectId person : String}
variable {membership : WorkspaceMembership}

section Members
variable {id : String}

theorem findActiveMembership_eq {canonical : String} {ids : List String} (equivalent : db.equivalentIds id = .ok ids)
    (resolved : db.resolveCanonical id = .ok canonical) : ∃ rows, (∀ row, row ∈ rows ↔ ∃ other,
      db.SamePerson id other ∧ db.ActiveMembership workspaceId other row ∧ db.ActivePrincipal workspaceId other) ∧
    db.findActiveMembership workspaceId id =
      .ok (selectMembership WorkspaceMembership.humanPrincipalId WorkspaceMembership.role canonical rows) := by
  unfold findActiveMembership
  rw [equivalent, resolved]
  refine ⟨_, fun row => ?_, rfl⟩
  rw [List.mem_filter, decide_eq_true_eq, mem_equivalentIds equivalent, Option.any_eq_true]
  constructor
  · rintro ⟨member, placed, same, active, principal, found, unrevoked⟩
    obtain ⟨among, keyed⟩ := find_eq_some.mp found
    exact ⟨row.humanPrincipalId, same, ⟨member, placed, rfl, active⟩, principal, among, keyed, of_decide_eq_true unrevoked⟩
  · rintro ⟨_, same, ⟨member, placed, rfl, active⟩, principal, among, keyed, unrevoked⟩
    exact ⟨member, placed, same, active, principal, keyed ▸ find_of_mem among, decide_eq_true unrevoked⟩

theorem member_iff : db.Member workspaceId id ↔ ∃ other membership, db.SamePerson id other ∧
    db.ActiveMembership workspaceId other membership ∧ db.ActivePrincipal workspaceId other := by
  constructor
  · rintro ⟨membership, found⟩
    have whole := found
    obtain ⟨_, equivalent, found⟩ := bind_ok.mp found
    obtain ⟨_, resolved, _⟩ := bind_ok.mp found
    obtain ⟨_, listed, selects⟩ := findActiveMembership_eq equivalent resolved
    obtain ⟨other, same, active, principal⟩ :=
      (listed membership).mp (selectMembership_mem (Except.ok.inj (selects.symm.trans whole)))
    exact ⟨other, membership, same, active, principal⟩
  · rintro ⟨other, membership, same, active, principal⟩
    have resolves := same
    obtain ⟨canonical, leads, _⟩ := resolves
    have resolved := resolveCanonical_ok.mpr leads
    obtain ⟨rows, listed, selects⟩ := findActiveMembership_eq (bind_ok.mpr ⟨canonical, resolved, rfl⟩) resolved
    cases selected : selectMembership WorkspaceMembership.humanPrincipalId WorkspaceMembership.role canonical rows with
    | some chosen => exact ⟨chosen, by rw [selects, selected]⟩
    | none =>
      have there := (listed membership).mpr ⟨other, same, active, principal⟩
      rw [selectMembership_none selected] at there
      cases there

theorem Staffed.role_owner (staffed : Staffed db)
    (found : db.findActiveMembership workspaceId id = .ok (some membership)) (owns : db.OwnsProject workspaceId id) :
    membership.role = .owner := by
  obtain ⟨row, member, mapped, same, owner, active⟩ := owns
  have engaged : db.Engaged workspaceId row := ⟨member, mapped, active⟩
  obtain ⟨listed, there⟩ := staffed.listed workspaceId row engaged
  have whole := found
  obtain ⟨_, equivalent, found⟩ := bind_ok.mp found
  obtain ⟨canonical, resolved, _⟩ := bind_ok.mp found
  obtain ⟨_, among, selects⟩ := findActiveMembership_eq equivalent resolved
  have chosen := Except.ok.inj (selects.symm.trans whole)
  have last : row.humanPrincipalId = canonical := by
    have ends := (samePerson_iff resolved).mp same
    rw [resolveCanonical_ok] at ends
    exact (Forwarding.Ends.here (staffed.canonical row member active)).functional ends
  have preferred : membership.humanPrincipalId = canonical :=
    selectMembership_canonical ((among listed).mpr ⟨_, same, there, staffed.current workspaceId row engaged⟩)
      (there.2.2.1.trans last) chosen
  obtain ⟨_, _, ⟨member', placed, _, active'⟩, _⟩ := (among membership).mp (selectMembership_mem chosen)
  exact staffed.owned workspaceId row engaged owner membership ⟨member', placed, preferred.trans last.symm, active'⟩

end Members

structure Carried (db before : IdentityDatabase) (projectId : String) (joined : String → Prop) (lost : String → Prop) : Prop where
  origin : ∀ row ∈ before.projectMemberships,
    (∃ old ∈ db.projectMemberships, old.projectId = row.projectId ∧ old.humanPrincipalId = row.humanPrincipalId ∧
      (row.revokedAt = none → old.revokedAt = none)) ∨ row.projectId = projectId ∧ joined row.humanPrincipalId
  elsewhere : ∀ row, row.projectId ≠ projectId → (row ∈ before.projectMemberships ↔ row ∈ db.projectMemberships)
  kept : ∀ old ∈ db.projectMemberships, old.revokedAt = none → lost old.humanPrincipalId ∨
    ∃ row ∈ before.projectMemberships, row.projectId = old.projectId ∧ row.humanPrincipalId = old.humanPrincipalId ∧
      row.revokedAt = none

variable {row : ProjectMembership}

namespace Carried
variable {joined lost : String → Prop}

theorem of_eq (same : before.projectMemberships = db.projectMemberships) : Carried db before projectId joined lost where
  origin row member := .inl ⟨row, same ▸ member, rfl, rfl, id⟩
  elsewhere row _ := by rw [same]
  kept old member active := .inr ⟨old, same ▸ member, rfl, rfl, active⟩

theorem of_inserted (placed : row.projectId = projectId) (joins : joined row.humanPrincipalId)
    (inserted : Table.Inserted row db.projectMemberships before.projectMemberships) : Carried db before projectId joined lost where
  origin other member := by
    rcases (inserted.2 other).mp member with there | rfl
    · exact .inl ⟨other, there, rfl, rfl, id⟩
    · exact .inr ⟨placed, joins⟩
  elsewhere other apart := by
    rw [inserted.2]
    exact or_iff_left fun same => apart (same ▸ placed)
  kept old member active := .inr ⟨old, (inserted.2 old).mpr (.inl member), rfl, rfl, active⟩

theorem of_replaced {old new : ProjectMembership}
    (replaced : Table.Replaced old new db.projectMemberships before.projectMemberships) (placed : old.projectId = projectId)
    (still : new.projectId = old.projectId) (named : new.humanPrincipalId = old.humanPrincipalId)
    (active : new.revokedAt = none → old.revokedAt = none) (gone : new.revokedAt = none ∨ lost old.humanPrincipalId) :
    Carried db before projectId joined lost where
  origin row member := by
    rcases replaced.mem_iff.mp member with ⟨there, _⟩ | rfl
    · exact .inl ⟨row, there, rfl, rfl, id⟩
    · exact .inl ⟨old, replaced.old_mem, still.symm, named.symm, active⟩
  elsewhere row apart := by
    rw [replaced.mem_iff]
    constructor
    · rintro (⟨there, _⟩ | rfl)
      · exact there
      · exact absurd (still.trans placed) apart
    · intro member
      rcases replaced.cases_old member with rfl | there
      · exact absurd placed apart
      · exact .inl ⟨member, there.2⟩
  kept row member unrevoked := by
    rcases replaced.cases_old member with rfl | ⟨there, _⟩
    · rcases gone with stays | gone
      · exact .inr ⟨new, replaced.new_mem, still, named, stays⟩
      · exact .inl gone
    · exact .inr ⟨row, there, rfl, rfl, unrevoked⟩

end Carried

theorem carried_of_edit {operation : MembershipOperation}
    (edit : MemberEdit db projectId person operation before.projectMemberships) :
    Carried db before projectId (fun id => id = person ∧ operation.joins db projectId)
      (fun id => operation = .removeMember ∧ db.SamePerson person id) := by
  generalize rows : before.projectMemberships = table at edit
  cases edit with
  | again _ _ _ _ _ | owns _ _ _ _ => exact .of_eq rows
  | owned vacant placed named _ _ inserted => exact .of_inserted placed ⟨named, vacant⟩ (rows ▸ inserted)
  | joined placed named _ _ inserted => exact .of_inserted placed ⟨named, trivial⟩ (rows ▸ inserted)
  | removed placed active same _ replaced =>
    rw [← rows] at replaced
    exact .of_replaced replaced placed rfl rfl (fun _ => active) (.inr ⟨rfl, same⟩)
  | promoted placed active _ replaced | demoted placed active _ _ _ replaced =>
    rw [← rows] at replaced
    exact .of_replaced replaced placed rfl rfl id (.inl active)

/-- A projection of the workspace leaves no one out: each member is named or active in a project that counts, the memberships of its
projects count, and its people have different membership ids. -/
structure Covers (sha256 : Sha256) (db : IdentityDatabase) (workspaceId projectId : String) (named : List String) : Prop where
  members : ∀ id, db.Member workspaceId id → (∃ person ∈ named, db.SamePerson person id) ∨
    ∃ source ∈ db.sourceMemberships workspaceId projectId, source.revokedAt = none ∧ db.SamePerson id source.humanPrincipalId
  counted : ∀ row, db.Engaged workspaceId row → row ∈ db.sourceMemberships workspaceId projectId
  distinct : Set.InjOn (workspaceMembershipIdFor sha256 workspaceId) { id | id ∈ named ∨
    ∃ row ∈ db.projectMemberships, db.workspaceForLegacyProject row.projectId = some workspaceId ∧ row.humanPrincipalId = id }

structure Projects (sha256 : Sha256) (db : IdentityDatabase) (workspaceId projectId : String) (named : List String)
    (lost : String → Prop) (before after : IdentityDatabase) : Prop where
  mapped : before.workspaceForLegacyProject projectId = some workspaceId
  mappings : ∀ other place, db.workspaceForLegacyProject other = some place → before.workspaceForLegacyProject other = some place
  elsewhere : ∀ other, other ≠ projectId → before.legacyProjects.find other = db.legacyProjects.find other
  principals : before.principals = db.principals
  memberships : before.memberships = db.memberships
  aliases : before.aliases = db.aliases
  carried : Carried db before projectId
    (fun id => id ∈ named ∧ db.aliasOf id = none ∧ (before.humanPrincipals.find id).isSome) lost
  attends : ∀ id ∈ named, lost id ∨ ∃ row ∈ before.projectMemberships, row.projectId = projectId ∧
    db.SamePerson id row.humanPrincipalId ∧ row.revokedAt = none
  synced : Synced sha256 workspaceId projectId before after

namespace Projects
variable {named : List String} {lost : String → Prop}
variable {place : String}

section
variable (projects : Projects sha256 db workspaceId projectId named lost before after)
include projects

section
variable (staffed : Staffed db)
include staffed

theorem engaged
    (member : row ∈ before.projectMemberships) (mapped : before.workspaceForLegacyProject row.projectId = some place) :
    (∃ old ∈ db.projectMemberships, old.projectId = row.projectId ∧ old.humanPrincipalId = row.humanPrincipalId ∧
      db.workspaceForLegacyProject old.projectId = some place ∧ (row.revokedAt = none → old.revokedAt = none)) ∨
    row.projectId = projectId ∧ place = workspaceId ∧ row.humanPrincipalId ∈ named ∧ db.aliasOf row.humanPrincipalId = none ∧
      ∃ human ∈ before.projectPeople projectId, human.humanPrincipalId = row.humanPrincipalId := by
  rcases projects.carried.origin row member with ⟨old, there, placed, same, active⟩ | ⟨placed, inside, ends, human⟩
  · obtain ⟨_, found⟩ := staffed.mapped old there
    have still := projects.mappings _ _ found
    rw [placed, mapped, Option.some.injEq] at still
    exact .inl ⟨old, there, placed, same, still ▸ found, active⟩
  · obtain ⟨human, found⟩ := isSome_iff_exists.mp human
    obtain ⟨among, keyed⟩ := find_eq_some.mp found
    rw [placed, projects.mapped, Option.some.injEq] at mapped
    refine .inr ⟨placed, mapped.symm, inside, ends, human, ?_, keyed⟩
    refine mem_filter.mpr ⟨among, any_eq_true.mpr ⟨row, member, decide_eq_true ⟨placed, keyed.symm⟩⟩⟩

theorem known
    (member : row ∈ before.projectMemberships) (mapped : before.workspaceForLegacyProject row.projectId = some place) :
    ∃ principal ∈ after.principals, principal.key = (place, row.humanPrincipalId) := by
  rcases projects.engaged staffed member mapped with ⟨old, there, _, same, found, _⟩ | ⟨_, here, _, _, human, among, keyed⟩
  · obtain ⟨principal, present, key⟩ := staffed.known old there place found
    exact ⟨principal, projects.synced.principals _ (projects.principals ▸ present), same ▸ key⟩
  · exact ⟨_, projects.synced.agreed human among, by rw [here, ← keyed]; rfl⟩

theorem current (engaged : before.Engaged place row) : after.ActivePrincipal place row.humanPrincipalId := by
  obtain ⟨member, mapped, unrevoked⟩ := engaged
  rcases projects.engaged staffed member mapped with ⟨old, there, _, same, found, active⟩ | ⟨_, here, _, _, human, among, keyed⟩
  · obtain ⟨principal, present, key, clean⟩ := staffed.current place old ⟨there, found, active unrevoked⟩
    exact ⟨principal, projects.synced.principals _ (projects.principals ▸ present), same ▸ key, clean⟩
  · exact ⟨_, projects.synced.agreed human among, by rw [here, ← keyed]; rfl, rfl⟩

theorem present :
    ∀ id ∈ before.staff workspaceId projectId, ∃ principal ∈ after.principals, principal.key = (workspaceId, id) := by
  intro id member
  obtain ⟨_, among, rfl⟩ := mem_staff.mp member
  obtain ⟨there, project, found, placed, _⟩ := mem_sourceMemberships.mp among
  exact projects.known staffed there (map_eq_some_iff.mpr ⟨project, found, placed⟩)

theorem distinct (covers : Covers sha256 db workspaceId projectId named) :
    Set.InjOn (workspaceMembershipIdFor sha256 workspaceId) { id | id ∈ before.staff workspaceId projectId } := by
  refine covers.distinct.mono fun id member => ?_
  obtain ⟨source, among, rfl⟩ := mem_staff.mp member
  obtain ⟨there, project, found, placed, _⟩ := mem_sourceMemberships.mp among
  have mapped : before.workspaceForLegacyProject source.projectId = some workspaceId :=
    map_eq_some_iff.mpr ⟨project, found, placed⟩
  rcases projects.engaged staffed there mapped with ⟨old, member, _, same, found, _⟩ | ⟨_, _, inside, _⟩
  · exact .inr ⟨old, member, found, same⟩
  · exact .inl inside
end

theorem source (member : row ∈ before.projectMemberships)
    (counts : row.projectId = projectId ∨ ∃ old ∈ db.sourceMemberships workspaceId projectId, old.projectId = row.projectId) :
    row ∈ before.sourceMemberships workspaceId projectId := by
  refine mem_sourceMemberships.mpr ⟨member, ?_⟩
  by_cases here : row.projectId = projectId
  · obtain ⟨project, found, placed⟩ := map_eq_some_iff.mp projects.mapped
    exact ⟨project, here ▸ found, placed, .inr (find_eq_some.mp found).2⟩
  · obtain ⟨_, among, same⟩ := counts.resolve_left here
    obtain ⟨_, project, found, placed, counted⟩ := mem_sourceMemberships.mp among
    rw [same, ← projects.elsewhere _ here] at found
    exact ⟨project, found, placed, counted⟩

section
variable (staffed : Staffed db)
include staffed

theorem active_of_source (covers : Covers sha256 db workspaceId projectId named)
    (among : row ∈ before.sourceMemberships workspaceId projectId) (unrevoked : row.revokedAt = none) :
    ∃ membership, after.ActiveMembership workspaceId row.humanPrincipalId membership := by
  have inside := mem_sourcesOf.mpr ⟨among, rfl⟩
  obtain ⟨membership, projected⟩ : ∃ membership, projection sha256 workspaceId row.humanPrincipalId
      (before.sourcesOf workspaceId projectId row.humanPrincipalId) = some membership :=
    projection_some (ne_nil_of_mem inside)
  obtain ⟨placed, _, same, active, _⟩ := projection_spec projected
  refine ⟨membership, ?_, placed, same, active.mpr ⟨row, inside, unrevoked⟩⟩
  exact (projects.synced.mem_memberships (projects.distinct staffed covers) (projects.present staffed) placed).mpr
    ⟨_, mem_staff.mpr ⟨row, among, rfl⟩, projected⟩

theorem outside (apart : place ≠ workspaceId) (member : row ∈ before.projectMemberships)
    (mapped : before.workspaceForLegacyProject row.projectId = some place) :
    row ∈ db.projectMemberships ∧ db.workspaceForLegacyProject row.projectId = some place := by
  rcases projects.engaged staffed member mapped with ⟨_, _, placed, _, found, _⟩ | ⟨_, here, _⟩
  · have elsewhere : row.projectId ≠ projectId := by
      intro same
      rw [same, projects.mapped, Option.some.injEq] at mapped
      exact apart mapped.symm
    exact ⟨(projects.carried.elsewhere row elsewhere).mp member, placed ▸ found⟩
  · exact absurd here apart

section
variable (covers : Covers sha256 db workspaceId projectId named)
include covers

theorem counts (engaged : before.Engaged workspaceId row) :
    row ∈ before.sourceMemberships workspaceId projectId := by
  obtain ⟨member, mapped, unrevoked⟩ := engaged
  rcases projects.engaged staffed member mapped with ⟨old, there, placed, _, found, active⟩ | ⟨placed, _⟩
  · exact projects.source member (.inr ⟨old, covers.counted old ⟨there, found, active unrevoked⟩, placed⟩)
  · exact projects.source member (.inl placed)

theorem listed
    (engaged : before.Engaged place row) : ∃ membership, after.ActiveMembership place row.humanPrincipalId membership := by
  by_cases here : place = workspaceId
  · subst here
    exact projects.active_of_source staffed covers (projects.counts staffed covers engaged) engaged.2.2
  · obtain ⟨there, mapped⟩ := projects.outside staffed here engaged.1 engaged.2.1
    obtain ⟨membership, member, placed, rest⟩ := staffed.listed place row ⟨there, mapped, engaged.2.2⟩
    have kept := projects.synced.elsewhere (placed.symm ▸ here) (projects.distinct staffed covers)
    exact ⟨membership, kept.mpr (projects.memberships ▸ member), placed, rest⟩

theorem owned (engaged : before.Engaged place row) (owner : row.role = .owner)
    (active : after.ActiveMembership place row.humanPrincipalId membership) : membership.role = .owner := by
  obtain ⟨member, placed, same, unrevoked⟩ := active
  by_cases here : place = workspaceId
  · subst here
    obtain ⟨id, _, projected⟩ :=
      (projects.synced.mem_memberships (projects.distinct staffed covers) (projects.present staffed) placed).mp member
    obtain ⟨_, _, person, _, owns⟩ := projection_spec projected
    have inside : row ∈ before.sourcesOf place projectId id :=
      mem_sourcesOf.mpr ⟨projects.counts staffed covers engaged, same.symm.trans person⟩
    exact owns ⟨row, inside, engaged.2.2, owner⟩
  · obtain ⟨there, mapped⟩ := projects.outside staffed here engaged.1 engaged.2.1
    have kept := projects.synced.elsewhere (placed.symm ▸ here) (projects.distinct staffed covers)
    exact staffed.owned place row ⟨there, mapped, engaged.2.2⟩ owner membership
      ⟨projects.memberships ▸ kept.mp member, placed, same, unrevoked⟩
end
end
end

theorem staffed (projects : Projects sha256 db workspaceId projectId named lost before after) (staffed : Staffed db)
    (covers : Covers sha256 db workspaceId projectId named) : Staffed after := by
  have rows : after.projectMemberships = before.projectMemberships := projects.synced.projectMemberships
  have mappings : ∀ other, after.workspaceForLegacyProject other = before.workspaceForLegacyProject other := by
    intro other
    unfold workspaceForLegacyProject
    rw [projects.synced.legacyProjects]
  have engaged : ∀ place row, after.Engaged place row → before.Engaged place row := by
    intro place row inside
    unfold Engaged at inside ⊢
    rw [← mappings, ← rows]
    exact inside
  constructor
  · intro row member
    rw [mappings]
    rcases projects.carried.origin row (rows ▸ member) with ⟨old, there, placed, _⟩ | ⟨placed, _⟩
    · obtain ⟨place, found⟩ := staffed.mapped old there
      exact ⟨place, placed ▸ projects.mappings _ _ found⟩
    · exact ⟨workspaceId, placed ▸ projects.mapped⟩
  · intro row member place mapped
    rw [mappings] at mapped
    exact projects.known staffed (rows ▸ member) mapped
  · intro place row inside
    exact projects.current staffed (engaged place row inside)
  · intro place row inside
    exact projects.listed staffed covers (engaged place row inside)
  · intro place row inside owner membership active
    exact projects.owned staffed covers (engaged place row inside) owner active
  · intro row member unrevoked
    rw [ServerDatabase.aliasOf_congr projects.synced.aliases, ServerDatabase.aliasOf_congr projects.aliases]
    rcases projects.carried.origin row (rows ▸ member) with ⟨old, there, _, same, active⟩ | ⟨_, _, ends, _⟩
    · exact same ▸ staffed.canonical old there (active unrevoked)
    · exact ends

theorem member (projects : Projects sha256 db workspaceId projectId named lost before after) (staffed : Staffed db)
    (covers : Covers sha256 db workspaceId projectId named) {id : String} (member : db.Member place id)
    (spared : ∀ other, db.SamePerson id other → ¬ lost other) : after.Member place id := by
  have people : ∀ other, after.SamePerson id other ↔ db.SamePerson id other := fun other =>
    ServerDatabase.samePerson_congr (projects.synced.aliases.trans projects.aliases)
  rw [member_iff]
  by_cases here : place = workspaceId
  · subst here
    have attends : ∃ row ∈ before.projectMemberships, row ∈ before.sourceMemberships place projectId ∧
        db.SamePerson id row.humanPrincipalId ∧ row.revokedAt = none := by
      rcases covers.members id member with ⟨person, inside, same⟩ | ⟨source, among, unrevoked, same⟩
      · rcases projects.attends person inside with gone | ⟨row, there, placed, same', active⟩
        · exact absurd gone (spared person same.symm)
        · exact ⟨row, there, projects.source there (.inl placed), same.symm.trans same', active⟩
      · rcases projects.carried.kept source (mem_sourceMemberships.mp among).1 unrevoked with gone | ⟨row, there, placed, named, active⟩
        · exact absurd gone (spared _ same)
        · exact ⟨row, there, projects.source there (.inr ⟨source, among, placed.symm⟩), named ▸ same, active⟩
    obtain ⟨row, there, among, same, active⟩ := attends
    obtain ⟨project, found, placed, _⟩ := (mem_sourceMemberships.mp among).2
    have mapped : before.workspaceForLegacyProject row.projectId = some place :=
      map_eq_some_iff.mpr ⟨project, found, placed⟩
    obtain ⟨membership, listed⟩ := projects.active_of_source staffed covers among active
    exact ⟨_, membership, (people _).mpr same, listed, projects.current staffed ⟨there, mapped, active⟩⟩
  · obtain ⟨other, membership, same, ⟨there, placed, rest⟩, principal, present, clean⟩ := member_iff.mp member
    have kept := projects.synced.elsewhere (placed.symm ▸ here) (projects.distinct staffed covers)
    exact ⟨other, membership, (people other).mpr same, ⟨kept.mpr (projects.memberships ▸ there), placed, rest⟩,
      principal, projects.synced.principals _ (projects.principals ▸ present), clean⟩

end Projects
end IdentityDatabase
end PlanWeave.Access
