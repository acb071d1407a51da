import PlanWeave.Access.Staffing

namespace PlanWeave.Access
open Checked ServerDatabase Table

structure Grows (db db' : IdentityDatabase) : Prop where
  projectMemberships : db'.projectMemberships = db.projectMemberships
  aliases : db'.aliases = db.aliases
  legacyProjects : db'.legacyProjects = db.legacyProjects
  principals : ∀ row ∈ db.principals, ∃ after ∈ db'.principals, after.key = row.key ∧ after.revokedAt = row.revokedAt
  memberships : ∀ row ∈ db.memberships, row ∈ db'.memberships
  joined : ∀ row ∈ db'.memberships, row ∈ db.memberships ∨ ¬ db.Member row.workspaceId row.humanPrincipalId

open IdentityDatabase
variable {row : WorkspaceMembership}

section Grows
variable {db db' : IdentityDatabase} {workspaceId projectId id : String}

theorem IdentityDatabase.Staffed.member_of_engaged (staffed : Staffed db) {row : ProjectMembership}
    (engaged : db.Engaged workspaceId row) : db.Member workspaceId row.humanPrincipalId := by
  obtain ⟨membership, listed⟩ := staffed.listed workspaceId row engaged
  have self := samePerson_self (staffed.canonical row engaged.1 engaged.2.2)
  exact member_iff.mpr ⟨_, membership, self, listed, staffed.current workspaceId row engaged⟩

theorem OwnersMoved.grows {scope : AccessScope} (moved : OwnersMoved scope db db') : Grows db db' where
  projectMemberships := moved.set.same.projectMemberships
  aliases := moved.set.same.aliases
  legacyProjects := moved.legacyProjects
  principals row member := ⟨row, moved.set.same.principals ▸ member, rfl, rfl⟩
  memberships _ member := moved.set.same.memberships ▸ member
  joined _ member := .inl (moved.set.same.memberships ▸ member)

theorem Grows.refl : Grows db db :=
  ⟨rfl, rfl, rfl, fun row member => ⟨row, member, rfl, rfl⟩, fun _ member => member, fun _ member => .inl member⟩

namespace Grows

section
variable (grows : Grows db db')
include grows

theorem workspaceForLegacyProject :
    db'.workspaceForLegacyProject projectId = db.workspaceForLegacyProject projectId := by
  unfold IdentityDatabase.workspaceForLegacyProject
  rw [grows.legacyProjects]

theorem engaged_iff {row : ProjectMembership} : db'.Engaged workspaceId row ↔ db.Engaged workspaceId row := by
  unfold Engaged
  rw [grows.projectMemberships, grows.workspaceForLegacyProject]

theorem activePrincipal (active : db.ActivePrincipal workspaceId id) : db'.ActivePrincipal workspaceId id := by
  obtain ⟨principal, member, keyed, clean⟩ := active
  obtain ⟨after, there, same, revoked⟩ := grows.principals principal member
  exact ⟨after, there, same.trans keyed, revoked.trans clean⟩

theorem activeMembership (active : db.ActiveMembership workspaceId id row) : db'.ActiveMembership workspaceId id row := ⟨grows.memberships row active.1, active.2⟩
end

theorem member (grows : Grows db db') (member : db.Member workspaceId id) : db'.Member workspaceId id := by
  obtain ⟨other, membership, same, active, principal⟩ := member_iff.mp member
  exact member_iff.mpr ⟨other, membership, (samePerson_congr grows.aliases).mpr same,
    grows.activeMembership active, grows.activePrincipal principal⟩

theorem hasOwner (grows : Grows db db') (owned : db.HasOwner projectId) : db'.HasOwner projectId := by
  unfold HasOwner at owned ⊢
  rw [grows.projectMemberships]
  exact owned

theorem staffed (grows : Grows db db') (staffed : Staffed db) : Staffed db' where
  mapped row member := by
    rw [grows.workspaceForLegacyProject]
    exact staffed.mapped row (grows.projectMemberships ▸ member)
  known row member place mapped := by
    rw [grows.workspaceForLegacyProject] at mapped
    obtain ⟨principal, there, keyed⟩ := staffed.known row (grows.projectMemberships ▸ member) place mapped
    obtain ⟨after, there', same, _⟩ := grows.principals principal there
    exact ⟨after, there', same.trans keyed⟩
  current place row engaged := grows.activePrincipal (staffed.current place row (grows.engaged_iff.mp engaged))
  listed place row engaged := by
    obtain ⟨membership, listed⟩ := staffed.listed place row (grows.engaged_iff.mp engaged)
    exact ⟨membership, grows.activeMembership listed⟩
  owned place row engaged owner membership active := by
    have before := grows.engaged_iff.mp engaged
    obtain ⟨member, placed, same, unrevoked⟩ := active
    rcases grows.joined membership member with there | outsider
    · exact staffed.owned place row before owner membership ⟨there, placed, same, unrevoked⟩
    · rw [placed, same] at outsider
      exact absurd (staffed.member_of_engaged before) outsider
  canonical row member unrevoked := by
    rw [aliasOf_congr grows.aliases]
    exact staffed.canonical row (grows.projectMemberships ▸ member) unrevoked

end Grows
end Grows

namespace IdentityDatabase
variable {db db' : IdentityDatabase} {workspaceId projectId humanPrincipalId displayName : String}
  {call : IdentityCall}

section Growing

theorem updateHumanDisplayName_grows (done : db.updateHumanDisplayName humanPrincipalId displayName = .ok db') :
    Grows db db' := by
  obtain ⟨_, done⟩ := rest_ok done
  cases done
  refine ⟨rfl, rfl, rfl, fun row member => ?_, fun _ member => member, fun _ => .inl⟩
  by_cases named : row.humanPrincipalId = humanPrincipalId
  · refine ⟨row.renamed displayName, ?_, rfl, rfl⟩
    rw [mem_update]
    exact ⟨row, member, if_pos named⟩
  · refine ⟨row, ?_, rfl, rfl⟩
    rw [mem_update]
    exact ⟨row, member, if_neg named⟩

theorem updateWorkspaceConnectionDisplayName_grows
    (done : db.updateWorkspaceConnectionDisplayName workspaceId humanPrincipalId displayName = .ok db') : Grows db db' := by
  obtain ⟨session, _, done⟩ := bind_ok.mp done
  cases session with
  | none =>
    cases done
    exact .refl
  | some =>
    dsimp only at done
    split at done
    · cases done
      exact .refl
    rename_i principals updated
    cases done
    obtain ⟨_, _, replaced⟩ := updateOne_replaced updated
    refine ⟨rfl, rfl, rfl, fun row member => ?_, fun _ member => member, fun _ => .inl⟩
    rcases replaced.cases_old member with rfl | ⟨there, _⟩
    · exact ⟨_, replaced.new_mem, rfl, rfl⟩
    · exact ⟨row, there, rfl, rfl⟩

theorem mem_insertPrincipal {row : WorkspacePrincipal} (member : row ∈ db.principals) :
    row ∈ (db.insertPrincipal workspaceId humanPrincipalId call).principals := by
  unfold insertPrincipal
  split
  · exact member
  · rename_i missing
    have absent := Option.not_isSome_iff_eq_none.mp missing
    exact mem_put.mpr (.inl ⟨member, find_eq_none.mp absent row member⟩)

theorem redeemed_grows {person : String} : Grows db (db.redeemed workspaceId person call) := by
  have people : ∀ known : IdentityDatabase, known = db.insertHuman person call → Grows db known := by
    rintro _ rfl
    unfold insertHuman
    split <;> exact ⟨rfl, rfl, rfl, fun row member => ⟨row, member, rfl, rfl⟩, fun _ member => member, fun _ => .inl⟩
  have known := people _ rfl
  have inserts : ∀ after, after = (db.insertHuman person call).insertPrincipal workspaceId person call →
      after = { db.insertHuman person call with principals := after.principals } := by
    rintro _ rfl
    unfold insertPrincipal
    split <;> rfl
  have same : db.redeemed workspaceId person call = { db.insertHuman person call with
    principals := (db.redeemed workspaceId person call).principals } := inserts _ rfl
  rw [same]
  refine ⟨known.projectMemberships, known.aliases, known.legacyProjects, fun row member => ?_, known.memberships, known.joined⟩
  obtain ⟨after, there, keyed, revoked⟩ := known.principals row member
  exact ⟨after, mem_insertPrincipal there, keyed, revoked⟩

variable {role : MembershipRole}

theorem insertWorkspaceMembership_inserted
    (done : db.insertWorkspaceMembership workspaceId humanPrincipalId role call = .ok db') :
    db' = { db with memberships := db'.memberships } ∧ ∃ row : WorkspaceMembership,
      row.workspaceId = workspaceId ∧ row.humanPrincipalId = humanPrincipalId ∧
        Table.Inserted row db.memberships db'.memberships := by
  obtain ⟨_, done⟩ := rest_ok done
  obtain ⟨_, inserted, done⟩ := bind_ok.mp done
  cases done
  rw [present_ok] at inserted
  exact ⟨rfl, _, rfl, rfl, Table.inserted inserted⟩

theorem synchronizeAll_same {current changed : ServerDatabase} {projects : List String} {person : String}
    {now : Timestamp} (done : projects.foldlM (fun (current : ServerDatabase) projectId =>
      current.synchronizeHumanMembershipOwner workspaceId projectId person .memberJoined role now) current = .ok changed) :
    SameIdentities current changed := by
  induction projects generalizing current with
  | nil =>
    cases done
    exact .refl
  | cons _ _ ih =>
    obtain ⟨_, first, tail⟩ := foldlM_cons_inv done
    exact (synchronizeHumanMembershipOwner_set first).same.trans (ih tail)

theorem redeemDevice_grows {trusted : List AccessScope}
    (done : db.redeemDevice trusted workspaceId humanPrincipalId call = .ok db') : Grows db db' := by
  obtain ⟨person, resolved, ⟨_, _, rfl⟩ | ⟨outsider, _, joined, _, inserted, synchronized, rfl⟩⟩ := redeemDevice_ok done
  · exact redeemed_grows
  have known : Grows db (db.redeemed workspaceId person call) := redeemed_grows
  have same := synchronizeAll_same synchronized
  obtain ⟨rest, _, placed, named, inserts⟩ := insertWorkspaceMembership_inserted inserted
  have stranger : ¬ db.Member workspaceId person := by
    rintro ⟨_, found⟩
    rw [findActiveMembership_canonical resolved, outsider] at found
    cases found
  constructor
  · exact same.projectMemberships.trans (by rw [rest]; exact known.projectMemberships)
  · exact same.aliases.trans (by rw [rest]; exact known.aliases)
  · rw [rest]
    exact known.legacyProjects
  · intro old member
    obtain ⟨after, there, keyed, revoked⟩ := known.principals old member
    refine ⟨after, ?_, keyed, revoked⟩
    rw [same.principals, rest]
    exact there
  · intro old member
    rw [same.memberships]
    exact (inserts.2 old).mpr (.inl (known.memberships old member))
  · intro new member
    rw [same.memberships] at member
    rcases (inserts.2 new).mp member with there | rfl
    · exact known.joined new there
    · rw [placed, named]
      exact .inr stranger

end Growing
end IdentityDatabase

namespace Merged
variable {db : IdentityDatabase} {merged : ServerDatabase} {source target id other : String} {ids : List String} {now : Timestamp}

def database (db : IdentityDatabase) (merged : ServerDatabase) : IdentityDatabase := { db with toServerDatabase := merged }

section
variable (merges : Merged db.toServerDatabase merged source target ids now)
include merges

theorem samePerson (same : db.SamePerson id other) : merged.SamePerson id other := by
  obtain ⟨canonical, left, right⟩ := same
  rw [← resolveCanonical_ok] at left right
  refine ⟨if canonical = source then target else canonical, ?_, ?_⟩
  · rw [← resolveCanonical_ok, merges.resolveCanonical_eq, left]
    rfl
  · rw [← resolveCanonical_ok, merges.resolveCanonical_eq, right]
    rfl

theorem samePerson_target (among : id ∈ ids) : merged.SamePerson id target := ((mem_equivalentIds merges.resolved).mp among).symm

theorem aliasOf_target : merged.aliasOf target = none := by
  rw [merges.aliasOf_eq, Forwarding.link, if_neg (Ne.symm merges.apart)]
  exact merges.targetEnds

theorem source_mem : source ∈ ids :=
  merges.mem_ids.mpr (.inl (resolveCanonical_ok.mpr (.here merges.sourceEnds)))

theorem consolidated {row : ProjectMembership} (member : row ∈ merged.projectMemberships) :
    row ∈ (projectMembershipConsolidation ids target now).consolidate db.projectMemberships :=
  merges.projectMemberships ▸ member

variable {workspaceId : String}

theorem engaged_origin
    {row : ProjectMembership} (engaged : (database db merged).Engaged workspaceId row) :
    (row.humanPrincipalId ∉ ids ∧ db.Engaged workspaceId row) ∨
    row.humanPrincipalId = target ∧ (∃ old, db.Engaged workspaceId old ∧ old.humanPrincipalId ∈ ids) ∧
      (row.role = .owner → ∃ old, db.Engaged workspaceId old ∧ old.humanPrincipalId ∈ ids ∧ old.role = .owner) := by
  obtain ⟨member, mapped, unrevoked⟩ := engaged
  replace member := merges.consolidated member
  by_cases among : row.humanPrincipalId ∈ ids
  · obtain ⟨named, ⟨old, there, inside, active, grouped⟩, owns⟩ :=
      projectMembershipConsolidation_inherits.heir member among unrevoked
    have placed : old.projectId = row.projectId := grouped
    refine .inr ⟨named, ⟨old, ⟨there, placed ▸ mapped, active⟩, inside⟩, fun owner => ?_⟩
    obtain ⟨old, there, inside, active, grouped, owner⟩ := owns.mp owner
    have placed : old.projectId = row.projectId := grouped
    exact ⟨old, ⟨there, placed ▸ mapped, active⟩, inside, owner⟩
  · have there := (projectMembershipConsolidation_inherits.outside merges.target_mem among).mp member
    exact .inl ⟨among, there, mapped, unrevoked⟩

theorem activePrincipal
    (outside : id ∉ ids) (active : db.ActivePrincipal workspaceId id) : (database db merged).ActivePrincipal workspaceId id := by
  obtain ⟨principal, member, keyed, clean⟩ := active
  have named : principal.humanPrincipalId = id := congrArg Prod.snd keyed
  exact ⟨principal, (merges.principals principal (named ▸ outside)).mpr member, keyed, clean⟩

theorem activePrincipal_target
    (among : id ∈ ids) (active : db.ActivePrincipal workspaceId id) : (database db merged).ActivePrincipal workspaceId target := by
  obtain ⟨principal, member, keyed, _⟩ := active
  have named : principal.humanPrincipalId = id := congrArg Prod.snd keyed
  have placed : principal.workspaceId = workspaceId := congrArg Prod.fst keyed
  obtain ⟨after, there, same, clean⟩ := merges.principal_target member (named ▸ among)
  exact ⟨after, there, placed ▸ same, clean⟩

theorem activeMembership_iff (outside : id ∉ ids) :
    (database db merged).ActiveMembership workspaceId id row ↔ db.ActiveMembership workspaceId id row := by
  have same : row.humanPrincipalId = id → (row ∈ merged.memberships ↔ row ∈ db.memberships) := by
    intro named
    rw [merges.memberships]
    exact membershipConsolidation_inherits.outside merges.target_mem (named ▸ outside)
  constructor
  · rintro ⟨member, placed, named, rest⟩
    exact ⟨(same named).mp member, placed, named, rest⟩
  · rintro ⟨member, placed, named, rest⟩
    exact ⟨(same named).mpr member, placed, named, rest⟩

theorem activeMembership_target
    (among : id ∈ ids) (active : db.ActiveMembership workspaceId id row) :
    ∃ heir, (database db merged).ActiveMembership workspaceId target heir := by
  obtain ⟨member, placed, named, unrevoked⟩ := active
  obtain ⟨heir, inherits, grouped, person, active, _⟩ :=
    (@membershipConsolidation_inherits ids target now).inherited member (named ▸ among) unrevoked
  rw [← merges.memberships] at inherits
  exact ⟨heir, inherits, grouped.trans placed, person, active⟩
end

section
variable (merges : Merged db.toServerDatabase merged source target ids now)
include merges

theorem staffed (staffed : Staffed db) :
    Staffed (database db merged) where
  mapped row member := by
    replace member := merges.consolidated member
    obtain ⟨old, there, grouped, _⟩ := projectMembershipConsolidation_inherits.origin member
    have placed : old.projectId = row.projectId := grouped
    exact placed ▸ staffed.mapped old there
  known row member place mapped := by
    replace member := merges.consolidated member
    obtain ⟨old, there, grouped, origin⟩ := projectMembershipConsolidation_inherits.origin member
    have placed : old.projectId = row.projectId := grouped
    obtain ⟨principal, present, keyed⟩ := staffed.known old there place (placed ▸ mapped)
    rcases origin with same | ⟨among, named⟩
    · obtain ⟨after, there', like⟩ := merges.principal_kept present
      exact ⟨after, there', like.1.trans (same ▸ keyed)⟩
    · have person : principal.humanPrincipalId = old.humanPrincipalId := congrArg Prod.snd keyed
      have within : principal.workspaceId = place := congrArg Prod.fst keyed
      obtain ⟨after, there', keyed', _⟩ := merges.principal_target present (person ▸ among)
      exact ⟨after, there', by rw [keyed', within, named]⟩
  current place row engaged := by
    rcases merges.engaged_origin engaged with ⟨outside, before⟩ | ⟨named, ⟨old, before, among⟩, _⟩
    · exact merges.activePrincipal outside (staffed.current place row before)
    · exact named ▸ merges.activePrincipal_target among (staffed.current place old before)
  listed place row engaged := by
    rcases merges.engaged_origin engaged with ⟨outside, before⟩ | ⟨named, ⟨old, before, among⟩, _⟩
    · obtain ⟨membership, listed⟩ := staffed.listed place row before
      exact ⟨membership, (merges.activeMembership_iff outside).mpr listed⟩
    · obtain ⟨_, listed⟩ := staffed.listed place old before
      exact named ▸ merges.activeMembership_target among listed
  owned place row engaged owner membership active := by
    rcases merges.engaged_origin engaged with ⟨outside, before⟩ | ⟨named, _, owns⟩
    · exact staffed.owned place row before owner membership ((merges.activeMembership_iff outside).mp active)
    obtain ⟨old, before, among, role⟩ := owns owner
    obtain ⟨heired, there, placed, person, unrevoked⟩ := staffed.listed place old before
    have kept := staffed.owned place old before role heired ⟨there, placed, person, unrevoked⟩
    obtain ⟨member, placed', person', unrevoked'⟩ := active
    replace member : membership ∈ (membershipConsolidation ids target now).consolidate db.memberships :=
      merges.memberships ▸ member
    have inside : membership.humanPrincipalId ∈ ids := by
      rw [person', named]
      exact merges.target_mem
    obtain ⟨_, _, owner⟩ := membershipConsolidation_inherits.heir member inside unrevoked'
    exact owner.mpr ⟨heired, there, person ▸ among, unrevoked, placed.trans placed'.symm, kept⟩
  canonical row member unrevoked := by
    replace member := merges.consolidated member
    by_cases among : row.humanPrincipalId ∈ ids
    · obtain ⟨named, _⟩ := projectMembershipConsolidation_inherits.heir member among unrevoked
      exact named ▸ merges.aliasOf_target
    have there := (projectMembershipConsolidation_inherits.outside merges.target_mem among).mp member
    have ends := staffed.canonical row there unrevoked
    have other : row.humanPrincipalId ≠ source := fun same => among (same ▸ merges.source_mem)
    have links : merged.aliasOf row.humanPrincipalId = db.aliasOf row.humanPrincipalId := by
      rw [merges.aliasOf_eq, Forwarding.link, if_neg other]
    exact links.trans ends

theorem member {workspaceId : String}
    (member : db.Member workspaceId id) : (database db merged).Member workspaceId id := by
  obtain ⟨other, membership, same, active, principal⟩ := member_iff.mp member
  by_cases among : other ∈ ids
  · obtain ⟨heir, inherits⟩ := merges.activeMembership_target among active
    exact member_iff.mpr ⟨target, heir, (merges.samePerson same).trans (merges.samePerson_target among), inherits,
      merges.activePrincipal_target among principal⟩
  · exact member_iff.mpr ⟨other, membership, merges.samePerson same, (merges.activeMembership_iff among).mpr active,
      merges.activePrincipal among principal⟩

theorem hasOwner {projectId : String}
    (owned : db.HasOwner projectId) : (database db merged).HasOwner projectId := by
  obtain ⟨row, member, placed, owner, active⟩ := owned
  have kept : (database db merged).projectMemberships =
      (projectMembershipConsolidation ids target now).consolidate db.projectMemberships := merges.projectMemberships
  unfold HasOwner
  rw [kept]
  by_cases among : row.humanPrincipalId ∈ ids
  · obtain ⟨heir, there, grouped, _, unrevoked, owns⟩ :=
      (@projectMembershipConsolidation_inherits ids target now).inherited member among active
    exact ⟨heir, there, Eq.trans grouped placed, owns owner, unrevoked⟩
  · exact ⟨row, (projectMembershipConsolidation_inherits.outside merges.target_mem among).mpr member, placed, owner, active⟩
end
end Merged

namespace IdentityDatabase

section Operations
variable {operation : MembershipOperation}
variable {rows : Table ProjectMembership.membershipId}

section
variable (edit : MemberEdit db projectId humanPrincipalId operation rows)
include edit

theorem hasOwner_of_edit {other : String} (owned : db.HasOwner other) :
    ∃ row ∈ rows, row.projectId = other ∧ row.role = .owner ∧ row.revokedAt = none := by
  -- an owner who is removed or demoted is not the last one
  have spared : ∀ {old new : ProjectMembership}, Table.Replaced old new db.projectMemberships rows → old.projectId = projectId →
      (old.role = .owner → 1 < db.countActiveOwners projectId) →
      ∃ row ∈ rows, row.projectId = other ∧ row.role = .owner ∧ row.revokedAt = none := by
    intro old new replaced placed spare
    obtain ⟨owner, member, within, role, active⟩ := owned
    rcases replaced.cases_old member with rfl | ⟨there, _⟩
    · have several := spare role
      have counted := replaced.count (p := fun row => row.projectId = projectId ∧ row.role = .owner ∧ row.revokedAt = none)
      rw [if_pos ⟨placed, role, active⟩] at counted
      have left : 0 < rows.count fun row => row.projectId = projectId ∧ row.role = .owner ∧ row.revokedAt = none := by
        unfold countActiveOwners at several
        omega
      obtain ⟨row, there, here, rest⟩ := count_pos.mp left
      exact ⟨row, there, here.trans (placed.symm.trans within), rest⟩
    · exact ⟨owner, there, within, role, active⟩
  have inserted : ∀ {row : ProjectMembership}, Table.Inserted row db.projectMemberships rows →
      ∃ row ∈ rows, row.projectId = other ∧ row.role = .owner ∧ row.revokedAt = none := by
    intro row inserts
    obtain ⟨owner, member, rest⟩ := owned
    exact ⟨owner, (inserts.2 owner).mpr (.inl member), rest⟩
  cases edit with
  | again _ _ _ _ _ | owns _ _ _ _ => exact owned
  | owned _ _ _ _ _ inserts => exact inserted inserts
  | joined _ _ _ _ inserts => exact inserted inserts
  | removed placed _ _ spare replaced => exact spared replaced placed spare
  | demoted placed _ _ _ spare replaced => exact spared replaced placed fun _ => spare
  | promoted _ _ _ replaced =>
    obtain ⟨owner, member, within, role, active⟩ := owned
    rcases replaced.cases_old member with rfl | ⟨there, _⟩
    · exact ⟨_, replaced.new_mem, within, rfl, active⟩
    · exact ⟨owner, there, within, role, active⟩

theorem attends_of_edit (canonical : operation.joins db projectId → db.aliasOf humanPrincipalId = none) :
    (operation = .removeMember ∧ db.SamePerson humanPrincipalId humanPrincipalId) ∨
      ∃ row ∈ rows, row.projectId = projectId ∧ db.SamePerson humanPrincipalId row.humanPrincipalId ∧ row.revokedAt = none := by
  cases edit with
  | again member placed _ active same => exact .inr ⟨_, member, placed, same.symm, active⟩
  | owned vacant placed named _ active inserts =>
    refine .inr ⟨_, (inserts.2 _).mpr (.inr rfl), placed, ?_, active⟩
    rw [named]
    exact samePerson_self (canonical vacant)
  | joined placed named _ active inserts =>
    refine .inr ⟨_, (inserts.2 _).mpr (.inr rfl), placed, ?_, active⟩
    rw [named]
    exact samePerson_self (canonical trivial)
  | removed _ _ same _ _ => exact .inl ⟨rfl, same.trans same.symm⟩
  | owns member placed active same => exact .inr ⟨_, member, placed, same, active⟩
  | promoted placed active same replaced => exact .inr ⟨_, replaced.new_mem, placed, same, active⟩
  | demoted placed active same _ _ replaced => exact .inr ⟨_, replaced.new_mem, placed, same, active⟩
end

theorem projects_of_operated {before after : IdentityDatabase}
    (operated : Operated sha256 db operation projectId humanPrincipalId call workspaceId before after db')
    (canonical : operation.joins db projectId → db.aliasOf humanPrincipalId = none) :
    Projects sha256 db workspaceId projectId [humanPrincipalId]
      (fun id => operation = .removeMember ∧ db.SamePerson humanPrincipalId id) before after := by
  have prepared := operated.prepared
  have carried := carried_of_edit operated.edit
  refine ⟨prepared.mapped, fun _ _ => prepared.mappings, prepared.elsewhere, prepared.set.same.principals, prepared.set.same.memberships,
    prepared.set.same.aliases, ⟨fun row member => ?_, carried.elsewhere, carried.kept⟩, fun id inside => ?_,
    syncWorkspaceProject_ok operated.synced⟩
  · rcases carried.origin row member with old | ⟨placed, named, joins⟩
    · exact .inl old
    · exact .inr ⟨placed, List.mem_singleton.mpr named, named ▸ canonical joins, named ▸ operated.known joins⟩
  · rw [List.mem_singleton.mp inside]
    exact attends_of_edit operated.edit canonical

theorem revokeDevice_projects (done : db.revokeDevice sha256 projectId call = .ok db') : ∃ before,
    before.projectMemberships = db.projectMemberships ∧
      Projects sha256 db (db.ensureWorkspaceForLegacyProject sha256 projectId).1 projectId [] (fun _ => False) before db' := by
  obtain ⟨_, before, prepared, same, synced⟩ := revokeDevice_ok done
  rw [prepared.ensured]
  exact ⟨before, same, prepared.mapped, fun _ _ => prepared.mappings, prepared.elsewhere, prepared.set.same.principals, prepared.set.same.memberships,
    prepared.set.same.aliases, .of_eq same, fun id inside => (nomatch inside), syncWorkspaceProject_ok synced⟩

end Operations
end IdentityDatabase
end PlanWeave.Access
