import Mathlib.Data.List.Dedup
import PlanWeave.Access.MemberEdits

namespace PlanWeave.Access
open Checked List Option Table WorkspaceMembership

namespace ProjectMembership
variable {sha256 : Sha256} {workspaceId humanPrincipalId : String} {rows : List ProjectMembership} {row : WorkspaceMembership}

theorem projection_some (listed : rows ≠ []) : ∃ row, projection sha256 workspaceId humanPrincipalId rows = some row := by
  have newest : ∃ row, rows.argmax (fun row => toLex (row.revision, toLex (row.updatedAt, row.membershipId))) = some row :=
    ne_none_iff_exists'.mp fun none => listed (argmax_eq_none.mp none)
  have least : ∃ time, (rows.map ProjectMembership.createdAt).min? = some time :=
    ne_none_iff_exists'.mp fun none => listed (map_eq_nil_iff.mp (min?_eq_none_iff.mp none))
  have latest : ∃ time, (rows.map ProjectMembership.updatedAt).max? = some time :=
    ne_none_iff_exists'.mp fun none => listed (map_eq_nil_iff.mp (max?_eq_none_iff.mp none))
  have revision : ∃ revision, (rows.map ProjectMembership.revision).max? = some revision :=
    ne_none_iff_exists'.mp fun none => listed (map_eq_nil_iff.mp (max?_eq_none_iff.mp none))
  have revoked : ∃ time, (rows.map fun row => row.revokedAt.getD row.updatedAt).max? = some time :=
    ne_none_iff_exists'.mp fun none => listed (map_eq_nil_iff.mp (max?_eq_none_iff.mp none))
  obtain ⟨newest, first⟩ := newest
  obtain ⟨least, second⟩ := least
  obtain ⟨latest, third⟩ := latest
  obtain ⟨revision, fourth⟩ := revision
  obtain ⟨revoked, fifth⟩ := revoked
  unfold projection
  simp only [first, second, third, fourth, fifth, bind_eq_bind, bind_some]
  exact ⟨_, rfl⟩

theorem projection_spec (projected : projection sha256 workspaceId humanPrincipalId rows = some row) :
    row.workspaceId = workspaceId ∧ row.membershipId = workspaceMembershipIdFor sha256 workspaceId humanPrincipalId ∧
      row.humanPrincipalId = humanPrincipalId ∧ (row.revokedAt = none ↔ ∃ source ∈ rows, source.revokedAt = none) ∧
      ((∃ source ∈ rows, source.revokedAt = none ∧ source.role = .owner) → row.role = .owner) := by
  unfold projection at projected
  simp only [bind_eq_bind, bind_eq_some_iff] at projected
  obtain ⟨_, _, _, _, _, _, _, _, _, _, projected⟩ := projected
  cases projected
  have active : rows.filter (fun row => decide (row.revokedAt = none)) ≠ [] ↔ ∃ source ∈ rows, source.revokedAt = none := by
    simp [filter_eq_nil_iff]
  refine ⟨rfl, rfl, rfl, ?_, ?_⟩
  · rw [← active]
    dsimp only
    split
    · rename_i some
      exact iff_of_true rfl some
    · rename_i none
      exact iff_of_false (by simp) none
  · rintro ⟨source, member, unrevoked, owner⟩
    have owned : (rows.filter fun row => decide (row.revokedAt = none)).any (fun row => decide (row.role = .owner)) = true :=
      any_eq_true.mpr ⟨source, mem_filter.mpr ⟨member, decide_eq_true unrevoked⟩, decide_eq_true owner⟩
    exact if_pos owned

end ProjectMembership

namespace IdentityDatabase
variable {sha256 : Sha256} {db db' : IdentityDatabase} {workspaceId projectId : String}

def staff (db : IdentityDatabase) (workspaceId currentProjectId : String) : List String :=
  ((db.sourceMemberships workspaceId currentProjectId).map ProjectMembership.humanPrincipalId).dedup

theorem mem_staff {id : String} : id ∈ db.staff workspaceId projectId ↔
    ∃ source ∈ db.sourceMemberships workspaceId projectId, source.humanPrincipalId = id := by
  unfold staff
  rw [List.mem_dedup, List.mem_map]

def sourcesOf (db : IdentityDatabase) (workspaceId currentProjectId humanPrincipalId : String) : List ProjectMembership :=
  (db.sourceMemberships workspaceId currentProjectId).filter (·.humanPrincipalId = humanPrincipalId)

theorem mem_sourcesOf {id : String} {row : ProjectMembership} : row ∈ db.sourcesOf workspaceId projectId id ↔
    row ∈ db.sourceMemberships workspaceId projectId ∧ row.humanPrincipalId = id := by
  unfold sourcesOf
  rw [mem_filter, decide_eq_true_eq]

theorem mem_sourceMemberships {row : ProjectMembership} : row ∈ db.sourceMemberships workspaceId projectId ↔
    row ∈ db.projectMemberships ∧ ∃ project, db.legacyProjects.find row.projectId = some project ∧
      project.workspaceId = workspaceId ∧ (project.cutoverComplete = true ∨ project.projectId = projectId) := by
  unfold sourceMemberships
  rw [List.mem_filter]
  simp only [Option.any_eq_true, decide_eq_true_eq, mem_rows]

theorem mem_workspaceMembershipProjections {row : WorkspaceMembership} :
    row ∈ db.workspaceMembershipProjections sha256 workspaceId projectId ↔ ∃ id ∈ db.staff workspaceId projectId,
      ProjectMembership.projection sha256 workspaceId id (db.sourcesOf workspaceId projectId id) = some row := by
  unfold workspaceMembershipProjections
  rw [mem_filterMap]
  simp only [mem_insertionSort]
  rfl

theorem projections_nodup
    (distinct : Set.InjOn (workspaceMembershipIdFor sha256 workspaceId) { id | id ∈ db.staff workspaceId projectId }) :
    ((db.workspaceMembershipProjections sha256 workspaceId projectId).map key).Nodup := by
  have people : ((db.staff workspaceId projectId).insertionSort fun left right => collationKey left ≤ collationKey right).Nodup :=
    (perm_insertionSort _ _).nodup_iff.mpr (nodup_dedup _)
  unfold workspaceMembershipProjections
  refine List.Nodup.map_on ?_ (people.filterMap ?_)
  · intro first member second other same
    rw [mem_filterMap] at member other
    obtain ⟨id, named, projected⟩ := member
    obtain ⟨id', named', projected'⟩ := other
    rw [mem_insertionSort] at named named'
    have left := ProjectMembership.projection_spec projected
    have right := ProjectMembership.projection_spec projected'
    have keys : first.membershipId = second.membershipId := congrArg Prod.snd same
    rw [left.2.1, right.2.1] at keys
    have equal : id = id' := distinct named named' keys
    subst equal
    exact Option.some.inj (projected.symm.trans projected')
  · intro id id' row projected projected'
    rw [← (ProjectMembership.projection_spec projected).2.2.1]
    exact (ProjectMembership.projection_spec projected').2.2.1

structure Synced (sha256 : Sha256) (workspaceId projectId : String) (db db' : IdentityDatabase) : Prop where
  server : db'.toServerDatabase = { db.toServerDatabase with principals := db'.principals, memberships := db'.memberships }
  legacyProjects : db'.legacyProjects = db.legacyProjects
  principals : ∀ row ∈ db.principals, row ∈ db'.principals
  joined : ∀ row ∈ db'.principals, row ∈ db.principals ∨ db.principals.find row.key = none ∧
    ∃ human ∈ db.projectPeople projectId, row = ⟨workspaceId, human.humanPrincipalId, human.displayName, human.createdAt, none⟩
  agreed : ∀ human ∈ db.projectPeople projectId,
    (⟨workspaceId, human.humanPrincipalId, human.displayName, human.createdAt, none⟩ : WorkspacePrincipal) ∈ db'.principals
  memberships : db'.memberships = ((db.workspaceMembershipProjections sha256 workspaceId projectId).filter fun row =>
    (db'.principals.find (workspaceId, row.humanPrincipalId)).isSome).foldl Table.put
      (db.memberships.delete fun row => row.workspaceId = workspaceId ∧
        row.membershipId ∉ (db.workspaceMembershipProjections sha256 workspaceId projectId).map (·.membershipId))

theorem syncPrincipal_ok {human : HumanPrincipal} (done : syncPrincipal workspaceId db human = .ok db') :
    db' = { db with principals := db'.principals } ∧ (∀ row ∈ db.principals, row ∈ db'.principals) ∧
      (∀ row ∈ db'.principals, row ∈ db.principals ∨ db.principals.find row.key = none ∧
        row = ⟨workspaceId, human.humanPrincipalId, human.displayName, human.createdAt, none⟩) ∧
      (⟨workspaceId, human.humanPrincipalId, human.displayName, human.createdAt, none⟩ : WorkspacePrincipal) ∈ db'.principals := by
  obtain ⟨_, done⟩ := rest_ok done
  split at done
  · rename_i principal found
    obtain ⟨_, agrees, done⟩ := bind_ok.mp done
    cases done
    obtain ⟨_, _, _⟩ := demand_ok.mp agrees
    obtain ⟨member, keyed⟩ := find_eq_some.mp found
    have same : principal = ⟨workspaceId, human.humanPrincipalId, human.displayName, human.createdAt, none⟩ := by
      cases principal
      simp only [WorkspacePrincipal.key, Prod.mk.injEq] at keyed
      simp_all
    exact ⟨rfl, fun row member => member, fun row member => .inl member, same ▸ member⟩
  · rename_i missing
    cases done
    refine ⟨rfl, fun row member => ?_, fun row member => ?_, mem_put.mpr (.inr rfl)⟩
    · exact mem_put.mpr (.inl ⟨member, find_eq_none.mp missing row member⟩)
    · rcases mem_put.mp member with ⟨there, _⟩ | rfl
      · exact .inl there
      · exact .inr ⟨missing, rfl⟩

theorem syncPrincipals_ok {people : List HumanPrincipal} (done : people.foldlM (syncPrincipal workspaceId) db = .ok db') :
    db' = { db with principals := db'.principals } ∧ (∀ row ∈ db.principals, row ∈ db'.principals) ∧
      (∀ row ∈ db'.principals, row ∈ db.principals ∨ db.principals.find row.key = none ∧
        ∃ human ∈ people, row = ⟨workspaceId, human.humanPrincipalId, human.displayName, human.createdAt, none⟩) ∧
      ∀ human ∈ people,
        (⟨workspaceId, human.humanPrincipalId, human.displayName, human.createdAt, none⟩ : WorkspacePrincipal) ∈ db'.principals := by
  induction people generalizing db with
  | nil =>
    cases done
    exact ⟨rfl, fun row member => member, fun row member => .inl member, fun human member => nomatch member⟩
  | cons human _ ih =>
    obtain ⟨_, first, tail⟩ := foldlM_cons_inv done
    obtain ⟨same, kept, joined, there⟩ := syncPrincipal_ok first
    obtain ⟨same', kept', joined', agreed⟩ := ih tail
    refine ⟨?_, fun row member => kept' row (kept row member), fun row member => ?_, fun other member => ?_⟩
    · rw [same', same]
    · rcases joined' row member with before | ⟨missing, other, among, made⟩
      · rcases joined row before with before | ⟨missing, made⟩
        · exact .inl before
        · exact .inr ⟨missing, human, mem_cons_self, made⟩
      · refine .inr ⟨?_, other, mem_cons_of_mem _ among, made⟩
        refine find_eq_none.mpr fun old present => ?_
        exact find_eq_none.mp missing old (kept old present)
    · rcases mem_cons.mp member with rfl | among
      · exact kept' _ there
      · exact agreed other among

theorem upsertMemberships_ok {t t' : Table key} {rows : List WorkspaceMembership}
    (done : rows.foldlM upsertMembership t = .ok t') : t' = rows.foldl Table.put t := by
  induction rows generalizing t with
  | nil =>
    cases done
    rfl
  | cons _ _ ih =>
    obtain ⟨_, first, tail⟩ := foldlM_cons_inv done
    obtain ⟨_, first⟩ := rest_ok first
    cases first
    exact ih tail

theorem syncWorkspaceProject_ok (done : db.syncWorkspaceProject sha256 workspaceId projectId = .ok db') :
    Synced sha256 workspaceId projectId db db' := by
  obtain ⟨joined, synchronized, done⟩ := bind_ok.mp done
  obtain ⟨same, kept, new, agreed⟩ := syncPrincipals_ok synchronized
  obtain ⟨memberships, upserted, done⟩ := bind_ok.mp done
  cases done
  have rows := upsertMemberships_ok upserted
  have projections : joined.workspaceMembershipProjections sha256 workspaceId projectId =
      db.workspaceMembershipProjections sha256 workspaceId projectId := by
    rw [same]
    rfl
  have before : joined.memberships = db.memberships := by rw [same]
  rw [projections, before] at rows
  constructor
  · rw [same]
  · rw [same]
  · exact kept
  · exact new
  · exact agreed
  · exact rows

namespace Synced

theorem projectMemberships (synced : Synced sha256 workspaceId projectId db db') :
    db'.projectMemberships = db.projectMemberships := by rw [synced.server]

theorem aliases (synced : Synced sha256 workspaceId projectId db db') : db'.aliases = db.aliases := by rw [synced.server]

variable {row : WorkspaceMembership}

theorem elsewhere (synced : Synced sha256 workspaceId projectId db db') (apart : row.workspaceId ≠ workspaceId)
    (distinct : Set.InjOn (workspaceMembershipIdFor sha256 workspaceId) { id | id ∈ db.staff workspaceId projectId }) :
    row ∈ db'.memberships ↔ row ∈ db.memberships := by
  have placed : ∀ other ∈ db.workspaceMembershipProjections sha256 workspaceId projectId, other.workspaceId = workspaceId := by
    intro other member
    obtain ⟨_, _, projected⟩ := mem_workspaceMembershipProjections.mp member
    exact (ProjectMembership.projection_spec projected).1
  have sub : List.Sublist (((db.workspaceMembershipProjections sha256 workspaceId projectId).filter fun row =>
      (db'.principals.find (workspaceId, row.humanPrincipalId)).isSome).map key)
      ((db.workspaceMembershipProjections sha256 workspaceId projectId).map key) :=
    filter_sublist.map _
  rw [synced.memberships, mem_foldl_put ((projections_nodup distinct).sublist sub), mem_delete]
  constructor
  · rintro (member | ⟨⟨member, _⟩, _⟩)
    · exact absurd (placed row (mem_of_mem_filter member)) apart
    · exact member
  · intro member
    refine .inr ⟨⟨member, fun within => apart within.1⟩, fun keyed => ?_⟩
    obtain ⟨other, among, same⟩ := mem_map.mp keyed
    have within : other.workspaceId = row.workspaceId := congrArg Prod.fst same
    exact apart (within ▸ placed other (mem_of_mem_filter among))

theorem mem_memberships (synced : Synced sha256 workspaceId projectId db db')
    (distinct : Set.InjOn (workspaceMembershipIdFor sha256 workspaceId) { id | id ∈ db.staff workspaceId projectId })
    (present : ∀ id ∈ db.staff workspaceId projectId, ∃ principal ∈ db'.principals, principal.key = (workspaceId, id))
    (within : row.workspaceId = workspaceId) : row ∈ db'.memberships ↔ ∃ id ∈ db.staff workspaceId projectId,
      ProjectMembership.projection sha256 workspaceId id (db.sourcesOf workspaceId projectId id) = some row := by
  have whole : ((db.workspaceMembershipProjections sha256 workspaceId projectId).filter fun row =>
      (db'.principals.find (workspaceId, row.humanPrincipalId)).isSome) =
      db.workspaceMembershipProjections sha256 workspaceId projectId := by
    rw [List.filter_eq_self]
    intro other member
    obtain ⟨id, named, projected⟩ := mem_workspaceMembershipProjections.mp member
    obtain ⟨_, there, keyed⟩ := present id named
    rw [(ProjectMembership.projection_spec projected).2.2.1, ← keyed, find_of_mem there]
    rfl
  rw [synced.memberships, whole, mem_foldl_put (projections_nodup distinct), mem_delete,
    ← mem_workspaceMembershipProjections]
  constructor
  · rintro (member | ⟨⟨_, kept⟩, free⟩)
    · exact member
    rw [not_and_not_right] at kept
    obtain ⟨other, among, same⟩ := List.mem_map.mp (kept within)
    obtain ⟨_, _, projected⟩ := mem_workspaceMembershipProjections.mp among
    have placed := (ProjectMembership.projection_spec projected).1
    exact absurd (List.mem_map.mpr ⟨other, among, Prod.ext (placed.trans within.symm) same⟩) free
  · exact .inl

end Synced

theorem operated_moved {operation : MembershipOperation} {humanPrincipalId : String} {call : IdentityCall}
    {before after : IdentityDatabase}
    (operated : Operated sha256 db operation projectId humanPrincipalId call workspaceId before after db') :
    OwnersMoved ⟨workspaceId, projectId, none⟩ after db' := by
  refine operated.followed workspaceId ?_
  have mapped := operated.prepared.mapped
  unfold workspaceForLegacyProject at mapped ⊢
  rw [(syncWorkspaceProject_ok operated.synced).legacyProjects]
  exact mapped

end IdentityDatabase
end PlanWeave.Access
