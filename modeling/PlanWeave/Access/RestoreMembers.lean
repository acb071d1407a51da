import PlanWeave.Access.MergeSteps
import PlanWeave.Access.Projection

namespace PlanWeave.Access
open Checked List Option ServerDatabase Table

theorem RestoreInput.not_covers {restore : RestoreInput} {scope : AccessScope} (apart : scope.workspaceId ≠ restore.workspaceId) :
    ¬ restore.covers scope := by
  rintro (rfl | rfl)
  · exact apart rfl
  · exact apart rfl

theorem Held.foldlM {α β ε : Type} {restore : RestoreInput} (view : β → ServerDatabase) {step : β → α → Except ε β}
    (each : ∀ start item next, step start item = .ok next → Held restore (view start) (view next)) {items : List α} {start last : β}
    (done : items.foldlM step start = .ok last) : Held restore (view start) (view last) := by
  induction items generalizing start with
  | nil =>
    cases done
    exact .refl
  | cons item _ ih =>
    obtain ⟨next, first, tail⟩ := foldlM_cons_inv done
    exact (each start item next first).trans (ih tail)

variable {t : Table WorkspaceMembership.key}
variable {row : WorkspaceMembership}

namespace IdentityDatabase
variable {sha256 : Sha256} {restore : RestoreInput} {db db' : IdentityDatabase} {workspaceId projectId humanPrincipalId : String}
  {call : IdentityCall}

variable {role : MembershipRole}
variable {operation : MembershipOperation}

section Steps

theorem insertHuman_held : Held restore db.toServerDatabase (db.insertHuman humanPrincipalId call).toServerDatabase := by
  unfold insertHuman
  split
  · exact .refl
  · exact ⟨rfl, rfl, .refl, .refl, fun _ member _ => member, fun _ _ => rfl, fun _ member _ _ => member⟩

theorem putPrincipal_held {row : WorkspacePrincipal} (fresh : db.principals.find row.key = none) :
    Held restore db.toServerDatabase { db.toServerDatabase with principals := db.principals.put row } := by
  refine ⟨rfl, rfl, .refl, .refl, fun other member _ => ?_, fun _ _ => rfl, fun _ member _ _ => member⟩
  exact mem_put.mpr (.inl ⟨member, find_eq_none.mp fresh other member⟩)

variable {rows : List WorkspaceMembership}

section
variable (apart : workspaceId ≠ restore.workspaceId)
include apart

theorem foldl_put_agree (placed : ∀ row ∈ rows, row.workspaceId = workspaceId) :
    Table.Agree (fun row : WorkspaceMembership => row.workspaceId = restore.workspaceId) t (rows.foldl Table.put t) := by
  induction rows generalizing t with
  | nil => exact .refl
  | cons row _ ih =>
    have head : Table.Agree (fun row : WorkspaceMembership => row.workspaceId = restore.workspaceId) t (t.put row) := by
      apply Table.Agree.put
      intro other same inside
      have within : other.workspaceId = row.workspaceId := congrArg Prod.fst same
      exact apart ((placed row mem_cons_self).symm.trans (within.symm.trans inside))
    exact head.trans (ih fun other member => placed other (mem_cons_of_mem _ member))

theorem synced_held (synced : Synced sha256 workspaceId projectId db db') :
    Held restore db.toServerDatabase db'.toServerDatabase := by
  rw [synced.server]
  refine ⟨rfl, rfl, .refl, ?_, fun row member _ => synced.principals row member, fun _ _ => rfl, fun _ member _ _ => member⟩
  rw [synced.memberships]
  refine Table.Agree.trans (.delete ?_) (foldl_put_agree apart ?_)
  · rintro _ ⟨placed, _⟩ inside
    exact apart (placed.symm.trans inside)
  intro row member
  obtain ⟨_, _, projected⟩ := mem_workspaceMembershipProjections.mp (mem_of_mem_filter member)
  exact (ProjectMembership.projection_spec projected).1

theorem prepared_held {before : IdentityDatabase} (prepared : Prepared sha256 db workspaceId projectId humanPrincipalId call before) :
    Held restore db.toServerDatabase before.toServerDatabase := by
  have held := prepared.set.held (RestoreInput.not_covers apart)
  exact ⟨held.project, held.canvas, held.grants, held.memberships, held.principals, held.persons, held.lease⟩
end
end Steps

section Operations
variable (apart : (db.ensureWorkspaceForLegacyProject sha256 projectId).1 ≠ restore.workspaceId)
include apart

theorem operate_held (done : db.operate sha256 operation projectId humanPrincipalId call = .ok db') :
    Held restore db.toServerDatabase db'.toServerDatabase := by
  obtain ⟨_, _, _, operated⟩ := operate_ok done
  rw [operated.prepared.ensured] at apart
  have synced := synced_held apart (syncWorkspaceProject_ok operated.synced)
  exact (prepared_held apart operated.prepared).trans (synced.trans ((operated_moved operated).set.held (RestoreInput.not_covers apart)))

theorem revokeDevice_held (done : db.revokeDevice sha256 projectId call = .ok db') :
    Held restore db.toServerDatabase db'.toServerDatabase := by
  obtain ⟨_, _, prepared, _, synchronized⟩ := revokeDevice_ok done
  rw [prepared.ensured] at apart
  exact (prepared_held apart prepared).trans (synced_held apart (syncWorkspaceProject_ok synchronized))

end Operations

theorem operate_fenced {reason : AccessError} (fence : db.assertNoPendingProjectRestore projectId = .error reason) :
    db.operate sha256 operation projectId humanPrincipalId call = .error reason := by
  cases operation
  all_goals
    show db.assertNoPendingProjectRestore projectId >>= _ = _
    rw [fence]
    rfl

section Redemption

theorem insertPrincipal_held :
    Held restore db.toServerDatabase (db.insertPrincipal workspaceId humanPrincipalId call).toServerDatabase := by
  unfold insertPrincipal
  split
  · exact .refl
  · rename_i missing
    exact putPrincipal_held (not_isSome_iff_eq_none.mp missing)

theorem insertWorkspaceMembership_ok (done : db.insertWorkspaceMembership workspaceId humanPrincipalId role call = .ok db') :
    ∃ memberships row, db.memberships.insert row = some memberships ∧ row.workspaceId = workspaceId ∧
      db' = { db with memberships } := by
  obtain ⟨_, done⟩ := rest_ok done
  obtain ⟨memberships, inserted, done⟩ := bind_ok.mp done
  cases done
  rw [present_ok] at inserted
  exact ⟨memberships, _, inserted, rfl, rfl⟩

theorem synchronizeAll_fenced {db last : ServerDatabase} {now : Timestamp} {projects : List String}
    (leased : Leased restore db) (member : restore.projectId ∈ projects)
    (done : projects.foldlM (fun (current : ServerDatabase) projectId =>
      current.synchronizeHumanMembershipOwner restore.workspaceId projectId humanPrincipalId .memberJoined role now) db = .ok last) :
    False := by
  induction projects generalizing db with
  | nil => cases member
  | cons projectId _ ih =>
    obtain ⟨_, first, tail⟩ := foldlM_cons_inv done
    have apart : ¬ restore.covers ⟨restore.workspaceId, projectId, none⟩ := by
      obtain ⟨_, _, _, first⟩ := rest_ok₃ first
      obtain ⟨_, fence, _⟩ := bind_ok.mp first
      exact leased.elsewhere fence
    rcases mem_cons.mp member with same | member
    · exact apart (.inr (by rw [← same]; rfl))
    · exact ih (leased.held ((synchronizeHumanMembershipOwner_set first).held apart)) member tail

variable {person : String} {trusted : List AccessScope}

theorem findActiveMembership_canonical (resolved : db.resolveCanonical humanPrincipalId = .ok person) :
    db.findActiveMembership workspaceId person = db.findActiveMembership workspaceId humanPrincipalId := by
  have stays : db.resolveCanonical person = .ok person := by
    rw [resolveCanonical_ok] at resolved ⊢
    exact .here resolved.last_none
  unfold findActiveMembership equivalentIds
  rw [stays, resolved]

theorem findActiveMembership_insertHuman :
    (db.insertHuman person call).findActiveMembership workspaceId humanPrincipalId =
      db.findActiveMembership workspaceId humanPrincipalId := by
  unfold insertHuman
  split <;> rfl

def redeemed (db : IdentityDatabase) (workspaceId person : String) (call : IdentityCall) : IdentityDatabase :=
  (db.insertHuman person call).insertPrincipal workspaceId person call

theorem redeemDevice_ok (done : db.redeemDevice trusted workspaceId humanPrincipalId call = .ok db') :
    ∃ person, db.resolveCanonical humanPrincipalId = .ok person ∧
      ((∃ membership, db.findActiveMembership workspaceId humanPrincipalId = .ok (some membership) ∧
          db' = db.redeemed workspaceId person call) ∨
        db.findActiveMembership workspaceId humanPrincipalId = .ok none ∧ ∃ role joined changed,
          (db.redeemed workspaceId person call).insertWorkspaceMembership workspaceId person role call = .ok joined ∧
          (((trusted.filter (·.workspaceId = workspaceId)).map (·.projectId)).dedup.foldlM
            (fun (current : ServerDatabase) projectId => current.synchronizeHumanMembershipOwner workspaceId projectId person
              .memberJoined role call.now) joined.toServerDatabase) = .ok changed ∧
          db' = { joined with toServerDatabase := changed }) := by
  obtain ⟨_, done⟩ := rest_ok done
  obtain ⟨person, resolved, done⟩ := bind_ok.mp done
  obtain ⟨existing, found, done⟩ := bind_ok.mp done
  rw [findActiveMembership_insertHuman, findActiveMembership_canonical resolved] at found
  refine ⟨person, resolved, ?_⟩
  cases existing with
  | some membership =>
    cases done
    exact .inl ⟨membership, found, rfl⟩
  | none =>
    obtain ⟨joined, inserted, done⟩ := bind_ok.mp done
    obtain ⟨changed, synchronized, done⟩ := bind_ok.mp done
    cases done
    exact .inr ⟨found, _, joined, changed, inserted, synchronized, rfl⟩

theorem redeemed_held : Held restore db.toServerDatabase (db.redeemed workspaceId person call).toServerDatabase :=
  insertHuman_held.trans insertPrincipal_held

theorem redeemDevice_fenced (leased : Leased restore db.toServerDatabase)
    (found : db.findActiveMembership restore.workspaceId humanPrincipalId = .ok none)
    (listed : restore.scope.project ∈ trusted.map AccessScope.project) :
    db.redeemDevice trusted restore.workspaceId humanPrincipalId call ≠ .ok db' := by
  intro done
  obtain ⟨person, _, ⟨_, present, _⟩ | ⟨_, _, _, _, inserted, synchronized, _⟩⟩ := redeemDevice_ok done
  · rw [found] at present
    cases present
  obtain ⟨memberships, _, _, _, rfl⟩ := insertWorkspaceMembership_ok inserted
  have known : Leased restore (db.redeemed restore.workspaceId person call).toServerDatabase := leased.held redeemed_held
  have lease : Leased restore { (db.redeemed restore.workspaceId person call).toServerDatabase with memberships } :=
    ⟨known.pending, known.registered⟩
  refine synchronizeAll_fenced lease ?_ synchronized
  obtain ⟨scope, member, same⟩ := mem_map.mp listed
  have workspaces : scope.workspaceId = restore.workspaceId := congrArg AccessScope.workspaceId same
  have projects : scope.projectId = restore.projectId := congrArg AccessScope.projectId same
  rw [mem_dedup]
  exact mem_map.mpr ⟨scope, mem_filter.mpr ⟨member, decide_eq_true workspaces⟩, projects⟩

theorem redeemDevice_held (leased : Leased restore db.toServerDatabase)
    (spared : ¬ (workspaceId = restore.workspaceId ∧ db.findActiveMembership workspaceId humanPrincipalId = .ok none ∧
      restore.scope.project ∉ trusted.map AccessScope.project))
    (done : db.redeemDevice trusted workspaceId humanPrincipalId call = .ok db') :
    Held restore db.toServerDatabase db'.toServerDatabase := by
  obtain ⟨person, _, ⟨_, _, rfl⟩ | ⟨found, _, _, _, inserted, synchronized, rfl⟩⟩ := redeemDevice_ok done
  · exact redeemed_held
  by_cases here : workspaceId = restore.workspaceId
  · subst here
    have listed : restore.scope.project ∈ trusted.map AccessScope.project := by
      by_contra missing
      exact spared ⟨rfl, found, missing⟩
    exact absurd done (redeemDevice_fenced leased found listed)
  · obtain ⟨memberships, _, fresh, placed, rfl⟩ := insertWorkspaceMembership_ok inserted
    have joins : Held restore db.toServerDatabase
        { (db.redeemed workspaceId person call).toServerDatabase with memberships } := by
      refine redeemed_held.trans ⟨rfl, rfl, .refl, .insert fresh ?_, fun _ member _ => member, fun _ _ => rfl, fun _ member _ _ => member⟩
      exact fun inside => here (placed.symm.trans inside)
    refine joins.trans (Held.foldlM id (fun start projectId next stepped => ?_) synchronized)
    exact (synchronizeHumanMembershipOwner_set stepped).held (RestoreInput.not_covers here)

end Redemption
end IdentityDatabase

namespace ServerDatabase

/-- A workspace knows an id: as a principal, a member, a grantee or an owner. -/
inductive Knows (db : ServerDatabase) (workspaceId id : String) : Prop where
  | principal (row : WorkspacePrincipal) : row ∈ db.principals → row.workspaceId = workspaceId → row.humanPrincipalId = id →
      Knows db workspaceId id
  | member (row : WorkspaceMembership) : row ∈ db.memberships → row.workspaceId = workspaceId → row.humanPrincipalId = id →
      Knows db workspaceId id
  | grantee (row : MembershipGrant) : row ∈ db.grants → row.workspaceId = workspaceId → row.humanPrincipalId = id →
      Knows db workspaceId id
  | projectOwner (row : InternalProjectRecord) : row ∈ db.projects → row.workspaceId = workspaceId →
      row.ownerHumanPrincipalId = some id → Knows db workspaceId id
  | canvasOwner (row : InternalCanvasRecord) : row ∈ db.canvases → row.workspaceId = workspaceId →
      row.ownerHumanPrincipalId = some id → Knows db workspaceId id

variable {ids : List String} {target : String}

theorem grantConsolidation_place_scope {now : Timestamp}
    {t : Table MembershipGrant.grantId} {row : MembershipGrant} :
    ((grantConsolidation ids target now).place t row).scope = row.scope := by
  unfold Consolidation.place
  split
  · exact settleGrant_scope
  · rfl

theorem membershipConsolidation_place_workspaceId {now : Timestamp} :
    ((membershipConsolidation ids target now).place t row).workspaceId = row.workspaceId :=
  congrArg Prod.fst ((membershipConsolidation ids target now).place_key t row)

variable {db db' : ServerDatabase} {restore : RestoreInput} {request : MergeRequest} {result : MergeResult} {now : Timestamp}

theorem mergeLocked_snapshots (done : db.mergeLocked request now = .ok (result, db')) : db'.snapshots = db.snapshots := by
  obtain ⟨_, _, _, done⟩ := rest_ok₃ done
  split at done
  · cases done
    rfl
  obtain ⟨_, _, _, done⟩ := rest_ok₃ done
  obtain ⟨_, done⟩ := rest_ok done
  obtain ⟨_, consolidated, done⟩ := bind_ok.mp done
  cases done
  obtain ⟨_, consolidated⟩ := rest_ok consolidated
  dsimp only at consolidated
  split at consolidated
  · cases consolidated
    rfl
  · cases consolidated
    rfl

theorem mergeLocked_held
    (spared : ∀ id, db.SamePerson request.source id ∨ db.SamePerson request.canonical id → ¬ db.Knows restore.workspaceId id)
    (done : db.mergeLocked request now = .ok (result, db')) : Held restore db db' := by
  have snapshots := mergeLocked_snapshots done
  rcases mergeLocked_ok done with ⟨_, rfl⟩ | ⟨_, _, ids, sourceFound, targetFound, merged⟩
  · exact .refl
  have unknown : ∀ id ∈ ids, ¬ db.Knows restore.workspaceId id := by
    intro id member
    apply spared id
    rw [samePerson_iff sourceFound, samePerson_iff targetFound]
    exact merged.mem_ids.mp member
  -- an owner whom the workspace knows is not merged
  have stays : ∀ {owner : Option String}, (∀ id, owner = some id → db.Knows restore.workspaceId id) →
      ¬ owner.any (· ∈ ids.filter (· ≠ result.canonicalHumanPrincipalId)) = true := by
    intro owner known moves
    cases owner with
    | none => cases moves
    | some owner => exact unknown owner (List.mem_of_mem_filter (of_decide_eq_true moves)) (known owner rfl)
  constructor
  · rw [merged.projects]
    cases found : db.projects.find restore.scope.project with
    | none => rfl
    | some row =>
      obtain ⟨member, keyed⟩ := find_eq_some.mp found
      have within : row.workspaceId = restore.workspaceId := congrArg AccessScope.workspaceId keyed
      exact congrArg some (if_neg (stays fun owner owned => .projectOwner row member within owned))
  · rw [merged.canvases]
    cases found : db.canvases.find restore.scope with
    | none => rfl
    | some row =>
      obtain ⟨member, keyed⟩ := find_eq_some.mp found
      have within : row.workspaceId = restore.workspaceId := congrArg AccessScope.workspaceId keyed
      exact congrArg some (if_neg (stays fun owner owned => .canvasOwner row member within owned))
  · rw [merged.grants]
    refine .consolidate _ fun row member touches => ?_
    have person := (of_decide_eq_true touches).1
    have apart : ¬ restore.covers row.scope :=
      RestoreInput.not_covers fun within => unknown _ person (.grantee row member within rfl)
    exact ⟨apart, by rw [grantConsolidation_place_scope]; exact apart⟩
  · rw [merged.memberships]
    refine .consolidate _ fun row member touches => ?_
    have person := (of_decide_eq_true touches).1
    have apart : row.workspaceId ≠ restore.workspaceId := fun within => unknown _ person (.member row member within rfl)
    exact ⟨apart, by rw [membershipConsolidation_place_workspaceId]; exact apart⟩
  · intro row member within
    exact (merged.principals row fun inside => unknown _ inside (.principal row member within rfl)).mpr member
  · intro id active
    apply merged.equivalentIds_outside
    intro inside
    obtain ⟨others, resolved, among⟩ := bind_ok.mp active
    have among : db.activeAmong restore.workspaceId others = true := Except.ok.inj among
    simp only [activeAmong, List.any_eq_true, decide_eq_true_eq] at among
    obtain ⟨principal, member, within, person, _⟩ := among
    apply unknown _ ?_ (.principal principal member within rfl)
    have same := (mem_equivalentIds resolved).mp person
    rw [merged.mem_ids] at inside ⊢
    rcases inside with leads | leads
    · exact .inl ((samePerson_iff leads).mp same)
    · exact .inr ((samePerson_iff leads).mp same)
  · intro row member _ _
    exact snapshots ▸ member

end ServerDatabase
end PlanWeave.Access
