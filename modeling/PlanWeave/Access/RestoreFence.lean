import PlanWeave.Access.MutationSteps
import PlanWeave.Access.Restore
import PlanWeave.Lib.Agreement

namespace PlanWeave.Access
open Checked Option ServerDatabase Table

structure Leased (restore : RestoreInput) (db : ServerDatabase) : Prop where
  pending : ∃ row ∈ db.snapshots, restore.names row = true ∧ ServerDatabase.pending row = true
  registered : (db.projects.find restore.scope.project).isSome = true

def RestoreInput.covers (restore : RestoreInput) (scope : AccessScope) : Prop :=
  scope = restore.scope ∨ scope = restore.scope.project

theorem RestoreInput.covers.project {restore : RestoreInput} {scope : AccessScope} (covered : restore.covers scope) :
    restore.covers scope.project := by
  rcases covered with rfl | rfl
  · exact .inr rfl
  · exact .inr rfl

instance (restore : RestoreInput) (scope : AccessScope) : Decidable (restore.covers scope) :=
  inferInstanceAs (Decidable (_ ∨ _))

/-- What the decision of a canvas is made from is the same: its registry row and that of its project, their grants, the memberships
of the workspace, and whom the ids of its active people stand for. -/
structure Held (restore : RestoreInput) (db db' : ServerDatabase) : Prop where
  project : db'.projects.find restore.scope.project = db.projects.find restore.scope.project
  canvas : db'.canvases.find restore.scope = db.canvases.find restore.scope
  grants : Table.Agree (fun row => restore.covers row.scope) db.grants db'.grants
  memberships : Table.Agree (fun row => row.workspaceId = restore.workspaceId) db.memberships db'.memberships
  principals : ∀ row ∈ db.principals, row.workspaceId = restore.workspaceId → row ∈ db'.principals
  persons : ∀ id, db.activeWorkspacePrincipal restore.workspaceId id = .ok true → db'.equivalentIds id = db.equivalentIds id
  lease : ∀ row ∈ db.snapshots, row.snapshotId = restore.snapshotId → ServerDatabase.pending row = true → row ∈ db'.snapshots

namespace Leased
variable {db : ServerDatabase} {restore : RestoreInput} {scope : AccessScope}

theorem fenced (leased : Leased restore db) (covered : restore.covers scope) :
    db.assertNoPendingSnapshotRestore scope = .error .snapshotRestorePending := by
  obtain ⟨row, member, named, pending⟩ := leased.pending
  have placed : row.scope = restore.scope := (of_decide_eq_true named).2
  simp only [PackageSnapshot.scope, RestoreInput.scope, AccessScope.mk.injEq, Option.some.injEq] at placed
  unfold assertNoPendingSnapshotRestore
  rw [if_pos]
  rw [List.any_eq_true]
  refine ⟨row, member, decide_eq_true ?_⟩
  rcases covered with rfl | rfl
  · exact ⟨placed.1, placed.2.1, .inr (congrArg some placed.2.2.symm), pending⟩
  · exact ⟨placed.1, placed.2.1, .inl rfl, pending⟩

theorem elsewhere {passed : Unit} (leased : Leased restore db) (open_fence : db.assertNoPendingSnapshotRestore scope = .ok passed) :
    ¬ restore.covers scope := by
  intro covered
  rw [leased.fenced covered] at open_fence
  cases open_fence

theorem held (leased : Leased restore db) {db' : ServerDatabase} (held : Held restore db db') : Leased restore db' := by
  obtain ⟨row, member, named, pending⟩ := leased.pending
  refine ⟨⟨row, held.lease row member (of_decide_eq_true named).1 pending, named, pending⟩, ?_⟩
  rw [held.project]
  exact leased.registered

end Leased

namespace Held
variable {db db' db'' : ServerDatabase} {restore : RestoreInput}

theorem refl : Held restore db db := ⟨rfl, rfl, .refl, .refl, fun _ member _ => member, fun _ _ => rfl, fun _ member _ _ => member⟩

theorem active (held : Held restore db db') {id : String} (active : db.activeWorkspacePrincipal restore.workspaceId id = .ok true) :
    db'.activeWorkspacePrincipal restore.workspaceId id = .ok true := by
  have same := held.persons id active
  obtain ⟨ids, found, among⟩ := bind_ok.mp active
  have among : db.activeAmong restore.workspaceId ids = true := Except.ok.inj among
  simp only [activeAmong, List.any_eq_true, decide_eq_true_eq] at among
  obtain ⟨principal, member, placed, person, unrevoked, membership, member', within, belongs, valid⟩ := among
  have kept : membership ∈ db'.memberships := (held.memberships.mem (within.trans placed)).mpr member'
  unfold activeWorkspacePrincipal
  rw [same, found]
  refine congrArg Except.ok ?_
  simp only [activeAmong, List.any_eq_true, decide_eq_true_eq]
  exact ⟨principal, held.principals principal member placed, placed, person, unrevoked, membership, kept, within, belongs, valid⟩

theorem trans (first : Held restore db db') (second : Held restore db' db'') : Held restore db db'' where
  project := second.project.trans first.project
  canvas := second.canvas.trans first.canvas
  grants := first.grants.trans second.grants
  memberships := first.memberships.trans second.memberships
  principals row member placed := second.principals row (first.principals row member placed) placed
  persons id active := (second.persons id (first.active active)).trans (first.persons id active)
  lease row member keyed pending := second.lease row (first.lease row member keyed pending) keyed pending

theorem of_registry (projects : Table.Agree (fun row => restore.covers row.scope) db.projects db'.projects)
    (canvases : Table.Agree (fun row => restore.covers row.scope) db.canvases db'.canvases)
    (grants : Table.Agree (fun row => restore.covers row.scope) db.grants db'.grants) (same : SameIdentities db db') :
    Held restore db db' where
  project := projects.find fun _ keyed => .inr keyed
  canvas := canvases.find fun _ keyed => .inl keyed
  grants := grants
  memberships := .of_eq same.memberships
  principals row member _ := same.principals ▸ member
  persons id _ := by
    unfold equivalentIds
    simp only [same.resolveCanonical, same.aliases]
  lease row member _ _ := same.snapshots ▸ member

end Held

/-- No statement has written outside the rows of a project and of its canvases. -/
structure OwnersSet (scope : AccessScope) (db db' : ServerDatabase) : Prop where
  projects : Table.Agree (fun row => row.scope ≠ scope) db.projects db'.projects
  canvases : Table.Agree (fun row => row.scope.project ≠ scope) db.canvases db'.canvases
  grants : db'.grants = db.grants
  same : SameIdentities db db'

namespace OwnersSet
variable {db db' db'' : ServerDatabase} {scope : AccessScope}

theorem refl : OwnersSet scope db db := ⟨.refl, .refl, rfl, .refl⟩

theorem trans (first : OwnersSet scope db db') (second : OwnersSet scope db' db'') : OwnersSet scope db db'' :=
  ⟨first.projects.trans second.projects, first.canvases.trans second.canvases, second.grants.trans first.grants,
    first.same.trans second.same⟩

theorem held (set : OwnersSet scope db db') {restore : RestoreInput} (apart : ¬ restore.covers scope) : Held restore db db' := by
  refine .of_registry (set.projects.filter fun row covered same => ?_) (set.canvases.filter fun row covered same => ?_)
    (.of_eq set.grants) set.same
  · exact apart (same ▸ of_decide_eq_true covered)
  · exact apart (same ▸ (of_decide_eq_true covered : restore.covers row.scope).project)

end OwnersSet

namespace ServerDatabase
variable {db db' : ServerDatabase} {restore : RestoreInput} {scope : AccessScope} {now : Timestamp}
variable {row : MembershipGrant} {humanPrincipalId : String}

section Statements

theorem updateRegistry_held {p : RegistryEntry → Prop} [DecidablePred p] {f : RegistryEntry → RegistryEntry}
    (apart : ¬ restore.covers scope) (done : db.updateRegistry scope p f now = some db') : Held restore db db' := by
  unfold updateRegistry at done
  cases kind : scope.canvasId with
  | none =>
    simp only [kind] at done
    obtain ⟨_, updated, rfl⟩ := map_eq_some_iff.mp done
    refine .of_registry (.updateOne updated ?_) .refl .refl ⟨rfl, rfl, rfl, rfl, rfl, rfl⟩
    rintro _ _ ⟨rfl, _⟩
    exact ⟨apart, apart⟩
  | some =>
    simp only [kind] at done
    obtain ⟨_, updated, rfl⟩ := map_eq_some_iff.mp done
    refine .of_registry .refl (.updateOne updated ?_) .refl ⟨rfl, rfl, rfl, rfl, rfl, rfl⟩
    rintro _ _ ⟨rfl, _⟩
    exact ⟨apart, apart⟩

theorem insertGrant_held (done : db.insertGrant row = .ok db') (apart : ¬ restore.covers row.scope) :
    Held restore db db' := by
  unfold insertGrant at done
  split at done
  · cases done
  split at done
  · cases done
  split at done
  · cases done
  · rename_i grants inserted
    cases done
    exact .of_registry .refl .refl (.insert inserted apart) ⟨rfl, rfl, rfl, rfl, rfl, rfl⟩

theorem setRevoked_held {revision : Nat} (member : row ∈ db.grants) (apart : ¬ restore.covers row.scope)
    (done : db.setRevoked row.grantId revision now = some db') : Held restore db db' := by
  obtain ⟨_, updated, rfl⟩ := map_eq_some_iff.mp done
  refine .of_registry .refl .refl (.updateOne updated ?_) ⟨rfl, rfl, rfl, rfl, rfl, rfl⟩
  rintro _ present ⟨keyed, _⟩
  have same := eq_of_key present member keyed
  subst same
  exact ⟨apart, apart⟩

theorem upsertMigration_held {kind : MigrationSource} (done : db.upsertMigration kind scope = .ok db') : Held restore db db' := by
  unfold upsertMigration at done
  split at done
  · split at done
    · cases done
    · cases done
      exact .of_registry .refl .refl .refl ⟨rfl, rfl, rfl, rfl, rfl, rfl⟩
  · cases done
    exact .of_registry .refl .refl .refl ⟨rfl, rfl, rfl, rfl, rfl, rfl⟩

theorem putCanvas_held {row : InternalCanvasRecord} (apart : ¬ restore.covers row.scope) :
    Held restore db { db with canvases := db.canvases.put row } := by
  refine .of_registry .refl (.put ?_) .refl ⟨rfl, rfl, rfl, rfl, rfl, rfl⟩
  intro other same
  rw [same]
  exact apart

end Statements

section Mutations
variable {engine : LatestFirst} {sha256 : Sha256} {grant : MembershipGrant}

theorem AclWrite.held {current : Nat} (write : AclWrite scope current db db') (apart : ¬ restore.covers scope) :
    Held restore db db' := by
  cases write with
  | visibility set => exact updateRegistry_held apart set
  | grant set inserted placed => exact (updateRegistry_held apart set).trans (insertGrant_held inserted (placed ▸ apart))
  | revoke set revoked member placed =>
    obtain ⟨_, _, _, moved⟩ := updateRegistry_some set
    exact (updateRegistry_held apart set).trans (setRevoked_held (moved.grants ▸ member) (placed ▸ apart) revoked)

theorem grantTransaction_held (leased : Leased restore db) {input : GrantInput}
    (done : db.grantTransaction sha256 input humanPrincipalId now = .ok (grant, db')) : Held restore db db' := by
  obtain ⟨fence, _, write⟩ := grantTransaction_ok done
  exact write.held (leased.elsewhere fence)

theorem revokeTransaction_held (leased : Leased restore db) {input : RevokeInput}
    (done : db.revokeTransaction engine input now = .ok (grant, db')) : Held restore db db' := by
  rcases revokeTransaction_ok done with rfl | ⟨fence, write⟩
  · exact .refl
  · exact write.held (leased.elsewhere fence)

theorem compareAndSetTransaction_held {actor : ActorRef} {request : AccessMutationRequest} {answer : AccessMutationResult}
    (spared : ¬ (restore.covers request.scope ∧ db.currentAclRevision request.scope = request.expectedAclRevision))
    (done : db.compareAndSetTransaction sha256 actor request now = .ok (answer, db')) : Held restore db db' := by
  obtain ⟨answered, current⟩ := compareAndSetTransaction_ok done
  by_cases same : db' = db
  · exact same ▸ .refl
  · have apart : ¬ restore.covers request.scope := fun covered => spared ⟨covered, current same⟩
    cases answer with
    | applied =>
      obtain ⟨_, write, _⟩ := answered
      exact write.held apart
    | conflict => exact absurd answered same
    | denied => exact absurd answered same

end Mutations

variable {canvas : InternalCanvasRecord} {project : InternalProjectRecord}

section Registrations

theorem registerProjectInternal_held {input : ProjectRegistration} (leased : Leased restore db)
    (done : db.registerProjectInternal input now = .ok (project, db')) : Held restore db db' := by
  obtain ⟨_, done⟩ := rest_ok done
  split at done
  · obtain ⟨_, done⟩ := rest_ok done
    cases done
    exact .refl
  · rename_i missing
    obtain ⟨_, _, done⟩ := rest_ok₂ done
    obtain ⟨projects, inserted, done⟩ := bind_ok.mp done
    obtain ⟨_, migrated, done⟩ := bind_ok.mp done
    cases done
    rw [present_ok] at inserted
    -- the project of the canvas is registered, so the new one is another
    have apart : ¬ restore.covers ⟨input.workspaceId, input.projectId, none⟩ := by
      rintro (same | same)
      · have kinds := congrArg AccessScope.canvasId same
        cases kinds
      have registered := leased.registered
      rw [← same] at registered
      unfold projectInternal at missing
      rw [missing] at registered
      cases registered
    have held : Held restore db { db with projects } :=
      .of_registry (.insert inserted apart) .refl .refl ⟨rfl, rfl, rfl, rfl, rfl, rfl⟩
    exact held.trans (upsertMigration_held migrated)

variable {input : CanvasRegistration}

theorem registeredCanvas_held {owner : Option String} {row : InternalCanvasRecord} (apart : ¬ restore.covers row.scope)
    (done : db.registeredCanvas input owner project row now = .ok (canvas, db')) : Held restore db db' := by
  unfold registeredCanvas at done
  dsimp only at done
  obtain ⟨_, done⟩ := rest_ok done
  split at done
  all_goals
    obtain ⟨_, _, _, done⟩ := rest_ok₃ done
    split at done
    · cases done
      exact .refl
    obtain ⟨_, done⟩ := rest_ok done
    obtain ⟨_, migrated, done⟩ := bind_ok.mp done
    cases done
    have later : Held restore _ db' := upsertMigration_held migrated
    refine Held.trans (putCanvas_held ?_) later
    exact apart

theorem registerCanvasInternal_held (leased : Leased restore db)
    (done : db.registerCanvasInternal input now = .ok (canvas, db')) : Held restore db db' := by
  obtain ⟨_, _, _, done⟩ := rest_ok₃ done
  obtain ⟨_, fence, done⟩ := bind_ok.mp done
  have apart := leased.elsewhere fence
  split at done
  · rename_i row found
    exact registeredCanvas_held ((find_eq_some.mp found).2 ▸ apart) done
  obtain ⟨_, _, done⟩ := rest_ok₂ done
  obtain ⟨canvases, inserted, done⟩ := bind_ok.mp done
  obtain ⟨_, migrated, done⟩ := bind_ok.mp done
  cases done
  rw [present_ok] at inserted
  have held : Held restore db { db with canvases } :=
    .of_registry .refl (.insert inserted apart) .refl ⟨rfl, rfl, rfl, rfl, rfl, rfl⟩
  exact held.trans (upsertMigration_held migrated)

theorem registerPathlessCanvas_held {canvasId : String} (leased : Leased restore db)
    (done : db.registerPathlessCanvas scope canvasId now = .ok (canvas, db')) : Held restore db db' := by
  obtain ⟨_, _, _, done⟩ := rest_ok₃ done
  obtain ⟨_, fence, done⟩ := bind_ok.mp done
  have apart := leased.elsewhere fence
  split at done
  · rename_i row found
    obtain ⟨_, done⟩ := rest_ok done
    split at done
    · cases done
      exact .refl
    · cases done
      have placed : row.scope = { scope with canvasId := some canvasId } := (find_eq_some.mp found).2
      exact putCanvas_held (placed ▸ apart)
  · obtain ⟨_, _, done⟩ := rest_ok₂ done
    obtain ⟨_, inserted, done⟩ := bind_ok.mp done
    cases done
    rw [present_ok] at inserted
    exact .of_registry .refl (.insert inserted apart) .refl ⟨rfl, rfl, rfl, rfl, rfl, rfl⟩

end Registrations

section Owners
variable {workspaceId projectId owner : String} {previous : Option String}

theorem replaceProjectOwner_set (done : db.replaceProjectOwner scope previous owner now = .ok db') : OwnersSet scope db db' := by
  obtain ⟨_, updated, done⟩ := bind_ok.mp done
  cases done
  rw [present_ok] at updated
  refine ⟨.updateOne updated ?_, .refl, rfl, rfl, rfl, rfl, rfl, rfl, rfl⟩
  rintro _ _ ⟨rfl, _⟩
  exact ⟨fun apart => apart rfl, fun apart => apart rfl⟩

theorem replaceCanvasOwners_set : OwnersSet scope db (db.replaceCanvasOwners scope previous owner now) := by
  refine ⟨.refl, .update (InternalCanvasRecord.withOwner_scope owner now) ?_, rfl, rfl, rfl, rfl, rfl, rfl, rfl⟩
  rintro _ _ ⟨rfl, _⟩
  exact ⟨fun apart => apart rfl, fun apart => apart rfl⟩

theorem materializeProjectOwner_set (done : db.materializeProjectOwner project owner now = .ok db') :
    OwnersSet project.scope db db' := by
  obtain ⟨_, done⟩ := rest_ok done
  split at done
  · cases done
    exact .refl
  obtain ⟨_, _, done⟩ := rest_ok₂ done
  obtain ⟨_, replaced, done⟩ := bind_ok.mp done
  cases done
  exact (replaceProjectOwner_set replaced).trans replaceCanvasOwners_set

theorem transferProjectOwner_set (done : db.transferProjectOwner project owner now = .ok db') :
    OwnersSet project.scope db db' := by
  obtain ⟨_, _, _, done⟩ := rest_ok₃ done
  obtain ⟨_, done⟩ := rest_ok done
  obtain ⟨_, replaced, done⟩ := bind_ok.mp done
  cases done
  exact (replaceProjectOwner_set replaced).trans replaceCanvasOwners_set

theorem synchronizeHumanMembershipOwner_set {kind : MembershipTransition} {role : MembershipRole}
    (done : db.synchronizeHumanMembershipOwner workspaceId projectId humanPrincipalId kind role now = .ok db') :
    OwnersSet ⟨workspaceId, projectId, none⟩ db db' := by
  obtain ⟨_, done⟩ := rest_ok done
  obtain ⟨project, found, done⟩ := bind_ok.mp done
  obtain ⟨_, _, done⟩ := rest_ok₂ done
  rw [present_ok] at found
  have placed : project.scope = ⟨workspaceId, projectId, none⟩ := (find_eq_some.mp found).2
  split at done
  · exact placed ▸ materializeProjectOwner_set done
  split at done
  · obtain ⟨_, done⟩ := rest_ok done
    exact placed ▸ transferProjectOwner_set done
  split at done
  · obtain ⟨_, _, _, done⟩ := rest_ok₃ done
    cases done
    exact replaceCanvasOwners_set
  · cases done
    exact .refl

theorem initializeProjectOwner_held (leased : Leased restore db)
    (done : db.initializeProjectOwner workspaceId projectId owner now = .ok (project, db')) : Held restore db db' := by
  obtain ⟨_, _, _, done⟩ := rest_ok₃ done
  obtain ⟨_, _, done⟩ := rest_ok₂ done
  obtain ⟨_, fence, done⟩ := bind_ok.mp done
  split at done
  · obtain ⟨_, _, done⟩ := rest_ok₂ done
    cases done
    exact .refl
  · obtain ⟨_, replaced, done⟩ := bind_ok.mp done
    cases done
    exact ((replaceProjectOwner_set replaced).trans replaceCanvasOwners_set).held (leased.elsewhere fence)

theorem initializeCanvasOwner_held {canvasId : String} (leased : Leased restore db)
    (done : db.initializeCanvasOwner workspaceId projectId canvasId owner now = .ok (canvas, db')) : Held restore db db' := by
  obtain ⟨_, _, _, done⟩ := rest_ok₃ done
  obtain ⟨_, _, done⟩ := rest_ok₂ done
  split at done
  · obtain ⟨_, _, done⟩ := rest_ok₂ done
    cases done
    exact .refl
  · obtain ⟨_, fence, done⟩ := bind_ok.mp done
    obtain ⟨_, updated, done⟩ := bind_ok.mp done
    cases done
    rw [present_ok] at updated
    have apart := leased.elsewhere fence
    refine .of_registry .refl (.updateOne updated ?_) .refl ⟨rfl, rfl, rfl, rfl, rfl, rfl⟩
    rintro _ _ ⟨same, _⟩
    exact ⟨same ▸ apart, same ▸ apart⟩

theorem reconcileRuntimeCanvases_held {trusted : List String} (leased : Leased restore db)
    (done : db.reconcileRuntimeCanvases workspaceId projectId trusted now = .ok ((), db')) : Held restore db db' := by
  obtain ⟨_, _, done⟩ := rest_ok₂ done
  obtain ⟨_, fence, done⟩ := bind_ok.mp done
  cases done
  have apart := leased.elsewhere fence
  refine .of_registry .refl (.update (InternalCanvasRecord.revoked_scope now) ?_) .refl ⟨rfl, rfl, rfl, rfl, rfl, rfl⟩
  rintro row _ ⟨same, _⟩
  have outside : ¬ restore.covers row.scope := fun covered => apart (same ▸ covered.project)
  exact ⟨outside, outside⟩

end Owners
end ServerDatabase
end PlanWeave.Access
