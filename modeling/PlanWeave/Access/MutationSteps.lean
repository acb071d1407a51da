import PlanWeave.Access.Ledger

namespace PlanWeave.Access
open Checked Option

namespace ServerDatabase
variable {sha256 : Sha256} {engine : LatestFirst} {db db' : ServerDatabase} {now : Timestamp}
variable {entry : RegistryEntry} {scope : AccessScope} {raised : ServerDatabase} {grant : MembershipGrant}

theorem applied_of_set {middle : ServerDatabase} {entry' : RegistryEntry}
    (found : db.entry scope = some entry) (set : EntrySet scope entry' db middle)
    (raised : entry'.aclRevision = entry.aclRevision + 1)
    (owner : entry'.ownerHumanPrincipalId = entry.ownerHumanPrincipalId) (revokedAt : entry'.revokedAt = entry.revokedAt)
    (entries : ∀ other, db'.entry other = middle.entry other) (same : SameIdentities middle db')
    (grants : GrantChange scope (entry.aclRevision + 1) db db') : Applied scope entry db db' where
  found := found
  raised := ⟨entry', by rw [entries, set.entries, if_pos rfl], raised, owner, revokedAt⟩
  others other apart := by rw [entries, set.entries, if_neg apart]
  grants := grants
  same := set.same.trans same

variable {row : MembershipGrant} {humanPrincipalId : String} {current : Nat}

/-- What a mutation of a scope that stands at a revision writes. -/
inductive AclWrite (scope : AccessScope) (current : Nat) (db db' : ServerDatabase) : Prop
  | visibility {visibility : Visibility} {now : Timestamp} (set : db.setVisibility scope visibility current now = some db')
  | grant {raised : ServerDatabase} {row : MembershipGrant} {unrevoked : Bool} {now : Timestamp}
    (set : db.setRevision scope (current + 1) current unrevoked now = some raised)
    (inserted : raised.insertGrant row = .ok db') (placed : row.scope = scope) (revised : row.aclRevision = current + 1)
    (active : row.revokedAt = none)
  | revoke {raised : ServerDatabase} {grant : MembershipGrant} {unrevoked : Bool} {now : Timestamp}
    (set : db.setRevision scope (current + 1) current unrevoked now = some raised)
    (revoked : raised.setRevoked grant.grantId (current + 1) now = some db') (member : grant ∈ db.grants)
    (placed : grant.scope = scope)

theorem AclWrite.applied (write : AclWrite scope current db db') :
    ∃ entry, Applied scope entry db db' ∧ entry.aclRevision = current := by
  cases write with
  | visibility set =>
    obtain ⟨entry, found, ⟨rfl, _⟩, moved⟩ := updateRegistry_some set
    exact ⟨entry, applied_of_set found moved rfl rfl rfl (fun _ => rfl) .refl (.kept moved.grants), rfl⟩
  | @grant raised row _ _ set inserted placed revised active =>
    obtain ⟨entry, found, ⟨rfl, _⟩, moved⟩ := updateRegistry_some set
    obtain ⟨free, _, insertion, entries, same⟩ := insertGrant_ok inserted
    have held : raised.holdsGrant row.scope row.humanPrincipalId ↔ db.holdsGrant row.scope row.humanPrincipalId := by
      unfold holdsGrant
      rw [moved.grants]
    refine ⟨entry, applied_of_set found moved rfl rfl rfl entries same (.granted row placed revised active ?_ ?_), rfl⟩
    · intro already
      exact free ⟨active, held.mpr (placed ▸ already)⟩
    · exact moved.grants ▸ insertion
  | revoke set revoked member placed =>
    obtain ⟨entry, found, ⟨rfl, _⟩, moved⟩ := updateRegistry_some set
    obtain ⟨row, keyed, unrevoked, replaced, entries, same⟩ := setRevoked_some revoked
    rw [moved.grants] at replaced
    have same_row := Table.eq_of_key replaced.old_mem member keyed
    exact ⟨entry, applied_of_set found moved rfl rfl rfl entries same (.revoked row _ (same_row ▸ placed) unrevoked replaced), rfl⟩

theorem grantTransaction_ok {input : GrantInput}
    (done : db.grantTransaction sha256 input humanPrincipalId now = .ok (grant, db')) :
    db.assertNoPendingSnapshotRestore input.scope = .ok () ∧ ∃ current, AclWrite input.scope current db db' := by
  simp only [grantTransaction, bind_ok, present_ok] at done
  obtain ⟨_, fence, _, _, _, _, _, _, _, _, _, _, _, set, _, insertion, rest⟩ := done
  cases rest
  exact ⟨fence, _, .grant set insertion rfl rfl rfl⟩

theorem revokeTransaction_ok {input : RevokeInput} (done : db.revokeTransaction engine input now = .ok (grant, db')) :
    db' = db ∨ db.assertNoPendingSnapshotRestore input.scope = .ok () ∧ AclWrite input.scope input.expectedAclRevision db db' := by
  simp only [revokeTransaction, bind_ok, present_ok] at done
  obtain ⟨_, fence, _, _, row, chosen, done⟩ := done
  obtain ⟨member, _, placed⟩ := grantOf_some.mp chosen
  split at done
  · simp only [revokeRow, bind_ok, present_ok] at done
    obtain ⟨_, _, _, _, _, set, _, revocation, _, _, rest⟩ := done
    cases rest
    exact .inr ⟨fence, .revoke (placed ▸ set) revocation member placed⟩
  · obtain ⟨_, rest⟩ := rest_ok done
    cases rest
    exact .inl rfl

section CompareAndSet
variable {actor : ActorRef} {request : AccessMutationRequest} {answer : AccessMutationResult}

def Answered (db : ServerDatabase) (scope : AccessScope) (answer : AccessMutationResult) (db' : ServerDatabase) : Prop :=
  match answer with
  | .applied aclRevision _ => ∃ current, AclWrite scope current db db' ∧ aclRevision = current + 1
  | .conflict _ | .denied _ _ => db' = db

theorem visibilityTransaction_answered (db : ServerDatabase) (request : AccessMutationRequest) (now : Timestamp)
    (visibility : Visibility) :
    db.Answered request.scope (db.visibilityTransaction request visibility now).1
      (db.visibilityTransaction request visibility now).2 := by
  unfold visibilityTransaction
  simp only
  split
  · rfl
  split
  · rfl
  · rename_i changed set
    exact ⟨_, .visibility set, rfl⟩

theorem casGrantTransaction_ok {role : GrantableRole}
    (done : db.casGrantTransaction sha256 actor request humanPrincipalId role now = .ok (answer, db')) :
    db.Answered request.scope answer db' := by
  simp only [casGrantTransaction, bind_ok] at done
  obtain ⟨_, _, _, _, done⟩ := done
  split at done
  · cases done
    rfl
  split at done
  · cases done
    rfl
  split at done
  · cases done
    rfl
  rename_i raised set
  obtain ⟨_, insertion, rest⟩ := bind_ok.mp done
  cases rest
  exact ⟨_, .grant set insertion rfl rfl rfl, rfl⟩

theorem casRevokeTransaction_ok {grantId : String}
    (done : db.casRevokeTransaction request grantId now = .ok (answer, db')) : db.Answered request.scope answer db' := by
  unfold casRevokeTransaction at done
  simp only at done
  split at done
  · cases done
    rfl
  rename_i grant chosen
  obtain ⟨member, keyed, placed⟩ := grantOf_some.mp chosen
  split at done
  · cases done
    rfl
  simp only [bind_ok, present_ok] at done
  obtain ⟨_, set, _, revocation, rest⟩ := done
  cases rest
  exact ⟨_, .revoke set (keyed ▸ revocation) member placed, rfl⟩

theorem compareAndSetTransaction_ok (done : db.compareAndSetTransaction sha256 actor request now = .ok (answer, db')) :
    db.Answered request.scope answer db' ∧
      (db' ≠ db → db.currentAclRevision request.scope = request.expectedAclRevision) := by
  unfold compareAndSetTransaction at done
  simp only at done
  split at done
  · cases done
    exact ⟨rfl, fun changed => absurd rfl changed⟩
  rename_i current
  refine ⟨?_, fun _ => not_not.mp current⟩
  split at done
  · rename_i visibility _
    have answered := visibilityTransaction_answered db request now visibility
    rw [Except.ok.inj done] at answered
    exact answered
  · exact casGrantTransaction_ok done
  · exact casRevokeTransaction_ok done

theorem currentAclRevision_of_entry (found : db.entry scope = some entry) :
    db.currentAclRevision scope = entry.aclRevision := by
  rw [currentAclRevision, revisionOf, found]
  rfl

def Live (db : ServerDatabase) (scope : AccessScope) : Prop :=
  db.scopeRevokedAt scope = some none ∧ db.scopeRevokedAt scope.project = some none

/-- The person of a grant request, when the request is up to date and the person active, cannot get a row: it has an
unrevoked grant of the scope, no principal of its id is in the workspace, or the id of the row is taken. -/
def GrantBlocked (sha256 : Sha256) (db : ServerDatabase) (request : AccessMutationRequest) : Prop :=
  match request.operation with
  | .grant humanPrincipalId _ => ∃ grantTarget, db.canonicalizeTarget humanPrincipalId = .ok grantTarget ∧
      db.activeWorkspacePrincipal request.scope.workspaceId grantTarget = .ok true ∧
      (db.holdsGrant request.scope grantTarget ∨
        db.principals.find (request.scope.workspaceId, grantTarget) = none ∨
        db.grants.find (grantIdFor sha256 request.scope grantTarget (request.expectedAclRevision + 1)) ≠ none)
  | .revoke _ | .visibility _ => False

theorem scopeRevokedAt_entry (registered : db.scopeRevokedAt scope = some none) :
    ∃ entry, db.entry scope = some entry ∧ entry.revokedAt = none := by
  exact map_eq_some_iff.mp registered

theorem find_isSome_of_entry (found : db.entry scope = some entry) :
    (scope.canvasId = none → (db.projects.find scope).isSome = true) ∧
      (scope.canvasId ≠ none → (db.canvases.find scope).isSome = true) := by
  unfold ServerDatabase.entry at found
  cases kind : scope.canvasId with
  | none =>
    simp only [kind] at found
    obtain ⟨_, present, _⟩ := map_eq_some_iff.mp found
    simp [present]
  | some =>
    simp only [kind] at found
    obtain ⟨_, present, _⟩ := map_eq_some_iff.mp found
    simp [present]

theorem referencesExist_iff (set : EntrySet row.scope entry db raised) (live : db.Live row.scope) :
    raised.referencesExist row = true ↔ (db.principals.find (row.workspaceId, row.humanPrincipalId)).isSome = true := by
  have registered : ∀ other, (∃ entry, db.entry other = some entry) → ∃ entry, raised.entry other = some entry := by
    intro other before
    rw [set.entries]
    split
    · exact ⟨entry, rfl⟩
    · exact before
  obtain ⟨_, project, _⟩ := scopeRevokedAt_entry live.2
  obtain ⟨_, scope, _⟩ := scopeRevokedAt_entry live.1
  obtain ⟨_, projectAfter⟩ := registered _ ⟨_, project⟩
  obtain ⟨_, scopeAfter⟩ := registered _ ⟨_, scope⟩
  have hasProject := (find_isSome_of_entry projectAfter).1 rfl
  have hasScope := (find_isSome_of_entry scopeAfter).2
  simp only [referencesExist, set.same.principals, hasProject, Bool.and_true, Bool.and_eq_true, Bool.or_eq_true,
    decide_eq_true_eq, and_iff_left_iff_imp]
  intro _
  by_cases kind : row.canvasId = none
  · exact .inl kind
  · exact .inr (hasScope kind)

theorem insertGrant_error (row : MembershipGrant)
    (set : EntrySet row.scope entry db raised) (live : db.Live row.scope) (unrevoked : row.revokedAt = none) :
    (∃ reason, raised.insertGrant row = .error reason) ↔ db.holdsGrant row.scope row.humanPrincipalId ∨
      db.principals.find (row.workspaceId, row.humanPrincipalId) = none ∨ db.grants.find row.grantId ≠ none := by
  have held : raised.holdsGrant row.scope row.humanPrincipalId ↔ db.holdsGrant row.scope row.humanPrincipalId := by
    unfold holdsGrant
    rw [set.grants]
  have references := referencesExist_iff set live
  constructor
  · rintro ⟨_, failed⟩
    by_contra free
    rw [not_or, not_or, not_not] at free
    obtain ⟨unheld, known, fresh⟩ := free
    obtain ⟨_, inserted⟩ := insertGrant_of_free (fun holds => unheld (held.mp holds))
      (references.mpr (isSome_iff_ne_none.mpr known)) (set.grants ▸ fresh)
    rw [inserted] at failed
    cases failed
  · intro blocked
    cases result : raised.insertGrant row with
    | error reason => exact ⟨reason, rfl⟩
    | ok =>
      obtain ⟨free, referenced, insertion, _⟩ := insertGrant_ok result
      rcases blocked with holds | unknown | taken
      · exact absurd ⟨unrevoked, held.mpr holds⟩ free
      · rw [references, unknown] at referenced
        cases referenced
      · rw [set.grants] at insertion
        obtain ⟨other, present⟩ := ne_none_iff_exists'.mp taken
        obtain ⟨member, keyed⟩ := Table.find_eq_some.mp present
        exact absurd keyed (insertion.1 other member)

theorem activeWorkspacePrincipal_ok (acyclic : db.Acyclic) (workspaceId id : String) :
    ∃ active, db.activeWorkspacePrincipal workspaceId id = .ok active := by
  obtain ⟨_, resolved⟩ := acyclic.resolves id
  unfold activeWorkspacePrincipal equivalentIds
  rw [resolved]
  exact ⟨_, rfl⟩

theorem compareAndSetTransaction_error (actor : ActorRef) (now : Timestamp) (acyclic : db.Acyclic) (live : db.Live request.scope) :
    (∃ reason, db.compareAndSetTransaction sha256 actor request now = .error reason) ↔
      db.currentAclRevision request.scope = request.expectedAclRevision ∧ db.GrantBlocked sha256 request := by
  obtain ⟨_, found, unrevoked⟩ := scopeRevokedAt_entry live.1
  have current := currentAclRevision_of_entry found
  obtain ⟨raised, set⟩ : ∃ raised, db.setRevision request.scope (db.currentAclRevision request.scope + 1)
      (db.currentAclRevision request.scope) true now = some raised :=
    updateRegistry_of_entry found ⟨current.symm, fun _ => unrevoked⟩
  obtain ⟨_, _, _, moved⟩ := updateRegistry_some set
  unfold compareAndSetTransaction GrantBlocked
  simp only
  split
  · rename_i other
    simp [other]
  rename_i same
  have same := not_not.mp same
  cases request.operation with
  | visibility => simp
  | revoke =>
    simp only [and_false, iff_false]
    rintro ⟨_, failed⟩
    unfold casRevokeTransaction at failed
    simp only at failed
    split at failed
    · cases failed
    rename_i grant chosen
    obtain ⟨member, keyed, _⟩ := grantOf_some.mp chosen
    split at failed
    · cases failed
    rename_i active
    obtain ⟨_, revocation⟩ := setRevoked_of_row (db.currentAclRevision request.scope + 1) now
      (moved.grants ▸ member : grant ∈ raised.grants) (not_not.mp active)
    rw [← keyed] at failed
    simp [set, revocation, Checked.present, Bind.bind, Except.bind, Pure.pure, Except.pure] at failed
  | grant humanPrincipalId role =>
    obtain ⟨grantTarget, resolved⟩ := acyclic.resolves humanPrincipalId
    have resolved' : db.canonicalizeTarget humanPrincipalId = .ok grantTarget := resolved
    obtain ⟨active, activity⟩ := activeWorkspacePrincipal_ok acyclic request.scope.workspaceId grantTarget
    have unrevokedScopes : ¬ (db.scopeRevokedAt request.scope.project ≠ some none ∨
        (request.scope.canvasId ≠ none ∧ db.scopeRevokedAt request.scope ≠ some none)) := by
      simp [live.1, live.2]
    have blocked := insertGrant_error (grantRow sha256 request.scope grantTarget role.role
      (db.currentAclRevision request.scope + 1) actor now) moved live rfl
    simp only [same, true_and, resolved', Except.ok.injEq, exists_eq_left'] at blocked ⊢
    unfold casGrantTransaction
    simp only [resolved', activity, Bind.bind, Except.bind, Pure.pure, Except.pure]
    cases active with
    | false => simp
    | true =>
      rw [if_neg (by simp), if_neg unrevokedScopes, set, same]
      simp only [true_and]
      apply Iff.trans _ blocked
      cases raised.insertGrant (grantRow sha256 request.scope grantTarget role.role (request.expectedAclRevision + 1) actor now) with
      | error => simp
      | ok => simp

end CompareAndSet
end ServerDatabase
end PlanWeave.Access
