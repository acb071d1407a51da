import PlanWeave.Access.Mutations

namespace PlanWeave.Access
open List Option Table

structure SameIdentities (db db' : ServerDatabase) : Prop where
  principals : db'.principals = db.principals
  memberships : db'.memberships = db.memberships
  projectMemberships : db'.projectMemberships = db.projectMemberships
  aliases : db'.aliases = db.aliases
  snapshots : db'.snapshots = db.snapshots
  humanPrincipals : db'.humanPrincipals = db.humanPrincipals

namespace SameIdentities
variable {db db' db'' : ServerDatabase}

theorem refl : SameIdentities db db := ⟨rfl, rfl, rfl, rfl, rfl, rfl⟩

theorem trans (first : SameIdentities db db') (second : SameIdentities db' db'') : SameIdentities db db'' where
  principals := second.principals.trans first.principals
  memberships := second.memberships.trans first.memberships
  projectMemberships := second.projectMemberships.trans first.projectMemberships
  aliases := second.aliases.trans first.aliases
  snapshots := second.snapshots.trans first.snapshots
  humanPrincipals := second.humanPrincipals.trans first.humanPrincipals

theorem resolveCanonical (same : SameIdentities db db') (id : String) : db'.resolveCanonical id = db.resolveCanonical id := by
  unfold ServerDatabase.resolveCanonical ServerDatabase.aliasOf
  rw [same.aliases]

theorem acyclic (same : SameIdentities db db') (acyclic : db.Acyclic) : db'.Acyclic := by
  unfold ServerDatabase.Acyclic ServerDatabase.aliasOf
  rw [same.aliases]
  exact acyclic

end SameIdentities

structure EntrySet (scope : AccessScope) (entry : RegistryEntry) (db db' : ServerDatabase) : Prop where
  entries : ∀ other, db'.entry other = if other = scope then some entry else db.entry other
  grants : db'.grants = db.grants
  same : SameIdentities db db'

variable {row : MembershipGrant}

namespace ServerDatabase
variable {db db' : ServerDatabase} {scope : AccessScope} {now : Timestamp}

theorem entries_update {R E : Type} {key : R → AccessScope} {t t' : Table key} {p : R → Prop} [DecidablePred p] {f : R → R}
    {keeps : ∀ row, key (f row) = key row} (keyed : ∀ row, p row → key row = scope) (done : t.updateOne p f keeps = some t')
    (see : R → E) : ∃ row, p row ∧ t.find scope = some row ∧
      ∀ other, (t'.find other).map see = if other = scope then some (see (f row)) else (t.find other).map see := by
  obtain ⟨row, holds, replaced⟩ := updateOne_replaced done
  have found := keyed row holds ▸ find_of_mem replaced.old_mem
  refine ⟨row, holds, found, fun other => ?_⟩
  unfold Table.updateOne at done
  split at done
  · cases done
    rw [find_update]
    split
    · rename_i same
      rw [same, found]
      simp [holds]
    · rename_i different
      cases present : t.find other with
      | none => rfl
      | some row' =>
        have keyed' := (find_eq_some.mp present).2
        have apart : ¬ p row' := fun holds' => different (keyed'.symm.trans (keyed row' holds'))
        simp [apart]
  · cases done

variable {p : RegistryEntry → Prop} [DecidablePred p] {f : RegistryEntry → RegistryEntry}

theorem updateRegistry_some (done : db.updateRegistry scope p f now = some db') :
    ∃ entry, db.entry scope = some entry ∧ p entry ∧ EntrySet scope (f entry) db db' := by
  unfold updateRegistry at done
  cases kind : scope.canvasId with
  | none =>
    simp only [kind] at done
    obtain ⟨_, updated, rfl⟩ := map_eq_some_iff.mp done
    obtain ⟨row, holds, found, entries⟩ := entries_update (fun row holds => holds.1) updated InternalProjectRecord.entry
    refine ⟨row.entry, ?_, holds.2, ?_, rfl, ⟨rfl, rfl, rfl, rfl, rfl, rfl⟩⟩
    · simp only [entry, kind, found, map_some]
    intro other
    unfold entry
    cases other_kind : other.canvasId with
    | none => exact entries other
    | some =>
      have apart : other ≠ scope := fun same => by rw [same, kind] at other_kind; cases other_kind
      rw [if_neg apart]
  | some canvasId =>
    simp only [kind] at done
    obtain ⟨_, updated, rfl⟩ := map_eq_some_iff.mp done
    obtain ⟨row, holds, found, entries⟩ := entries_update (fun row holds => holds.1) updated InternalCanvasRecord.entry
    refine ⟨row.entry, ?_, holds.2, ?_, rfl, ⟨rfl, rfl, rfl, rfl, rfl, rfl⟩⟩
    · simp only [entry, kind, found, map_some]
    intro other
    unfold entry
    cases other_kind : other.canvasId with
    | none =>
      have apart : other ≠ scope := fun same => by rw [same, kind] at other_kind; cases other_kind
      rw [if_neg apart]
    | some => exact entries other

theorem updateRegistry_of_entry {entry : RegistryEntry} (found : db.entry scope = some entry) (holds : p entry) :
    ∃ db', db.updateRegistry scope p f now = some db' := by
  unfold ServerDatabase.entry at found
  unfold updateRegistry
  cases kind : scope.canvasId with
  | none =>
    simp only [kind] at found ⊢
    obtain ⟨_, present, rfl⟩ := map_eq_some_iff.mp found
    obtain ⟨member, keyed⟩ := find_eq_some.mp present
    rw [updateOne_eq member ⟨keyed, holds⟩ fun other _ chosen => chosen.1.trans keyed.symm]
    exact ⟨_, rfl⟩
  | some =>
    simp only [kind] at found ⊢
    obtain ⟨_, present, rfl⟩ := map_eq_some_iff.mp found
    obtain ⟨member, keyed⟩ := find_eq_some.mp present
    rw [updateOne_eq member ⟨keyed, holds⟩ fun other _ chosen => chosen.1.trans keyed.symm]
    exact ⟨_, rfl⟩

def holdsGrant (db : ServerDatabase) (scope : AccessScope) (humanPrincipalId : String) : Prop :=
  ∃ row ∈ db.grants, row.revokedAt = none ∧ row.scope = scope ∧ row.humanPrincipalId = humanPrincipalId

theorem breaksActiveUnique_iff :
    db.breaksActiveUnique row = true ↔ row.revokedAt = none ∧ db.holdsGrant row.scope row.humanPrincipalId := by
  simp only [breaksActiveUnique, holdsGrant, List.any_eq_true, decide_eq_true_eq]
  exact Iff.rfl

theorem insertGrant_ok (done : db.insertGrant row = .ok db') :
    ¬ (row.revokedAt = none ∧ db.holdsGrant row.scope row.humanPrincipalId) ∧ db.referencesExist row = true ∧
      Table.Inserted row db.grants db'.grants ∧ (∀ other, db'.entry other = db.entry other) ∧ SameIdentities db db' := by
  unfold insertGrant at done
  split at done
  · cases done
  rename_i free
  split at done
  · cases done
  rename_i referenced
  split at done
  · cases done
  · rename_i grants inserted
    cases done
    refine ⟨fun broken => free (breaksActiveUnique_iff.mpr broken), by simpa using referenced, Table.inserted inserted,
      fun _ => rfl, rfl, rfl, rfl, rfl, rfl, rfl⟩

theorem insertGrant_of_free (free : ¬ db.holdsGrant row.scope row.humanPrincipalId) (referenced : db.referencesExist row = true)
    (fresh : db.grants.find row.grantId = none) : ∃ db', db.insertGrant row = .ok db' := by
  have unbroken : ¬ db.breaksActiveUnique row = true := fun broken => free (breaksActiveUnique_iff.mp broken).2
  unfold insertGrant
  rw [if_neg unbroken, if_neg (by simp [referenced])]
  cases inserted : db.grants.insert row with
  | some => exact ⟨_, rfl⟩
  | none =>
    obtain ⟨other, member, same⟩ := insert_eq_none.mp inserted
    exact absurd same (find_eq_none.mp fresh other member)

theorem setRevoked_some {grantId : String} {revision : Nat} (done : db.setRevoked grantId revision now = some db') :
    ∃ row, row.grantId = grantId ∧ row.revokedAt = none ∧
      Table.Replaced row { row with revokedAt := some now, aclRevision := revision } db.grants db'.grants ∧
      (∀ other, db'.entry other = db.entry other) ∧ SameIdentities db db' := by
  obtain ⟨_, updated, rfl⟩ := map_eq_some_iff.mp done
  obtain ⟨row, ⟨keyed, unrevoked⟩, replaced⟩ := updateOne_replaced updated
  exact ⟨row, keyed, unrevoked, replaced, fun _ => rfl, rfl, rfl, rfl, rfl, rfl, rfl⟩

theorem setRevoked_of_row (revision : Nat) (now : Timestamp) (member : row ∈ db.grants) (unrevoked : row.revokedAt = none) :
    ∃ db', db.setRevoked row.grantId revision now = some db' := by
  unfold setRevoked
  rw [updateOne_eq member ⟨rfl, unrevoked⟩ fun _ _ chosen => chosen.1]
  exact ⟨_, rfl⟩

theorem grantOf_some {grantId : String} :
    db.grantOf grantId scope = some row ↔ row ∈ db.grants ∧ row.grantId = grantId ∧ row.scope = scope := by
  unfold grantOf
  constructor
  · intro found
    have holds := find?_some found
    rw [decide_eq_true_eq] at holds
    exact ⟨mem_of_find?_eq_some found, holds⟩
  · rintro ⟨member, keyed, placed⟩
    have some_row : (db.grants.rows.find? fun row => decide (row.grantId = grantId ∧ row.scope = scope)).isSome :=
      find?_isSome.mpr ⟨row, member, by simp [keyed, placed]⟩
    obtain ⟨_, found⟩ := isSome_iff_exists.mp some_row
    have holds := find?_some found
    rw [decide_eq_true_eq] at holds
    rw [found, eq_of_key (mem_of_find?_eq_some found) member (holds.1.trans keyed.symm)]

end ServerDatabase

/-- What a mutation under a revision does to the grants: nothing, a new row, or a row revoked. -/
inductive GrantChange (scope : AccessScope) (revision : Nat) (db db' : ServerDatabase) : Prop where
  | kept : db'.grants = db.grants → GrantChange scope revision db db'
  | granted (row : MembershipGrant) : row.scope = scope → row.aclRevision = revision → row.revokedAt = none →
      ¬ db.holdsGrant scope row.humanPrincipalId → Table.Inserted row db.grants db'.grants →
      GrantChange scope revision db db'
  | revoked (row : MembershipGrant) (now : Timestamp) : row.scope = scope → row.revokedAt = none →
      Table.Replaced row { row with revokedAt := some now, aclRevision := revision } db.grants db'.grants →
      GrantChange scope revision db db'

structure Applied (scope : AccessScope) (entry : RegistryEntry) (db db' : ServerDatabase) : Prop where
  found : db.entry scope = some entry
  raised : ∃ entry', db'.entry scope = some entry' ∧ entry'.aclRevision = entry.aclRevision + 1 ∧
    entry'.ownerHumanPrincipalId = entry.ownerHumanPrincipalId ∧ entry'.revokedAt = entry.revokedAt
  others : ∀ other, other ≠ scope → db'.entry other = db.entry other
  grants : GrantChange scope (entry.aclRevision + 1) db db'
  same : SameIdentities db db'

namespace Applied
variable {db db' : ServerDatabase} {scope other : AccessScope} {entry : RegistryEntry}

section
variable (applied : Applied scope entry db db')
include applied

theorem revisionOf : db'.revisionOf scope = some (entry.aclRevision + 1) := by
  obtain ⟨_, found, raised, _⟩ := applied.raised
  rw [ServerDatabase.revisionOf, found, map_some, raised]

theorem revisionOf_before : db.revisionOf scope = some entry.aclRevision := by
  rw [ServerDatabase.revisionOf, applied.found, map_some]

theorem changes : db' ≠ db := by
  rintro rfl
  have same := applied.revisionOf_before.symm.trans applied.revisionOf
  simp at same

theorem scopeRevokedAt (other : AccessScope) : db'.scopeRevokedAt other = db.scopeRevokedAt other := by
  unfold ServerDatabase.scopeRevokedAt
  by_cases same : other = scope
  · obtain ⟨_, found, _, _, revokedAt⟩ := applied.raised
    rw [same, found, applied.found, map_some, map_some, revokedAt]
  · rw [applied.others other same]

theorem revision_le {revision : Nat} (before : db.revisionOf other = some revision) :
    ∃ later, db'.revisionOf other = some later ∧ revision ≤ later := by
  by_cases same : other = scope
  · rw [same, applied.revisionOf_before, Option.some.injEq] at before
    refine ⟨_, same ▸ applied.revisionOf, ?_⟩
    omega
  · refine ⟨revision, ?_, Nat.le_refl _⟩
    rw [ServerDatabase.revisionOf, applied.others other same]
    exact before
end
end Applied

namespace ServerDatabase

/-- The grants of a scope lie below its revision, and an unrevoked one is above all others of its person. -/
structure Linear (db : ServerDatabase) : Prop where
  bounded : ∀ row ∈ db.grants, ∃ revision, db.revisionOf row.scope = some revision ∧ row.aclRevision ≤ revision
  newest : ∀ row ∈ db.grants, ∀ other ∈ db.grants, other.scope = row.scope →
    other.humanPrincipalId = row.humanPrincipalId → row.revokedAt = none → other ≠ row → other.aclRevision < row.aclRevision

theorem linear_of_no_grants {db : ServerDatabase} (none : ∀ row, row ∉ db.grants) : db.Linear where
  bounded row member := absurd member (none row)
  newest row member := absurd member (none row)

namespace Linear
variable {db db' : ServerDatabase} {scope : AccessScope} {entry : RegistryEntry}

theorem unique (linear : db.Linear) {other : MembershipGrant} (member : row ∈ db.grants) (member' : other ∈ db.grants)
    (placed : other.scope = row.scope) (person : other.humanPrincipalId = row.humanPrincipalId)
    (unrevoked : row.revokedAt = none) (unrevoked' : other.revokedAt = none) : other = row := by
  by_contra different
  have below := linear.newest row member other member' placed person unrevoked different
  have above := linear.newest other member' row member placed.symm person.symm unrevoked' (Ne.symm different)
  omega

theorem applied (linear : db.Linear) (applied : Applied scope entry db db') : db'.Linear := by
  -- an old row stays below the revision of its scope, a touched row is at the new revision
  have older : ∀ row ∈ db.grants, ∃ revision, db'.revisionOf row.scope = some revision ∧ row.aclRevision ≤ revision := by
    intro row member
    obtain ⟨_, before, bound⟩ := linear.bounded row member
    obtain ⟨later, after, more⟩ := applied.revision_le before
    exact ⟨later, after, Nat.le_trans bound more⟩
  have below : ∀ row ∈ db.grants, row.scope = scope → row.aclRevision < entry.aclRevision + 1 := by
    intro row member placed
    obtain ⟨_, before, _⟩ := linear.bounded row member
    rw [placed, applied.revisionOf_before, Option.some.injEq] at before
    omega
  cases applied.grants with
  | kept same =>
    constructor
    · intro row member
      exact older row (same ▸ member)
    · intro row member other member'
      exact linear.newest row (same ▸ member) other (same ▸ member')
  | granted _ placed revised _ free inserted =>
    constructor
    · intro row member
      rcases (inserted.2 row).mp member with old | rfl
      · exact older row old
      · exact ⟨_, placed ▸ applied.revisionOf, Nat.le_of_eq revised⟩
    · intro row member other member' together person active different
      rcases (inserted.2 row).mp member with old | rfl
      · rcases (inserted.2 other).mp member' with old' | rfl
        · exact linear.newest row old other old' together person active different
        · exact absurd ⟨row, old, active, together.symm.trans placed, person.symm⟩ free
      · rcases (inserted.2 other).mp member' with old' | same
        · rw [revised]
          exact below other old' (together.trans placed)
        · exact absurd same different
  | revoked _ _ placed unrevoked replaced =>
    constructor
    · intro row member
      rcases replaced.mem_iff.mp member with ⟨kept, _⟩ | rfl
      · exact older row kept
      · exact ⟨_, placed ▸ applied.revisionOf, Nat.le_refl _⟩
    · intro row member other member' together person active different
      rcases replaced.mem_iff.mp member with ⟨kept, apart⟩ | rfl
      · rcases replaced.mem_iff.mp member' with ⟨kept', _⟩ | rfl
        · exact linear.newest row kept other kept' together person active different
        · have same := linear.unique kept replaced.old_mem together person active unrevoked
          exact absurd (congrArg MembershipGrant.grantId same).symm apart
      · cases active

end Linear
end ServerDatabase
end PlanWeave.Access
