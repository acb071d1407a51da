import Mathlib.Data.List.Dedup
import PlanWeave.Access.MergeSteps

namespace PlanWeave.Access
open Consolidation List Table

/-- A rule that leaves one active row in each group, under the canonical id and in the role that is kept. -/
structure Inherits {K R G : Type} {key : R → K} (rule : Consolidation key G) (person : R → String) (role : R → MembershipRole)
    (revokedAt : R → Option Timestamp) (ids : List String) (target : String) : Prop where
  touched : ∀ row, rule.touched row = true ↔ person row ∈ ids ∧ revokedAt row = none
  grouped : ∀ rows row, rule.group (rule.settle rows row) = rule.group row
  named : ∀ rows row, person (rule.settle rows row) = target
  active : ∀ rows row, revokedAt (rule.settle rows row) = revokedAt row
  kept : ∀ rows row, role (rule.settle rows row) = keptRole (rows.map role)
  dropped : ∀ row, revokedAt (rule.drop row) ≠ none
  still : ∀ row, person (rule.drop row) = person row ∧ rule.group (rule.drop row) = rule.group row

namespace Inherits
variable {K R G : Type} {key : R → K} [DecidableEq K] [DecidableEq G] {rule : Consolidation key G} {person : R → String}
  {role : R → MembershipRole} {revokedAt : R → Option Timestamp} {ids : List String} {target : String} {t : Table key} {row : R}

omit [DecidableEq K] [DecidableEq G] in
theorem of_settled (touched : ∀ row, rule.touched row = true ↔ person row ∈ ids ∧ revokedAt row = none)
    (settled : ∀ rows row, rule.group (rule.settle rows row) = rule.group row ∧ person (rule.settle rows row) = target ∧
      revokedAt (rule.settle rows row) = revokedAt row ∧ role (rule.settle rows row) = keptRole (rows.map role))
    (dropped : ∀ row, revokedAt (rule.drop row) ≠ none)
    (still : ∀ row, person (rule.drop row) = person row ∧ rule.group (rule.drop row) = rule.group row) :
    Inherits rule person role revokedAt ids target :=
  ⟨touched, fun rows row => (settled rows row).1, fun rows row => (settled rows row).2.1,
    fun rows row => (settled rows row).2.2.1, fun rows row => (settled rows row).2.2.2, dropped, still⟩

section
variable (inherits : Inherits rule person role revokedAt ids target)
include inherits

theorem inherited (member : row ∈ t) (among : person row ∈ ids)
    (unrevoked : revokedAt row = none) : ∃ heir ∈ rule.consolidate t, rule.group heir = rule.group row ∧ person heir = target ∧
      revokedAt heir = none ∧ (role row = .owner → role heir = .owner) := by
  have touches := (inherits.touched row).mpr ⟨among, unrevoked⟩
  obtain ⟨kept, present, touches', grouped, survives⟩ := exists_kept member touches
  refine ⟨_, mem_consolidate.mpr (.inr (.inl ⟨kept, present, touches', survives, rfl⟩)), ?_, ?_, ?_, ?_⟩
  · rw [inherits.grouped, grouped]
  · exact inherits.named _ _
  · rw [inherits.active]
    exact ((inherits.touched kept).mp touches').2
  · intro owner
    rw [inherits.kept, keptRole_owner, grouped]
    exact ⟨row, mem_rowsOf.mpr ⟨member, touches, rfl⟩, owner⟩

theorem heir (member : row ∈ rule.consolidate t)
    (among : person row ∈ ids) (unrevoked : revokedAt row = none) : person row = target ∧
      (∃ old ∈ t, person old ∈ ids ∧ revokedAt old = none ∧ rule.group old = rule.group row) ∧
      (role row = .owner ↔ ∃ old ∈ t, person old ∈ ids ∧ revokedAt old = none ∧ rule.group old = rule.group row ∧
        role old = .owner) := by
  rcases mem_consolidate.mp member with ⟨_, untouched⟩ | ⟨old, present, touches, _, rfl⟩ | ⟨old, _, _, _, rfl⟩
  · rw [(inherits.touched row).mpr ⟨among, unrevoked⟩] at untouched
    cases untouched
  · rw [inherits.named, inherits.grouped, inherits.kept, keptRole_owner]
    obtain ⟨person_mem, active⟩ := (inherits.touched old).mp touches
    refine ⟨rfl, ⟨old, present, person_mem, active, rfl⟩, ?_⟩
    constructor
    · rintro ⟨owner, inside, owns⟩
      obtain ⟨there, touches', grouped⟩ := mem_rowsOf.mp inside
      obtain ⟨among', active'⟩ := (inherits.touched owner).mp touches'
      exact ⟨owner, there, among', active', grouped, owns⟩
    · rintro ⟨owner, there, among', active', grouped, owns⟩
      exact ⟨owner, mem_rowsOf.mpr ⟨there, (inherits.touched owner).mpr ⟨among', active'⟩, grouped⟩, owns⟩
  · exact absurd unrevoked (inherits.dropped old)

theorem outside (within : target ∈ ids) (apart : person row ∉ ids) : row ∈ rule.consolidate t ↔ row ∈ t := by
  rw [mem_consolidate]
  constructor
  · rintro (⟨member, _⟩ | ⟨old, _, _, _, rfl⟩ | ⟨old, _, touches, _, rfl⟩)
    · exact member
    · rw [inherits.named] at apart
      exact absurd within apart
    · rw [(inherits.still old).1] at apart
      exact absurd ((inherits.touched old).mp touches).1 apart
  · intro member
    refine .inl ⟨member, Bool.eq_false_iff.mpr fun touches => apart ((inherits.touched row).mp touches).1⟩

theorem origin (member : row ∈ rule.consolidate t) :
    ∃ old ∈ t, rule.group old = rule.group row ∧ (person old = person row ∨ person old ∈ ids ∧ person row = target) := by
  rcases mem_consolidate.mp member with ⟨there, _⟩ | ⟨old, there, touches, _, rfl⟩ | ⟨old, there, _, _, rfl⟩
  · exact ⟨row, there, rfl, .inl rfl⟩
  · exact ⟨old, there, (inherits.grouped _ old).symm, .inr ⟨((inherits.touched old).mp touches).1, inherits.named _ old⟩⟩
  · exact ⟨old, there, (inherits.still old).2.symm, .inl (inherits.still old).1.symm⟩
end
end Inherits

section Rules
variable {ids : List String} {target : String} {now : Timestamp}

theorem membershipConsolidation_inherits : Inherits (membershipConsolidation ids target now) WorkspaceMembership.humanPrincipalId
    WorkspaceMembership.role WorkspaceMembership.revokedAt ids target := by
  refine .of_settled (fun _ => decide_eq_true_iff) (fun _ _ => ?_) (fun _ => by simp [membershipConsolidation]) fun _ => ⟨rfl, rfl⟩
  simp only [membershipConsolidation]
  split
  · rename_i same
    exact ⟨rfl, same.1, rfl, same.2⟩
  · exact ⟨rfl, rfl, rfl, rfl⟩

theorem projectMembershipConsolidation_inherits : Inherits (projectMembershipConsolidation ids target now) ProjectMembership.humanPrincipalId
    ProjectMembership.role ProjectMembership.revokedAt ids target := by
  refine .of_settled (fun _ => decide_eq_true_iff) (fun _ _ => ?_) (fun _ => by simp [projectMembershipConsolidation]) fun _ => ⟨rfl, rfl⟩
  simp only [projectMembershipConsolidation]
  split
  · rename_i same
    exact ⟨rfl, same.1, rfl, same.2⟩
  · exact ⟨rfl, rfl, rfl, rfl⟩

end Rules

def WorkspacePrincipal.Like (row other : WorkspacePrincipal) : Prop :=
  row.key = other.key ∧ row.displayName = other.displayName ∧ row.createdAt = other.createdAt

namespace WorkspacePrincipal.Like
variable {row other third : WorkspacePrincipal}

theorem refl : Like row row := ⟨rfl, rfl, rfl⟩

theorem trans (first : Like row other) (second : Like other third) : Like row third :=
  ⟨first.1.trans second.1, first.2.1.trans second.2.1, first.2.2.trans second.2.2⟩

theorem workspaceId (like : Like row other) : row.workspaceId = other.workspaceId := congrArg Prod.fst like.1

theorem humanPrincipalId (like : Like row other) : row.humanPrincipalId = other.humanPrincipalId := congrArg Prod.snd like.1

end WorkspacePrincipal.Like

namespace ServerDatabase
open WorkspacePrincipal (Like)
variable (ids : List String) (target : String) (now : Timestamp) {t : Table WorkspacePrincipal.key} {workspaceId : String}
  {row : WorkspacePrincipal}

section Ensure

theorem mem_ensureCanonicalPrincipal_iff : row ∈ ensureCanonicalPrincipal ids target now t workspaceId ↔
    (row ∈ t ∧ row.key ≠ (workspaceId, target)) ∨
      (∃ old ∈ t, old.key = (workspaceId, target) ∧ row = { old with revokedAt := none }) ∨
      t.find (workspaceId, target) = none ∧ ∃ donor, t.rows.find? (fun row => row.workspaceId = workspaceId ∧ row.humanPrincipalId ∈ ids) =
        some donor ∧ row = ⟨workspaceId, target, donor.displayName, now, none⟩ := by
  unfold ensureCanonicalPrincipal
  cases found : t.find (workspaceId, target) with
  | some present =>
    obtain ⟨member, keyed⟩ := find_eq_some.mp found
    have only : ∀ old ∈ t, old.key = (workspaceId, target) → old = present := fun old there same =>
      eq_of_key there member (same.trans keyed.symm)
    have put : row ∈ t.put { present with revokedAt := none } ↔
        (row ∈ t ∧ row.key ≠ (workspaceId, target)) ∨ row = { present with revokedAt := none } := by
      rw [mem_put]
      have same : ({ present with revokedAt := none } : WorkspacePrincipal).key = (workspaceId, target) := keyed
      rw [same]
    have whole : (row ∈ t ∧ row.key ≠ (workspaceId, target)) ∨ row = { present with revokedAt := none } ↔
        (row ∈ t ∧ row.key ≠ (workspaceId, target)) ∨
          (∃ old ∈ t, old.key = (workspaceId, target) ∧ row = { old with revokedAt := none }) ∨
          some present = none ∧ ∃ donor, t.rows.find? (fun row => row.workspaceId = workspaceId ∧ row.humanPrincipalId ∈ ids) =
            some donor ∧ row = ⟨workspaceId, target, donor.displayName, now, none⟩ := by
      constructor
      · rintro (other | made)
        · exact .inl other
        · exact .inr (.inl ⟨present, member, keyed, made⟩)
      · rintro (other | ⟨old, there, same, made⟩ | ⟨absurd_, _⟩)
        · exact .inl other
        · exact .inr (only old there same ▸ made)
        · cases absurd_
    rw [← whole]
    dsimp only
    split
    · exact put
    rename_i unrevoked
    have clean : present.revokedAt = none := not_not.mp unrevoked
    have same : ({ present with revokedAt := none } : WorkspacePrincipal) = present := by
      cases present
      simp only at clean
      rw [clean]
    rw [← put, same, put_self member]
  | none =>
    have missing := find_eq_none.mp found
    have others : row ∈ t ∧ row.key ≠ (workspaceId, target) ↔ row ∈ t := ⟨And.left, fun member => ⟨member, missing row member⟩⟩
    have noOld : ¬ ∃ old ∈ t, old.key = (workspaceId, target) ∧ row = { old with revokedAt := none } := by
      rintro ⟨old, there, same, _⟩
      exact missing old there same
    simp only [others, noOld, false_or, true_and]
    cases t.rows.find? (fun row => row.workspaceId = workspaceId ∧ row.humanPrincipalId ∈ ids) with
    | none => simp
    | some donor =>
      simp only [Option.some.injEq, exists_eq_left']
      rw [mem_put]
      have keyed : (⟨workspaceId, target, donor.displayName, now, none⟩ : WorkspacePrincipal).key = (workspaceId, target) := rfl
      rw [keyed, others]

theorem ensureCanonicalPrincipal_kept (workspaceId : String) (member : row ∈ t) : ∃ after ∈ ensureCanonicalPrincipal ids target now t workspaceId,
    Like after row ∧ (row.revokedAt = none → after.revokedAt = none) := by
  by_cases same : row.key = (workspaceId, target)
  · exact ⟨{ row with revokedAt := none }, (mem_ensureCanonicalPrincipal_iff ids target now).mpr (.inr (.inl ⟨row, member, same, rfl⟩)),
      ⟨rfl, rfl, rfl⟩, fun _ => rfl⟩
  · exact ⟨row, (mem_ensureCanonicalPrincipal_iff ids target now).mpr (.inl ⟨member, same⟩), .refl, id⟩

theorem ensureCanonicalPrincipal_there (member : row ∈ t) (placed : row.workspaceId = workspaceId)
    (among : row.humanPrincipalId ∈ ids) : ∃ after ∈ ensureCanonicalPrincipal ids target now t workspaceId,
    after.key = (workspaceId, target) ∧ after.revokedAt = none := by
  cases found : t.find (workspaceId, target) with
  | some old =>
    obtain ⟨there, keyed⟩ := find_eq_some.mp found
    exact ⟨{ old with revokedAt := none }, (mem_ensureCanonicalPrincipal_iff ids target now).mpr (.inr (.inl ⟨old, there, keyed, rfl⟩)), keyed, rfl⟩
  | none =>
    cases first : t.rows.find? (fun row => row.workspaceId = workspaceId ∧ row.humanPrincipalId ∈ ids) with
    | none => exact absurd (decide_eq_true ⟨placed, among⟩) (find?_eq_none.mp first row member)
    | some donor =>
      exact ⟨_, (mem_ensureCanonicalPrincipal_iff ids target now).mpr (.inr (.inr ⟨found, donor, first, rfl⟩)), rfl, rfl⟩

theorem ensureCanonicalPrincipals_kept (workspaces : List String) (member : row ∈ t) :
    ∃ after ∈ workspaces.foldl (ensureCanonicalPrincipal ids target now) t,
      Like after row ∧ (row.revokedAt = none → after.revokedAt = none) := by
  induction workspaces generalizing t row with
  | nil => exact ⟨row, member, .refl, id⟩
  | cons workspaceId _ ih =>
    obtain ⟨next, there, like, clean⟩ : ∃ next ∈ ensureCanonicalPrincipal ids target now t workspaceId,
        Like next row ∧ (row.revokedAt = none → next.revokedAt = none) :=
      ensureCanonicalPrincipal_kept ids target now workspaceId member
    obtain ⟨after, there', like', clean'⟩ := ih there
    exact ⟨after, there', like'.trans like, fun unrevoked => clean' (clean unrevoked)⟩

theorem ensureCanonicalPrincipals_there {workspaces : List String} (listed : workspaceId ∈ workspaces) (member : row ∈ t)
    (placed : row.workspaceId = workspaceId) (among : row.humanPrincipalId ∈ ids) :
    ∃ after ∈ workspaces.foldl (ensureCanonicalPrincipal ids target now) t,
      after.key = (workspaceId, target) ∧ after.revokedAt = none := by
  induction workspaces generalizing t row with
  | nil => cases listed
  | cons first rest ih =>
    rw [foldl_cons]
    rcases mem_cons.mp listed with same | later
    · subst same
      obtain ⟨_, there, keyed, clean⟩ := ensureCanonicalPrincipal_there ids target now member placed among
      obtain ⟨after, there', like, clean'⟩ := ensureCanonicalPrincipals_kept ids target now rest there
      exact ⟨after, there', like.1.trans keyed, clean' clean⟩
    · obtain ⟨_, there, like, _⟩ :=
        ensureCanonicalPrincipal_kept ids target now first member
      exact ih later there (like.workspaceId.trans placed) (like.humanPrincipalId ▸ among)

end Ensure
end ServerDatabase

namespace Merged
open WorkspacePrincipal (Like)
variable {db db' : ServerDatabase} {source target : String} {ids : List String} {now : Timestamp} {row : WorkspacePrincipal}

theorem mem_workspacesOf (member : row ∈ db.principals) (among : row.humanPrincipalId ∈ ids) :
    row.workspaceId ∈ db.workspacesOf ids := by
  unfold ServerDatabase.workspacesOf
  rw [mem_dedup]
  exact mem_map_of_mem (mem_filter.mpr ⟨member, decide_eq_true among⟩)

section
variable (merged : Merged db db' source target ids now)
include merged

theorem mem_principals {after : WorkspacePrincipal} : after ∈ db'.principals ↔
    ∃ ensured ∈ (db.workspacesOf ids).foldl (ServerDatabase.ensureCanonicalPrincipal ids target now) db.principals,
      (if ensured.humanPrincipalId ∈ ids.filter (· ≠ target) ∧ ensured.revokedAt = none then ensured.revoked now else ensured) =
        after := by
  rw [merged.principalRows, ServerDatabase.revokeAliasPrincipals, mem_update]
  exact Iff.rfl

theorem principal_kept (member : row ∈ db.principals) : ∃ after ∈ db'.principals, Like after row := by
  obtain ⟨ensured, there, like, _⟩ :=
    ServerDatabase.ensureCanonicalPrincipals_kept ids target now (db.workspacesOf ids) member
  by_cases revokes : ensured.humanPrincipalId ∈ ids.filter (· ≠ target) ∧ ensured.revokedAt = none
  · exact ⟨ensured.revoked now, merged.mem_principals.mpr ⟨ensured, there, if_pos revokes⟩, like⟩
  · exact ⟨ensured, merged.mem_principals.mpr ⟨ensured, there, if_neg revokes⟩, like⟩

theorem principal_target (member : row ∈ db.principals) (among : row.humanPrincipalId ∈ ids) :
    ∃ after ∈ db'.principals, after.key = (row.workspaceId, target) ∧ after.revokedAt = none := by
  obtain ⟨ensured, there, keyed, clean⟩ := ServerDatabase.ensureCanonicalPrincipals_there ids target now
    (mem_workspacesOf member among) member rfl among
  refine ⟨ensured, merged.mem_principals.mpr ⟨ensured, there, if_neg ?_⟩, keyed, clean⟩
  rintro ⟨other, _⟩
  have person : ensured.humanPrincipalId = target := congrArg Prod.snd keyed
  rw [person, mem_filter] at other
  exact of_decide_eq_true other.2 rfl
end
end Merged
end PlanWeave.Access
