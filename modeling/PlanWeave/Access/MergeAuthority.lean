import PlanWeave.Access.MergeSteps
import PlanWeave.Access.MutationRuns

namespace PlanWeave.Access
open Checked Consolidation List MembershipGrant Option ServerDatabase Table
variable {rows : List MembershipGrant}

section Best

def MembershipGrant.preference (row : MembershipGrant) : ℕ ×ₗ ℕ := toLex (grantRank row.role, row.aclRevision)

theorem grantBetter_iff {left right : MembershipGrant} : grantBetter left right = true ↔ right.preference < left.preference := by
  rw [preference, preference, Prod.Lex.toLex_lt_toLex]
  unfold grantBetter
  split
  · rename_i different
    simp only [decide_eq_true_eq]
    omega
  · rename_i same
    simp only [decide_eq_true_eq]
    omega

theorem foldl_best_le {rest : List MembershipGrant} {first : MembershipGrant} :
    ∀ row ∈ first :: rest,
      row.preference ≤ (rest.foldl (fun best row => if grantBetter row best then row else best) first).preference := by
  induction rest generalizing first with
  | nil =>
    intro row member
    rw [mem_singleton.mp member]
    exact le_refl _
  | cons second _ ih =>
    intro row member
    rw [foldl_cons]
    by_cases better : grantBetter second first = true
    · rw [if_pos better]
      rcases mem_cons.mp member with rfl | member
      · exact le_trans (le_of_lt (grantBetter_iff.mp better)) (ih second (mem_cons_self ..))
      · exact ih row member
    · rw [if_neg better]
      rcases mem_cons.mp member with rfl | member
      · exact ih row (mem_cons_self ..)
      · rcases mem_cons.mp member with rfl | member
        · exact le_trans (not_lt.mp (mt grantBetter_iff.mpr better)) (ih first (mem_cons_self ..))
        · exact ih row (mem_cons_of_mem _ member)

variable {kept row survivor : MembershipGrant} {target : String}

theorem bestGrant_le (best : bestGrant rows = some kept)
    (member : row ∈ rows) : row.preference ≤ kept.preference := by
  cases rows with
  | nil => cases best
  | cons =>
    cases best
    exact foldl_best_le row member

theorem bestGrant_rank (best : bestGrant rows = some kept)
    (member : row ∈ rows) : grantRank row.role ≤ grantRank kept.role := by
  have below := bestGrant_le best member
  rw [preference, preference, Prod.Lex.toLex_le_toLex] at below
  omega

theorem bestGrant_of_mem (member : row ∈ rows) : ∃ kept, bestGrant rows = some kept := by
  cases rows with
  | nil => cases member
  | cons => exact ⟨_, rfl⟩

theorem grantSurvivor_cases
    (survives : grantSurvivor target rows = some survivor) :
    survivor.humanPrincipalId = target ∨ (survivor.humanPrincipalId ≠ target ∧ bestGrant rows = some survivor) := by
  rcases or_eq_some_iff.mp survives with found | ⟨_, best⟩
  · exact .inl (by simpa using find?_some found)
  · by_cases same : survivor.humanPrincipalId = target
    · exact .inl same
    · exact .inr ⟨same, best⟩

theorem settleGrant_spec
    (unrevoked : ∀ row ∈ rows, row.revokedAt = none) (survives : grantSurvivor target rows = some survivor) :
    (settleGrant target rows survivor).revokedAt = none ∧
    (∃ row ∈ rows, row.role = (settleGrant target rows survivor).role) ∧
    (∀ row ∈ rows, grantRank row.role ≤ grantRank (settleGrant target rows survivor).role) ∧
    ((settleGrant target rows survivor).aclRevision = survivor.aclRevision ∨ ∃ kept ∈ rows, kept ≠ survivor ∧
        (settleGrant target rows survivor).aclRevision = max kept.aclRevision survivor.aclRevision) := by
  have member := grantSurvivor_mem target rows survivor survives
  obtain ⟨kept, best⟩ := bestGrant_of_mem member
  have keptMember := bestGrant_mem best
  unfold settleGrant
  rcases grantSurvivor_cases survives with same | ⟨other, best'⟩
  · rw [if_neg (not_not.mpr same), best]
    simp only
    by_cases better : grantBetter kept survivor = true
    · have different : kept ≠ survivor := by
        rintro rfl
        exact lt_irrefl _ (grantBetter_iff.mp better)
      have above : ∀ row ∈ rows, grantRank row.role ≤ grantRank kept.role := fun row inside => bestGrant_rank best inside
      rw [if_pos better]
      exact ⟨rfl, ⟨kept, keptMember, rfl⟩, above, .inr ⟨kept, keptMember, different, rfl⟩⟩
    · rw [if_neg better]
      refine ⟨unrevoked _ member, ⟨survivor, member, rfl⟩, fun row inside => ?_, .inl rfl⟩
      have below := le_trans (bestGrant_le best inside) (not_lt.mp (mt grantBetter_iff.mpr better))
      rw [preference, preference, Prod.Lex.toLex_le_toLex] at below
      omega
  · have active := unrevoked survivor member
    have above : ∀ row ∈ rows, grantRank row.role ≤ grantRank survivor.role := fun row inside => bestGrant_rank best' inside
    rw [if_pos other]
    exact ⟨active, ⟨survivor, member, rfl⟩, above, .inl rfl⟩

end Best

def LatestFirst.preferring (p : MembershipGrant → Bool) : LatestFirst where
  first rows := (rows.find? fun row => p row ∧ ∀ other ∈ rows, other.aclRevision ≤ row.aclRevision).or
    (rows.argmax aclRevision)
  first_none rows none := List.argmax_eq_none.mp (Option.or_eq_none_iff.mp none).2
  first_mem rows row found := by
    rcases Option.or_eq_some_iff.mp found with found | ⟨_, found⟩
    · exact List.mem_of_find?_eq_some found
    · exact List.argmax_mem found
  first_highest rows row found other member := by
    rcases Option.or_eq_some_iff.mp found with found | ⟨_, found⟩
    · have chosen := List.find?_some found
      rw [decide_eq_true_eq] at chosen
      exact chosen.2 other member
    · exact List.le_of_mem_argmax member found

theorem LatestFirst.preferring_first {p : MembershipGrant → Bool} {row : MembershipGrant}
    (member : row ∈ rows) (kind : p row = true) (newest : ∀ other ∈ rows, other.aclRevision ≤ row.aclRevision) :
    ∃ first, (LatestFirst.preferring p).first rows = some first ∧ p first = true := by
  have found : (rows.find? fun row => p row ∧ ∀ other ∈ rows, other.aclRevision ≤ row.aclRevision).isSome := by
    rw [find?_isSome]
    exact ⟨row, member, decide_eq_true ⟨kind, newest⟩⟩
  obtain ⟨first, found⟩ := isSome_iff_exists.mp found
  have chosen := find?_some found
  rw [decide_eq_true_eq] at chosen
  refine ⟨first, ?_, chosen.1⟩
  simp only [preferring, found, some_or]

namespace ServerDatabase

def activeGrants (db : ServerDatabase) (scope : AccessScope) (ids : List String) : List MembershipGrant :=
  db.grants.rows.filter fun row => row.scope = scope ∧ row.humanPrincipalId ∈ ids ∧ row.revokedAt = none

def OwnedLive (db : ServerDatabase) (scope : AccessScope) : Prop :=
  ∃ project canvas, db.scopeProject scope = .ok project ∧ db.scopeCanvas scope = .ok canvas ∧
    project.ownerHumanPrincipalId ≠ none ∧ ∀ row ∈ canvas, row.ownerHumanPrincipalId ≠ none

structure MergeKeeps (db : ServerDatabase) (ids : List String) (target : String) : Prop where
  survivors : ∀ scope survivor, grantSurvivor target (db.activeGrants scope ids) = some survivor →
    ∀ row ∈ db.grants, row.scope = scope → row.humanPrincipalId ∈ ids → row ≠ survivor →
      row.aclRevision < survivor.aclRevision
  revoked : ∀ scope, db.OwnedLive scope → db.activeGrants scope ids = [] →
    ∀ row ∈ db.grants, row.scope = scope → row.humanPrincipalId ∈ ids →
      (∀ other ∈ db.grants, other.scope = scope → other.humanPrincipalId ∈ ids → other.aclRevision ≤ row.aclRevision) →
      row.humanPrincipalId = target

/-- What a merge is to leave the canonical id with, under an engine. -/
structure AuthorityKept (engine : LatestFirst) (db db' : ServerDatabase) (ids : List String) (target : String) : Prop where
  grants : ∀ scope, ∃ newest, db'.latestGrant engine scope target = .ok newest ∧
    ((∃ grant ∈ newest, grant.revokedAt = none) ↔ db.activeGrants scope ids ≠ []) ∧
    ∀ grant ∈ newest, grant.revokedAt = none →
      (∃ row ∈ db.activeGrants scope ids, row.role = grant.role) ∧
        ∀ row ∈ db.activeGrants scope ids, grantRank row.role ≤ grantRank grant.role
  evaluates : ∀ scope session, db'.OwnedLive scope →
    ∃ view, db'.evaluate engine scope ⟨.human, target⟩ session = .ok view

end ServerDatabase

namespace Merged
variable {engine : LatestFirst} {db db' : ServerDatabase} {source target workspaceId : String} {ids : List String}
  {now : Timestamp} {scope : AccessScope} {row survivor : MembershipGrant}

section Memberships

def activeMemberships (db : ServerDatabase) (workspaceId : String) (ids : List String) : List WorkspaceMembership :=
  db.memberships.rows.filter fun row => row.workspaceId = workspaceId ∧ row.humanPrincipalId ∈ ids ∧ row.revokedAt = none

theorem mem_activeMemberships {row : WorkspaceMembership} : row ∈ activeMemberships db workspaceId ids ↔
    row ∈ db.memberships ∧ row.workspaceId = workspaceId ∧ row.humanPrincipalId ∈ ids ∧ row.revokedAt = none := by
  rw [activeMemberships, mem_filter, decide_eq_true_eq]
  exact Iff.rfl

theorem membership_rowsOf_eq : (membershipConsolidation ids target now).rowsOf db.memberships workspaceId =
    activeMemberships db workspaceId ids := by
  unfold Consolidation.rowsOf activeMemberships
  congr 1
  funext row
  simp only [membershipConsolidation, decide_eq_true_eq]
  congr 1
  rw [eq_iff_iff]
  tauto

theorem membership_settled (ids : List String) (target : String) (now : Timestamp) (rows : List WorkspaceMembership)
    {kept : WorkspaceMembership} (unrevoked : kept.revokedAt = none) :
    let settled := (membershipConsolidation ids target now).settle rows kept
    settled.workspaceId = kept.workspaceId ∧ settled.humanPrincipalId = target ∧ settled.revokedAt = none ∧
      settled.role = keptRole (rows.map WorkspaceMembership.role) := by
  simp only [membershipConsolidation]
  split
  · rename_i same
    exact ⟨rfl, same.1, unrevoked, same.2⟩
  · exact ⟨rfl, rfl, unrevoked, rfl⟩

/-- Where a merged id had an active membership the canonical id has one, of an owner if one of them was an owner. -/
theorem memberships_kept (merged : Merged db db' source target ids now) (held : activeMemberships db workspaceId ids ≠ []) :
    ∃ row, (∀ other, other ∈ activeMemberships db' workspaceId [target] ↔ other = row) ∧
      (row.role = .owner ↔ ∃ old ∈ activeMemberships db workspaceId ids, old.role = .owner) := by
  let rule := membershipConsolidation ids target now
  obtain ⟨old, active⟩ := exists_mem_of_ne_nil _ held
  obtain ⟨member, placed, touches⟩ := mem_activeMemberships.mp active
  obtain ⟨kept, member', touches', grouped, survives⟩ : ∃ kept ∈ db.memberships, rule.touched kept = true ∧
      rule.group kept = rule.group old ∧ rule.Kept db.memberships kept :=
    exists_kept member (decide_eq_true touches)
  have grouped : kept.workspaceId = workspaceId := Eq.trans grouped placed
  have rows : rule.rowsOf db.memberships (rule.group kept) = activeMemberships db workspaceId ids := by
    rw [← grouped]
    exact membership_rowsOf_eq
  obtain ⟨within, person, unrevoked, role⟩ := membership_settled ids target now
    (rule.rowsOf db.memberships (rule.group kept)) (of_decide_eq_true touches').2
  refine ⟨rule.settle (rule.rowsOf db.memberships (rule.group kept)) kept, fun other => ?_, ?_⟩
  · rw [mem_activeMemberships, merged.memberships, mem_consolidate, mem_singleton]
    constructor
    · rintro ⟨⟨_, untouched⟩ | ⟨other, _, touched, survives', rfl⟩ | ⟨other, _, _, _, rfl⟩, inside, same, still⟩
      · exact absurd ⟨same ▸ merged.target_mem, still⟩ (of_decide_eq_false untouched)
      · have within' := (membership_settled ids target now (rule.rowsOf db.memberships (rule.group other))
          (of_decide_eq_true touched).2).1
        have one := Consolidation.Kept.unique survives survives' (within'.symm.trans (inside.trans grouped.symm))
        rw [one]
      · cases still
    · rintro rfl
      exact ⟨.inr (.inl ⟨kept, member', touches', survives, rfl⟩), within.trans grouped, person, unrevoked⟩
  · rw [role, keptRole_owner, rows]

end Memberships

section Grants

theorem mem_activeGrants : row ∈ db.activeGrants scope ids ↔
    row ∈ db.grants ∧ row.scope = scope ∧ row.humanPrincipalId ∈ ids ∧ row.revokedAt = none := by
  rw [ServerDatabase.activeGrants, mem_filter, decide_eq_true_eq]
  exact Iff.rfl

theorem rowsOf_eq : (grantConsolidation ids target now).rowsOf db.grants scope = db.activeGrants scope ids := by
  unfold Consolidation.rowsOf ServerDatabase.activeGrants
  congr 1
  funext row
  simp only [grantConsolidation, decide_eq_true_eq]
  congr 1
  rw [eq_iff_iff]
  tauto

theorem mem_grants (merged : Merged db db' source target ids now) :
    row ∈ db'.grants ∧ row.scope = scope ∧ row.humanPrincipalId ∈ ids ↔
      (row ∈ db.grants ∧ row.scope = scope ∧ row.humanPrincipalId ∈ ids ∧ row.revokedAt ≠ none) ∨
      (∃ survivor, grantSurvivor target (db.activeGrants scope ids) = some survivor ∧
        row = settleGrant target (db.activeGrants scope ids) survivor) ∨
      ∃ old ∈ db.activeGrants scope ids, grantSurvivor target (db.activeGrants scope ids) ≠ some old ∧
        row = { old with revokedAt := some now } := by
  have kept : ∀ old : MembershipGrant, (grantConsolidation ids target now).Kept db.grants old ↔
      grantSurvivor target (db.activeGrants old.scope ids) = some old := by
    intro old
    unfold Consolidation.Kept
    rw [rowsOf_eq]
    exact Iff.rfl
  have settled : ∀ old : MembershipGrant, (grantConsolidation ids target now).settle
      ((grantConsolidation ids target now).rowsOf db.grants ((grantConsolidation ids target now).group old)) old =
        settleGrant target (db.activeGrants old.scope ids) old := by
    intro old
    rw [rowsOf_eq]
    rfl
  rw [merged.grants, mem_consolidate]
  constructor
  · rintro ⟨⟨member, untouched⟩ | ⟨old, member, touches, survives, rfl⟩ | ⟨old, member, touches, lost, rfl⟩, placed, person⟩
    · refine .inl ⟨member, placed, person, fun unrevoked => ?_⟩
      exact of_decide_eq_false untouched ⟨person, unrevoked⟩
    · rw [settled] at placed ⊢
      rw [settleGrant_scope] at placed
      rw [kept] at survives
      rw [placed] at survives ⊢
      exact .inr (.inl ⟨old, survives, rfl⟩)
    · have touches := of_decide_eq_true touches
      rw [kept] at lost
      change old.scope = scope at placed
      rw [placed] at lost
      exact .inr (.inr ⟨old, mem_activeGrants.mpr ⟨member, placed, touches⟩, lost, rfl⟩)
  · rintro (⟨member, placed, person, revoked⟩ | ⟨survivor, survives, rfl⟩ | ⟨old, active, lost, rfl⟩)
    · exact ⟨.inl ⟨member, decide_eq_false fun touches => revoked touches.2⟩, placed, person⟩
    · obtain ⟨member, placed, touches⟩ := mem_activeGrants.mp (grantSurvivor_mem _ _ _ survives)
      refine ⟨.inr (.inl ⟨survivor, member, decide_eq_true touches, ?_, ?_⟩), ?_, ?_⟩
      · rw [kept, placed]
        exact survives
      · rw [settled, placed]
      · rw [settleGrant_scope, placed]
      · rw [settleGrant_person]
        exact merged.target_mem
    · obtain ⟨member, placed, touches⟩ := mem_activeGrants.mp active
      refine ⟨.inr (.inr ⟨old, member, decide_eq_true touches, ?_, rfl⟩), placed, touches.1⟩
      rw [kept, placed]
      exact lost

theorem activeGrants_unrevoked : ∀ row ∈ db.activeGrants scope ids, row.revokedAt = none := by
  intro row active
  exact (mem_activeGrants.mp active).2.2.2

section
variable (newest : db'.newestGrant engine scope ids = some row)
include newest

theorem newest_mem : row ∈ db'.grants ∧ row.scope = scope ∧ row.humanPrincipalId ∈ ids :=
  newestGrant_scope newest

theorem newest_highest {other : MembershipGrant}
    (member : other ∈ db'.grants ∧ other.scope = scope ∧ other.humanPrincipalId ∈ ids) :
    other.aclRevision ≤ row.aclRevision := by
  apply engine.first_highest _ _ newest
  rw [mem_filter, decide_eq_true_eq]
  exact ⟨member.1, member.2⟩
end

theorem exists_newest (engine : LatestFirst) (member : row ∈ db'.grants ∧ row.scope = scope ∧ row.humanPrincipalId ∈ ids) :
    ∃ newest, db'.newestGrant engine scope ids = some newest := by
  cases found : db'.newestGrant engine scope ids with
  | some newest => exact ⟨newest, rfl⟩
  | none =>
    have empty := engine.first_none _ found
    rw [filter_eq_nil_iff] at empty
    exact absurd (decide_eq_true member.2) (empty row member.1)

section
variable (merged : Merged db db' source target ids now)
include merged

theorem newest_of_survivor (survives : grantSurvivor target (db.activeGrants scope ids) = some survivor)
    (newer : ∀ row ∈ db.grants, row.scope = scope → row.humanPrincipalId ∈ ids → row ≠ survivor →
      row.aclRevision < survivor.aclRevision) :
    db'.newestGrant engine scope ids = some (settleGrant target (db.activeGrants scope ids) survivor) := by
  let settled := settleGrant target (db.activeGrants scope ids) survivor
  have present := merged.mem_grants.mpr (.inr (.inl ⟨survivor, survives, rfl⟩))
  obtain ⟨newest, found⟩ := exists_newest engine present
  have above : settled.aclRevision ≤ newest.aclRevision := newest_highest found present
  have raised : survivor.aclRevision ≤ settled.aclRevision := by
    rcases (settleGrant_spec activeGrants_unrevoked survives).2.2.2 with same | ⟨_, _, _, raised⟩
    · exact same.ge
    · exact raised ▸ le_max_right _ _
  rw [found]
  have active := (mem_activeGrants.mp (grantSurvivor_mem _ _ _ survives)).2.2.2
  rcases merged.mem_grants.mp (newest_mem found) with
    ⟨member, placed, person, revoked⟩ | ⟨survivor', survives', rfl⟩ | ⟨old, active', lost, rfl⟩
  · have below := newer newest member placed person fun same => revoked (same ▸ active)
    omega
  · rw [survives] at survives'
    cases survives'
    rfl
  · obtain ⟨member, placed, person, _⟩ := mem_activeGrants.mp active'
    have below := newer old member placed person fun same => lost (same ▸ survives)
    change settled.aclRevision ≤ old.aclRevision at above
    omega

theorem mem_grants_of_none (none : db.activeGrants scope ids = []) :
    row ∈ db'.grants ∧ row.scope = scope ∧ row.humanPrincipalId ∈ ids ↔
      row ∈ db.grants ∧ row.scope = scope ∧ row.humanPrincipalId ∈ ids := by
  rw [merged.mem_grants, none]
  constructor
  · rintro (⟨member, placed, person, _⟩ | ⟨_, survives, _⟩ | ⟨_, active, _⟩)
    · exact ⟨member, placed, person⟩
    · cases survives
    · cases active
  · rintro ⟨member, placed, person⟩
    refine .inl ⟨member, placed, person, fun unrevoked => ?_⟩
    have active := mem_activeGrants.mpr ⟨member, placed, person, unrevoked⟩
    rw [none] at active
    cases active

theorem ownedLive_iff : db'.OwnedLive scope ↔ db.OwnedLive scope := by
  unfold ServerDatabase.OwnedLive
  rw [merged.scopeProject_eq, merged.scopeCanvas_eq]
  constructor
  · rintro ⟨_, _, projectFound, canvasFound, owned, owned'⟩
    obtain ⟨project, found, rfl⟩ := map_ok.mp projectFound
    obtain ⟨canvas, found', rfl⟩ := map_ok.mp canvasFound
    refine ⟨project, canvas, found, found', project.reowned_owned.mp owned, fun row member => ?_⟩
    exact row.reowned_owned.mp (owned' _ (mem_map_of_mem _ member))
  · rintro ⟨project, canvas, found, found', owned, owned'⟩
    refine ⟨_, _, map_ok.mpr ⟨project, found, rfl⟩, map_ok.mpr ⟨canvas, found', rfl⟩,
      project.reowned_owned.mpr owned, fun row member => ?_⟩
    obtain ⟨old, present, rfl⟩ := mem_map.mp member
    exact old.reowned_owned.mpr (owned' old present)
end

theorem ownedLive_project (live : db.OwnedLive scope) : db.OwnedLive scope.project := by
  obtain ⟨project, _, found, _, owned, _⟩ := live
  have same : db.scopeProject scope.project = db.scopeProject scope := rfl
  exact ⟨project, none, same.trans found, rfl, owned, nofun⟩

section
variable (merged : Merged db db' source target ids now)
include merged

theorem newest_canonical (keeps : db.MergeKeeps ids target)
    (live : db.OwnedLive scope) (newest : db'.newestGrant engine scope ids = some row) : row.humanPrincipalId = target := by
  cases survives : grantSurvivor target (db.activeGrants scope ids) with
  | some survivor =>
    rw [merged.newest_of_survivor survives (keeps.survivors scope survivor survives)] at newest
    cases newest
    exact settleGrant_person
  | none =>
    have none := grantSurvivor_none _ _ survives
    obtain ⟨member, placed, person⟩ := (merged.mem_grants_of_none none).mp (newest_mem newest)
    apply keeps.revoked scope live none row member placed person
    intro other member' placed' person'
    exact newest_highest newest ((merged.mem_grants_of_none none).mpr ⟨member', placed', person'⟩)

theorem authorityKept (keeps : db.MergeKeeps ids target) (engine : LatestFirst) :
    db.AuthorityKept engine db' ids target where
  grants scope := by
    refine ⟨_, latestGrant_eq merged.resolved, ?_⟩
    cases survives : grantSurvivor target (db.activeGrants scope ids) with
    | some survivor =>
      obtain ⟨unrevoked, held, highest, _⟩ := settleGrant_spec activeGrants_unrevoked survives
      rw [merged.newest_of_survivor survives (keeps.survivors scope survivor survives)]
      refine ⟨iff_of_true ⟨_, rfl, unrevoked⟩ (ne_nil_of_mem (grantSurvivor_mem _ _ _ survives)), ?_⟩
      rintro _ ⟨⟩ _
      exact ⟨held, highest⟩
    | none =>
      have none := grantSurvivor_none _ _ survives
      have revoked : ∀ grant ∈ db'.newestGrant engine scope ids, grant.revokedAt ≠ .none := by
        intro grant newest unrevoked
        obtain ⟨member, placed, person⟩ := (merged.mem_grants_of_none none).mp (newest_mem newest)
        have active := mem_activeGrants.mpr ⟨member, placed, person, unrevoked⟩
        rw [none] at active
        cases active
      refine ⟨iff_of_false ?_ (not_not.mpr none), fun grant newest unrevoked => absurd unrevoked (revoked grant newest)⟩
      rintro ⟨grant, newest, unrevoked⟩
      exact revoked grant newest unrevoked
  evaluates scope session live := by
    have before := merged.ownedLive_iff.mp live
    obtain ⟨_, _, projectFound, canvasFound, owned, owned'⟩ := live
    rw [evaluate_eq projectFound canvasFound merged.resolved owned owned',
      evaluateEffectiveAccess_answers, evaluation_schema projectFound canvasFound]
    have placed := (find_eq_some.mp (scopeProject_ok.mp projectFound).1).2
    constructor
    · intro grant newest
      rw [placed] at newest
      exact merged.newest_canonical keeps (ownedLive_project before) newest
    · intro row member grant newest
      rcases scopeCanvas_ok.mp canvasFound with ⟨_, rfl⟩ | ⟨_, _, rfl, found, _⟩
      · cases member
      · cases member
        rw [(find_eq_some.mp found).2] at newest
        exact merged.newest_canonical keeps before newest

theorem below_settled (kept : ∀ engine, db.AuthorityKept engine db' ids target)
    (survives : grantSurvivor target (db.activeGrants scope ids) = some survivor) (member : row ∈ db.grants)
    (placed : row.scope = scope) (person : row.humanPrincipalId ∈ ids) (other : row ≠ survivor) :
    row.aclRevision < (settleGrant target (db.activeGrants scope ids) survivor).aclRevision := by
  -- an engine that prefers revoked rows would otherwise select one
  let settled := settleGrant target (db.activeGrants scope ids) survivor
  by_contra high
  have above : settled.aclRevision ≤ row.aclRevision := not_lt.mp high
  obtain ⟨rival, present, revoked, _⟩ : ∃ rival, (rival ∈ db'.grants ∧ rival.scope = scope ∧ rival.humanPrincipalId ∈ ids) ∧
      rival.revokedAt ≠ none ∧ rival.aclRevision = row.aclRevision := by
    by_cases unrevoked : row.revokedAt = none
    · have active := mem_activeGrants.mpr ⟨member, placed, person, unrevoked⟩
      have lost : grantSurvivor target (db.activeGrants scope ids) ≠ some row := by
        rw [survives, ne_eq, Option.some.injEq]
        exact Ne.symm other
      exact ⟨_, merged.mem_grants.mpr (.inr (.inr ⟨row, active, lost, rfl⟩)), some_ne_none _, rfl⟩
    · exact ⟨row, merged.mem_grants.mpr (.inl ⟨member, placed, person, unrevoked⟩), unrevoked, rfl⟩
  let revokedFirst : MembershipGrant → Bool := fun row => row.revokedAt ≠ none
  have prefers : revokedFirst rival = true := decide_eq_true revoked
  obtain ⟨_, found, shown, _⟩ := (kept (.preferring revokedFirst)).grants scope
  rw [latestGrant_eq merged.resolved, Except.ok.injEq] at found
  subst found
  obtain ⟨_, first, unrevoked⟩ := shown.mpr (ne_nil_of_mem (grantSurvivor_mem _ _ _ survives))
  rcases merged.mem_grants.mp (newest_mem first) with ⟨_, _, _, revoked'⟩ | ⟨_, survives', rfl⟩ | ⟨_, _, _, rfl⟩
  · exact revoked' unrevoked
  · rw [survives] at survives'
    cases survives'
    have highest : ∀ other ∈ db'.grants.rows.filter (fun row => row.scope = scope ∧ row.humanPrincipalId ∈ ids),
        other.aclRevision ≤ rival.aclRevision := by
      intro other inside
      rw [mem_filter, decide_eq_true_eq] at inside
      have below := newest_highest first inside
      omega
    have inside : rival ∈ db'.grants.rows.filter fun row => row.scope = scope ∧ row.humanPrincipalId ∈ ids := by
      rw [mem_filter, decide_eq_true_eq]
      exact present
    obtain ⟨_, found', chosen⟩ := LatestFirst.preferring_first inside prefers highest
    cases first.symm.trans found'
    exact of_decide_eq_true chosen unrevoked
  · cases unrevoked

theorem keeps_of_authorityKept (kept : ∀ engine, db.AuthorityKept engine db' ids target) : db.MergeKeeps ids target where
  survivors scope survivor survives row member placed person other := by
    have below := merged.below_settled kept survives member placed person other
    rcases (settleGrant_spec activeGrants_unrevoked survives).2.2.2 with _ | ⟨_, inside, different, _⟩
    · omega
    · obtain ⟨member', placed', person', _⟩ := mem_activeGrants.mp inside
      have below' := merged.below_settled kept survives member' placed' person' different
      omega
  revoked scope live none row member placed person highest := by
    -- an engine that prefers the rows of other ids would otherwise select one, and the evaluation would refuse it
    by_contra other
    let othersFirst : MembershipGrant → Bool := fun row => row.humanPrincipalId ≠ target
    have prefers : othersFirst row = true := decide_eq_true other
    have inside : row ∈ db'.grants.rows.filter fun row => row.scope = scope ∧ row.humanPrincipalId ∈ ids := by
      rw [mem_filter, decide_eq_true_eq]
      exact (merged.mem_grants_of_none none).mpr ⟨member, placed, person⟩
    have newer : ∀ other ∈ db'.grants.rows.filter (fun row => row.scope = scope ∧ row.humanPrincipalId ∈ ids),
        other.aclRevision ≤ row.aclRevision := by
      intro other member'
      rw [mem_filter, decide_eq_true_eq] at member'
      obtain ⟨present, placed', person'⟩ := (merged.mem_grants_of_none none).mp member'
      exact highest other present placed' person'
    obtain ⟨first, newest, chosen⟩ := LatestFirst.preferring_first inside prefers newer
    apply of_decide_eq_true chosen
    have after := merged.ownedLive_iff.mpr live
    obtain ⟨view, answered⟩ := (kept (.preferring othersFirst)).evaluates scope .active after
    obtain ⟨project, _, projectFound, canvasFound, owned, owned'⟩ := after
    rw [evaluate_eq projectFound canvasFound merged.resolved owned owned'] at answered
    obtain ⟨named, named'⟩ := (evaluation_schema projectFound canvasFound).mp
      (evaluateEffectiveAccess_answers.mp ⟨view, answered⟩)
    rcases scopeCanvas_ok.mp canvasFound with ⟨kind, _⟩ | ⟨cell, _, rfl, found, _⟩
    · have same : project.scope = scope := by
        rw [(find_eq_some.mp (scopeProject_ok.mp projectFound).1).2]
        cases scope
        cases kind
        rfl
      exact named first (same.symm ▸ newest)
    · exact named' cell rfl first ((find_eq_some.mp found).2.symm ▸ newest)
end
end Grants
end Merged

/-- A merge that changes anything leaves the canonical id one active membership of every workspace in which one of the merged
ids had one, leaves everyone else as they were, and keeps the grants, under every engine, exactly when the grants that survive
are the newest. -/
theorem merge_keeps_authority {request : MergeRequest} {result : MergeResult} {now : Timestamp} {db db' : ServerDatabase}
    (done : db.merge request now = (.ok result, db')) :
    (result.alreadyEquivalent = true ∧ db' = db) ∨ (result.alreadyEquivalent = false ∧
      ∃ ids, db'.equivalentIds result.canonicalHumanPrincipalId = .ok ids ∧
        (∀ id, id ∈ ids ↔ db.SamePerson request.source id ∨ db.SamePerson request.canonical id) ∧
        (∀ workspaceId, Merged.activeMemberships db workspaceId ids ≠ [] →
          ∃ row, (∀ other, other ∈ Merged.activeMemberships db' workspaceId [result.canonicalHumanPrincipalId] ↔ other = row) ∧
            (row.role = .owner ↔ ∃ old ∈ Merged.activeMemberships db workspaceId ids, old.role = .owner)) ∧
        (∀ asker, asker ∉ ids → ∀ (engine : LatestFirst) (scope : AccessScope) (session : AccessSessionState)
          (view : EffectiveAccessView), db'.evaluate engine scope ⟨.human, asker⟩ session = .ok view ↔
            db.evaluate engine scope ⟨.human, asker⟩ session = .ok view) ∧
        ((∀ engine, db.AuthorityKept engine db' ids result.canonicalHumanPrincipalId) ↔
          db.MergeKeeps ids result.canonicalHumanPrincipalId)) := by
  have locked : db.mergeLocked request now = .ok (result, db') := by
    unfold ServerDatabase.merge inWriteTransaction at done
    split at done
    · rename_i value changed same
      cases done
      exact same
    · cases done
  rcases mergeLocked_ok locked with same | ⟨changed, _, ids, sourceFound, targetFound, merged⟩
  · exact .inl same
  refine .inr ⟨changed, ids, merged.resolved, fun id => ?_, fun workspaceId held => merged.memberships_kept held, ?_, ?_⟩
  · rw [merged.mem_ids, samePerson_iff sourceFound, samePerson_iff targetFound]
  · intro asker outside engine scope session view
    exact merged.evaluate_outside outside session view
  · exact ⟨merged.keeps_of_authorityKept, fun keeps engine => merged.authorityKept keeps engine⟩

section Loss

def mergeSha256 : Sha256 := RecordedDigest.digest
  [("w\x00p\x00\x00bo\x001", "62ddde67736d638259602c631515fb64ab39839e74aff9eb85f7ef99c5ecd86f"),
    ("w\x00p\x00\x00cy\x002", "7959c1a50603c8421cfc7900c1f53c1ac58b2877bfb264f5a7fc7ea5aecb0997")]

def joinedDatabase : ServerDatabase :=
  { regrantDatabase with
    humanPrincipals := ⟨[⟨"ana", "Ana", "t0"⟩, ⟨"bo", "Bo", "t0"⟩, ⟨"cy", "Cy", "t0"⟩], by decide⟩
    principals := ⟨[⟨"w", "ana", "Ana", "t0", none⟩, ⟨"w", "bo", "Bo", "t0", none⟩, ⟨"w", "cy", "Cy", "t0", none⟩], by decide⟩
    memberships := ⟨[⟨"w", "m1", "ana", .owner, 1, "t0", "t0", none⟩, ⟨"w", "m2", "bo", .member, 1, "t0", "t0", none⟩,
      ⟨"w", "m3", "cy", .member, 1, "t0", "t0", none⟩], by decide⟩ }

def grantedDatabase : ServerDatabase :=
  (Runs.run (AccessServer.step mergeSha256 .earliest)
    [.call (.compareAndSet ⟨.human, "ana"⟩ ⟨⟨"w", "p", none⟩, 0, .grant "bo" .editor⟩), .advance 0 "t1", .advance 0 "t1",
      .call (.compareAndSet ⟨.human, "ana"⟩ ⟨⟨"w", "p", none⟩, 1, .grant "cy" .viewer⟩), .advance 1 "t2", .advance 1 "t2"]
    (.start joinedDatabase)).database

def mergedDatabase : ServerDatabase := (grantedDatabase.merge ⟨"cy", "bo", true⟩ "t3").2

/-- The editor who is merged with a viewer of a later grant may no longer read the project. -/
theorem merge_loses_access :
    (grantedDatabase.merge ⟨"cy", "bo", true⟩ "t3").1 = .ok ⟨"bo", false⟩ ∧
    (grantedDatabase.activeGrants ⟨"w", "p", none⟩ ["bo", "cy"]).map (fun row => (row.humanPrincipalId, row.role)) =
      [("bo", .editor), ("cy", .viewer)] ∧
    grantedDatabase.decideProject .earliest "w" "p" ⟨.human, "bo"⟩ = .allow 2 ∧
    (mergedDatabase.latestGrant .earliest ⟨"w", "p", none⟩ "bo").map (Option.map fun row => (row.humanPrincipalId, row.revokedAt)) =
      .ok (some ("cy", some "t3")) ∧
    mergedDatabase.evaluate .earliest ⟨"w", "p", none⟩ ⟨.human, "bo"⟩ .active = .error (.schema "grant_scope_mismatch") := by
  refine ⟨by decide +kernel, by decide +kernel, by decide +kernel, by decide +kernel, by decide +kernel⟩

/-- The merge of the two members leaves `bo` one membership of the workspace, and `ana` as she was. -/
theorem merge_keeps_authority_of_members :
    (∃ row, ∀ other, other ∈ Merged.activeMemberships mergedDatabase "w" ["bo"] ↔ other = row) ∧
    ∀ engine scope session view, mergedDatabase.evaluate engine scope ⟨.human, "ana"⟩ session = .ok view ↔
      grantedDatabase.evaluate engine scope ⟨.human, "ana"⟩ session = .ok view := by
  have done : grantedDatabase.merge ⟨"cy", "bo", true⟩ "t3" = (.ok ⟨"bo", false⟩, mergedDatabase) :=
    Prod.ext (by decide +kernel) rfl
  rcases merge_keeps_authority done with ⟨unchanged, _⟩ | ⟨_, ids, resolved, _, members, outside, _⟩
  · cases unchanged
  have same : mergedDatabase.equivalentIds "bo" = .ok ["bo", "cy"] := by decide +kernel
  have found : ids = ["bo", "cy"] := Except.ok.inj (resolved.symm.trans same)
  subst found
  obtain ⟨row, one, _⟩ := members "w" (by decide +kernel)
  exact ⟨⟨row, one⟩, outside "ana" (by decide)⟩

end Loss
end PlanWeave.Access
