import PlanWeave.Access.Decisions
import PlanWeave.Access.Merge

namespace PlanWeave.Access
open Checked Consolidation InternalProjectRecord List Option ServerDatabase Table

def InternalProjectRecord.reowned (row : InternalProjectRecord) (others : List String) (target : String) (now : Timestamp) :
    InternalProjectRecord :=
  if row.ownerHumanPrincipalId.any (· ∈ others) = true then row.withOwner target now else row

def InternalCanvasRecord.reowned (row : InternalCanvasRecord) (others : List String) (target : String) (now : Timestamp) :
    InternalCanvasRecord :=
  if row.ownerHumanPrincipalId.any (· ∈ others) = true then row.withOwner target now else row

section Reowned
variable {others : List String} {target : String} {now : Timestamp}

@[simp] theorem InternalProjectRecord.reowned_fields (row : InternalProjectRecord) :
    (row.reowned others target now).scope = row.scope ∧ (row.reowned others target now).revokedAt = row.revokedAt ∧
      (row.reowned others target now).visibility = row.visibility ∧
      (row.reowned others target now).aclRevision = row.aclRevision := by
  unfold reowned
  split <;> exact ⟨rfl, rfl, rfl, rfl⟩

@[simp] theorem InternalCanvasRecord.reowned_fields (row : InternalCanvasRecord) :
    (row.reowned others target now).scope = row.scope ∧ (row.reowned others target now).revokedAt = row.revokedAt ∧
      (row.reowned others target now).visibility = row.visibility ∧
      (row.reowned others target now).aclRevision = row.aclRevision := by
  unfold reowned
  split <;> exact ⟨rfl, rfl, rfl, rfl⟩

theorem InternalProjectRecord.reowned_owner (row : InternalProjectRecord) :
    (row.reowned others target now).ownerHumanPrincipalId =
      row.ownerHumanPrincipalId.map fun owner => if owner ∈ others then target else owner := by
  unfold reowned
  cases found : row.ownerHumanPrincipalId with
  | none => simp [found]
  | some owner => by_cases moves : owner ∈ others <;> simp [moves, found, withOwner]

theorem InternalCanvasRecord.reowned_owner (row : InternalCanvasRecord) :
    (row.reowned others target now).ownerHumanPrincipalId =
      row.ownerHumanPrincipalId.map fun owner => if owner ∈ others then target else owner := by
  unfold reowned
  cases found : row.ownerHumanPrincipalId with
  | none => simp [found]
  | some owner => by_cases moves : owner ∈ others <;> simp [moves, found, withOwner]

theorem InternalProjectRecord.reowned_owned (row : InternalProjectRecord) :
    (row.reowned others target now).ownerHumanPrincipalId ≠ none ↔ row.ownerHumanPrincipalId ≠ none := by
  rw [reowned_owner, ne_eq, map_eq_none_iff]

theorem InternalCanvasRecord.reowned_owned (row : InternalCanvasRecord) :
    (row.reowned others target now).ownerHumanPrincipalId ≠ none ↔ row.ownerHumanPrincipalId ≠ none := by
  rw [reowned_owner, ne_eq, map_eq_none_iff]

end Reowned

variable {rows : List MembershipGrant}

@[simp] theorem settleGrant_person {target : String} {row : MembershipGrant} :
    (settleGrant target rows row).humanPrincipalId = target := by
  unfold settleGrant
  split
  · rfl
  rename_i same
  have same := not_not.mp same
  split
  · exact same
  · split <;> exact same

@[simp] theorem settleGrant_scope {target : String} {row : MembershipGrant} :
    (settleGrant target rows row).scope = row.scope := by
  unfold settleGrant
  split
  · rfl
  · split
    · rfl
    · split <;> rfl

structure Merged (db db' : ServerDatabase) (source target : String) (ids : List String) (now : Timestamp) : Prop where
  apart : source ≠ target
  sourceEnds : db.aliasOf source = none
  targetEnds : db.aliasOf target = none
  linked : db.aliases.insert ⟨source, target⟩ = some db'.aliases
  resolved : db'.equivalentIds target = .ok ids
  principals : ∀ row, row.humanPrincipalId ∉ ids → (row ∈ db'.principals ↔ row ∈ db.principals)
  memberships : db'.memberships = (membershipConsolidation ids target now).consolidate db.memberships
  projectMemberships : db'.projectMemberships = (projectMembershipConsolidation ids target now).consolidate db.projectMemberships
  projects : ∀ scope, db'.projects.find scope = (db.projects.find scope).map (·.reowned (ids.filter (· ≠ target)) target now)
  canvases : ∀ scope, db'.canvases.find scope = (db.canvases.find scope).map (·.reowned (ids.filter (· ≠ target)) target now)
  grants : db'.grants = (grantConsolidation ids target now).consolidate db.grants
  principalRows : db'.principals =
    ((db.ensureCanonicalPrincipals ids target now).revokeAliasPrincipals (ids.filter (· ≠ target)) now).principals
  humanPrincipals : db'.humanPrincipals = db.humanPrincipals
  known : (db.humanPrincipals.find target).isSome

namespace ServerDatabase
variable {db db' : ServerDatabase} {request : MergeRequest} {result : MergeResult} {now : Timestamp} {source target : String}
  {ids : List String}

variable {principals : Table WorkspacePrincipal.key} {row : WorkspacePrincipal}
variable {aliases : Table HumanPrincipalAlias.aliasHumanPrincipalId}

theorem mem_ensureCanonicalPrincipal {workspaceId : String} (other : row.humanPrincipalId ≠ target) :
    row ∈ ensureCanonicalPrincipal ids target now principals workspaceId ↔ row ∈ principals := by
  have apart : row.key ≠ (workspaceId, target) := fun same => other (congrArg Prod.snd same)
  have put : ∀ changed : WorkspacePrincipal, changed.key = (workspaceId, target) →
      (row ∈ principals.put changed ↔ row ∈ principals) := by
    intro changed keyed
    rw [mem_put]
    constructor
    · rintro (⟨member, _⟩ | rfl)
      · exact member
      · exact absurd keyed apart
    · intro member
      exact .inl ⟨member, keyed ▸ apart⟩
  unfold ensureCanonicalPrincipal
  cases found : principals.find (workspaceId, target) with
  | none =>
    simp only
    split
    · exact put _ rfl
    · exact Iff.rfl
  | some =>
    have keyed := (find_eq_some.mp found).2
    simp only
    split
    · exact put _ keyed
    · exact Iff.rfl

theorem mem_ensureCanonicalPrincipals {workspaces : List String} (other : row.humanPrincipalId ≠ target) :
    row ∈ workspaces.foldl (ensureCanonicalPrincipal ids target now) principals ↔ row ∈ principals := by
  induction workspaces generalizing principals with
  | nil => exact Iff.rfl
  | cons _ _ ih =>
    rw [foldl_cons, ih]
    exact mem_ensureCanonicalPrincipal other

theorem mem_revokeAliasPrincipals (outside : row.humanPrincipalId ∉ ids) :
    row ∈ (db.revokeAliasPrincipals (ids.filter (· ≠ target)) now).principals ↔ row ∈ db.principals := by
  refine mem_update_of_untouched (WorkspacePrincipal.revoked_key now) ?_ ?_
  · rintro ⟨inside, _⟩
    exact outside (mem_of_mem_filter inside)
  · rintro _ ⟨inside, _⟩ rfl
    exact outside (mem_of_mem_filter inside)

variable {others : List String} {scope : AccessScope} {id : String}

theorem rewriteOwners_projects :
    (db.rewriteOwners others target now).projects.find scope =
      (db.projects.find scope).map (·.reowned others target now) := by
  simp only [rewriteOwners, find_update]
  rfl

theorem rewriteOwners_canvases :
    (db.rewriteOwners others target now).canvases.find scope =
      (db.canvases.find scope).map (·.reowned others target now) := by
  simp only [rewriteOwners, find_update]
  rfl

theorem target_mem_equivalentIds (resolved : db.equivalentIds target = .ok ids) (ends : db.aliasOf target = none) :
    target ∈ ids :=
  (mem_equivalentIds resolved).mpr ⟨target, .here ends, .here ends⟩

theorem consolidateCanonicalAuthorization_ok {after : ServerDatabase}
    (done : db.consolidateCanonicalAuthorization target now = .ok after) (resolved : db.equivalentIds target = .ok ids)
    (member : target ∈ ids) (several : ∃ id ∈ ids, id ≠ target) :
    after.aliases = db.aliases ∧
    (∀ row, row.humanPrincipalId ∉ ids → (row ∈ after.principals ↔ row ∈ db.principals)) ∧
    after.memberships = (membershipConsolidation ids target now).consolidate db.memberships ∧
    after.projectMemberships = (projectMembershipConsolidation ids target now).consolidate db.projectMemberships ∧
    (∀ scope, after.projects.find scope = (db.projects.find scope).map (·.reowned (ids.filter (· ≠ target)) target now)) ∧
    (∀ scope, after.canvases.find scope = (db.canvases.find scope).map (·.reowned (ids.filter (· ≠ target)) target now)) ∧
    after.grants = (grantConsolidation ids target now).consolidate db.grants ∧
    after.principals =
      ((db.ensureCanonicalPrincipals ids target now).revokeAliasPrincipals (ids.filter (· ≠ target)) now).principals ∧
    after.humanPrincipals = db.humanPrincipals := by
  unfold consolidateCanonicalAuthorization at done
  rw [resolved] at done
  simp only [Bind.bind, Except.bind, Pure.pure, Except.pure] at done
  have others : ids.filter (· ≠ target) ≠ [] := by
    obtain ⟨_, inside, other⟩ := several
    exact ne_nil_of_mem (mem_filter.mpr ⟨inside, decide_eq_true other⟩)
  rw [if_neg others] at done
  cases done
  refine ⟨rfl, fun row outside => ?_, rfl, rfl, fun scope => rewriteOwners_projects, fun scope => rewriteOwners_canvases, rfl,
    rfl, rfl⟩
  exact (mem_revokeAliasPrincipals outside).trans (mem_ensureCanonicalPrincipals fun same => outside (same ▸ member))

theorem insert_rows {row : HumanPrincipalAlias}
    (inserted : db.aliases.insert row = some aliases) : aliases.rows = db.aliases.rows ++ [row] := by
  unfold Table.insert at inserted
  split at inserted
  · cases inserted
    rfl
  · cases inserted

theorem aliasOf_insert (inserted : db.aliases.insert ⟨source, target⟩ = some aliases) :
    ({ db with aliases } : ServerDatabase).aliasOf = Forwarding.link db.aliasOf source target := by
  funext id
  have rows := insert_rows inserted
  unfold aliasOf Forwarding.link
  split
  · rename_i same
    subst same
    have found : aliases.find id = some ⟨id, target⟩ :=
      find_eq_some.mpr ⟨((Table.inserted inserted).2 _).mpr (.inr rfl), rfl⟩
    simp [found]
  · rename_i other
    have same : aliases.find id = db.aliases.find id := by
      unfold Table.find
      rw [rows, find?_append, find?_singleton, decide_eq_false (Ne.symm other)]
      simp
    rw [same]

theorem equivalentIds_congr (same : db'.aliases = db.aliases) : db'.equivalentIds id = db.equivalentIds id := by
  unfold equivalentIds resolveCanonical aliasOf
  rw [same]

theorem resolveCanonical_error {reason : AccessError} (failed : db.resolveCanonical id = .error reason) :
    reason = .identityAliasCycle := by
  unfold resolveCanonical at failed
  split at failed
  · cases failed
  · cases failed
    rfl

theorem mergeLocked_ok (done : db.mergeLocked request now = .ok (result, db')) :
    (result.alreadyEquivalent = true ∧ db' = db) ∨ (result.alreadyEquivalent = false ∧
      ∃ source ids, db.resolveCanonical request.source = .ok source ∧
        db.resolveCanonical request.canonical = .ok result.canonicalHumanPrincipalId ∧
        Merged db db' source result.canonicalHumanPrincipalId ids now) := by
  obtain ⟨source, sourceFound, done⟩ := bind_ok.mp done
  obtain ⟨target, targetFound, done⟩ := bind_ok.mp done
  obtain ⟨_, done⟩ := rest_ok done
  split at done
  · cases done
    exact .inl ⟨rfl, rfl⟩
  rename_i apart
  obtain ⟨_, _, done⟩ := rest_ok₂ done
  obtain ⟨aliases, inserted, done⟩ := bind_ok.mp done
  obtain ⟨_, known, done⟩ := bind_ok.mp done
  obtain ⟨_, consolidated, done⟩ := bind_ok.mp done
  cases done
  rw [present_ok] at inserted
  have sourceEnds := (resolveCanonical_ok.mp sourceFound).last_none
  have targetEnds := (resolveCanonical_ok.mp targetFound).last_none
  have linked : ({ db with aliases } : ServerDatabase).aliasOf = Forwarding.link db.aliasOf source target :=
    aliasOf_insert inserted
  have sourceLeads : Forwarding.Ends ({ db with aliases } : ServerDatabase).aliasOf source target := by
    rw [linked]
    have ends := (Forwarding.Ends.here sourceEnds).link sourceEnds targetEnds apart
    rwa [if_pos rfl] at ends
  have targetStays : ({ db with aliases } : ServerDatabase).aliasOf target = none := by
    rw [linked]
    simp [Forwarding.link, Ne.symm apart, targetEnds]
  obtain ⟨ids, resolved, _⟩ := bind_ok.mp consolidated
  have member := target_mem_equivalentIds resolved targetStays
  have several : ∃ id ∈ ids, id ≠ target :=
    ⟨source, (mem_equivalentIds resolved).mpr ⟨target, .here targetStays, sourceLeads⟩, apart⟩
  obtain ⟨sameAliases, principals, memberships, projectMemberships, projects, canvases, grants, rows, humans⟩ :=
    consolidateCanonicalAuthorization_ok consolidated resolved member several
  refine .inr ⟨rfl, source, ids, sourceFound, targetFound, apart, sourceEnds, targetEnds, ?_, ?_, principals, memberships,
    projectMemberships, projects, canvases, grants, rows, humans, demand_ok.mp known⟩
  · rw [sameAliases]
    exact inserted
  · rw [equivalentIds_congr sameAliases]
    exact resolved

end ServerDatabase

namespace Merged
variable {db db' : ServerDatabase} {source target id asker : String} {ids others : List String} {now : Timestamp}

section
variable (merged : Merged db db' source target ids now)
include merged

theorem aliasOf_eq : db'.aliasOf = Forwarding.link db.aliasOf source target :=
  ServerDatabase.aliasOf_insert merged.linked

theorem resolveCanonical_eq (id : String) :
    db'.resolveCanonical id = (db.resolveCanonical id).map fun last => if last = source then target else last := by
  cases before : db.resolveCanonical id with
  | ok =>
    have ends := (ServerDatabase.resolveCanonical_ok.mp before).link merged.sourceEnds merged.targetEnds merged.apart
    rw [← merged.aliasOf_eq] at ends
    exact ServerDatabase.resolveCanonical_ok.mpr ends
  | error =>
    cases after : db'.resolveCanonical id with
    | error =>
      rw [ServerDatabase.resolveCanonical_error before, ServerDatabase.resolveCanonical_error after]
      rfl
    | ok =>
      have ends := ServerDatabase.resolveCanonical_ok.mp after
      rw [merged.aliasOf_eq] at ends
      obtain ⟨_, ends⟩ := ends.of_link merged.sourceEnds
      rw [ServerDatabase.resolveCanonical_ok.mpr ends] at before
      cases before

theorem resolveCanonical_target :
    db'.resolveCanonical id = .ok target ↔ db.resolveCanonical id = .ok source ∨ db.resolveCanonical id = .ok target := by
  rw [merged.resolveCanonical_eq]
  cases db.resolveCanonical id with
  | error => simp [Except.map]
  | ok last =>
    simp only [Except.map, Except.ok.injEq]
    by_cases same : last = source <;> simp [same]

theorem mem_ids : id ∈ ids ↔ db.resolveCanonical id = .ok source ∨ db.resolveCanonical id = .ok target := by
  rw [← merged.resolveCanonical_target, ServerDatabase.mem_equivalentIds merged.resolved, ServerDatabase.resolveCanonical_ok]
  have stays : Forwarding.Ends db'.aliasOf target target := by
    rw [← ServerDatabase.resolveCanonical_ok, merged.resolveCanonical_target]
    exact .inr (ServerDatabase.resolveCanonical_ok.mpr (.here merged.targetEnds))
  constructor
  · rintro ⟨_, ends, reaches⟩
    rw [ends.functional stays] at reaches
    exact reaches
  · intro reaches
    exact ⟨target, stays, reaches⟩

theorem target_mem : target ∈ ids :=
  merged.mem_ids.mpr (.inr (ServerDatabase.resolveCanonical_ok.mpr (.here merged.targetEnds)))

theorem equivalentIds_outside (outside : asker ∉ ids) : db'.equivalentIds asker = db.equivalentIds asker := by
  have elsewhere := mt merged.mem_ids.mpr outside
  unfold ServerDatabase.equivalentIds
  rw [merged.resolveCanonical_eq]
  cases before : db.resolveCanonical asker with
  | error => rfl
  | ok last =>
    rw [before, not_or] at elsewhere
    have other : last ≠ source := fun same => elsewhere.1 (congrArg _ same)
    have other' : last ≠ target := fun same => elsewhere.2 (congrArg _ same)
    have same : ∀ id, db'.resolveCanonical id = .ok last ↔ db.resolveCanonical id = .ok last := by
      intro id
      rw [merged.resolveCanonical_eq]
      cases db.resolveCanonical id with
      | error => simp [Except.map]
      | ok last' => by_cases here : last' = source <;> simp [Except.map, here, Ne.symm other, Ne.symm other']
    have sourceLeads : db.resolveCanonical source = .ok source := ServerDatabase.resolveCanonical_ok.mpr (.here merged.sourceEnds)
    simp only [Except.map, if_neg other, Bind.bind, Except.bind, Pure.pure, Except.pure, ServerDatabase.insert_rows merged.linked,
      map_append, map_singleton, filter_append, same]
    simp [sourceLeads, Ne.symm other]

theorem disjoint (outside : asker ∉ ids)
    (resolved : db.equivalentIds asker = .ok others) : ∀ id ∈ others, id ∉ ids := by
  intro id same member
  obtain ⟨_, ends, reaches⟩ := (ServerDatabase.mem_equivalentIds resolved).mp same
  apply outside
  rw [merged.mem_ids] at member ⊢
  rw [ServerDatabase.resolveCanonical_ok, ServerDatabase.resolveCanonical_ok] at member ⊢
  rcases member with leads | leads
  · exact .inl (reaches.functional leads ▸ ends)
  · exact .inr (reaches.functional leads ▸ ends)
end

section Outside
variable {engine : LatestFirst} {workspaceId : String} {scope : AccessScope}

section
variable (merged : Merged db db' source target ids now)
include merged

theorem mem_memberships {row : WorkspaceMembership}
    (outside : row.humanPrincipalId ∉ ids) : row ∈ db'.memberships ↔ row ∈ db.memberships := by
  have settled : ∀ rows old, ((membershipConsolidation ids target now).settle rows old).humanPrincipalId = target := by
    intro rows old
    simp only [membershipConsolidation]
    split
    · rename_i same
      exact same.1
    · rfl
  rw [merged.memberships, mem_consolidate]
  constructor
  · rintro (⟨member, _⟩ | ⟨old, _, _, _, rfl⟩ | ⟨old, _, touches, _, rfl⟩)
    · exact member
    · rw [settled] at outside
      exact absurd merged.target_mem outside
    · exact absurd (of_decide_eq_true touches).1 outside
  · intro member
    exact .inl ⟨member, decide_eq_false fun touches => outside touches.1⟩

theorem activeAmong_outside (apart : ∀ id ∈ others, id ∉ ids) :
    db'.activeAmong workspaceId others = db.activeAmong workspaceId others := by
  rw [Bool.eq_iff_iff]
  simp only [activeAmong, List.any_eq_true, decide_eq_true_eq]
  constructor
  · rintro ⟨principal, member, placed, person, unrevoked, membership, member', within, same, active⟩
    have principal_mem := (merged.principals principal (apart _ person)).mp member
    have membership_mem := (merged.mem_memberships (same ▸ apart _ person)).mp member'
    exact ⟨principal, principal_mem, placed, person, unrevoked, membership, membership_mem, within, same, active⟩
  · rintro ⟨principal, member, placed, person, unrevoked, membership, member', within, same, active⟩
    have principal_mem := (merged.principals principal (apart _ person)).mpr member
    have membership_mem := (merged.mem_memberships (same ▸ apart _ person)).mpr member'
    exact ⟨principal, principal_mem, placed, person, unrevoked, membership, membership_mem, within, same, active⟩

theorem placed_person {row : MembershipGrant} (touches : (grantConsolidation ids target now).touched row = true) :
    ((grantConsolidation ids target now).place db.grants row).humanPrincipalId ∈ ids := by
  unfold Consolidation.place
  split
  · have settled : ∀ rows, ((grantConsolidation ids target now).settle rows row).humanPrincipalId = target :=
      fun _ => settleGrant_person
    rw [settled]
    exact merged.target_mem
  · exact (of_decide_eq_true touches).1

theorem newestGrant_outside (apart : ∀ id ∈ others, id ∉ ids) :
    db'.newestGrant engine scope others = db.newestGrant engine scope others := by
  have person : ∀ row, (grantConsolidation ids target now).touched row = true → row.humanPrincipalId ∈ ids :=
    fun row touches => (of_decide_eq_true touches).1
  have rows : db'.grants.rows.filter (fun row => row.scope = scope ∧ row.humanPrincipalId ∈ others) =
      db.grants.rows.filter fun row => row.scope = scope ∧ row.humanPrincipalId ∈ others := by
    rw [merged.grants]
    apply filter_consolidate
    · intro row touches
      exact decide_eq_false fun chosen => apart _ chosen.2 (person row touches)
    · intro row touches
      exact decide_eq_false fun chosen => apart _ chosen.2 (merged.placed_person touches)
  unfold newestGrant
  rw [rows]

theorem scopeProject_eq :
    db'.scopeProject scope = (db.scopeProject scope).map (·.reowned (ids.filter (· ≠ target)) target now) := by
  have found := merged.projects ⟨scope.workspaceId, scope.projectId, none⟩
  unfold scopeProject projectInternal
  rw [found]
  cases db.projects.find ⟨scope.workspaceId, scope.projectId, none⟩ with
  | none => rfl
  | some =>
    simp only [map_some, reowned_fields]
    split <;> rfl

theorem scopeCanvas_eq : db'.scopeCanvas scope =
    (db.scopeCanvas scope).map (Option.map (·.reowned (ids.filter (· ≠ target)) target now)) := by
  unfold scopeCanvas canvasInternal
  cases scope.canvasId with
  | none => rfl
  | some canvasId =>
    simp only [merged.canvases]
    cases db.canvases.find ⟨scope.workspaceId, scope.projectId, some canvasId⟩ with
    | none => rfl
    | some =>
      simp only [map_some, InternalCanvasRecord.reowned_fields]
      split <;> rfl

theorem owner_outside (outside : asker ∉ ids) (owner : Option String) :
    owner.map (fun owner => if owner ∈ ids.filter (· ≠ target) then target else owner) = some asker ↔ owner = some asker := by
  have apart : target ≠ asker := fun same => outside (same ▸ merged.target_mem)
  cases owner with
  | none => simp
  | some owner =>
    by_cases moves : owner ∈ ids.filter (· ≠ target)
    · have other : owner ≠ asker := fun same => outside (same ▸ mem_of_mem_filter moves)
      simp only [map_some, if_pos moves, Option.some.injEq]
      exact iff_of_false apart other
    · simp only [map_some, if_neg moves]

theorem evaluation_outside (outside : asker ∉ ids)
    (resolved : db.equivalentIds asker = .ok others) {session : AccessSessionState} {project : InternalProjectRecord}
    {canvas : Option InternalCanvasRecord} (owned : project.ownerHumanPrincipalId ≠ none)
    (owned' : ∀ row ∈ canvas, row.ownerHumanPrincipalId ≠ none) :
    evaluateEffectiveAccess (db'.evaluation engine scope asker session others
      (project.reowned (ids.filter (· ≠ target)) target now)
      (canvas.map (·.reowned (ids.filter (· ≠ target)) target now))) =
    evaluateEffectiveAccess (db.evaluation engine scope asker session others project canvas) := by
  have apart := merged.disjoint outside resolved
  have active : db'.activeAmong scope.workspaceId others = _ := merged.activeAmong_outside apart
  have newest : ∀ scope, db'.newestGrant engine scope others = db.newestGrant engine scope others :=
    fun _ => merged.newestGrant_outside apart
  let others' := ids.filter (· ≠ target)
  let before := db.evaluation engine scope asker session others project canvas
  let after := db'.evaluation engine scope asker session others (project.reowned others' target now)
    (canvas.map (·.reowned others' target now))
  have owner : after.target.owner = asker ↔ before.target.owner = asker := by
    cases canvas with
    | none =>
      refine (getD_eq (project.reowned_owned.mpr owned)).trans ?_
      rw [InternalProjectRecord.reowned_owner, merged.owner_outside outside]
      exact (getD_eq owned).symm
    | some row =>
      refine (getD_eq (row.reowned_owned.mpr (owned' row rfl))).trans ?_
      rw [InternalCanvasRecord.reowned_owner, merged.owner_outside outside]
      exact (getD_eq (owned' row rfl)).symm
  have visibility : after.target.visibility = before.target.visibility := by
    cases canvas with
    | none => exact project.reowned_fields.2.2.1
    | some row => exact row.reowned_fields.2.2.1
  have revision : after.target.aclRevision = before.target.aclRevision := by
    cases canvas with
    | none => exact project.reowned_fields.2.2.2
    | some row => exact row.reowned_fields.2.2.2
  have projectGrant : after.projectGrant = before.projectGrant := by
    simp only [after, before, evaluation, reowned_fields, newest]
  have canvasGrant : after.canvasGrant = before.canvasGrant := by
    cases canvas with
    | none => rfl
    | some =>
      simp only [after, before, evaluation, map_some, bind_some,
        InternalCanvasRecord.reowned_fields, newest]
  have membership : after.membership = before.membership := by
    simp only [after, before, evaluation, active]
  have schema : effectiveAccessEvaluationSchema after = effectiveAccessEvaluationSchema before := by
    have projectScope : after.project.scope = before.project.scope := project.reowned_fields.1
    have canvasMatches : after.canvasMatches = before.canvasMatches := by
      cases canvas with
      | none => rfl
      | some row =>
        have placed : (row.reowned others' target now).record.scope = row.record.scope := row.reowned_fields.1
        simp only [after, before, EffectiveAccessEvaluation.canvasMatches, evaluation, map_some]
        cases scope.canvasId with
        | none => rfl
        | some => simp only [placed]
    unfold effectiveAccessEvaluationSchema EffectiveAccessEvaluation.grantMatches
    rw [projectScope, canvasMatches, projectGrant, canvasGrant]
    rfl
  refine evaluateEffectiveAccess_congr schema rfl membership rfl
    (roleOf_congr owner visibility projectGrant canvasGrant) revision ?_
  unfold grantRevoked
  rw [projectGrant, canvasGrant]

theorem evaluate_outside (outside : asker ∉ ids) (session : AccessSessionState)
    (view : EffectiveAccessView) : db'.evaluate engine scope ⟨.human, asker⟩ session = .ok view ↔
      db.evaluate engine scope ⟨.human, asker⟩ session = .ok view := by
  rw [evaluate_ok, evaluate_ok, merged.scopeProject_eq, merged.scopeCanvas_eq,
    merged.equivalentIds_outside outside]
  constructor
  · rintro ⟨_, _, others, projectFound, canvasFound, resolved, owned, owned', answered⟩
    obtain ⟨project, found, rfl⟩ := map_ok.mp projectFound
    obtain ⟨canvas, found', rfl⟩ := map_ok.mp canvasFound
    rw [reowned_owned] at owned
    have owned' : ∀ row ∈ canvas, row.ownerHumanPrincipalId ≠ none := by
      intro row member
      have after := owned' _ (mem_map_of_mem _ member)
      rwa [InternalCanvasRecord.reowned_owned] at after
    rw [merged.evaluation_outside outside resolved owned owned'] at answered
    exact ⟨project, canvas, others, found, found', resolved, owned, owned', answered⟩
  · rintro ⟨project, canvas, others, found, found', resolved, owned, owned', answered⟩
    rw [← merged.evaluation_outside outside resolved owned owned'] at answered
    refine ⟨_, _, others, map_ok.mpr ⟨project, found, rfl⟩, map_ok.mpr ⟨canvas, found', rfl⟩, resolved,
      ?_, ?_, answered⟩
    · rw [reowned_owned]
      exact owned
    · intro row member
      obtain ⟨old, present, rfl⟩ := mem_map.mp member
      rw [InternalCanvasRecord.reowned_owned]
      exact owned' old present
end
end Outside
end Merged
end PlanWeave.Access
