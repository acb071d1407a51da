import PlanWeave.Access.Policy

namespace PlanWeave.Access
open Checked EffectiveAccessEvaluation InternalCanvasRecord Option Table

def ProjectAccessDecision.allowed : ProjectAccessDecision → Prop
  | .allow _ => True
  | .deny _ _ => False

def InternalProjectRecord.record (row : InternalProjectRecord) : AccessRecord :=
  ⟨row.scope, row.visibility, row.aclRevision, row.ownerHumanPrincipalId.getD "", row.updatedAt⟩

def InternalCanvasRecord.record (row : InternalCanvasRecord) : AccessRecord :=
  ⟨row.scope, row.visibility, row.aclRevision, row.ownerHumanPrincipalId.getD "", row.updatedAt⟩

theorem projectAccessRecord_of_owner {row : InternalProjectRecord} (owned : row.ownerHumanPrincipalId ≠ none) :
    projectAccessRecord row = .ok row.record := by
  obtain ⟨_, found⟩ := ne_none_iff_exists'.mp owned
  simp [projectAccessRecord, InternalProjectRecord.record, found]

theorem canvasAccessRecord_of_owner {row : InternalCanvasRecord} (owned : row.ownerHumanPrincipalId ≠ none) :
    canvasAccessRecord row = .ok row.record := by
  obtain ⟨_, found⟩ := ne_none_iff_exists'.mp owned
  simp [canvasAccessRecord, record, found]

namespace ServerDatabase
variable {engine : LatestFirst} {db : ServerDatabase} {workspaceId asker : String} {session : AccessSessionState}
  {ids : List String}

def newestGrant (engine : LatestFirst) (db : ServerDatabase) (scope : AccessScope) (ids : List String) : Option MembershipGrant :=
  engine.first (db.grants.rows.filter fun row => row.scope = scope ∧ row.humanPrincipalId ∈ ids)

/-- Why the policy lets a person read: the scope is owned, the person active, the newest grants name the asking id, and the
asking id owns the scope, or the scope is shared, or a newest grant is unrevoked. -/
structure Readable (engine : LatestFirst) (db : ServerDatabase) (asker : String) (ids : List String)
    (project : InternalProjectRecord) (canvas : Option InternalCanvasRecord) : Prop where
  projectOwned : project.ownerHumanPrincipalId ≠ none
  canvasOwned : ∀ row ∈ canvas, row.ownerHumanPrincipalId ≠ none
  active : db.activeAmong project.workspaceId ids = true
  projectNamed : ∀ grant ∈ db.newestGrant engine project.scope ids, grant.humanPrincipalId = asker
  canvasNamed : ∀ row ∈ canvas, ∀ grant ∈ db.newestGrant engine row.scope ids, grant.humanPrincipalId = asker
  admitted : canvas.elim project.ownerHumanPrincipalId (·.ownerHumanPrincipalId) = some asker ∨
    canvas.elim project.visibility (·.visibility) = .shared ∨
    (∃ grant ∈ db.newestGrant engine project.scope ids, grant.revokedAt = none) ∨
    ∃ row ∈ canvas, ∃ grant ∈ db.newestGrant engine row.scope ids, grant.revokedAt = none

variable {scope : AccessScope} {input : EffectiveAccessEvaluation} {canvas : Option InternalCanvasRecord}
variable {project : InternalProjectRecord}

theorem latestGrant_eq (resolved : db.equivalentIds asker = .ok ids) :
    db.latestGrant engine scope asker = .ok (db.newestGrant engine scope ids) := by
  rw [latestGrant, resolved]
  rfl

theorem activeWorkspacePrincipal_eq (resolved : db.equivalentIds asker = .ok ids) :
    db.activeWorkspacePrincipal workspaceId asker = .ok (db.activeAmong workspaceId ids) := by
  rw [activeWorkspacePrincipal, resolved]
  rfl

theorem newestGrant_scope {grant : MembershipGrant}
    (newest : db.newestGrant engine scope ids = some grant) : grant ∈ db.grants ∧ grant.scope = scope ∧ grant.humanPrincipalId ∈ ids := by
  have member := List.mem_filter.mp (engine.first_mem _ _ newest)
  rw [decide_eq_true_eq] at member
  exact ⟨member.1, member.2⟩

theorem roleOf_isSome : roleOf input ≠ none ↔
    input.target.owner = input.humanPrincipalId ∨ input.target.visibility = .shared ∨
      (∃ grant ∈ input.projectGrant, grant.revokedAt = none) ∨ ∃ grant ∈ input.canvasGrant, grant.revokedAt = none := by
  have active : ∀ grant : Option MembershipGrant, activeGrant grant ≠ none ↔ ∃ row ∈ grant, row.revokedAt = none := by
    intro grant
    cases grant with
    | none => simp [activeGrant]
    | some => simp [activeGrant, Option.filter]
  rw [← active, ← active]
  unfold roleOf
  split
  · simp [*]
  split
  · simp [*]
  · split
    · simp [*]
    · split <;> simp [*]

theorem evaluateEffectiveAccess_role : (∃ view, evaluateEffectiveAccess input = .ok view ∧ view.effectiveRole ≠ none) ↔
      effectiveAccessEvaluationSchema input = .ok () ∧ input.membership = .active ∧ input.session = .active ∧
        roleOf input ≠ none := by
  unfold evaluateEffectiveAccess
  cases checked : effectiveAccessEvaluationSchema input with
  | error => simp [Bind.bind, Except.bind]
  | ok =>
    simp only [Bind.bind, Except.bind, true_and]
    cases input.membership <;> cases input.session <;> cases roleOf input <;>
      simp [deniedAccess, Pure.pure, Except.pure]

variable {other : EffectiveAccessEvaluation}

theorem roleOf_congr (owner : input.target.owner = input.humanPrincipalId ↔ other.target.owner = other.humanPrincipalId)
    (visibility : input.target.visibility = other.target.visibility) (project : input.projectGrant = other.projectGrant)
    (canvas : input.canvasGrant = other.canvasGrant) : roleOf input = roleOf other := by
  unfold roleOf
  rw [visibility, project, canvas]
  by_cases same : input.target.owner = input.humanPrincipalId
  · rw [if_pos same, if_pos (owner.mp same)]
  · rw [if_neg same, if_neg fun other => same (owner.mpr other)]

theorem evaluateEffectiveAccess_congr
    (schema : effectiveAccessEvaluationSchema input = effectiveAccessEvaluationSchema other)
    (scope : input.scope = other.scope) (membership : input.membership = other.membership)
    (session : input.session = other.session) (role : roleOf input = roleOf other)
    (revision : input.target.aclRevision = other.target.aclRevision) (revoked : grantRevoked input = grantRevoked other) :
    evaluateEffectiveAccess input = evaluateEffectiveAccess other := by
  unfold evaluateEffectiveAccess deniedAccess
  rw [schema, scope, membership, session, role, revision, revoked]

theorem evaluateEffectiveAccess_answers :
    (∃ view, evaluateEffectiveAccess input = .ok view) ↔ effectiveAccessEvaluationSchema input = .ok () := by
  unfold evaluateEffectiveAccess
  cases checked : effectiveAccessEvaluationSchema input with
  | error => simp [Bind.bind, Except.bind]
  | ok =>
    simp only [Bind.bind, Except.bind, iff_true]
    cases input.membership <;> cases input.session <;> cases roleOf input <;> exact ⟨_, rfl⟩

theorem decideScope_allowed_iff_role {actor : ActorRef} : (db.decideScope engine scope actor).allowed ↔
      ∃ view, db.evaluate engine scope actor .active = .ok view ∧ view.effectiveRole ≠ none := by
  unfold decideScope
  cases db.evaluate engine scope actor .active with
  | error => simp [ProjectAccessDecision.allowed]
  | ok view =>
    have same : view.capabilities .read = true ↔ view.effectiveRole ≠ none := accessCapabilityFlags_read
    simp only [Except.ok.injEq, exists_eq_left']
    by_cases reads : view.capabilities .read = true
    · rw [if_pos reads]
      exact iff_of_true trivial (same.mp reads)
    · rw [if_neg reads]
      exact iff_of_false id fun role => reads (same.mpr role)

def evaluation (engine : LatestFirst) (db : ServerDatabase) (scope : AccessScope) (asker : String)
    (session : AccessSessionState) (ids : List String) (project : InternalProjectRecord) (canvas : Option InternalCanvasRecord) :
    EffectiveAccessEvaluation where
  scope := scope
  humanPrincipalId := asker
  membership := if db.activeAmong scope.workspaceId ids then .active else .missing
  session := session
  project := project.record
  canvas := canvas.map record
  projectGrant := db.newestGrant engine project.scope ids
  canvasGrant := canvas.bind fun row => db.newestGrant engine row.scope ids

theorem owned_canvas : (!canvas.any (·.ownerHumanPrincipalId = none)) = true ↔
    ∀ row ∈ canvas, row.ownerHumanPrincipalId ≠ none := by
  cases canvas with
  | none => simp
  | some => simp

theorem evaluate_eq (projectFound : db.scopeProject scope = .ok project) (canvasFound : db.scopeCanvas scope = .ok canvas)
    (resolved : db.equivalentIds asker = .ok ids) (owned : project.ownerHumanPrincipalId ≠ none)
    (owned' : ∀ row ∈ canvas, row.ownerHumanPrincipalId ≠ none) : db.evaluate engine scope ⟨.human, asker⟩ session =
      evaluateEffectiveAccess (db.evaluation engine scope asker session ids project canvas) := by
  have checked : (Checked.demand (project.ownerHumanPrincipalId ≠ none ∧ !canvas.any (·.ownerHumanPrincipalId = none))
      .accessScopeOwnerMissing : Except AccessError Unit) = .ok () := by
    rw [demand_ok, owned_canvas]
    exact ⟨owned, owned'⟩
  have records : canvas.mapM canvasAccessRecord = .ok (canvas.map record) := by
    cases canvas with
    | none => rfl
    | some row => simp [canvasAccessRecord_of_owner (owned' row rfl)]
  have canvasGrants : ∀ row, db.latestCanvasGrant engine row asker = .ok (db.newestGrant engine row.scope ids) :=
    fun row => latestGrant_eq resolved
  have projectGrants : db.latestProjectGrant engine project asker = .ok (db.newestGrant engine project.scope ids) :=
    latestGrant_eq resolved
  unfold evaluate
  simp only [projectFound, canvasFound, checked, activeWorkspacePrincipal_eq resolved, projectAccessRecord_of_owner owned,
    records, projectGrants, canvasGrants, Bind.bind, Except.bind, if_true]
  cases canvas <;> rfl

theorem evaluate_ok {view : EffectiveAccessView} : db.evaluate engine scope ⟨.human, asker⟩ session = .ok view ↔
      ∃ project canvas ids, db.scopeProject scope = .ok project ∧ db.scopeCanvas scope = .ok canvas ∧
        db.equivalentIds asker = .ok ids ∧ project.ownerHumanPrincipalId ≠ none ∧
        (∀ row ∈ canvas, row.ownerHumanPrincipalId ≠ none) ∧
        evaluateEffectiveAccess (db.evaluation engine scope asker session ids project canvas) = .ok view := by
  constructor
  · intro evaluated
    have whole := evaluated
    obtain ⟨project, projectFound, evaluated⟩ := bind_ok.mp evaluated
    obtain ⟨canvas, canvasFound, evaluated⟩ := bind_ok.mp evaluated
    obtain ⟨_, checked, evaluated⟩ := bind_ok.mp evaluated
    obtain ⟨_, activity, _⟩ := bind_ok.mp evaluated
    obtain ⟨ids, resolved, _⟩ := bind_ok.mp activity
    change db.equivalentIds asker = .ok ids at resolved
    rw [demand_ok, owned_canvas] at checked
    obtain ⟨owned, owned'⟩ := checked
    rw [evaluate_eq projectFound canvasFound resolved owned owned'] at whole
    exact ⟨project, canvas, ids, projectFound, canvasFound, resolved, owned, owned', whole⟩
  · rintro ⟨_, _, _, projectFound, canvasFound, resolved, owned, owned', evaluated⟩
    rw [evaluate_eq projectFound canvasFound resolved owned owned']
    exact evaluated

theorem effectiveAccessEvaluationSchema_ok :
    effectiveAccessEvaluationSchema input = .ok () ↔ input.project.scope = input.scope.project ∧
      input.canvasMatches = .ok () ∧ input.grantMatches input.scope.project input.projectGrant = true ∧
      (input.scope.canvasId = none → input.canvasGrant = none) ∧
      input.grantMatches input.scope input.canvasGrant = true := by
  unfold effectiveAccessEvaluationSchema
  simp only [bind_ok, demand_ok, exists_and_left, exists_const]
  exact and_congr_right fun _ => ⟨fun asked => asked.choose_spec, fun rest => ⟨(), rest⟩⟩

theorem newestGrant_matches (input : EffectiveAccessEvaluation) (scope : AccessScope) :
    input.grantMatches scope (db.newestGrant engine scope ids) = true ↔
      ∀ grant ∈ db.newestGrant engine scope ids, grant.humanPrincipalId = input.humanPrincipalId := by
  unfold grantMatches
  cases newest : db.newestGrant engine scope ids with
  | none => simp
  | some => simp [(newestGrant_scope newest).2.1]

theorem evaluation_schema
    (projectFound : db.scopeProject scope = .ok project) (canvasFound : db.scopeCanvas scope = .ok canvas) :
    effectiveAccessEvaluationSchema (db.evaluation engine scope asker session ids project canvas) = .ok () ↔
      (∀ grant ∈ db.newestGrant engine project.scope ids, grant.humanPrincipalId = asker) ∧
      ∀ row ∈ canvas, ∀ grant ∈ db.newestGrant engine row.scope ids, grant.humanPrincipalId = asker := by
  have placed : project.scope = scope.project := (find_eq_some.mp (scopeProject_ok.mp projectFound).1).2
  let input := db.evaluation engine scope asker session ids project canvas
  have projectNamed : input.grantMatches scope.project input.projectGrant = true ↔
      ∀ grant ∈ db.newestGrant engine project.scope ids, grant.humanPrincipalId = asker := by
    rw [← placed]
    exact newestGrant_matches input project.scope
  rw [effectiveAccessEvaluationSchema_ok]
  rcases scopeCanvas_ok.mp canvasFound with ⟨kind, rfl⟩ | ⟨row, kind, rfl, found, _⟩
  · have matched : (db.evaluation engine scope asker session ids project none).canvasMatches = .ok () := by
      simp [canvasMatches, evaluation, kind]
    constructor
    · rintro ⟨_, _, named, _⟩
      exact ⟨projectNamed.mp named, nofun⟩
    · rintro ⟨named, _⟩
      exact ⟨placed, matched, projectNamed.mpr named, fun _ => rfl, rfl⟩
  · have placed' : row.scope = scope := (find_eq_some.mp found).2
    have matched : (db.evaluation engine scope asker session ids project (some row)).canvasMatches = .ok () := by
      obtain ⟨_, kind⟩ := ne_none_iff_exists'.mp kind
      simp [canvasMatches, evaluation, kind, record, placed']
    have canvasNamed : input.grantMatches scope input.canvasGrant = true ↔
        ∀ grant ∈ db.newestGrant engine row.scope ids, grant.humanPrincipalId = asker := by
      rw [← placed']
      exact newestGrant_matches input row.scope
    constructor
    · rintro ⟨_, _, named, _, named'⟩
      refine ⟨projectNamed.mp named, ?_⟩
      rintro _ ⟨⟩
      exact canvasNamed.mp named'
    · rintro ⟨named, named'⟩
      exact ⟨placed, matched, projectNamed.mpr named, fun none => absurd none kind, canvasNamed.mpr (named' row rfl)⟩

theorem getD_eq {owner : Option String} (owned : owner ≠ none) : owner.getD "" = asker ↔ owner = some asker := by
  obtain ⟨_, rfl⟩ := ne_none_iff_exists'.mp owned
  simp

theorem readable_iff (projectFound : db.scopeProject scope = .ok project) (canvasFound : db.scopeCanvas scope = .ok canvas) :
    db.Readable engine asker ids project canvas ↔ project.ownerHumanPrincipalId ≠ none ∧
      (∀ row ∈ canvas, row.ownerHumanPrincipalId ≠ none) ∧
      ∃ view, evaluateEffectiveAccess (db.evaluation engine scope asker .active ids project canvas) = .ok view ∧
        view.effectiveRole ≠ none := by
  have placed : project.workspaceId = scope.workspaceId := by
    have same := (find_eq_some.mp (scopeProject_ok.mp projectFound).1).2
    exact congrArg AccessScope.workspaceId same
  let input := db.evaluation engine scope asker .active ids project canvas
  have active : input.membership = .active ↔ db.activeAmong project.workspaceId ids = true := by
    rw [placed]
    cases counted : db.activeAmong scope.workspaceId ids <;> simp [input, evaluation, counted]
  have owner : project.ownerHumanPrincipalId ≠ none → (∀ row ∈ canvas, row.ownerHumanPrincipalId ≠ none) →
      (input.target.owner = asker ↔ canvas.elim project.ownerHumanPrincipalId (·.ownerHumanPrincipalId) = some asker) := by
    intro owned owned'
    cases canvas with
    | none => exact getD_eq owned
    | some row => exact getD_eq (owned' row rfl)
  have visibility : input.target.visibility = canvas.elim project.visibility (·.visibility) := by
    cases canvas <;> rfl
  have canvasGrants : (∃ grant ∈ input.canvasGrant, grant.revokedAt = none) ↔
      ∃ row ∈ canvas, ∃ grant ∈ db.newestGrant engine row.scope ids, grant.revokedAt = none := by
    cases canvas with
    | none => simp [input, evaluation]
    | some => simp [input, evaluation]
  have admission : project.ownerHumanPrincipalId ≠ none → (∀ row ∈ canvas, row.ownerHumanPrincipalId ≠ none) →
      (roleOf input ≠ none ↔ _) := fun owned owned' =>
    roleOf_isSome.trans (or_congr (owner owned owned') (or_congr (by rw [visibility]) (or_congr Iff.rfl canvasGrants)))
  rw [evaluateEffectiveAccess_role, evaluation_schema projectFound canvasFound]
  constructor
  · rintro ⟨owned, owned', activity, named, named', rest⟩
    exact ⟨owned, owned', ⟨named, named'⟩, active.mpr activity, rfl, (admission owned owned').mpr rest⟩
  · rintro ⟨owned, owned', ⟨named, named'⟩, activity, _, rest⟩
    exact ⟨owned, owned', active.mp activity, named, named', (admission owned owned').mp rest⟩

theorem decideScope_allowed_iff : (db.decideScope engine scope ⟨.human, asker⟩).allowed ↔
      ∃ project canvas ids, db.scopeProject scope = .ok project ∧ db.scopeCanvas scope = .ok canvas ∧
        db.equivalentIds asker = .ok ids ∧ db.Readable engine asker ids project canvas := by
  rw [decideScope_allowed_iff_role]
  constructor
  · rintro ⟨view, evaluated, role⟩
    obtain ⟨project, canvas, ids, projectFound, canvasFound, resolved, owned, owned', evaluated⟩ := evaluate_ok.mp evaluated
    refine ⟨project, canvas, ids, projectFound, canvasFound, resolved, ?_⟩
    exact ((readable_iff projectFound canvasFound).mpr ⟨owned, owned', view, evaluated, role⟩)
  · rintro ⟨project, canvas, ids, projectFound, canvasFound, resolved, readable⟩
    obtain ⟨owned, owned', view, evaluated, role⟩ := (readable_iff projectFound canvasFound).mp readable
    exact ⟨view, evaluate_ok.mpr ⟨project, canvas, ids, projectFound, canvasFound, resolved, owned, owned', evaluated⟩, role⟩

end ServerDatabase
end PlanWeave.Access
