import Mathlib.Data.List.Sort
import PlanWeave.Access.MergeAuthority
import PlanWeave.Lib.Paging

namespace PlanWeave.Access
open Checked List Table

structure PageLimit where
  limit : Nat
  positive : 1 ≤ limit
  bounded : limit ≤ 100

namespace ServerDatabase
variable (sha256 : Sha256) (db : ServerDatabase)

def ownedAmong (owner : Option String) (ids : List String) : Bool := owner.any (· ∈ ids)

/-- `EXISTS (SELECT 1 FROM project_access_grants g …)` -/
def grantedAmong (scope : AccessScope) (ids : List String) : Bool :=
  db.grants.rows.any fun row => row.scope = scope ∧ row.humanPrincipalId ∈ ids ∧ row.revokedAt = none

def visibleAmong (scope : AccessScope) (owner : Option String) (visibility : Visibility) (ids : List String) : Bool :=
  ownedAmong owner ids || visibility = .shared || db.grantedAmong scope ids

def projectListed (workspaceId : String) (ids : List String) (project : InternalProjectRecord) : Bool :=
  project.workspaceId = workspaceId ∧ project.revokedAt = none ∧ project.ownerHumanPrincipalId ≠ none ∧
    db.activeAmong workspaceId ids ∧
    (db.visibleAmong project.scope project.ownerHumanPrincipalId project.visibility ids ∨
      db.canvases.rows.any fun canvas => canvas.scope.project = project.scope ∧ canvas.revokedAt = none ∧
        db.visibleAmong canvas.scope canvas.ownerHumanPrincipalId canvas.visibility ids)

def canvasListed (workspaceId projectId : String) (ids : List String) (canvas : InternalCanvasRecord) : Bool :=
  (db.projects.find canvas.scope.project).any fun project =>
    canvas.workspaceId = workspaceId ∧ canvas.projectId = projectId ∧ canvas.revokedAt = none ∧ project.revokedAt = none ∧
      canvas.ownerHumanPrincipalId ≠ none ∧ db.activeAmong workspaceId ids ∧
      (db.visibleAmong canvas.scope canvas.ownerHumanPrincipalId canvas.visibility ids ∨ db.grantedAmong project.scope ids)

def projectOrder (left right : InternalProjectRecord) : Prop :=
  projectRegistryIdFor sha256 left.scope ≤ projectRegistryIdFor sha256 right.scope

def canvasOrder (left right : InternalCanvasRecord) : Prop :=
  canvasRegistryIdFor sha256 left.scope ≤ canvasRegistryIdFor sha256 right.scope

instance : DecidableRel (projectOrder sha256) := fun _ _ => inferInstanceAs (Decidable (_ ≤ _))

instance : DecidableRel (canvasOrder sha256) := fun _ _ => inferInstanceAs (Decidable (_ ≤ _))

def projectRows (workspaceId : String) (ids : List String) : List InternalProjectRecord :=
  (db.projects.rows.filter (db.projectListed workspaceId ids)).insertionSort (projectOrder sha256)

def canvasRows (workspaceId projectId : String) (ids : List String) : List InternalCanvasRecord :=
  (db.canvases.rows.filter (db.canvasListed workspaceId projectId ids)).insertionSort (canvasOrder sha256)

def listProjects (workspaceId : String) (actor : ActorRef) (limit : PageLimit) (offset : Nat) :
    Except AccessError (List AccessRecord) :=
  if actor.kind ≠ .human then .ok []
  else do
    let ids ← db.equivalentIds actor.id
    (Paging.page (db.projectRows sha256 workspaceId ids) limit.limit offset).mapM projectAccessRecord

def listCanvases (workspaceId projectId : String) (actor : ActorRef) (limit : PageLimit) (offset : Nat) :
    Except AccessError (List AccessRecord) :=
  if actor.kind ≠ .human then .ok []
  else do
    let ids ← db.equivalentIds actor.id
    (Paging.page (db.canvasRows sha256 workspaceId projectId ids) limit.limit offset).mapM canvasAccessRecord

def pages (fetch : Nat → Except AccessError (List AccessRecord)) (limit : PageLimit) (count : Nat) :
    Except AccessError (List AccessRecord) := do
  let pages ← (range count).mapM fun i => fetch (i * limit.limit)
  return pages.flatten

def canvasPages (workspaceId projectId : String) (actor : ActorRef) (limit : PageLimit) (count : Nat) :
    Except AccessError (List AccessRecord) :=
  pages (db.listCanvases sha256 workspaceId projectId actor limit) limit count

def projectPages (workspaceId : String) (actor : ActorRef) (limit : PageLimit) (count : Nat) :
    Except AccessError (List AccessRecord) :=
  pages (db.listProjects sha256 workspaceId actor limit) limit count

def CanvasShown (workspaceId projectId canvasId : String) (actor : ActorRef) (limit : PageLimit) : Prop :=
  ∃ count items, db.canvasPages sha256 workspaceId projectId actor limit count = .ok items ∧
    ∃ item ∈ items, item.scope = ⟨workspaceId, projectId, some canvasId⟩

def ProjectShown (workspaceId projectId : String) (actor : ActorRef) (limit : PageLimit) : Prop :=
  ∃ count items, db.projectPages sha256 workspaceId actor limit count = .ok items ∧
    ∃ item ∈ items, item.scope = ⟨workspaceId, projectId, none⟩

end ServerDatabase

namespace ServerDatabase
variable {sha256 : Sha256} {engine : LatestFirst} {db : ServerDatabase} {workspaceId projectId canvasId asker : String}
  {ids : List String} {limit : PageLimit} {count : Nat}

variable {row : InternalCanvasRecord}

theorem canvasListed_iff : db.canvasListed workspaceId projectId ids row = true ↔
    ∃ project, db.projects.find row.scope.project = some project ∧ row.workspaceId = workspaceId ∧
      row.projectId = projectId ∧ row.revokedAt = none ∧ project.revokedAt = none ∧ row.ownerHumanPrincipalId ≠ none ∧
      db.activeAmong workspaceId ids = true ∧
      (db.visibleAmong row.scope row.ownerHumanPrincipalId row.visibility ids = true ∨
        db.grantedAmong project.scope ids = true) := by
  simp only [canvasListed, Option.any_eq_true, decide_eq_true_eq]

theorem projectListed_iff {row : InternalProjectRecord} : db.projectListed workspaceId ids row = true ↔
    row.workspaceId = workspaceId ∧ row.revokedAt = none ∧ row.ownerHumanPrincipalId ≠ none ∧
      db.activeAmong workspaceId ids = true ∧
      (db.visibleAmong row.scope row.ownerHumanPrincipalId row.visibility ids = true ∨
        ∃ canvas ∈ db.canvases, canvas.scope.project = row.scope ∧ canvas.revokedAt = none ∧
          db.visibleAmong canvas.scope canvas.ownerHumanPrincipalId canvas.visibility ids = true) := by
  simp only [projectListed, decide_eq_true_eq, any_eq_true]
  exact Iff.rfl

section Pages
variable {R : Type} {key : R → AccessScope} {items : List AccessRecord}

theorem pages_eq {rows : List R} {see : R → Except AccessError AccessRecord} {record : R → AccessRecord}
    (all : ∀ row ∈ rows, see row = .ok (record row)) :
    pages (fun offset => (Paging.page rows limit.limit offset).mapM see) limit count =
      .ok ((rows.take (count * limit.limit)).map record) := by
  have each : ∀ i ∈ range count, (Paging.page rows limit.limit (i * limit.limit)).mapM see =
      .ok ((Paging.page rows limit.limit (i * limit.limit)).map record) := by
    intro i _
    apply mapM_of_all
    intro row member
    exact all row (mem_of_mem_drop (mem_of_mem_take member))
  unfold pages
  rw [mapM_of_all each, ← Paging.flatten_pages]
  simp [Bind.bind, Except.bind, Pure.pure, Except.pure, map_flatten, Function.comp_def]

def pagesOf (db : ServerDatabase) (t : Table key) (listed : List String → R → Bool) (order : R → R → Prop) [DecidableRel order]
    (see : R → Except AccessError AccessRecord) (asker : String) (limit : PageLimit) (count : Nat) :
    Except AccessError (List AccessRecord) :=
  pages (fun offset => db.equivalentIds asker >>= fun ids =>
    (Paging.page ((t.rows.filter (listed ids)).insertionSort order) limit.limit offset).mapM see) limit count

variable {t : Table key} {listed : List String → R → Bool} {order : R → R → Prop} [DecidableRel order]
  {see : R → Except AccessError AccessRecord} {record : R → AccessRecord}
variable (seen : ∀ ids row, listed ids row = true → see row = .ok (record row))
include seen

theorem pagesOf_eq (resolved : db.equivalentIds asker = .ok ids) : db.pagesOf t listed order see asker limit count =
    .ok ((((t.rows.filter (listed ids)).insertionSort order).take (count * limit.limit)).map record) := by
  unfold pagesOf
  rw [resolved]
  exact pages_eq fun row member => seen ids row (mem_filter.mp ((mem_insertionSort order).mp member)).2

theorem pagesOf_shown (shown : db.pagesOf t listed order see asker limit count = .ok items) :
    items = [] ∨ ∃ ids, db.equivalentIds asker = .ok ids ∧
      items = (((t.rows.filter (listed ids)).insertionSort order).take (count * limit.limit)).map record := by
  cases resolved : db.equivalentIds asker with
  | ok ids => exact .inr ⟨ids, rfl, Except.ok.inj (shown.symm.trans (pagesOf_eq seen resolved))⟩
  | error =>
    obtain ⟨_, all, rest⟩ := bind_ok.mp shown
    cases count with
    | zero =>
      cases all
      cases rest
      exact .inl rfl
    | succ count =>
      have first : 0 ∈ range (count + 1) := mem_range.mpr (Nat.succ_pos _)
      obtain ⟨_, _, accepted⟩ := mapM_member all first
      rw [resolved] at accepted
      cases accepted

variable (placed : ∀ row, (record row).scope = key row)
include placed

theorem pagesOf_nodup (shown : db.pagesOf t listed order see asker limit count = .ok items) :
    (items.map AccessRecord.scope).Nodup := by
  rcases pagesOf_shown seen shown with rfl | ⟨ids, _, rfl⟩
  · exact nodup_nil
  rw [map_map, show AccessRecord.scope ∘ record = key from funext placed]
  have sorted : (((t.rows.filter (listed ids)).insertionSort order).map key).Nodup := by
    apply ((perm_insertionSort order _).map key).nodup_iff.mpr
    exact t.unique.sublist (filter_sublist.map key)
  exact sorted.sublist ((take_sublist _ _).map key)

theorem pagesOf_shown_iff {scope : AccessScope} : (∃ count items, db.pagesOf t listed order see asker limit count = .ok items ∧
      ∃ item ∈ items, item.scope = scope) ↔
    ∃ ids row, db.equivalentIds asker = .ok ids ∧ t.find scope = some row ∧ listed ids row = true := by
  constructor
  · rintro ⟨_, _, shown, _, member, rfl⟩
    rcases pagesOf_shown seen shown with rfl | ⟨ids, resolved, rfl⟩
    · cases member
    obtain ⟨row, inside, rfl⟩ := mem_map.mp member
    obtain ⟨stored, visible⟩ := mem_filter.mp ((mem_insertionSort order).mp (mem_of_mem_take inside))
    exact ⟨ids, row, resolved, placed row ▸ find_of_mem stored, visible⟩
  · rintro ⟨ids, row, resolved, found, visible⟩
    obtain ⟨stored, keyed⟩ := find_eq_some.mp found
    have inside : row ∈ (t.rows.filter (listed ids)).insertionSort order :=
      (mem_insertionSort order).mpr (mem_filter.mpr ⟨stored, visible⟩)
    refine ⟨((t.rows.filter (listed ids)).insertionSort order).length, _, pagesOf_eq seen resolved, record row,
      mem_map_of_mem ?_, (placed row).trans keyed⟩
    rw [take_of_length_le (Nat.le_mul_of_pos_right _ limit.positive)]
    exact inside

end Pages

theorem canvas_seen (ids : List String) (row : InternalCanvasRecord)
    (listed : db.canvasListed workspaceId projectId ids row = true) : canvasAccessRecord row = .ok row.record := by
  obtain ⟨_, _, _, _, _, _, owned, _⟩ := canvasListed_iff.mp listed
  exact canvasAccessRecord_of_owner owned

theorem project_seen (ids : List String) (row : InternalProjectRecord)
    (listed : db.projectListed workspaceId ids row = true) : projectAccessRecord row = .ok row.record :=
  projectAccessRecord_of_owner (projectListed_iff.mp listed).2.2.1

theorem canvasShown_iff : db.CanvasShown sha256 workspaceId projectId canvasId ⟨.human, asker⟩ limit ↔
    ∃ ids row, db.equivalentIds asker = .ok ids ∧ db.canvases.find ⟨workspaceId, projectId, some canvasId⟩ = some row ∧
      db.canvasListed workspaceId projectId ids row = true :=
  pagesOf_shown_iff canvas_seen fun _ => rfl

theorem projectShown_iff : db.ProjectShown sha256 workspaceId projectId ⟨.human, asker⟩ limit ↔
    ∃ ids row, db.equivalentIds asker = .ok ids ∧ db.projects.find ⟨workspaceId, projectId, none⟩ = some row ∧
      db.projectListed workspaceId ids row = true :=
  pagesOf_shown_iff project_seen fun _ => rfl

section Agreement

/-- The newest grants name the asking id and nothing reaches the person that does not admit the asking id: what the rows must
say of every live scope that one of the ids owns, shares or has an unrevoked grant of. -/
structure Settled (engine : LatestFirst) (db : ServerDatabase) (workspaceId asker : String) (ids : List String) : Prop where
  canvases : ∀ project ∈ db.projects, ∀ row ∈ db.canvases, project.workspaceId = workspaceId →
    row.scope.project = project.scope → project.revokedAt = none → row.revokedAt = none →
    row.ownerHumanPrincipalId ≠ none →
    (db.visibleAmong row.scope row.ownerHumanPrincipalId row.visibility ids = true ∨ db.grantedAmong project.scope ids = true) →
    db.Readable engine asker ids project (some row)
  projects : ∀ project ∈ db.projects, project.workspaceId = workspaceId → project.revokedAt = none →
    project.ownerHumanPrincipalId ≠ none →
    (db.visibleAmong project.scope project.ownerHumanPrincipalId project.visibility ids = true ∨
      ∃ row ∈ db.canvases, row.scope.project = project.scope ∧ row.revokedAt = none ∧
        db.visibleAmong row.scope row.ownerHumanPrincipalId row.visibility ids = true) →
    db.Readable engine asker ids project none ∨ ∃ row ∈ db.canvases, row.scope.project = project.scope ∧
      row.revokedAt = none ∧ db.Readable engine asker ids project (some row)

structure ListsAsDecided (sha256 : Sha256) (engine : LatestFirst) (db : ServerDatabase) (workspaceId asker : String)
    (limit : PageLimit) : Prop where
  canvases : ∀ projectId canvasId, db.CanvasShown sha256 workspaceId projectId canvasId ⟨.human, asker⟩ limit ↔
    (db.decideCanvas engine workspaceId projectId canvasId ⟨.human, asker⟩).allowed
  projects : ∀ projectId, db.ProjectShown sha256 workspaceId projectId ⟨.human, asker⟩ limit ↔
    (db.decideProject engine workspaceId projectId ⟨.human, asker⟩).allowed ∨
      ∃ canvasId, (db.decideCanvas engine workspaceId projectId canvasId ⟨.human, asker⟩).allowed

theorem decideCanvas_allowed_iff : (db.decideCanvas engine workspaceId projectId canvasId ⟨.human, asker⟩).allowed ↔
    ∃ ids project row, db.equivalentIds asker = .ok ids ∧ db.projects.find ⟨workspaceId, projectId, none⟩ = some project ∧
      project.revokedAt = none ∧ db.canvases.find ⟨workspaceId, projectId, some canvasId⟩ = some row ∧
      row.revokedAt = none ∧ db.Readable engine asker ids project (some row) := by
  rw [decideCanvas, decideScope_allowed_iff]
  constructor
  · rintro ⟨project, _, ids, projectFound, canvasFound, resolved, readable⟩
    obtain ⟨found, live⟩ := scopeProject_ok.mp projectFound
    rcases scopeCanvas_ok.mp canvasFound with ⟨kind, _⟩ | ⟨row, _, rfl, found', live'⟩
    · cases kind
    · exact ⟨ids, project, row, resolved, found, live, found', live', readable⟩
  · rintro ⟨ids, project, row, resolved, found, live, found', live', readable⟩
    have canvasFound : db.scopeCanvas ⟨workspaceId, projectId, some canvasId⟩ = .ok (some row) :=
      scopeCanvas_ok.mpr (.inr ⟨row, Option.some_ne_none _, rfl, found', live'⟩)
    exact ⟨project, some row, ids, scopeProject_ok.mpr ⟨found, live⟩, canvasFound, resolved, readable⟩

theorem decideProject_allowed_iff : (db.decideProject engine workspaceId projectId ⟨.human, asker⟩).allowed ↔
    ∃ ids project, db.equivalentIds asker = .ok ids ∧ db.projects.find ⟨workspaceId, projectId, none⟩ = some project ∧
      project.revokedAt = none ∧ db.Readable engine asker ids project none := by
  rw [decideProject, decideScope_allowed_iff]
  constructor
  · rintro ⟨project, _, ids, projectFound, canvasFound, resolved, readable⟩
    obtain ⟨found, live⟩ := scopeProject_ok.mp projectFound
    rcases scopeCanvas_ok.mp canvasFound with ⟨_, rfl⟩ | ⟨_, kind, _⟩
    · exact ⟨ids, project, resolved, found, live, readable⟩
    · exact absurd rfl kind
  · rintro ⟨ids, project, resolved, found, live, readable⟩
    exact ⟨project, none, ids, scopeProject_ok.mpr ⟨found, live⟩, scopeCanvas_ok.mpr (.inl ⟨rfl, rfl⟩), resolved, readable⟩

variable {scope : AccessScope} {project : InternalProjectRecord}

theorem grantedAmong_iff : db.grantedAmong scope ids = true ↔
    ∃ row ∈ db.grants, row.scope = scope ∧ row.humanPrincipalId ∈ ids ∧ row.revokedAt = none := by
  simp only [grantedAmong, any_eq_true, decide_eq_true_eq]
  exact Iff.rfl

theorem granted_of_newest {grant : MembershipGrant}
    (newest : grant ∈ db.newestGrant engine scope ids) (unrevoked : grant.revokedAt = none) :
    db.grantedAmong scope ids = true := by
  obtain ⟨member, placed, person⟩ := newestGrant_scope newest
  exact grantedAmong_iff.mpr ⟨grant, member, placed, person, unrevoked⟩

theorem visibleAmong_iff {owner : Option String} {visibility : Visibility} :
    db.visibleAmong scope owner visibility ids = true ↔
      (∃ id ∈ owner, id ∈ ids) ∨ visibility = .shared ∨ db.grantedAmong scope ids = true := by
  simp [visibleAmong, ownedAmong, Option.any_eq_true, or_assoc]

theorem mem_equivalentIds_self (resolved : db.equivalentIds asker = .ok ids) : asker ∈ ids := by
  obtain ⟨canonical, found, _⟩ := bind_ok.mp resolved
  have ends := resolveCanonical_ok.mp found
  exact (mem_equivalentIds resolved).mpr ⟨canonical, ends, ends⟩

theorem Readable.visible (own : asker ∈ ids) (readable : db.Readable engine asker ids project (some row)) :
    db.visibleAmong row.scope row.ownerHumanPrincipalId row.visibility ids = true ∨ db.grantedAmong project.scope ids = true := by
  rw [visibleAmong_iff]
  rcases readable.admitted with owner | shared | ⟨grant, newest, unrevoked⟩ | ⟨_, same, grant, newest, unrevoked⟩
  · exact .inl (.inl ⟨asker, owner, own⟩)
  · exact .inl (.inr (.inl shared))
  · exact .inr (granted_of_newest newest unrevoked)
  · cases same
    exact .inl (.inr (.inr (granted_of_newest newest unrevoked)))

theorem Readable.visible_project (own : asker ∈ ids) (readable : db.Readable engine asker ids project none) :
    db.visibleAmong project.scope project.ownerHumanPrincipalId project.visibility ids = true := by
  rw [visibleAmong_iff]
  rcases readable.admitted with owner | shared | ⟨_, newest, unrevoked⟩ | ⟨_, same, _⟩
  · exact .inl ⟨asker, owner, own⟩
  · exact .inr (.inl shared)
  · exact .inr (.inr (granted_of_newest newest unrevoked))
  · cases same

theorem canvasShown_of_allowed (allowed : (db.decideCanvas engine workspaceId projectId canvasId ⟨.human, asker⟩).allowed) :
    db.CanvasShown sha256 workspaceId projectId canvasId ⟨.human, asker⟩ limit := by
  obtain ⟨ids, project, row, resolved, found, live, found', live', readable⟩ := decideCanvas_allowed_iff.mp allowed
  have placed : project.workspaceId = workspaceId := congrArg AccessScope.workspaceId (find_eq_some.mp found).2
  have placed' := (find_eq_some.mp found').2
  have active : db.activeAmong workspaceId ids = true := placed ▸ readable.active
  refine canvasShown_iff.mpr ⟨ids, row, resolved, found', canvasListed_iff.mpr ⟨project, ?_, ?_⟩⟩
  · rw [placed']
    exact found
  · exact ⟨congrArg AccessScope.workspaceId placed', congrArg AccessScope.projectId placed', live', live,
      readable.canvasOwned row rfl, active, readable.visible (mem_equivalentIds_self resolved)⟩

theorem projectShown_of_allowed (allowed : (db.decideProject engine workspaceId projectId ⟨.human, asker⟩).allowed ∨
      ∃ canvasId, (db.decideCanvas engine workspaceId projectId canvasId ⟨.human, asker⟩).allowed) :
    db.ProjectShown sha256 workspaceId projectId ⟨.human, asker⟩ limit := by
  rcases allowed with allowed | ⟨_, allowed⟩
  · obtain ⟨ids, project, resolved, found, live, readable⟩ := decideProject_allowed_iff.mp allowed
    have placed : project.workspaceId = workspaceId := congrArg AccessScope.workspaceId (find_eq_some.mp found).2
    refine projectShown_iff.mpr ⟨ids, project, resolved, found, projectListed_iff.mpr ⟨placed, live, ?_⟩⟩
    exact ⟨readable.projectOwned, placed ▸ readable.active, .inl (readable.visible_project (mem_equivalentIds_self resolved))⟩
  · obtain ⟨ids, project, row, resolved, found, live, found', live', readable⟩ := decideCanvas_allowed_iff.mp allowed
    have keyed := (find_eq_some.mp found).2
    have placed : project.workspaceId = workspaceId := congrArg AccessScope.workspaceId keyed
    obtain ⟨stored, keyed'⟩ := find_eq_some.mp found'
    refine projectShown_iff.mpr ⟨ids, project, resolved, found, projectListed_iff.mpr ⟨placed, live, ?_⟩⟩
    refine ⟨readable.projectOwned, placed ▸ readable.active, ?_⟩
    rcases readable.visible (mem_equivalentIds_self resolved) with seen | granted
    · exact .inr ⟨row, stored, by rw [keyed, keyed']; rfl, live', seen⟩
    · exact .inl (visibleAmong_iff.mpr (.inr (.inr granted)))

theorem lists_of_settled (settled : ∀ ids, db.equivalentIds asker = .ok ids → db.activeAmong workspaceId ids = true →
      db.Settled engine workspaceId asker ids) : db.ListsAsDecided sha256 engine workspaceId asker limit where
  canvases projectId canvasId := by
    refine ⟨fun shown => ?_, canvasShown_of_allowed⟩
    obtain ⟨ids, row, resolved, found', listed⟩ := canvasShown_iff.mp shown
    obtain ⟨project, found, _, _, live', live, owned, active, seen⟩ := canvasListed_iff.mp listed
    obtain ⟨stored, keyed⟩ := find_eq_some.mp found
    obtain ⟨stored', keyed'⟩ := find_eq_some.mp found'
    rw [keyed'] at keyed found
    have readable := (settled ids resolved active).canvases project stored row stored'
      (congrArg AccessScope.workspaceId keyed) (by rw [keyed', keyed]) live live' owned seen
    exact decideCanvas_allowed_iff.mpr ⟨ids, project, row, resolved, found, live, found', live', readable⟩
  projects projectId := by
    refine ⟨fun shown => ?_, projectShown_of_allowed⟩
    obtain ⟨ids, project, resolved, found, listed⟩ := projectShown_iff.mp shown
    obtain ⟨placed, live, owned, active, seen⟩ := projectListed_iff.mp listed
    obtain ⟨stored, keyed⟩ := find_eq_some.mp found
    rcases (settled ids resolved active).projects project stored placed live owned seen with
      readable | ⟨row, stored', within, live', readable⟩
    · exact .inl (decideProject_allowed_iff.mpr ⟨ids, project, resolved, found, live, readable⟩)
    have keyed' : row.scope = ⟨workspaceId, projectId, some row.canvasId⟩ := by
      rw [keyed] at within
      cases within
      rfl
    exact .inr ⟨row.canvasId, decideCanvas_allowed_iff.mpr
      ⟨ids, project, row, resolved, found, live, keyed' ▸ find_of_mem stored', live', readable⟩⟩

theorem settled_of_lists (lists : db.ListsAsDecided sha256 engine workspaceId asker limit)
    (resolved : db.equivalentIds asker = .ok ids) (active : db.activeAmong workspaceId ids = true) :
    db.Settled engine workspaceId asker ids where
  canvases project stored row stored' placed within live live' owned seen := by
    have placed' : row.workspaceId = workspaceId := (congrArg AccessScope.workspaceId within).trans placed
    have keyed' : row.scope = ⟨workspaceId, row.projectId, some row.canvasId⟩ := by rw [← placed']; rfl
    have found' := keyed' ▸ find_of_mem stored'
    have found := within ▸ find_of_mem stored
    have listed : db.canvasListed workspaceId row.projectId ids row = true :=
      canvasListed_iff.mpr ⟨project, found, placed', rfl, live', live, owned, active, seen⟩
    have allowed := (lists.canvases row.projectId row.canvasId).mp (canvasShown_iff.mpr ⟨ids, row, resolved, found', listed⟩)
    obtain ⟨_, _, _, resolved', other, _, other', _, readable⟩ := decideCanvas_allowed_iff.mp allowed
    rw [resolved] at resolved'
    rw [found'] at other'
    rw [keyed'] at found
    cases resolved'
    cases other'
    cases found.symm.trans other
    exact readable
  projects project stored placed live owned seen := by
    have keyed : project.scope = ⟨workspaceId, project.projectId, none⟩ := by rw [← placed]; rfl
    have found := keyed ▸ find_of_mem stored
    have listed : db.projectListed workspaceId ids project = true :=
      projectListed_iff.mpr ⟨placed, live, owned, active, seen⟩
    rcases (lists.projects project.projectId).mp (projectShown_iff.mpr ⟨ids, project, resolved, found, listed⟩) with
      allowed | ⟨canvasId, allowed⟩
    · obtain ⟨_, _, resolved', other, _, readable⟩ := decideProject_allowed_iff.mp allowed
      rw [resolved] at resolved'
      cases resolved'
      cases found.symm.trans other
      exact .inl readable
    · obtain ⟨_, _, row, resolved', other, _, found', live', readable⟩ := decideCanvas_allowed_iff.mp allowed
      rw [resolved] at resolved'
      cases resolved'
      cases found.symm.trans other
      obtain ⟨stored', keyed'⟩ := find_eq_some.mp found'
      exact .inr ⟨row, stored', by rw [keyed', keyed]; rfl, live', readable⟩

/-- Each item is on the pages once, what the policy allows is shown, and all that is shown is allowed exactly when the rows
that reach the person are settled. -/
theorem listings_match_decisions (sha256 : Sha256) (engine : LatestFirst) (db : ServerDatabase) (workspaceId asker : String)
    (limit : PageLimit) :
    (∀ projectId count items, db.canvasPages sha256 workspaceId projectId ⟨.human, asker⟩ limit count = .ok items →
      (items.map AccessRecord.scope).Nodup) ∧
    (∀ count items, db.projectPages sha256 workspaceId ⟨.human, asker⟩ limit count = .ok items →
      (items.map AccessRecord.scope).Nodup) ∧
    (∀ projectId canvasId, (db.decideCanvas engine workspaceId projectId canvasId ⟨.human, asker⟩).allowed →
      db.CanvasShown sha256 workspaceId projectId canvasId ⟨.human, asker⟩ limit) ∧
    (∀ projectId, (db.decideProject engine workspaceId projectId ⟨.human, asker⟩).allowed ∨
        (∃ canvasId, (db.decideCanvas engine workspaceId projectId canvasId ⟨.human, asker⟩).allowed) →
      db.ProjectShown sha256 workspaceId projectId ⟨.human, asker⟩ limit) ∧
    (db.ListsAsDecided sha256 engine workspaceId asker limit ↔
      ∀ ids, db.equivalentIds asker = .ok ids → db.activeAmong workspaceId ids = true →
        db.Settled engine workspaceId asker ids) := by
  refine ⟨?_, ?_, ?_, ?_, ?_, ?_⟩
  · intro projectId count items shown
    exact pagesOf_nodup canvas_seen (fun _ => rfl) shown
  · intro count items shown
    exact pagesOf_nodup project_seen (fun _ => rfl) shown
  · intro projectId canvasId allowed
    exact canvasShown_of_allowed allowed
  · intro projectId allowed
    exact projectShown_of_allowed allowed
  · intro lists ids resolved active
    exact settled_of_lists lists resolved active
  · intro settled
    exact lists_of_settled settled

end Agreement

/-- The merged editor still sees the project on the pages, and may not read it. -/
theorem listed_project_denied :
    mergedDatabase.ProjectShown mergeSha256 "w" "p" ⟨.human, "bo"⟩ ⟨100, by decide, by decide⟩ ∧
    ¬ (mergedDatabase.decideProject .earliest "w" "p" ⟨.human, "bo"⟩).allowed ∧
    ¬ ∃ canvasId, (mergedDatabase.decideCanvas .earliest "w" "p" canvasId ⟨.human, "bo"⟩).allowed := by
  have denied : mergedDatabase.decideProject .earliest "w" "p" ⟨.human, "bo"⟩ = .deny .missing 0 := by decide +kernel
  have resolved : mergedDatabase.equivalentIds "bo" = .ok ["bo", "cy"] := by decide +kernel
  have found : mergedDatabase.projects.find ⟨"w", "p", none⟩ = some ⟨"w", "p", none, .«private», some "ana", 2, "t2", none⟩ := by
    decide +kernel
  refine ⟨projectShown_iff.mpr ⟨_, _, resolved, found, by decide +kernel⟩, ?_, ?_⟩
  · rw [denied]
    exact id
  rintro ⟨_, allowed⟩
  obtain ⟨_, _, _, _, _, _, present, _⟩ := decideCanvas_allowed_iff.mp allowed
  have empty : mergedDatabase.canvases.rows = [] := by decide +kernel
  have member := (find_eq_some.mp present).1
  rw [mem_rows, empty] at member
  cases member

end ServerDatabase
end PlanWeave.Access
