import PlanWeave.RunIndex.PageEdits
import PlanWeave.RunIndex.TreeBuild
import PlanWeave.RunIndex.Storage

namespace PlanWeave
open Checked IndexTree List
variable {host : IndexHost} {store : IndexStore} {manifest : BlockRunIndexManifest} {location : DescriptorLocation}
  {page edited : BlockRunPage} {pages before after : List BlockRunPage} {mutation : BlockRunIndexMutation}
  {children : List PageTree}

inductive EntryEdit (host : IndexHost) (manifest : BlockRunIndexManifest) (page : BlockRunPage) :
    BlockRunIndexMutation → BlockRunPage → Prop where
  | removed {cursor : BlockRunLogicalCursor} {removed : BlockRunIndexEntry} (present : removed ∈ page) :
    EntryEdit host manifest page (.remove cursor removed.runId) (page.filter fun entry => entry.runId ≠ removed.runId)
  | marked {mutation : BlockRunIndexMutation} {index : Nat} {existing : BlockRunIndexEntry} (found : page[index]? = some existing)
    (same : existing.runId = mutation.runId) : EntryEdit host manifest page mutation (page.set index existing.marked)
  | inserted {facts : BlockRunFacts} (absent : ∀ entry ∈ page, entry.runId ≠ facts.runId) :
    EntryEdit host manifest page (.upsert facts) (sortEntries host (page ++ [facts.indexed (manifest.maxRetryIndex + 1)]))

variable {existing : BlockRunIndexEntry} {change : PageChange}
variable {runId : String} {page : BlockRunPage} {build : TreeBuild}

theorem found_existing
    (found : page[runPosition page runId]? = some existing) : existing.runId = runId := by
  obtain ⟨inside, same⟩ := List.getElem?_eq_some_iff.mp found
  have passes : decide (page[runPosition page runId].runId = runId) = true :=
    @List.findIdx_getElem _ (fun entry : BlockRunIndexEntry => decide (entry.runId = runId)) page inside
  rw [same] at passes
  exact of_decide_eq_true passes

theorem absent_of_none (none : page[runPosition page runId]? = none) : ∀ entry ∈ page, entry.runId ≠ runId := by
  intro entry member same
  have inside : runPosition page runId < page.length :=
    findIdx_lt_length.mpr ⟨entry, member, decide_eq_true same⟩
  rw [getElem?_eq_none_iff] at none
  omega

/-- The pages and the record that a change puts in the place of a page. -/
def ChangesTo (host : IndexHost) (manifest : BlockRunIndexManifest) (page : BlockRunPage) (mutation : BlockRunIndexMutation)
    (change : PageChange) : Prop :=
  ∃ replacement, EntryEdit host manifest page mutation replacement.flatten ∧
    change.replacement = replacement.map (descriptorOf host) ∧ Replaces host page replacement change.newPages

theorem markInPage_changes {marks : Bool} (filled : PageFilled page)
    (found : page[runPosition page mutation.runId]? = some existing)
    (ran : markInPage host manifest page (runPosition page mutation.runId) existing marks = .ok (some change)) :
    ChangesTo host manifest page mutation change := by
  rw [markInPage_ok filled] at ran
  split at ran
  · cases ran
  · cases ran
    refine ⟨[_], ?_, rfl, Replaces.single (filled.set _ existing.marked) page⟩
    rw [flatten_singleton]
    exact EntryEdit.marked found (found_existing found)

theorem planPageChange_edit (free : host.CollisionFree) (filled : PageFilled page) (ordered : Chronological host page)
    (described : location.descriptor = descriptorOf host page)
    (planned : planPageChange host store manifest location page mutation = .ok (some change)) :
    ChangesTo host manifest page mutation change := by
  unfold planPageChange at planned
  split at planned
  · rename_i found
    cases mutation with
    | remove => cases planned
    | markArtifact => cases planned
    | upsert facts =>
      obtain ⟨replacement, _, inserted, replaces, flat, _⟩ :=
        insertChange_ok free filled ordered described (facts.indexed (manifest.maxRetryIndex + 1))
      rw [planAbsentRun, inserted] at planned
      cases planned
      refine ⟨replacement, ?_, rfl, replaces⟩
      rw [flat]
      exact EntryEdit.inserted (absent_of_none found)
  · rename_i existing found
    cases mutation with
    | remove _ runId =>
      unfold planExistingRun at planned
      cases ran : removeFromPage host store manifest location page existing with
      | error => rw [ran] at planned; cases planned
      | ok =>
        rw [ran] at planned
        cases planned
        obtain ⟨replacement, replaced, replaces, flat⟩ := removeFromPage_ok filled ran
        refine ⟨replacement, ?_, replaced, replaces⟩
        have same : existing.runId = runId := found_existing found
        subst same
        rw [flat]
        exact EntryEdit.removed (mem_of_getElem? found)
    | markArtifact => exact markInPage_changes filled found planned
    | upsert => exact markInPage_changes filled found planned

theorem map_set_of_eq {α : Type} {field : BlockRunIndexEntry → α} {index : Nat} {changed : BlockRunIndexEntry}
    (found : page[index]? = some existing) (same : field changed = field existing) :
    (page.set index changed).map field = page.map field := by
  apply List.ext_getElem?
  intro position
  rw [List.getElem?_map, List.getElem?_map, List.getElem?_set]
  split
  · rename_i here
    subst here
    obtain ⟨inside, _⟩ := List.getElem?_eq_some_iff.mp found
    rw [if_pos inside, found, Option.map_some, Option.map_some, same]
  · rfl

theorem chronological_iff_cursors (entries : BlockRunPage) :
    Chronological host entries ↔ (entries.map BlockRunIndexEntry.cursor).Pairwise (Upto host) := pairwise_map.symm

theorem located_between {cursor : BlockRunLogicalCursor} (ordered : Chronological host (before ++ page :: after).flatten)
    (filled : ∀ other ∈ before ++ page :: after, other ≠ [])
    (located : locatedAt host cursor (before ++ page :: after) = before.length) :
    (∀ entry ∈ before.flatten, Before host entry.cursor cursor) ∧ (∀ entry ∈ after.flatten, Upto host cursor entry.cursor) := by
  obtain ⟨skipped, reached⟩ := Parts.pick_around located
  constructor
  · intro entry member
    obtain ⟨other, other_member, inside⟩ := mem_flatten.mp member
    have listed : other ∈ before ++ page :: after := mem_append_left _ other_member
    have upto := upto_last (ordered.of_page listed) inside
    exact upto.trans_before (not_upto.mp (of_decide_eq_false (skipped other other_member)))
  · intro entry member
    obtain ⟨_, other_member, _⟩ := mem_flatten.mp member
    have upto : Upto host cursor (lastCursor page) := of_decide_eq_true (reached (ne_nil_of_mem other_member))
    obtain ⟨last, last_member, last_same⟩ := lastCursor_mem (filled page (by simp))
    rw [← last_same] at upto
    refine upto.trans ?_
    rw [flatten_append, flatten_cons] at ordered
    have inner := (pairwise_append.mp ordered).2.1
    exact (pairwise_append.mp inner).2.2 last last_member entry member

theorem EntryEdit.chronological (edit : EntryEdit host manifest page mutation edited)
    (ordered : Chronological host (before ++ page :: after).flatten)
    (filled : ∀ other ∈ before ++ page :: after, other ≠ [])
    (located : locatedAt host mutation.cursor (before ++ page :: after) = before.length) :
    Chronological host (before.flatten ++ edited ++ after.flatten) := by
  have parts := ordered
  rw [flatten_append, flatten_cons, ← append_assoc] at parts
  cases edit with
  | removed =>
    exact List.Pairwise.sublist (((List.Sublist.refl _).append filter_sublist).append (List.Sublist.refl _)) parts
  | @marked _ _ existing found _ =>
    rw [chronological_iff_cursors, map_append, map_append] at parts ⊢
    rw [map_set_of_eq found existing.marked_cursor]
    exact parts
  | @inserted facts _ =>
    obtain ⟨earlier, later⟩ := located_between ordered filled located
    have sources : ∀ entry ∈ sortEntries host (page ++ [facts.indexed (manifest.maxRetryIndex + 1)]),
        entry ∈ page ∨ entry.cursor = facts.toBlockRunLogicalCursor := by
      intro entry member
      rcases mem_append.mp ((sortEntries_perm _).mem_iff.mp member) with old | new
      · exact .inl old
      · rw [mem_singleton.mp new]
        exact .inr rfl
    obtain ⟨front, back, across⟩ := pairwise_append.mp parts
    obtain ⟨front_before, _, front_across⟩ := pairwise_append.mp front
    refine pairwise_append.mpr ⟨pairwise_append.mpr ⟨front_before, sortEntries_chronological _, ?_⟩, back, ?_⟩
    · intro left left_member right right_member
      rcases sources right right_member with old | new
      · exact front_across left left_member right old
      · rw [new]
        exact (earlier left left_member).upto
    · intro left left_member right right_member
      rcases mem_append.mp left_member with old | sorted
      · exact across left (mem_append_left _ old) right right_member
      · rcases sources left sorted with old | new
        · exact across left (mem_append_right _ old) right right_member
        · rw [new]
          exact later right right_member

structure Drafts (host : IndexHost) (children next : List PageTree) (newPages : OrderedMap String BlockRunPage)
    (tree : TreeBuild) (retirement : List RetiredObject) : Prop where
  shape : IndexShape host next
  root : tree.rootNodeId = rootIdOf host next
  nodes : next ≠ [] → ∀ payload ∈ rootPayloads host next,
    identified host payload ∈ tree.nodes ∨ (children ≠ [] ∧ payload ∈ rootPayloads host children)
  addressed : ∀ node ∈ tree.nodes, ∃ payload, node = identified host payload ∧ treePayloadSchema payload = true
  pages : ∀ page ∈ indexPages next, newPages.get? (pageObjectId host page) = some page ∨ page ∈ indexPages children
  keyed : ∀ key page, newPages.get? key = some page → key = pageObjectId host page ∧ PageFilled page
  retired : ∀ candidate ∈ retirement, Retired host candidate
  record : retirementSchema retirement = true

theorem nonempty_pages (shape : IndexShape host children) (nonempty : children ≠ []) : indexPages children ≠ [] := by
  obtain ⟨child, member⟩ := exists_mem_of_ne_nil children nonempty
  intro empty
  exact LevelTree.leaves_ne_nil (shape.bounded child member) (flatten_eq_nil_iff.mp empty _ (mem_map_of_mem member))

theorem located_page (host : IndexHost) (cursor : BlockRunLogicalCursor) (nonempty : pages ≠ []) :
    ∃ before page after, pages = before ++ page :: after ∧ locatedAt host cursor pages = before.length ∧
      pages[locatedAt host cursor pages]? = some page := by
  have inside : locatedAt host cursor pages < pages.length := locatedAt_lt cursor nonempty
  refine ⟨pages.take (locatedAt host cursor pages), pages[locatedAt host cursor pages], pages.drop (locatedAt host cursor pages + 1),
    ?_, ?_, getElem?_eq_getElem inside⟩
  · rw [← drop_eq_getElem_cons inside, take_append_drop]
  · rw [length_take]
    omega

inductive PlanEffect (host : IndexHost) (manifest : BlockRunIndexManifest) (mutation : BlockRunIndexMutation) :
    List BlockRunPage → List BlockRunPage → Prop where
  | first {facts : BlockRunFacts} (upserts : mutation = .upsert facts) :
    PlanEffect host manifest mutation [] [[facts.indexed (manifest.maxRetryIndex + 1)]]
  | edit {before after replacement : List BlockRunPage} {page : BlockRunPage}
    (located : locatedAt host mutation.cursor (before ++ page :: after) = before.length)
    (edit : EntryEdit host manifest page mutation replacement.flatten) :
    PlanEffect host manifest mutation (before ++ page :: after) (before ++ replacement ++ after)

variable {draft : MutationDraft} {replacement : List PageDescriptor}

theorem firstPage_filled (entry : BlockRunIndexEntry) : ∀ page ∈ [[entry]], PageFilled page := by
  intro page member
  rw [mem_singleton.mp member]
  exact ⟨cons_ne_nil _ _, Nat.le_of_ble_eq_true rfl⟩

theorem firstRunDraft_drafts {entry : BlockRunIndexEntry} (drafted : firstRunDraft host entry = .ok draft) :
    ∃ next, Drafts host [] next draft.newPages draft.tree draft.retirement ∧ indexPages next = [[entry]] := by
  have all_filled := firstPage_filled entry
  have filled := all_filled _ mem_cons_self
  unfold firstRunDraft at drafted
  rw [pageDescriptor_ok filled.1] at drafted
  obtain ⟨_, same, drafted⟩ := bind_ok.mp drafted
  cases same
  obtain ⟨tree, built, drafted⟩ := bind_ok.mp drafted
  cases drafted
  obtain ⟨next, made⟩ := (buildTree_ok all_filled).1 tree built
  refine ⟨next, ?_, made.pages⟩
  exact {
    shape := {
      fits := made.fits, bounded := made.bounded
      filled := by rw [made.pages]; exact all_filled
      ordered := by rw [made.pages]; exact pairwise_singleton _ _ }
    root := made.root
    nodes := fun nonempty payload found => .inl (made.covered nonempty payload found)
    addressed := made.addressed
    pages := fun page found => by
      rw [made.pages] at found
      exact (Replaces.single filled []).recorded page found |>.elim .inl fun none => absurd none (all_filled page found).1
    keyed := (Replaces.single filled []).keyed
    retired := fun candidate member => absurd member not_mem_nil
    record := rfl }

theorem retiredPage_ok (filled : PageFilled page)
    (described : location.descriptor = descriptorOf host page) :
    ∀ candidate ∈ retiredPage location replacement, candidate = retiredPageOf host page ∧ Retired host candidate := by
  intro candidate member
  unfold retiredPage at member
  split at member
  · cases member
  · rw [described] at member
    rw [mem_singleton.mp member]
    exact ⟨rfl, Retired.page page filled⟩

theorem retirementSchema_ok {next : List PageTree}
    (rebuilt : IndexRebuilt host children next build) (filled : PageFilled page)
    (described : location.descriptor = descriptorOf host page) :
    retirementSchema (build.retiredObjects ++ retiredPage location replacement) = true := by
  have short : (retiredPage location replacement).length ≤ 1 := by
    unfold retiredPage
    split <;> simp
  unfold retirementSchema
  rw [Bool.and_eq_true, decide_eq_true_eq, all_eq_true]
  constructor
  · rw [length_append, rebuilt.count]
    omega
  intro candidate member
  rw [Bool.and_eq_true, decide_eq_true_eq, decide_eq_true_eq]
  rcases mem_append.mp member with node | page_member
  · obtain ⟨_, _, high⟩ := rebuilt.retired candidate node
    exact ⟨by omega, high⟩
  · rw [(retiredPage_ok filled described candidate page_member).1]
    exact ⟨Int.le_refl _, show (-1 : Int) ≤ 4 by decide⟩

theorem update_drafts (location : DescriptorLocation) {rootNodeId : Option String} (indexed : IndexTree host store rootNodeId children) {replacement : List BlockRunPage}
    (split : indexPages children = before ++ page :: after)
    (located : locatedAt host mutation.cursor (indexPages children) = before.length)
    (replaces : Replaces host page replacement change.newPages)
    (edit : EntryEdit host manifest page mutation replacement.flatten)
    (fits : ¬ blockRunIndexTreeFanout < (nextChildren children before.length replacement).length)
    (rebuilt : IndexRebuilt host children (nextChildren children before.length replacement) build)
    (described : location.descriptor = descriptorOf host page) :
    Drafts host children (nextChildren children before.length replacement) change.newPages build
        (build.retiredObjects ++ retiredPage location (replacement.map (descriptorOf host))) ∧
      indexPages (nextChildren children before.length replacement) = before ++ replacement ++ after := by
  have inside : before.length < (indexPages children).length := by
    rw [split]
    simp
  have nonempty : children ≠ [] := by
    intro none
    rw [none] at inside
    cases inside
  have pages_same : indexPages (nextChildren children before.length replacement) = before ++ replacement ++ after := by
    rw [indexPages_nextChildren inside, split, Parts.splice_middle]
  have old_filled : ∀ other ∈ before ++ page :: after, PageFilled other := by
    rw [← split]
    exact indexed.shape.filled
  have page_filled : PageFilled page := old_filled page (by simp)
  refine ⟨?_, pages_same⟩
  exact {
    shape := {
      fits := Nat.not_lt.mp fits
      bounded := bounded_nextChildren (replaces.short.trans (by decide)) inside indexed.shape.bounded
      filled := by
        rw [pages_same]
        intro other member
        simp only [mem_append] at member
        rcases member with (front | middle) | back
        · exact old_filled other (by simp [front])
        · exact replaces.filled other middle
        · exact old_filled other (by simp [back])
      ordered := by
        rw [pages_same, flatten_append, flatten_append]
        refine edit.chronological (split ▸ indexed.shape.ordered) (fun other member => (old_filled other member).1) ?_
        rw [← split]
        exact located }
    root := rebuilt.root
    nodes := fun filled payload found => (rebuilt.covered filled payload found).imp id fun old => ⟨nonempty, old⟩
    addressed := rebuilt.addressed
    pages := fun other found => by
      rw [pages_same] at found
      rw [split]
      simp only [mem_append] at found
      rcases found with (front | middle) | back
      · exact .inr (by simp [front])
      · rcases replaces.recorded other middle with new | old
        · exact .inl new
        · exact .inr (by simp [old])
      · exact .inr (by simp [back])
    keyed := replaces.keyed
    retired := fun candidate member => by
      rcases mem_append.mp member with node | page_member
      · exact (rebuilt.retired candidate node).1
      · exact (retiredPage_ok page_filled described candidate page_member).2
    record := retirementSchema_ok rebuilt page_filled described }

theorem plan_drafts (free : host.CollisionFree) (indexed : IndexTree host store manifest.rootNodeId children)
    (agrees : manifest.pageCount = 0 ↔ children = [])
    (planned : planBlockRunIndexV5Mutation host store manifest mutation = .ok (.publish draft)) :
    ∃ next, Drafts host children next draft.newPages draft.tree draft.retirement ∧
      PlanEffect host manifest mutation (indexPages children) (indexPages next) := by
  unfold planBlockRunIndexV5Mutation at planned
  by_cases empty : children = []
  · subst empty
    rw [if_pos (agrees.mpr rfl)] at planned
    cases mutation with
    | markArtifact => cases planned
    | remove => cases planned
    | upsert =>
      obtain ⟨_, drafted, same⟩ := bind_ok.mp planned
      cases same
      obtain ⟨next, drafts, pages_same⟩ := firstRunDraft_drafts drafted
      refine ⟨next, drafts, ?_⟩
      rw [pages_same]
      exact PlanEffect.first rfl
  · rw [if_neg fun zero => empty (agrees.mp zero), indexed.rootId empty] at planned
    obtain ⟨before, page, _, split, position, found⟩ :=
      located_page host mutation.cursor (nonempty_pages indexed.shape empty)
    have page_member : page ∈ indexPages children := by rw [split]; simp
    have page_filled := indexed.shape.filled page page_member
    simp only [indexed.locate empty mutation.cursor found] at planned
    obtain ⟨_, same, planned⟩ := bind_ok.mp planned
    cases same
    rw [indexed.readPage page_member] at planned
    obtain ⟨_, same, planned⟩ := bind_ok.mp planned
    cases same
    obtain ⟨outcome, changed, planned⟩ := bind_ok.mp planned
    cases outcome with
    | none => cases planned
    | some =>
      obtain ⟨_, updated, planned⟩ := bind_ok.mp planned
      cases planned
      obtain ⟨_, edit, replaced, replaces⟩ :=
        planPageChange_edit free page_filled (indexed.shape.ordered.of_page page_member) rfl changed
      have inside : before.length < (indexPages children).length := by
        rw [split]
        simp
      have outcome := indexed.update (replaces.short.trans (by decide)) replaces.filled inside
      rw [position, replaced] at updated
      rw [updated] at outcome
      split at outcome
      · cases outcome
      rename_i fits
      obtain ⟨_, same, rebuilt⟩ := outcome
      cases same
      obtain ⟨drafts, pages_same⟩ := update_drafts ⟨before.length, descriptorOf host page⟩ indexed split
        position replaces edit fits rebuilt rfl
      refine ⟨_, by rw [replaced, position]; exact drafts, ?_⟩
      rw [pages_same, split]
      exact PlanEffect.edit (split ▸ position) edit

end PlanWeave
