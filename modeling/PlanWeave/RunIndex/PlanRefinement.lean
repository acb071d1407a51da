import PlanWeave.RunIndex.ListSemantics

namespace PlanWeave
open Checked List
variable {host : IndexHost} {store : IndexStore} {manifest : BlockRunIndexManifest} {children : List PageTree}
  {before after replacement : List BlockRunPage} {page : BlockRunPage} {newPages : OrderedMap String BlockRunPage}

variable {index : Nat} {cursor : BlockRunLogicalCursor}

section Replaced
variable (indexed : IndexTree host store manifest.rootNodeId children) (split : indexPages children = before ++ page :: after)
variable {other : BlockRunPage}
include indexed split in
theorem descriptorAfterReplacement_ok (found : (before ++ replacement ++ after)[index]? = some other) :
    descriptorAfterReplacement host store manifest before.length (replacement.map (descriptorOf host)) index =
      .ok (descriptorOf host other) := by
  have nonempty : children ≠ [] := by
    intro empty
    rw [empty] at split
    exact absurd split (by simp [indexPages])
  have old : ∀ position, (before ++ page :: after)[position]? = some other →
      readBlockRunIndexV5DescriptorAt host store (nodeObjectId host (rootPayload host children)) position =
        .ok (descriptorOf host other) := by
    intro position at_position
    refine indexed.descriptorAt ?_
    rw [split]
    exact at_position
  unfold descriptorAfterReplacement
  rw [indexed.rootId nonempty]
  by_cases early : index < before.length
  · rw [if_neg (Nat.not_le.mpr early)]
    simp only [if_pos early]
    refine old index ?_
    rw [getElem?_append_left early]
    rw [append_assoc, getElem?_append_left early] at found
    exact found
  · rw [if_pos (Nat.not_lt.mp early)]
    rw [append_assoc, getElem?_append_right (Nat.not_lt.mp early)] at found
    by_cases inside : index - before.length < replacement.length
    · rw [getElem?_append_left inside] at found
      rw [getElem?_map, found]
      rfl
    · rw [getElem?_append_right (Nat.not_lt.mp inside)] at found
      rw [getElem?_eq_none (by rw [length_map]; exact Nat.not_lt.mp inside)]
      simp only [if_neg early, length_map]
      refine old _ ?_
      rw [getElem?_append_right (by omega),
        show index + 1 - replacement.length - before.length = (index - before.length - replacement.length) + 1 by omega,
        getElem?_cons_succ]
      exact found

include indexed split in
theorem entriesAfterReplacement_ok (free : host.CollisionFree) (replaces : Replaces host page replacement newPages)
    (found : (before ++ replacement ++ after)[index]? = some other) :
    entriesAfterReplacement host store manifest before.length (replacement.map (descriptorOf host)) newPages index = .ok other := by
  unfold entriesAfterReplacement
  rw [descriptorAfterReplacement_ok indexed split found]
  refine bind_ok.mpr ⟨descriptorOf host other, rfl, ?_⟩
  have named : (descriptorOf host other).objectId = pageObjectId host other := rfl
  rw [named]
  cases recorded : newPages.get? (pageObjectId host other) with
  | some entries =>
    simp only [pageObjectId_injective free (replaces.keyed _ entries recorded).1]
    rfl
  | none =>
    refine indexed.readPage ?_
    have member := mem_of_getElem? found
    rw [split]
    simp only [mem_append] at member
    rcases member with (front | middle) | back
    · simp [front]
    · rcases replaces.recorded other middle with new | same
      · rw [recorded] at new
        cases new
      · simp [same]
    · simp [back]

include indexed split in
theorem findLatestArtifact_ok (free : host.CollisionFree) (replaces : Replaces host page replacement newPages) : ∀ {count : Nat},
    count ≤ (before ++ replacement ++ after).length →
    findLatestArtifact host store manifest before.length (replacement.map (descriptorOf host)) newPages count =
      .ok ((((before ++ replacement ++ after).take count).flatten.filter BlockRunIndexEntry.hasArtifact).getLast?)
  | 0, _ => rfl
  | count + 1, bound => by
    have inside : count < (before ++ replacement ++ after).length := bound
    have found : (before ++ replacement ++ after)[count]? = some (before ++ replacement ++ after)[count] :=
      getElem?_eq_getElem inside
    unfold findLatestArtifact
    rw [entriesAfterReplacement_ok indexed split free replaces found]
    rw [take_add_one, found, Option.toList_some, flatten_append, flatten_singleton, filter_append,
      getLast?_append]
    refine bind_ok.mpr ⟨_, rfl, ?_⟩
    cases ((before ++ replacement ++ after)[count].filter BlockRunIndexEntry.hasArtifact).getLast? with
    | some => rfl
    | none =>
      rw [findLatestArtifact_ok free replaces (Nat.le_of_lt inside)]
      rfl

include indexed split in
theorem readHeadAfterReplacement_ok (free : host.CollisionFree) (replaces : Replaces host page replacement newPages)
    (filled : ∀ other ∈ before ++ replacement ++ after, other ≠ []) :
    readHeadAfterReplacement host store manifest before.length (replacement.map (descriptorOf host)) newPages
      (before ++ replacement ++ after).length = .ok (before ++ replacement ++ after).flatten.getLast? := by
  unfold readHeadAfterReplacement
  rcases eq_nil_or_concat (before ++ replacement ++ after) with empty | ⟨front, last, same⟩
  · rw [empty]
    rfl
  rw [concat_eq_append] at same
  have found : (before ++ replacement ++ after)[front.length]? = some last := by
    rw [same]
    simp
  have length : (before ++ replacement ++ after).length = front.length + 1 := by
    rw [same]
    simp
  rw [length, if_neg (by omega)]
  show (entriesAfterReplacement host store manifest before.length (replacement.map (descriptorOf host)) newPages
    front.length >>= _) = _
  rw [entriesAfterReplacement_ok indexed split free replaces found, same, flatten_append, flatten_singleton,
    getLast?_append]
  have last_filled : last ≠ [] := filled last (by rw [same]; simp)
  rw [getLast?_eq_some_getLast last_filled]
  exact congrArg Except.ok (getLast?_eq_some_getLast last_filled)

end Replaced

/-- A run that is indexed is stored under the mutation's own cursor. -/
def OwnCursor (entries : BlockRunPage) (mutation : BlockRunIndexMutation) : Prop :=
  ∀ entry ∈ entries, entry.runId = mutation.runId → entry.cursor = mutation.cursor

def NewPosition (host : IndexHost) (entries : BlockRunPage) (mutation : BlockRunIndexMutation) : Prop :=
  ∀ facts, mutation = .upsert facts → ∀ entry ∈ entries, entry.runId ≠ facts.runId →
    ¬ Tied host entry.cursor facts.toBlockRunLogicalCursor

structure WellFormedPages (host : IndexHost) (manifest : BlockRunIndexManifest) (pages : List BlockRunPage) : Prop where
  summary : Summarizes host pages.flatten manifest.total manifest.maxRetryIndex manifest.head manifest.latestArtifact
  pageCount : manifest.pageCount = pages.length
  ordered : StrictlyChronological host pages.flatten
  distinct : DistinctRuns pages.flatten
  filled : ∀ page ∈ pages, PageFilled page

variable {mutation : BlockRunIndexMutation}
variable {entry : BlockRunIndexEntry}

theorem located_holds
    (ordered : StrictlyChronological host (before ++ page :: after).flatten) (filled : ∀ other ∈ before ++ page :: after, other ≠ [])
    (located : locatedAt host cursor (before ++ page :: after) = before.length)
    (member : entry ∈ (before ++ page :: after).flatten) (same : entry.cursor = cursor) : entry ∈ page := by
  obtain ⟨earlier, _⟩ := located_between ordered.chronological filled located
  obtain ⟨_, reached⟩ := Parts.pick_around located
  rw [flatten_append, flatten_cons] at member ordered
  rcases mem_append.mp member with front | rest
  · exact absurd (same ▸ earlier entry front) (Before.irrefl _)
  rcases mem_append.mp rest with here | back
  · exact here
  obtain ⟨_, other_member, _⟩ := mem_flatten.mp back
  have upto : Upto host cursor (lastCursor page) := of_decide_eq_true (reached (ne_nil_of_mem other_member))
  obtain ⟨last, last_member, last_same⟩ := lastCursor_mem (filled page (by simp))
  have inner := (pairwise_append.mp ordered).2.1
  have later : Before host last.cursor entry.cursor := (pairwise_append.mp inner).2.2 last last_member entry back
  rw [← last_same, ← same] at upto
  exact absurd upto (not_upto.mpr later)

theorem absent_around (distinct : DistinctRuns (before ++ page :: after).flatten) {existing : BlockRunIndexEntry}
    (member : existing ∈ page) :
    (∀ entry ∈ before.flatten, entry.runId ≠ existing.runId) ∧ ∀ entry ∈ after.flatten, entry.runId ≠ existing.runId := by
  unfold DistinctRuns at distinct
  rw [flatten_append, flatten_cons, map_append, map_append, nodup_append, nodup_append] at distinct
  obtain ⟨_, ⟨_, _, inner⟩, outer⟩ := distinct
  constructor
  · intro entry inside
    exact outer _ (mem_map_of_mem inside) _ (mem_append_left _ (mem_map_of_mem member))
  · intro entry inside same
    exact inner _ (mem_map_of_mem member) _ (mem_map_of_mem inside) same.symm

theorem position_agrees (fields : WellFormedPages host manifest (before ++ page :: after))
    (own : OwnCursor (before ++ page :: after).flatten mutation)
    (located : locatedAt host mutation.cursor (before ++ page :: after) = before.length) :
    page[runPosition page mutation.runId]? =
      (before ++ page :: after).flatten[runPosition (before ++ page :: after).flatten mutation.runId]? := by
  have sources : ∀ entry ∈ page, entry ∈ (before ++ page :: after).flatten :=
    fun entry member => mem_flatten.mpr ⟨page, by simp, member⟩
  cases listed : (before ++ page :: after).flatten[runPosition (before ++ page :: after).flatten mutation.runId]? with
  | none =>
    cases found : page[runPosition page mutation.runId]? with
    | none => rfl
    | some existing =>
      exact absurd (found_existing found) (absent_of_none listed existing (sources existing (mem_of_getElem? found)))
  | some existing =>
    have listed_same := found_existing listed
    have listed_member := mem_of_getElem? listed
    have inside := located_holds fields.ordered (fun other member => (fields.filled other member).1) located listed_member
      (own existing listed_member listed_same)
    cases found : page[runPosition page mutation.runId]? with
    | none => exact absurd listed_same (absent_of_none found existing inside)
    | some other =>
      rw [fields.distinct.eq (sources other (mem_of_getElem? found)) listed_member
        ((found_existing found).trans listed_same.symm)]

def AddsRun (entries : BlockRunPage) (mutation : BlockRunIndexMutation) : Prop :=
  ∃ facts, mutation = .upsert facts ∧ ∀ entry ∈ entries, entry.runId ≠ facts.runId

/-- A change of a page that has the effect of the mutation on the whole list. -/
structure ChangeRefines (host : IndexHost) (manifest : BlockRunIndexManifest) (before after : List BlockRunPage) (page : BlockRunPage)
    (mutation : BlockRunIndexMutation) (next : BlockRunPage) (change : PageChange) (replacement : List BlockRunPage) : Prop where
  replaced : change.replacement = replacement.map (descriptorOf host)
  replaces : Replaces host page replacement change.newPages
  edit : EntryEdit host manifest page mutation replacement.flatten
  entries : (before ++ replacement ++ after).flatten = sortEntries host next
  ordered : StrictlyChronological host (before ++ replacement ++ after).flatten
  distinct : DistinctRuns (before ++ replacement ++ after).flatten
  summary : Summarizes host (before ++ replacement ++ after).flatten change.total change.maxRetryIndex change.head
    change.latestArtifact
  splits : replacement.length = 2 → AddsRun (before ++ page :: after).flatten mutation ∧ page.length = blockRunIndexPageSize

theorem insert_perm (before after : BlockRunPage) (entry : BlockRunIndexEntry) :
    (before ++ sortEntries host (page ++ [entry]) ++ after).Perm (entry :: (before ++ page ++ after)) := by
  refine (((List.Perm.refl _).append (sortEntries_perm _)).append (List.Perm.refl _)).trans ?_
  rw [← append_assoc, append_assoc _ [_]]
  exact perm_middle

variable {location : DescriptorLocation} {next : BlockRunPage} {existing : BlockRunIndexEntry}

theorem insertChange_refines (free : host.CollisionFree) (fields : WellFormedPages host manifest (before ++ page :: after))
    (located : locatedAt host mutation.cursor (before ++ page :: after) = before.length)
    (described : location.descriptor = descriptorOf host page) {facts : BlockRunFacts} (upserts : mutation = .upsert facts)
    (absent : ∀ entry ∈ (before ++ page :: after).flatten, entry.runId ≠ facts.runId)
    (apart : NewPosition host (before ++ page :: after).flatten mutation) :
    ∃ change replacement, insertChange host manifest location page (facts.indexed (manifest.maxRetryIndex + 1)) = .ok change ∧
      ChangeRefines host manifest before after page mutation
        ((before ++ page :: after).flatten ++ [facts.indexed (manifest.maxRetryIndex + 1)]) change replacement := by
  subst upserts
  have page_member : page ∈ before ++ page :: after := by simp
  have ordered := fields.ordered.chronological
  obtain ⟨replacement, _, inserted, replaces, flat, full⟩ := insertChange_ok free (fields.filled page page_member)
    (ordered.of_page page_member) described (facts.indexed (manifest.maxRetryIndex + 1))
  refine ⟨_, replacement, inserted, ?_⟩
  have edit : EntryEdit host manifest page (.upsert facts) replacement.flatten := by
    rw [flat]
    exact .inserted fun entry member => absent entry (mem_flatten.mpr ⟨page, page_member, member⟩)
  have joined : (before ++ replacement ++ after).flatten =
      before.flatten ++ sortEntries host (page ++ [facts.indexed (manifest.maxRetryIndex + 1)]) ++ after.flatten := by
    rw [flatten_append, flatten_append, flat]
  have whole : (before ++ page :: after).flatten = before.flatten ++ page ++ after.flatten := by
    rw [flatten_append, flatten_cons, append_assoc]
  have chronological : Chronological host (before ++ replacement ++ after).flatten := by
    rw [flatten_append, flatten_append]
    exact edit.chronological ordered (fun other member => (fields.filled other member).1) located
  have rearranged : (before ++ replacement ++ after).flatten.Perm
      (facts.indexed (manifest.maxRetryIndex + 1) :: (before ++ page :: after).flatten) := by
    rw [joined, whole]
    exact insert_perm before.flatten after.flatten _
  have untied : Untied host ((before ++ page :: after).flatten ++ [facts.indexed (manifest.maxRetryIndex + 1)]) := by
    refine pairwise_append.mpr ⟨fields.ordered.untied, pairwise_singleton _ _, ?_⟩
    intro left left_member right right_member
    rw [mem_singleton.mp right_member]
    exact apart facts rfl left left_member (absent left left_member)
  have same_perm := rearranged.trans (perm_append_singleton _ _).symm
  obtain ⟨sorted, strict⟩ := eq_sortEntries chronological untied same_perm
  exact {
    replaced := rfl, replaces := replaces, edit := edit, entries := sorted, ordered := strict
    distinct := by
      unfold DistinctRuns
      rw [(rearranged.map _).nodup_iff, map_cons, nodup_cons]
      refine ⟨fun member => ?_, fields.distinct⟩
      obtain ⟨entry, inside, same⟩ := mem_map.mp member
      exact absent entry inside same
    summary := fields.summary.insert fields.ordered strict rearranged rfl
    splits := fun two => ⟨⟨facts, rfl, absent⟩, full two⟩ }

section
variable (distinct : DistinctRuns (before ++ page :: after).flatten)
include distinct

theorem changeRun_flatten (member : existing ∈ page) (change : BlockRunIndexEntry → BlockRunIndexEntry) :
    (before ++ [page.map (changeRun existing.runId change)] ++ after).flatten =
      (before ++ page :: after).flatten.map (changeRun existing.runId change) := by
  obtain ⟨front, back⟩ := absent_around distinct member
  simp only [flatten_append, flatten_cons, map_append, flatten_nil, append_nil, append_assoc]
  rw [map_changeRun_absent front, map_changeRun_absent back]

theorem filter_flatten (member : existing ∈ page) :
    before.flatten ++ page.filter (fun entry => entry.runId ≠ existing.runId) ++ after.flatten =
      (before ++ page :: after).flatten.filter fun entry => entry.runId ≠ existing.runId := by
  obtain ⟨front, back⟩ := absent_around distinct member
  rw [flatten_append, flatten_cons, filter_append, filter_append, filter_absent front, filter_absent back,
    append_assoc]
end

theorem map_changeRun_field {α : Type} {field : BlockRunIndexEntry → α} {change : BlockRunIndexEntry → BlockRunIndexEntry}
    (same : ∀ entry, field (change entry) = field entry) (entries : BlockRunPage) (runId : String) :
    (entries.map (changeRun runId change)).map field = entries.map field := by
  rw [map_map]
  refine map_congr_left fun entry _ => ?_
  show field (changeRun runId change entry) = field entry
  unfold changeRun
  split
  · exact same entry
  · rfl

theorem strict_iff_cursors (entries : BlockRunPage) :
    StrictlyChronological host entries ↔ (entries.map BlockRunIndexEntry.cursor).Pairwise (Before host) := pairwise_map.symm

theorem markInPage_refines (fields : WellFormedPages host manifest (before ++ page :: after))
    (found : page[runPosition page mutation.runId]? = some existing)
    (listed : (before ++ page :: after).flatten[runPosition (before ++ page :: after).flatten mutation.runId]? = some existing)
    (marks : Bool)
    (result : next = (before ++ page :: after).flatten.set (runPosition (before ++ page :: after).flatten mutation.runId)
      { existing with hasArtifact := existing.hasArtifact || marks }) :
    (markInPage host manifest page (runPosition page mutation.runId) existing marks = .ok none ∧
        next = (before ++ page :: after).flatten) ∨
      ∃ change replacement, markInPage host manifest page (runPosition page mutation.runId) existing marks = .ok (some change) ∧
        ChangeRefines host manifest before after page mutation next change replacement := by
  have member : existing ∈ page := List.mem_of_getElem? found
  have page_member : page ∈ before ++ page :: after := by simp
  have all_member : existing ∈ (before ++ page :: after).flatten := List.mem_flatten.mpr ⟨page, page_member, member⟩
  have same_run : existing.runId = mutation.runId := found_existing found
  rw [markInPage_ok (fields.filled page page_member)]
  by_cases unchanged : (existing.hasArtifact || marks) = existing.hasArtifact
  · refine .inl ⟨if_pos unchanged, ?_⟩
    obtain ⟨_, at_position⟩ := List.getElem?_eq_some_iff.mp listed
    rw [result, unchanged]
    rw [← at_position, List.set_getElem_self]
  · have unmarked : existing.hasArtifact = false := by
      cases has : existing.hasArtifact with
      | false => rfl
      | true => rw [has] at unchanged; exact absurd rfl unchanged
    have marked : marks = true := by
      cases marks with
      | true => rfl
      | false => rw [Bool.or_false] at unchanged; exact absurd rfl unchanged
    have page_distinct : DistinctRuns page :=
      List.Nodup.sublist ((List.sublist_flatten_of_mem page_member).map _) fields.distinct
    have page_set : page.set (runPosition page mutation.runId) existing.marked =
        page.map (changeRun existing.runId BlockRunIndexEntry.marked) := by
      rw [same_run]
      exact set_runPosition page_distinct found
    have list_set : next = (before ++ page :: after).flatten.map (changeRun existing.runId BlockRunIndexEntry.marked) := by
      have changed : (before ++ page :: after).flatten.set (runPosition (before ++ page :: after).flatten mutation.runId)
          existing.marked = (before ++ page :: after).flatten.map (changeRun mutation.runId BlockRunIndexEntry.marked) :=
        set_runPosition fields.distinct listed
      rw [result, unmarked, marked]
      exact changed.trans (by rw [same_run])
    have flat : (before ++ [page.set (runPosition page mutation.runId) existing.marked] ++ after).flatten = next := by
      rw [page_set, list_set]
      exact changeRun_flatten fields.distinct member BlockRunIndexEntry.marked
    have strict : StrictlyChronological host next := by
      rw [list_set, strict_iff_cursors, map_changeRun_field BlockRunIndexEntry.marked_cursor]
      exact (strict_iff_cursors _).mp fields.ordered
    refine .inr ⟨_, [page.set (runPosition page mutation.runId) existing.marked], if_neg unchanged, ?_⟩
    exact {
      replaced := rfl
      replaces := Replaces.single ((fields.filled page page_member).set _ _) page
      edit := by
        rw [List.flatten_singleton]
        exact .marked found same_run
      entries := by rw [flat, strict.sort]
      ordered := by rw [flat]; exact strict
      distinct := by
        rw [flat, list_set]
        unfold DistinctRuns
        rw [map_changeRun_field BlockRunIndexEntry.marked_runId]
        exact fields.distinct
      summary := by
        rw [flat, list_set]
        rw [list_set] at strict
        exact fields.summary.mark fields.ordered fields.distinct all_member unmarked strict
      splits := fun two => absurd two (by simp) }

theorem removeFromPage_refines (free : host.CollisionFree) (indexed : IndexTree host store manifest.rootNodeId children)
    (split : indexPages children = before ++ page :: after) (fields : WellFormedPages host manifest (before ++ page :: after))
    (position : location.pageIndex = before.length) (member : existing ∈ page) :
    ∃ change replacement, removeFromPage host store manifest location page existing = .ok change ∧
      ChangeRefines host manifest before after page (.remove cursor existing.runId)
        ((before ++ page :: after).flatten.filter fun entry => entry.runId ≠ existing.runId) change replacement := by
  have page_member : page ∈ before ++ page :: after := by simp
  have all_member : existing ∈ (before ++ page :: after).flatten := mem_flatten.mpr ⟨page, page_member, member⟩
  obtain ⟨replacement, newPages, recorded, replaces, flat, short⟩ :=
    @remainingPage_ok host page (fields.filled page page_member) fun entry => decide (entry.runId ≠ existing.runId)
  have joined : (before ++ replacement ++ after).flatten =
      (before ++ page :: after).flatten.filter fun entry => entry.runId ≠ existing.runId := by
    rw [flatten_append, flatten_append, flat, filter_flatten fields.distinct member]
  have strict : StrictlyChronological host (before ++ replacement ++ after).flatten := by
    rw [joined]
    exact fields.ordered.filter _
  have filled : ∀ other ∈ before ++ replacement ++ after, other ≠ [] := by
    intro other inside
    simp only [mem_append] at inside
    rcases inside with (front | middle) | back
    · exact (fields.filled other (by simp [front])).1
    · exact (replaces.filled other middle).1
    · exact (fields.filled other (by simp [back])).1
  have count : manifest.pageCount + replacement.length - 1 = (before ++ replacement ++ after).length := by
    rw [fields.pageCount]
    simp only [length_append, length_cons]
    omega
  have head : headAfterRemoval host store manifest location existing (replacement.map (descriptorOf host)) newPages =
      .ok (before ++ replacement ++ after).flatten.getLast? := by
    unfold headAfterRemoval
    rw [position, length_map, count]
    split_ifs with same
    · exact readHeadAfterReplacement_ok indexed split free replaces filled
    · rw [fields.summary.head] at same ⊢
      rw [joined, ← last_without_other fields.ordered (Bool.eq_false_iff.mpr same)]
  have latest : latestArtifactAfterRemoval host store manifest location existing (replacement.map (descriptorOf host)) newPages =
      .ok ((before ++ replacement ++ after).flatten.filter BlockRunIndexEntry.hasArtifact).getLast? := by
    unfold latestArtifactAfterRemoval
    rw [position, length_map, count]
    split_ifs with same
    · rw [findLatestArtifact_ok indexed split free replaces (Nat.le_refl _), take_length]
    · rw [fields.summary.latestArtifact] at same ⊢
      rw [joined, filter_comm, ← last_without_other (fields.ordered.filter _) (Bool.eq_false_iff.mpr same)]
  refine ⟨{
      replacement := replacement.map (descriptorOf host), newPages := newPages, total := manifest.total - 1
      maxRetryIndex := manifest.maxRetryIndex, head := (before ++ replacement ++ after).flatten.getLast?
      latestArtifact := ((before ++ replacement ++ after).flatten.filter BlockRunIndexEntry.hasArtifact).getLast? },
    replacement, ?_, ?_⟩
  · unfold removeFromPage
    rw [recorded]
    show (headAfterRemoval host store manifest location existing (replacement.map (descriptorOf host)) newPages >>= _) = _
    rw [head]
    rw [latest]
    rfl
  · exact {
      replaced := rfl
      replaces := replaces
      edit := by rw [flat]; exact .removed member
      entries := by rw [joined, (fields.ordered.filter _).sort]
      ordered := strict
      distinct := by
        rw [joined]
        exact List.Nodup.sublist (filter_sublist.map _) fields.distinct
      summary := {
        total := by rw [joined, length_without fields.distinct all_member, fields.summary.total]
        retries := fun entry inside => by
          rw [joined] at inside
          exact fields.summary.retries entry (mem_filter.mp inside).1
        head := rfl
        latestArtifact := rfl }
      splits := fun two => absurd short (by omega) }

/-- The plan for the located page has the effect of the mutation on the whole list. -/
theorem planPageChange_refines (free : host.CollisionFree) (indexed : IndexTree host store manifest.rootNodeId children)
    (split : indexPages children = before ++ page :: after) (fields : WellFormedPages host manifest (before ++ page :: after))
    (own : OwnCursor (before ++ page :: after).flatten mutation)
    (apart : NewPosition host (before ++ page :: after).flatten mutation)
    (located : locatedAt host mutation.cursor (before ++ page :: after) = before.length)
    (position : location.pageIndex = before.length) (described : location.descriptor = descriptorOf host page) :
    match mutateEntriesAfter manifest.maxRetryIndex (before ++ page :: after).flatten mutation with
    | .error reason => planPageChange host store manifest location page mutation = .error reason
    | .ok next =>
      (planPageChange host store manifest location page mutation = .ok none ∧ next = (before ++ page :: after).flatten) ∨
        ∃ change replacement, planPageChange host store manifest location page mutation = .ok (some change) ∧
          ChangeRefines host manifest before after page mutation next change replacement := by
  have agrees := position_agrees fields own located
  cases listed : (before ++ page :: after).flatten[runPosition (before ++ page :: after).flatten mutation.runId]? with
  | none =>
    rw [listed] at agrees
    unfold planPageChange
    rw [agrees]
    cases mutation with
    | remove =>
      simp only [mutateEntriesAfter, listed]
      exact .inl ⟨rfl, trivial⟩
    | markArtifact =>
      simp only [mutateEntriesAfter, listed]
      rfl
    | upsert facts =>
      simp only [mutateEntriesAfter, listed]
      obtain ⟨change, replacement, inserted, refines⟩ :=
        insertChange_refines free fields located described rfl (absent_of_none listed) apart
      refine .inr ⟨change, replacement, ?_, refines⟩
      show some <$> insertChange host manifest location page (facts.indexed (manifest.maxRetryIndex + 1)) = _
      rw [inserted]
      rfl
  | some existing =>
    rw [listed] at agrees
    unfold planPageChange
    rw [agrees]
    cases mutation with
    | remove _ runId =>
      simp only [mutateEntriesAfter, listed]
      have same : existing.runId = runId := found_existing agrees
      subst same
      obtain ⟨change, replacement, removed, refines⟩ :=
        removeFromPage_refines free indexed split fields position (mem_of_getElem? agrees)
      refine .inr ⟨change, replacement, ?_, refines⟩
      show some <$> removeFromPage host store manifest location page existing = _
      rw [removed]
      rfl
    | markArtifact =>
      simp only [mutateEntriesAfter, listed]
      refine markInPage_refines fields agrees listed true ?_
      rw [Bool.or_true]
      rfl
    | upsert facts =>
      simp only [mutateEntriesAfter, listed]
      exact markInPage_refines fields agrees listed facts.hasArtifact rfl

def TreeFull (children : List PageTree) (index : Nat) : Prop :=
  children.length = blockRunIndexTreeFanout ∧
    ∃ position inner child, Parts.select (children.map fun child => (LevelTree.leaves topLevel child).length) index =
        some (position, inner) ∧
      children[position]? = some child ∧ LevelTree.PathFull blockRunIndexTreeFanout topLevel child inner

/-- A run that is added to a full page has room for one more page above it. -/
def HasRoom (host : IndexHost) (children : List PageTree) (mutation : BlockRunIndexMutation) : Prop :=
  AddsRun (indexPages children).flatten mutation →
    ∀ page, (indexPages children)[locatedAt host mutation.cursor (indexPages children)]? = some page →
      page.length = blockRunIndexPageSize → ¬ TreeFull children (locatedAt host mutation.cursor (indexPages children))

theorem nextChildren_fits (shape : IndexShape host children) (short : replacement.length ≤ 2)
    (inside : index < (indexPages children).length) (room : replacement.length = 2 → ¬ TreeFull children index) :
    (IndexTree.nextChildren children index replacement).length ≤ blockRunIndexTreeFanout := by
  by_contra exceeds
  obtain ⟨full, position, inner, child, selected, found, tight⟩ :=
    (IndexTree.overflows_iff shape inside).mp (Nat.lt_of_not_le exceeds)
  obtain ⟨doubled, path⟩ := tight.full short (shape.bounded child (mem_of_getElem? found))
  exact room doubled ⟨full, position, inner, child, selected, found, path⟩

def DraftManifest.published (draft : DraftManifest) (generation : String) (rootNodeId : Option String) : BlockRunIndexManifest where
  generation := generation
  total := draft.total
  pageCount := draft.pageCount
  maxRetryIndex := draft.maxRetryIndex
  head := draft.head
  latestArtifact := draft.latestArtifact
  rootNodeId := rootNodeId

structure DraftRefines (host : IndexHost) (children : List PageTree) (next : BlockRunPage) (draft : MutationDraft)
    (nextChildren : List PageTree) : Prop where
  drafts : Drafts host children nextChildren draft.newPages draft.tree draft.retirement
  entries : (indexPages nextChildren).flatten = sortEntries host next
  fields : ∀ generation, WellFormedPages host (draft.manifest.published generation draft.tree.rootNodeId) (indexPages nextChildren)

theorem firstRun_refines :
    ∃ draft nextChildren, firstRunDraft host entry = .ok draft ∧ DraftRefines host [] [entry] draft nextChildren := by
  obtain ⟨tree, built⟩ := (@buildTree_ok host _ (firstPage_filled entry)).2 (Nat.le_refl _)
  have built_one : buildBlockRunIndexV5Tree host [descriptorOf host [entry]] = .ok tree := built
  have drafted : firstRunDraft host entry = .ok {
      manifest := {
        total := 1, pageCount := 1, maxRetryIndex := entry.retryIndex, head := some entry
        latestArtifact := if entry.hasArtifact then some entry else none }
      newPages := OrderedMap.set ∅ (pageObjectId host [entry]) [entry], tree := tree, retirement := [] } := by
    exact bind_ok.mpr ⟨_, pageDescriptor_ok (cons_ne_nil _ _), bind_ok.mpr ⟨tree, built_one, rfl⟩⟩
  obtain ⟨nextChildren, drafts, pages⟩ := firstRunDraft_drafts drafted
  refine ⟨_, nextChildren, drafted, drafts, ?_, fun generation => ?_⟩
  · rw [pages]
    rfl
  rw [pages]
  exact {
    summary := {
      total := rfl
      retries := fun other member => by
        rw [flatten_singleton, mem_singleton] at member
        rw [member]
        exact Nat.le_refl _
      head := rfl
      latestArtifact := by
        rw [flatten_singleton]
        cases artifact : entry.hasArtifact <;> simp [DraftManifest.published, artifact] }
    pageCount := rfl
    ordered := pairwise_singleton _ _
    distinct := nodup_singleton _
    filled := firstPage_filled entry }

theorem planned_at (indexed : IndexTree host store manifest.rootNodeId children) (empty : children ≠ [])
    (counted : manifest.pageCount ≠ 0) {position : Nat}
    (found : (indexPages children)[locatedAt host mutation.cursor (indexPages children)]? = some page)
    (member : page ∈ indexPages children) (located : locatedAt host mutation.cursor (indexPages children) = position) :
    planBlockRunIndexV5Mutation host store manifest mutation =
      (do
        match ← planPageChange host store manifest ⟨position, descriptorOf host page⟩ page mutation with
        | none => return .unchanged
        | some change =>
          let tree ← updateBlockRunIndexV5Tree host store (nodeObjectId host (rootPayload host children)) position
            change.replacement
          return .publish {
            manifest := {
              total := change.total, pageCount := manifest.pageCount + change.replacement.length - 1
              maxRetryIndex := change.maxRetryIndex, head := change.head, latestArtifact := change.latestArtifact }
            newPages := change.newPages, tree
            retirement := tree.retiredObjects ++ retiredPage ⟨position, descriptorOf host page⟩ change.replacement }) := by
  unfold planBlockRunIndexV5Mutation
  rw [if_neg counted, indexed.rootId empty]
  show (locateBlockRunIndexV5Descriptor host store (nodeObjectId host (rootPayload host children)) mutation.cursor >>= _) = _
  rw [indexed.locate empty mutation.cursor found, located]
  show (readV4PageObject host store (descriptorOf host page) >>= _) = _
  rw [indexed.readPage member]
  rfl

theorem plan_refines (free : host.CollisionFree) (indexed : IndexTree host store manifest.rootNodeId children)
    (fields : WellFormedPages host manifest (indexPages children)) (own : OwnCursor (indexPages children).flatten mutation)
    (apart : NewPosition host (indexPages children).flatten mutation) (room : HasRoom host children mutation) :
    match mutateEntriesAfter manifest.maxRetryIndex (indexPages children).flatten mutation with
    | .error reason => planBlockRunIndexV5Mutation host store manifest mutation = .error reason
    | .ok next =>
      (planBlockRunIndexV5Mutation host store manifest mutation = .ok .unchanged ∧ next = (indexPages children).flatten) ∨
        ∃ draft nextChildren, planBlockRunIndexV5Mutation host store manifest mutation = .ok (.publish draft) ∧
          DraftRefines host children next draft nextChildren := by
  by_cases empty : children = []
  · subst empty
    have count : manifest.pageCount = 0 := fields.pageCount
    unfold planBlockRunIndexV5Mutation
    rw [if_pos count]
    cases mutation with
    | remove => exact .inl ⟨rfl, rfl⟩
    | markArtifact => rfl
    | upsert facts =>
      obtain ⟨draft, nextChildren, drafted, refines⟩ :=
        @firstRun_refines host (facts.indexed (manifest.maxRetryIndex + 1))
      refine .inr ⟨draft, nextChildren, ?_, refines⟩
      show (firstRunDraft host (facts.indexed (manifest.maxRetryIndex + 1)) >>= _) = _
      rw [drafted]
      rfl
  · obtain ⟨before, page, after, split, position, found⟩ :=
      located_page host mutation.cursor (nonempty_pages indexed.shape empty)
    have page_member : page ∈ indexPages children := by rw [split]; simp
    have inside : before.length < (indexPages children).length := by
      rw [split]
      simp
    have counted : manifest.pageCount ≠ 0 := by
      rw [fields.pageCount]
      omega
    have planned := planned_at indexed empty counted found page_member position
    have located : locatedAt host mutation.cursor (before ++ page :: after) = before.length := split ▸ position
    have refined := @planPageChange_refines host store manifest children before after page mutation
      ⟨before.length, descriptorOf host page⟩ free indexed split (split ▸ fields) (split ▸ own) (split ▸ apart) located rfl rfl
    rw [planned, split]
    split at refined
    · rw [refined]
      rfl
    rcases refined with ⟨unchanged, same⟩ | ⟨change, replacement, changed, refines⟩
    · refine .inl ⟨?_, same⟩
      rw [unchanged]
      rfl
    · have spare : replacement.length = 2 → ¬ TreeFull children before.length := by
        intro two
        obtain ⟨adds, full⟩ := refines.splits two
        have hypothesis := room (split ▸ adds) page found full
        rw [position] at hypothesis
        exact hypothesis
      have fits := Nat.not_lt.mpr (nextChildren_fits indexed.shape refines.replaces.short inside spare)
      have updated := indexed.update (refines.replaces.short.trans (by decide)) refines.replaces.filled inside
      rw [if_neg fits] at updated
      obtain ⟨build, update_ran, rebuilt⟩ := updated
      obtain ⟨drafts, pages⟩ := update_drafts ⟨before.length, descriptorOf host page⟩ indexed split position refines.replaces
        refines.edit fits rebuilt rfl
      refine .inr ⟨{
          manifest := {
            total := change.total, pageCount := manifest.pageCount + replacement.length - 1
            maxRetryIndex := change.maxRetryIndex, head := change.head, latestArtifact := change.latestArtifact }
          newPages := change.newPages, tree := build
          retirement := build.retiredObjects ++
            retiredPage ⟨before.length, descriptorOf host page⟩ (replacement.map (descriptorOf host)) }, _, ?_, drafts, ?_, ?_⟩
      · refine bind_ok.mpr ⟨some change, changed, bind_ok.mpr ⟨build, ?_, ?_⟩⟩
        · rw [refines.replaced]
          exact update_ran
        · rw [refines.replaced, length_map]
          rfl
      · rw [pages]
        exact refines.entries
      · intro generation
        rw [pages]
        exact {
          summary := refines.summary
          pageCount := by
            show manifest.pageCount + replacement.length - 1 = _
            rw [fields.pageCount, split]
            simp only [length_append, length_cons]
            omega
          ordered := refines.ordered
          distinct := refines.distinct
          filled := pages ▸ drafts.shape.filled }

end PlanWeave
