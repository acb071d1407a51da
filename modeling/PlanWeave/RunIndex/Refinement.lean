import PlanWeave.RunIndex.PlanRefinement
import PlanWeave.RunIndex.UniqueRuns

namespace PlanWeave
open Durable List Option
variable {host : IndexHost} {store : IndexStore} {children nextChildren : List PageTree} {manifest : BlockRunIndexManifest}
  {generation currentGeneration : String} {previousGeneration : Option String} {mutation : BlockRunIndexMutation}

structure WellFormedIndex (host : IndexHost) (store : IndexStore) (currentGeneration : String) (previousGeneration : Option String)
    (manifest : BlockRunIndexManifest) (children : List PageTree) : Prop where
  retains : Retains host Unrestricted store
  pointer : store.pointer = some (.v5 currentGeneration previousGeneration)
  read : readV5Manifest store currentGeneration = .ok manifest
  indexed : IndexTree host store manifest.rootNodeId children
  fields : WellFormedPages host manifest (indexPages children)

section Manifest
variable {pages : List BlockRunPage}

theorem flatten_bounds (filled : ∀ page ∈ pages, PageFilled page) :
    pages.length ≤ pages.flatten.length ∧ pages.flatten.length ≤ pages.length * blockRunIndexPageSize := by
  refine ⟨?_, Parts.flatten_length_le fun page member => (filled page member).2⟩
  induction pages with
  | nil => exact Nat.zero_le _
  | cons page _ ih =>
    have positive := length_pos_of_ne_nil (filled page (by simp)).1
    have others := ih fun other member => filled other (mem_cons_of_mem _ member)
    rw [flatten_cons, length_append, length_cons]
    omega

section
variable (shape : IndexShape host children)
include shape

theorem indexPages_length_le : (indexPages children).length ≤ blockRunIndexMaxPages := by
  have parts : ∀ part ∈ children.map (LevelTree.leaves topLevel), part.length ≤ blockRunIndexTreeFanout ^ (topLevel + 1) := by
    intro part member
    obtain ⟨child, inside, rfl⟩ := mem_map.mp member
    exact LevelTree.leaves_length_le (shape.bounded child inside)
  have whole := Parts.flatten_length_le parts
  rw [length_map] at whole
  refine whole.trans ((Nat.mul_le_mul_right _ shape.fits).trans ?_)
  exact Nat.le_of_eq (by rfl)

theorem root_none_iff : rootIdOf host children = none ↔ (indexPages children).flatten.length = 0 := by
  have bounds := (flatten_bounds shape.filled).1
  unfold rootIdOf
  by_cases empty : children = []
  · subst empty
    exact iff_of_true rfl rfl
  · rw [if_neg empty]
    have positive := length_pos_of_ne_nil (nonempty_pages shape empty)
    exact iff_of_false (by simp) (by omega)

theorem WellFormedPages.schema (fields : WellFormedPages host manifest (indexPages children))
    (root : manifest.rootNodeId = rootIdOf host children) : blockRunIndexManifestSchema manifest = true := by
  have bounds := flatten_bounds shape.filled
  have limit := indexPages_length_le shape
  have size : blockRunIndexPageSize = 64 := rfl
  have none_iff := root_none_iff shape
  unfold blockRunIndexManifestSchema
  rw [fields.pageCount, fields.summary.total, fields.summary.head, fields.summary.latestArtifact, root]
  simp only [Bool.and_eq_true, decide_eq_true_eq]
  refine ⟨limit, ?_⟩
  split
  · rename_i empty
    have no_entries : (indexPages children).flatten = [] := length_eq_zero_iff.mp empty
    simp only [Bool.and_eq_true, decide_eq_true_eq, isNone_iff_eq_none]
    rw [no_entries]
    exact ⟨⟨⟨by omega, none_iff.mpr empty⟩, rfl⟩, rfl⟩
  · rename_i filled
    simp only [Bool.and_eq_true, decide_eq_true_eq, isSome_iff_ne_none]
    refine ⟨⟨⟨⟨?_, fun none => filled (none_iff.mp none)⟩, fun none => ?_⟩, ?_⟩, bounds.1⟩
    · by_contra zero
      have short : (indexPages children).length = 0 := by omega
      rw [short, Nat.zero_mul] at bounds
      omega
    · rw [getLast?_eq_none_iff.mp none] at filled
      exact filled rfl
    · rw [size] at bounds ⊢
      omega

theorem WellFormedPages.read (fields : WellFormedPages host manifest (indexPages children))
    (root : manifest.rootNodeId = rootIdOf host children) (found : store.manifestOf generation = some manifest)
    (named : manifest.generation = generation) : readV5Manifest store generation = .ok manifest := by
  have none_iff := root_none_iff shape
  have total := fields.summary.total
  have head_iff : manifest.head = none ↔ manifest.total = 0 := by
    rw [fields.summary.head, getLast?_eq_none_iff, total, length_eq_zero_iff]
  have root_iff : manifest.rootNodeId = none ↔ manifest.total = 0 := by
    rw [root, none_iff, total]
  have artifact : (manifest.latestArtifact.any fun entry => !entry.hasArtifact) = false := by
    rw [fields.summary.latestArtifact]
    cases last : ((indexPages children).flatten.filter BlockRunIndexEntry.hasArtifact).getLast? with
    | none => rfl
    | some =>
      have has := (mem_filter.mp (mem_of_getLast? last)).2
      simp [has]
  unfold readV5Manifest
  unfold IndexStore.manifestOf at found
  simp only [found, fields.schema shape root, named, root_iff, head_iff, artifact]
  simp
end
end Manifest

theorem checkedManifest_published {draft : DraftManifest} {rootNodeId : Option String}
    (schema : blockRunIndexManifestSchema (draft.published generation rootNodeId) = true) :
    checkedManifest generation draft rootNodeId = .ok (draft.published generation rootNodeId) := by
  exact if_pos schema

theorem Retains.readRecord (retains : Retains host Unrestricted store) (generation : String) :
    ∃ record, readRetirement store generation = .ok record := by
  unfold readRetirement
  cases recorded : (store.generations.get? generation).bind Generation.retirement with
  | none => exact ⟨none, rfl⟩
  | some objects =>
    refine ⟨some objects, ?_⟩
    simp only
    rw [if_pos (retains.retirements generation objects recorded).1]

theorem WellFormedIndex.known (index : WellFormedIndex host store currentGeneration previousGeneration manifest children) :
    KnownSnapshot store (some (.v5 currentGeneration previousGeneration manifest)) := by
  intro name named
  cases named
  rw [liveGenerations_of_pointer index.pointer]
  exact mem_cons_self

section Publication
variable {draft : MutationDraft} {next : BlockRunPage}

theorem publishable_of_refines (index : WellFormedIndex host store currentGeneration previousGeneration manifest children)
    (refines : DraftRefines host children next draft nextChildren) (fresh : generation ≠ currentGeneration) :
    Publishable host store generation (some (.v5 currentGeneration previousGeneration manifest)) draft.generation where
  built := ⟨draft.tree, rfl⟩
  checked := fun tree built => by
    cases built
    exact ⟨_, checkedManifest_published ((refines.fields generation).schema refines.drafts.shape refines.drafts.root)⟩
  retires := ⟨draft.retirement, rfl, refines.drafts.record⟩
  previous := ⟨currentGeneration, rfl, fresh.symm, index.retains.readRecord currentGeneration, manifest, index.read⟩

theorem publishDraft_wellFormed (free : host.CollisionFree)
    (index : WellFormedIndex host store currentGeneration previousGeneration manifest children)
    (refines : DraftRefines host children next draft nextChildren) (fresh : generation ≠ currentGeneration) :
    ∃ left, (publishGeneration host generation (some (.v5 currentGeneration previousGeneration manifest))
        draft.generation).Returns store () left ∧
      WellFormedIndex host left generation (some currentGeneration)
        (draft.manifest.published generation draft.tree.rootNodeId) nextChildren := by
  have drafts := refines.drafts
  have completed := @publishGeneration_completes host store children manifest.rootNodeId generation Unrestricted free
    (some (.v5 currentGeneration previousGeneration manifest)) draft.generation index.retains index.indexed index.known
    drafts.keyed fun tree built => by
      cases built
      exact ⟨nextChildren, drafts, fun _ _ => trivial⟩
  obtain ⟨_, returned⟩ := (completed.succeeds (publishable_of_refines index refines fresh)).returns
  refine ⟨_, returned, ?_⟩
  obtain ⟨tree, _, published, built, _, checked, publishing⟩ := completed.returns _ _ returned
  cases built
  have same : published = draft.manifest.published generation draft.tree.rootNodeId := (checkedManifest_ok checked).1
  subst same
  obtain ⟨found, indexed, _⟩ := publishing.indexed
  have agree : found = nextChildren :=
    rootIdOf_injective free indexed.shape drafts.shape (indexed.root.symm.trans drafts.root)
  subst agree
  exact {
    retains := publishing.retains
    pointer := publishing.pointer
    read := (refines.fields generation).read drafts.shape drafts.root publishing.current rfl
    indexed := indexed
    fields := refines.fields generation }

end Publication

/-- A plan followed by its publication, as `mutateV5` does after its maintenance. -/
def planAndPublish (host : IndexHost) (generation currentGeneration : String) (previousGeneration : Option String)
    (manifest : BlockRunIndexManifest) (mutation : BlockRunIndexMutation) : Indexing Unit := do
  let store ← Durable.read
  let plan ← Durable.lift (planBlockRunIndexV5Mutation host store manifest mutation)
  publishPlan host generation (.v5 currentGeneration previousGeneration manifest) plan

def unnumbered (entry : BlockRunIndexEntry) : BlockRunIndexEntry := { entry with retryIndex := 0 }

theorem sortEntries_unnumbered (entries : BlockRunPage) :
    (sortEntries host entries).map unnumbered = sortEntries host (entries.map unnumbered) :=
  map_insertionSort _ _ unnumbered entries fun _ _ _ _ => Iff.rfl

theorem mutateEntriesAfter_unnumbered (maxRetryIndex : Nat) (entries : BlockRunPage) (mutation : BlockRunIndexMutation) :
    (mutateEntriesAfter maxRetryIndex entries mutation).map (List.map unnumbered) =
      (mutateEntries entries mutation).map (List.map unnumbered) := by
  rw [mutateEntries_eq]
  unfold mutateEntriesAfter
  split
  · rfl
  · rfl
  · simp only [Except.map, map_append]
    rfl
  · rfl
  · rfl
  · rfl

/-- The index after a mutation: well formed, its entries those of the mutated list in their order, and the same as those of
`mutateEntries` apart from the retry index of a new run. -/
structure RefinesList (host : IndexHost) (manifest : BlockRunIndexManifest) (children : List PageTree)
    (mutation : BlockRunIndexMutation) (expected : BlockRunPage) (left : IndexStore) : Prop where
  published : ∃ generation previousGeneration nextManifest nextChildren,
    WellFormedIndex host left generation previousGeneration nextManifest nextChildren ∧
      (indexPages nextChildren).flatten.map unnumbered = (sortEntries host expected).map unnumbered ∧
      (mutateEntriesAfter manifest.maxRetryIndex (indexPages children).flatten mutation).map (sortEntries host) =
        .ok (indexPages nextChildren).flatten

theorem planAndPublish_returns {plan : MutationPlan}
    (planned : planBlockRunIndexV5Mutation host store manifest mutation = .ok plan)
    (published : (publishPlan host generation (.v5 currentGeneration previousGeneration manifest) plan).Returns store () left) :
    (planAndPublish host generation currentGeneration previousGeneration manifest mutation).Returns store () left := by
  refine returns_bind.mpr ⟨store, store, returns_read.mpr ⟨rfl, rfl⟩, ?_⟩
  exact returns_bind.mpr ⟨plan, store, (returns_lift _).mpr ⟨planned, rfl⟩, published⟩

/-- A plan and its publication refine the mutation of the plain list, when a new run ties with no entry and the tree has room. -/
theorem plan_and_publish_refines_list (free : host.CollisionFree)
    (index : WellFormedIndex host store currentGeneration previousGeneration manifest children)
    (own : OwnCursor (indexPages children).flatten mutation) (apart : NewPosition host (indexPages children).flatten mutation)
    (room : HasRoom host children mutation) (fresh : generation ≠ currentGeneration) :
    match mutateEntries (indexPages children).flatten mutation with
    | .error reason =>
      (planAndPublish host generation currentGeneration previousGeneration manifest mutation).Fails store reason store
    | .ok expected => ∃ left,
      (planAndPublish host generation currentGeneration previousGeneration manifest mutation).Returns store () left ∧
        RefinesList host manifest children mutation expected left := by
  have planned := plan_refines free index.indexed index.fields own apart room
  have related := mutateEntriesAfter_unnumbered manifest.maxRetryIndex (indexPages children).flatten mutation
  cases listed : mutateEntriesAfter manifest.maxRetryIndex (indexPages children).flatten mutation with
  | error =>
    rw [listed] at planned related
    cases mutated : mutateEntries (indexPages children).flatten mutation with
    | error =>
      rw [mutated] at related
      cases related
      exact fails_read_bind (fails_lift_bind planned)
    | ok =>
      rw [mutated] at related
      cases related
  | ok next =>
    rw [listed] at planned related
    cases mutated : mutateEntries (indexPages children).flatten mutation with
    | error =>
      rw [mutated] at related
      cases related
    | ok expected =>
      rw [mutated] at related
      have apart_numbers : next.map unnumbered = expected.map unnumbered := Except.ok.inj related
      rcases planned with ⟨unchanged, same⟩ | ⟨_, nextChildren, drafted, refines⟩
      · refine ⟨store, ?_, ⟨currentGeneration, previousGeneration, manifest, children, index, ?_, ?_⟩⟩
        · exact planAndPublish_returns unchanged (returns_pure.mpr ⟨rfl, rfl⟩)
        · rw [sortEntries_unnumbered, ← apart_numbers, ← sortEntries_unnumbered, same, index.fields.ordered.sort]
        · rw [listed, same]
          exact congrArg Except.ok index.fields.ordered.sort
      · obtain ⟨left, returned, published⟩ := publishDraft_wellFormed free index refines fresh
        refine ⟨left, ?_, ⟨generation, some currentGeneration, _, nextChildren, published, ?_, ?_⟩⟩
        · exact planAndPublish_returns drafted returned
        · rw [refines.entries, sortEntries_unnumbered, apart_numbers, ← sortEntries_unnumbered]
        · rw [listed, refines.entries]
          rfl

theorem wellFormedIndex_of_pages {pages : List BlockRunPage} (retains : Retains host Unrestricted store)
    (pointer : store.pointer = some (.v5 currentGeneration previousGeneration))
    (read : readV5Manifest store currentGeneration = .ok manifest) (published : publishedPages host store = .ok pages)
    (fields : WellFormedPages host manifest pages) :
    ∃ children, WellFormedIndex host store currentGeneration previousGeneration manifest children ∧ indexPages children = pages := by
  have publishing : Publishing host Unrestricted currentGeneration previousGeneration manifest store :=
    ⟨retains, pointer, (readV5Manifest_some read).1⟩
  obtain ⟨children, indexed, _⟩ := publishing.indexed
  have same : indexPages children = pages := by
    rw [publishedPages_ok pointer publishing.current indexed] at published
    exact Except.ok.inj published
  exact ⟨children, ⟨retains, pointer, read, indexed, same ▸ fields⟩, same⟩

theorem retains_run (free : host.CollisionFree) (operations : List IndexOperation) :
    Retains host Unrestricted (Durable.runAll (performIndexing host) operations {}) := by
  have allowed : ∀ operations store, Durable.AllowedRun (performIndexing host) (fun _ _ => True) operations store := by
    intro operations
    induction operations with
    | nil => exact fun _ => trivial
    | cons _ _ ih => exact fun _ => ⟨trivial, ih _⟩
  refine (allowed operations {}).reaches.holds_of_keeps (retains_empty host Unrestricted) fun reached operation holds _ => ?_
  exact (performIndexing_ensures free operation holds).keeps

def manyRunsIndexed : IndexStore :=
  Durable.runAll (performIndexing manyRunsHost) [.upsert "generation-1" "generation-2" manyRunsRoot "RUN-1" none] {}

def manyRunsManifest : BlockRunIndexManifest where
  generation := "generation-1"
  total := 65
  pageCount := 2
  maxRetryIndex := 65
  head := some { lastRunMarked with hasArtifact := false }
  latestArtifact := none
  rootNodeId := some "sha256-6d326978009d9b76ceb4d360ba3b144f5f51e6d36ce49ff190e0e268a5a79f3a"

theorem manyRunsIndexed_wellFormed : ∃ children,
    WellFormedIndex manyRunsHost manyRunsIndexed "generation-1" none manyRunsManifest children ∧
      indexPages children = [manyRunsEntries.take 64, manyRunsEntries.drop 64] := by
  obtain ⟨pointer, manifest_read, published⟩ : manyRunsIndexed.pointer = some (.v5 "generation-1" none) ∧
      readV5Manifest manyRunsIndexed "generation-1" = .ok manyRunsManifest ∧
      publishedPages manyRunsHost manyRunsIndexed = .ok [manyRunsEntries.take 64, manyRunsEntries.drop 64] := by
    decide +kernel
  refine wellFormedIndex_of_pages (retains_run manyRunsHost_free _) pointer manifest_read published
    ⟨⟨?_, ?_, ?_, ?_⟩, ?_, ?_, ?_, ?_⟩
  all_goals try unfold StrictlyChronological
  all_goals try unfold DistinctRuns
  all_goals try unfold PageFilled
  all_goals decide +kernel

def manyRunsMark : BlockRunIndexMutation := .markArtifact lastRunMarked.cursor "RUN-65"

/-- The mark is set on the second page. -/
theorem plan_and_publish_refines_list_many : ∃ children,
    WellFormedIndex manyRunsHost manyRunsIndexed "generation-1" none manyRunsManifest children ∧ ∃ left,
    (planAndPublish manyRunsHost "generation-3" "generation-1" none manyRunsManifest manyRunsMark).Returns manyRunsIndexed () left ∧
      RefinesList manyRunsHost manyRunsManifest children manyRunsMark (manyRunsEntries.take 64 ++ [lastRunMarked]) left := by
  obtain ⟨children, index, pages⟩ := manyRunsIndexed_wellFormed
  refine ⟨children, index, ?_⟩
  have entries : (indexPages children).flatten = manyRunsEntries := by
    rw [pages, flatten_cons, flatten_singleton, take_append_drop]
  have own : OwnCursor (indexPages children).flatten manyRunsMark := by
    rw [entries]
    unfold OwnCursor
    decide +kernel
  have apart : NewPosition manyRunsHost (indexPages children).flatten manyRunsMark := fun facts upserts => by cases upserts
  have room : HasRoom manyRunsHost children manyRunsMark := fun ⟨facts, upserts, _⟩ => by cases upserts
  have mutated : mutateEntries manyRunsEntries manyRunsMark = .ok (manyRunsEntries.take 64 ++ [lastRunMarked]) := by decide +kernel
  have refined := @plan_and_publish_refines_list _ _ _ _ "generation-3" _ _ _ manyRunsHost_free index own apart room (by decide)
  rw [entries, mutated] at refined
  exact refined

def tiedCursor : BlockRunLogicalCursor := ⟨1, "T-001#B-001::X::RUN-1"⟩

def tiedEntry : BlockRunIndexEntry := ⟨"RUN-1", 1, 1, "T-001#B-001::X::RUN-1", false⟩

def tiedAdded : BlockRunIndexEntry := ⟨"X::RUN-1", 2, 1, "T-001#B-001::X::RUN-1", false⟩

def tiedHost : IndexHost := recordedTrees []
  [([tiedEntry], "0050e0d4e8ddfe9b149632395852f639f2b353a9bdc1de71014921bdcf2be31a",
      ["c2b21936aff5323f4689bb18170cdf5930151fdfa95442156cb8fad55da0ab31",
        "588fdd870216c3c1c1bfee20156ba28c9ae72b90bcadead54cd0ea539a9d3380",
        "4b9d643397266e076f836c911a7503e3715292ffc7c6662e8d46abe699c27e6f",
        "c47bb6f253fca802686f94b883d2c3a3c90691472f03adddf3fc5e549340abaf",
        "d74ebb6d1e1306c5cd5391a6c45a9aa3cfa9b6d3e54692db815589beb699921c"]),
    ([tiedEntry, tiedAdded], "2fb7b6f7f407a3056dcf2311b59a63c72b432cc7e4a269c774bd3b9ca0411214",
      ["dcb3e857ad21dd50cd4dca19048562100f3c6b1c4e527c420abffcd551526115",
        "78276eb1c3299cc35a767981a730794bddac3592185101dfdaa94bfe977de086",
        "71d331390348d58f7498876342bc531616a21b0079db830e0f6b121b5bd24196",
        "82a3fa09d47b1b117e275b8fb1824fd10df4b63b8c7e5f9c875a5525074834de",
        "7f3a346378e35dab8e4fe54040e9d4c4dfeab153270efdb254f053a516e7095e"])]

theorem tiedHost_free : tiedHost.CollisionFree where
  pages := RecordedDigest.digest_injective (by decide +kernel) (by decide +kernel)
  nodes := RecordedDigest.digest_injective (by decide +kernel) (by decide +kernel)

def tiedRoot : RunRoot where
  blockRef := "T-001#B-001"
  runs := OrderedMap.set ∅ "RUN-1" { metadata := some { ref := some "T-001#B-001::X", startedAt := some 1 } }

def tiedRoots : RunRoot := { tiedRoot with runs := tiedRoot.runs.set "X::RUN-1" { metadata := some { startedAt := some 1 } } }

def tiedIndexed : IndexStore :=
  Durable.runAll (performIndexing tiedHost) [.upsert "generation-1" "generation-2" tiedRoot "RUN-1" none] {}

def tiedManifest : BlockRunIndexManifest where
  generation := "generation-1"
  total := 1
  pageCount := 1
  maxRetryIndex := 1
  head := some tiedEntry
  latestArtifact := none
  rootNodeId := some "sha256-d74ebb6d1e1306c5cd5391a6c45a9aa3cfa9b6d3e54692db815589beb699921c"

def tiedFacts : BlockRunFacts := { tiedCursor with runId := "X::RUN-1", hasArtifact := false }

def tiedPublished : IndexStore :=
  (planAndPublish tiedHost "generation-3" "generation-1" none tiedManifest (.upsert tiedFacts)).final tiedIndexed

/-- The run that is added stands beside the indexed one, not after it, and the head is not the last entry. -/
theorem tied_run_breaks_order : readRunFacts tiedRoots "X::RUN-1" = .ok tiedFacts ∧ ∃ children,
    WellFormedIndex tiedHost tiedIndexed "generation-1" none tiedManifest children ∧
      OwnCursor (indexPages children).flatten (.upsert tiedFacts) ∧
      (planAndPublish tiedHost "generation-3" "generation-1" none tiedManifest (.upsert tiedFacts)).Returns tiedIndexed ()
        tiedPublished ∧
      publishedPages tiedHost tiedPublished = .ok [[tiedEntry, tiedAdded]] ∧
      ¬ StrictlyChronological tiedHost [tiedEntry, tiedAdded] ∧
      (tiedPublished.manifestOf "generation-3").map BlockRunIndexManifest.head = some (some tiedEntry) := by
  have read : readRunFacts tiedRoots "X::RUN-1" = .ok tiedFacts := by rfl
  obtain ⟨pointer, manifest_read, published⟩ : tiedIndexed.pointer = some (.v5 "generation-1" none) ∧
      readV5Manifest tiedIndexed "generation-1" = .ok tiedManifest ∧ publishedPages tiedHost tiedIndexed = .ok [[tiedEntry]] := by
    decide +kernel
  obtain ⟨returned, pages_after, head_after⟩ :
      (planAndPublish tiedHost "generation-3" "generation-1" none tiedManifest (.upsert tiedFacts)).result tiedIndexed = .ok () ∧
        publishedPages tiedHost tiedPublished = .ok [[tiedEntry, tiedAdded]] ∧
        (tiedPublished.manifestOf "generation-3").map BlockRunIndexManifest.head = some (some tiedEntry) := by
    decide +kernel
  obtain ⟨children, index, pages⟩ := wellFormedIndex_of_pages (retains_run tiedHost_free _) pointer manifest_read published
    ⟨⟨rfl, by decide, rfl, rfl⟩, rfl, pairwise_singleton _ _, nodup_singleton _, by unfold PageFilled; decide⟩
  refine ⟨read, children, index, ?_, ⟨returned, rfl⟩, pages_after, ?_, head_after⟩
  · rw [pages]
    unfold OwnCursor
    decide +kernel
  · unfold StrictlyChronological
    decide +kernel

end PlanWeave
