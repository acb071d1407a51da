import PlanWeave.RunIndex.LiveObjects

namespace PlanWeave
open Checked List

def publishedPages (host : IndexHost) (store : IndexStore) : Except String (List BlockRunPage) :=
  match store.pointer with
  | some (.v5 currentGeneration _) =>
    match store.manifestOf currentGeneration with
    | none => .error (generationIncomplete currentGeneration)
    | some manifest => do
      let (descriptors, _) ← readAllBlockRunIndexV5Descriptors host store manifest.rootNodeId
      descriptors.mapM (readV4PageObject host store)
  | _ => .ok []

def searchedPages (host : IndexHost) (store : IndexStore) (root : RunRoot) : Except String (List BlockRunPage) :=
  match store.pointer with
  | none => do
    let entries ← migratedEntries host root
    return sortedPages host entries
  | some _ => publishedPages host store

def holdsRun (page : BlockRunPage) (runId : String) : Bool := page.any fun entry => entry.runId = runId

def foundWhereLocated (host : IndexHost) (pages : List BlockRunPage) (facts : BlockRunFacts) : Bool :=
  !(pages.any fun page => holdsRun page facts.runId) ||
    (pages[locatedAt host facts.toBlockRunLogicalCursor pages]?).any fun page => holdsRun page facts.runId

def findsIndexedRun (host : IndexHost) (store : IndexStore) : IndexOperation → Bool
  | .upsert _ _ root runId _ =>
    match searchedPages host store root, readRunFacts root runId with
    | .ok pages, .ok facts => foundWhereLocated host pages facts
    | _, _ => true
  | _ => false

def UniqueRuns : BlockRunIndexManifest → List BlockRunPage → Prop :=
  fun _ pages => (pages.flatten.map BlockRunIndexEntry.runId).Nodup

variable {host : IndexHost} {store : IndexStore} {pages next : List BlockRunPage} {manifest : BlockRunIndexManifest}
variable {page : BlockRunPage} {runId : String} {children : List PageTree} {previousGeneration : Option String}

theorem holdsRun_iff : holdsRun page runId = true ↔ ∃ entry ∈ page, entry.runId = runId := by
  unfold holdsRun
  rw [any_eq_true]
  simp only [decide_eq_true_eq]

theorem publishedPages_ok {generation : String}
    (pointer : store.pointer = some (.v5 generation previousGeneration)) (found : store.manifestOf generation = some manifest)
    (indexed : IndexTree host store manifest.rootNodeId children) : publishedPages host store = .ok (indexPages children) := by
  unfold publishedPages
  rw [pointer]
  simp only [found]
  rw [indexed.collect]
  show ((indexPages children).map (descriptorOf host)).mapM (readV4PageObject host store) = _
  have pages : (indexPages children).mapM (readV4PageObject host store ∘ descriptorOf host) = .ok ((indexPages children).map id) :=
    mapM_of_all fun page member => indexed.readPage member
  rw [mapM_map, pages, map_id]

variable {entries : BlockRunPage} {facts : BlockRunFacts} {root : RunRoot}

theorem sortedPages_unique (distinct : (entries.map BlockRunIndexEntry.runId).Nodup) :
    UniqueRuns manifest (sortedPages host entries) := by
  show ((sortedPages host entries).flatten.map BlockRunIndexEntry.runId).Nodup
  rw [sortedPages_flatten]
  exact (((sortEntries_perm entries).map _).nodup_iff).mpr distinct

theorem readRunFacts_runId (read : readRunFacts root runId = .ok facts) : facts.runId = runId := by
  obtain ⟨_, made⟩ := rest_ok read
  cases made
  rfl

theorem readAll_runIds : ∀ {ids : List String} {facts : List BlockRunFacts},
    ids.mapM (readRunFacts root) = .ok facts → facts.map BlockRunFacts.runId = ids
  | [], facts, read => by
    cases read
    rfl
  | runId :: rest, facts, read => by
    rw [mapM_cons] at read
    obtain ⟨_, first_read, read⟩ := bind_ok.mp read
    obtain ⟨_, others_read, read⟩ := bind_ok.mp read
    cases read
    rw [map_cons, readRunFacts_runId first_read, readAll_runIds others_read]

theorem map_mapIdx_of_eq {α β γ : Type} {items : List α} {change : Nat → α → β} {field : β → γ} {source : α → γ}
    (same : ∀ index item, field (change index item) = source item) : (items.mapIdx change).map field = items.map source := by
  apply ext_getElem?
  intro position
  rw [getElem?_map, getElem?_mapIdx, getElem?_map, Option.map_map]
  congr 1
  exact funext fun item => same position item

theorem migratedEntries_unique (migrated : migratedEntries host root = .ok entries) :
    (entries.map BlockRunIndexEntry.runId).Nodup := by
  obtain ⟨facts, read, made⟩ := bind_ok.mp migrated
  cases made
  have ids : ∀ entries : BlockRunPage, (numbered entries).map BlockRunIndexEntry.runId = entries.map BlockRunIndexEntry.runId :=
    fun entries => map_mapIdx_of_eq fun _ _ => rfl
  have sources : (facts.mapIdx fun index fact => fact.indexed (index + 1)).map BlockRunIndexEntry.runId =
      facts.map BlockRunFacts.runId := map_mapIdx_of_eq fun _ _ => rfl
  rw [ids, ((sortEntries_perm _).map _).nodup_iff, sources, readAll_runIds read]
  exact root.runs.distinct.filter _

theorem mutateEntries_unique {changed : BlockRunPage}
    (distinct : (entries.map BlockRunIndexEntry.runId).Nodup) (mutated : mutateEntries entries (.upsert facts) = .ok changed) :
    (changed.map BlockRunIndexEntry.runId).Nodup := by
  cases found : entries[runPosition entries facts.runId]? with
  | none =>
    simp only [mutateEntries, mutateEntriesAfter, BlockRunIndexMutation.runId, found] at mutated
    cases mutated
    rw [map_append, nodup_append]
    refine ⟨distinct, nodup_singleton _, ?_⟩
    intro left left_member right right_member
    obtain ⟨entry, inside, rfl⟩ := mem_map.mp left_member
    rw [map_singleton, mem_singleton] at right_member
    rw [right_member]
    exact absent_of_none found entry inside
  | some existing =>
    simp only [mutateEntries, mutateEntriesAfter, BlockRunIndexMutation.runId, found] at mutated
    cases mutated
    have ids : (entries.set (runPosition entries facts.runId) { existing with
        hasArtifact := existing.hasArtifact || facts.hasArtifact }).map BlockRunIndexEntry.runId = _ := map_set_of_eq found rfl
    rw [ids]
    exact distinct

theorem absent_everywhere {before after : List BlockRunPage}
    (located : locatedAt host facts.toBlockRunLogicalCursor (before ++ page :: after) = before.length)
    (found : foundWhereLocated host (before ++ page :: after) facts = true) (absent : ∀ entry ∈ page, entry.runId ≠ facts.runId) :
    ∀ entry ∈ (before ++ page :: after).flatten, entry.runId ≠ facts.runId := by
  intro entry member same
  obtain ⟨other, other_member, inside⟩ := mem_flatten.mp member
  have here : (before ++ page :: after)[before.length]? = some page := by simp
  unfold foundWhereLocated at found
  rw [located, here, Bool.or_eq_true, Bool.not_eq_true'] at found
  rcases found with nowhere | holds
  · rw [any_eq_false] at nowhere
    exact nowhere other other_member (holdsRun_iff.mpr ⟨entry, inside, same⟩)
  · obtain ⟨held, held_member, held_same⟩ := holdsRun_iff.mp holds
    exact absent held held_member held_same

theorem PlanEffect.unique (effect : PlanEffect host manifest (.upsert facts) pages next)
    (distinct : (pages.flatten.map BlockRunIndexEntry.runId).Nodup) (found : foundWhereLocated host pages facts = true) :
    (next.flatten.map BlockRunIndexEntry.runId).Nodup := by
  cases effect with
  | first => exact nodup_singleton _
  | @edit before after replacement page located edit =>
    simp only [flatten_append, map_append] at distinct ⊢
    rw [flatten_cons, map_append, ← append_assoc] at distinct
    generalize replacement.flatten = edited at edit ⊢
    cases edit with
    | @marked _ _ existing page_found _ =>
      rw [map_set_of_eq page_found existing.marked_runId]
      exact distinct
    | inserted absent =>
      have missing := absent_everywhere located found absent
      have rearranged : (before.flatten ++ sortEntries host (page ++ [facts.indexed (manifest.maxRetryIndex + 1)]) ++
          after.flatten).Perm (facts.indexed (manifest.maxRetryIndex + 1) :: (before.flatten ++ page ++ after.flatten)) := by
        refine (((List.Perm.refl _).append (sortEntries_perm _)).append (List.Perm.refl _)).trans ?_
        rw [← append_assoc, append_assoc _ [_]]
        exact perm_middle
      rw [← map_append, ← map_append] at distinct ⊢
      rw [(rearranged.map _).nodup_iff, map_cons, nodup_cons]
      refine ⟨?_, distinct⟩
      intro member
      obtain ⟨entry, inside, same⟩ := mem_map.mp member
      refine missing entry ?_ same
      rw [flatten_append, flatten_cons, ← append_assoc]
      exact inside

theorem readSnapshot_none (read : readBlockRunIndexSnapshot store = .ok none) : store.pointer = none := by
  unfold readBlockRunIndexSnapshot at read
  split at read
  · assumption
  · cases read
  · obtain ⟨_, same⟩ := rest_ok read
    cases same

theorem readSnapshot_legacy (read : readBlockRunIndexSnapshot store = .ok (some (.legacy entries))) :
    store.pointer = some (.legacy entries) := by
  unfold readBlockRunIndexSnapshot at read
  split at read
  · cases read
  · rename_i given pointer
    cases read
    exact pointer
  · obtain ⟨_, same⟩ := rest_ok read
    cases same

theorem CurrentPages.eq (free : host.CollisionFree) {currentGeneration : String}
    (current : CurrentPages host store pages)
    (pointer : store.pointer = some (.v5 currentGeneration previousGeneration))
    (found : store.manifestOf currentGeneration = some manifest) (indexed : IndexTree host store manifest.rootNodeId children) :
    indexPages children = pages := by
  obtain ⟨_, _, _, _, other_pointer, given_found, others_indexed, same⟩ := current
  cases pointer.symm.trans other_pointer
  cases found.symm.trans given_found
  rw [indexed.unique free others_indexed]
  exact same

theorem upsert_keeps_unique (free : host.CollisionFree) {migration generation : String}
    {hasArtifact : Option Bool} (retains : Retains host UniqueRuns store)
    (found : findsIndexedRun host store (.upsert migration generation root runId hasArtifact) = true) :
    (upsertBlockRunInIndex host migration generation root runId hasArtifact).Ensures store (Retains host UniqueRuns)
      fun _ left => Retains host UniqueRuns left := by
  refine (requireSnapshot_ensures free retains fun _ entries migrated _ =>
    sortedPages_unique (migratedEntries_unique migrated)).bind fun snapshot reached ⟨kept, read, origin⟩ => ?_
  refine Durable.ensures_lift_bind fun facts facts_read => ?_
  refine mutateBlockRunIndex_ensures free kept read ⟨?_, ?_⟩
  · intro entries changed legacy mutated given
    subst legacy
    have distinct := kept.legacy entries (readSnapshot_legacy read) given
    rw [UniqueRuns, flatten_singleton] at distinct
    exact sortedPages_unique (mutateEntries_unique distinct mutated)
  · intro currentGeneration previousGeneration manifest children v5 indexed next published effect
    subst v5
    obtain ⟨pointer, manifest_found, _⟩ := readSnapshot_v5 read
    have publishing : Publishing host UniqueRuns currentGeneration previousGeneration manifest reached :=
      ⟨kept, pointer, manifest_found⟩
    obtain ⟨_, others_indexed, distinct⟩ := publishing.indexed
    rw [others_indexed.unique free indexed] at distinct
    have searched : searchedPages host store root = .ok (indexPages children) := by
      unfold searchedPages
      rcases origin with same | ⟨none, _, migrated, current⟩
      · subst same
        rw [pointer]
        exact publishedPages_ok pointer manifest_found indexed
      · rw [readSnapshot_none none, current.eq free pointer manifest_found indexed]
        simp only [migrated]
        rfl
    unfold findsIndexedRun at found
    simp only [searched, facts_read] at found
    exact effect.unique distinct found

/-- In every run of upserts that each find their run where its present cursor leads, if it is indexed, no run is indexed twice. -/
theorem runs_are_indexed_once (free : host.CollisionFree) {start : IndexStore} (unique : Retains host UniqueRuns start)
    (run : Durable.Reaches (performIndexing host) (fun store operation => findsIndexedRun host store operation = true) start store) :
    ∃ pages, publishedPages host store = .ok pages ∧ (pages.flatten.map BlockRunIndexEntry.runId).Nodup := by
  have retains : Retains host UniqueRuns store := by
    refine run.holds_of_keeps unique fun reached operation holds found => ?_
    cases operation with
    | upsert => exact (upsert_keeps_unique free holds found).keeps
    | rebuild => cases found
    | prepare => cases found
    | recordArtifact => cases found
    | remove => cases found
    | maintain => cases found
  cases pointer : store.pointer with
  | none => exact ⟨[], by unfold publishedPages; rw [pointer], nodup_nil⟩
  | some published =>
    cases published with
    | legacy => exact ⟨[], by unfold publishedPages; rw [pointer], nodup_nil⟩
    | v5 =>
      obtain ⟨_, publishing⟩ := retains.publishing pointer
      obtain ⟨children, indexed, distinct⟩ := publishing.indexed
      exact ⟨indexPages children, publishedPages_ok pointer publishing.current indexed, distinct⟩

theorem retains_empty (host : IndexHost) (sound : BlockRunIndexManifest → List BlockRunPage → Prop) : Retains host sound {} where
  addressed := (unpublished_empty host).addressed
  retirements := fun _ _ found => (nomatch found)
  live := fun _ member => absurd member not_mem_nil
  legacy := fun _ pointer => (nomatch pointer)

/-- In every run of index operations, stopped anywhere, the published pages can be read: filled, in order, below a tree that fits. -/
theorem published_index_shaped (free : host.CollisionFree) {start : IndexStore} (unpublished : Unpublished host start)
    (run : Durable.Reaches (performIndexing host) (fun _ _ => True) start store) :
    ∃ children, publishedPages host store = .ok (indexPages children) ∧ IndexShape host children := by
  have retains : Retains host Unrestricted store :=
    run.holds_of_keeps unpublished.retains fun _ operation holds _ => (performIndexing_ensures free operation holds).keeps
  unfold publishedPages
  split
  · rename_i pointer
    obtain ⟨manifest, publishing⟩ := retains.publishing pointer
    obtain ⟨children, indexed, _⟩ := publishing.indexed
    have read := publishedPages_ok pointer publishing.current indexed
    unfold publishedPages at read
    rw [pointer] at read
    exact ⟨children, read, indexed.shape⟩
  · exact ⟨[], rfl, (IndexTree.empty host store).shape⟩

theorem published_index_shaped_sample : ∃ children,
    publishedPages sampleIndexHost sampleIndexStore = .ok (indexPages children) ∧ IndexShape sampleIndexHost children :=
  have allowed : Durable.AllowedRun (performIndexing sampleIndexHost) (fun _ _ => True) sampleIndexing {} :=
    ⟨trivial, trivial, trivial⟩
  published_index_shaped sampleIndexHost_free (unpublished_empty sampleIndexHost) allowed.reaches

def manyRunIds : List String := (List.range 65).map fun index => "RUN-" ++ (index + 1).repr

def manyRunsRoot : RunRoot where
  blockRef := "T-001#B-001"
  runs := manyRunIds.foldl (fun runs runId => runs.set runId {}) ∅

def manyRunsStarted : RunRoot :=
  { manyRunsRoot with runs := manyRunsRoot.runs.set "RUN-1" { metadata := some { startedAt := some 1767225600000 } } }

def manyRunsEntries : BlockRunPage :=
  manyRunIds.mapIdx fun index runId => ⟨runId, index + 1, index + 1, "T-001#B-001::" ++ runId, false⟩

def firstRunAgain : BlockRunIndexEntry := ⟨"RUN-1", 66, 1767225600000, "T-001#B-001::RUN-1", false⟩

def lastRunMarked : BlockRunIndexEntry := ⟨"RUN-65", 65, 65, "T-001#B-001::RUN-65", true⟩

def manyRunsHost : IndexHost := recordedTrees [(manyRunsEntries.take 64, "8a0ccaced0cd0e861370cea779603fefb744d062e825357b2a0ddc349e920483")]
  [(manyRunsEntries.drop 64, "eb9c6b887beb05ddf591ff080d68b8ca20334cbab1b9d2a7cbb4bf4c8dc24e45",
      ["0132ee9540f91be3d053437a44674ee62def30d6458d2af9a634c3315ea3e06a",
        "17495fc71746f868eedbd87f0f8599a34a3544432cf46da602910986bf15ac45",
        "916f437a7cf8c56a6c58b38745315e2edef61ac0714a04a0bdd2630da7d1b2a4",
        "0b357c05733e3d4d8e0d7418953d13eeae5ec74350daefc6336fb05b1aaa454c",
        "6d326978009d9b76ceb4d360ba3b144f5f51e6d36ce49ff190e0e268a5a79f3a"]),
    (manyRunsEntries.drop 64 ++ [firstRunAgain], "0214103bed67520e999a9300e97c77bb5c2550b8349c3384310e7ec0993bcf4f",
      ["30045bb862c7cd61784734c208aa9e4410395e71d211be9a23ba76d84ae2614d",
        "9a96fa750e865d6428d9c1d5fab0f2307179b5cbd2a1b8ec5d2721a0c8efeab2",
        "4c640b0005ebf72a45f3e12658991f143231bb333aab6deaca73e3e7d38a4f77",
        "554cb8d6c28b257c1a77b0d3ad4da87fafea7ab555b79db255514268bfdcb49e",
        "767c0e8c5b3ddbdb0f0f87a684fa8499470ac3b1b5ade9277b17223fadff93de"]),
    ([lastRunMarked], "6b86a6ea2b62fdc3279d48b7649aef07857f504a8f101c2711a75af82ef19ae7",
      ["d6840475201f0028e0becc54862b56dd24eebbf2000d7b630e08b8cb4f02867a",
        "13f587b3edd5ab0f0a82985619be3908539ba3c02495d7f24ea24ec7c7376176",
        "3facf42d8fcc26c96918b47fbf72ea09ca5f877189c4ac896d0444916ff94cac",
        "47a02bd62d6b6045eb348a0d9175106c5e8c2e53d2d48d23fa29dd9c4f676970",
        "6d3656d6e80a4bfab5160c3d38b6de80ef4ec485d355359f7e2e822a79482962"])]

theorem manyRunsHost_free : manyRunsHost.CollisionFree where
  pages := RecordedDigest.digest_injective (by decide +kernel) (by decide +kernel)
  nodes := RecordedDigest.digest_injective (by decide +kernel) (by decide +kernel)

/-- The second run is found on the second page. -/
def repeatedUpserts : List IndexOperation :=
  [.upsert "generation-1" "generation-2" manyRunsRoot "RUN-1" none,
    .upsert "generation-3" "generation-4" manyRunsRoot "RUN-65" none]

theorem runs_are_indexed_once_many :
    ∃ pages, publishedPages manyRunsHost (Durable.runAll (performIndexing manyRunsHost) repeatedUpserts {}) = .ok pages ∧
      (pages.flatten.map BlockRunIndexEntry.runId).Nodup := by
  have allowed : Durable.AllowedRun (performIndexing manyRunsHost)
      (fun store operation => findsIndexedRun manyRunsHost store operation = true) repeatedUpserts {} := by decide +kernel
  exact runs_are_indexed_once manyRunsHost_free (retains_empty manyRunsHost UniqueRuns) allowed.reaches

def manyRunsUpserts : List IndexOperation :=
  [.upsert "generation-1" "generation-2" manyRunsRoot "RUN-1" none,
    .upsert "generation-3" "generation-4" manyRunsStarted "RUN-1" none]

/-- The later start leads to the last page, and the run is there a second time. -/
theorem restarted_run_is_indexed_twice :
    ∃ pages, publishedPages manyRunsHost (Durable.runAll (performIndexing manyRunsHost) manyRunsUpserts {}) = .ok pages ∧
      ¬ (pages.flatten.map BlockRunIndexEntry.runId).Nodup := by
  refine ⟨[manyRunsEntries.take 64, manyRunsEntries.drop 64 ++ [firstRunAgain]], by decide +kernel, by decide +kernel⟩

end PlanWeave
