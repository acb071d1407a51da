import PlanWeave.RunIndex.Publication

namespace PlanWeave
open Checked Durable List Option
variable {host : IndexHost} {store left : IndexStore} {children : List PageTree} {generation : String}
  {previous : Option IndexSnapshot} {sound : BlockRunIndexManifest → List BlockRunPage → Prop}

def Unrestricted : BlockRunIndexManifest → List BlockRunPage → Prop := fun _ _ => True

def sortedPages (host : IndexHost) (entries : BlockRunPage) : List BlockRunPage :=
  chunks blockRunIndexPageSize (sortEntries host entries).length (sortEntries host entries)

theorem sortedPages_flatten (entries : BlockRunPage) : (sortedPages host entries).flatten = sortEntries host entries :=
  chunks_flatten (by decide) (Nat.le_refl _)

theorem sortedPages_filled (entries : BlockRunPage) : ∀ page ∈ sortedPages host entries, PageFilled page := by
  intro page member
  obtain ⟨nonempty, small, _⟩ := chunks_bounds (by decide) page member
  exact ⟨nonempty, small⟩

theorem IndexTree.empty (host : IndexHost) (store : IndexStore) : IndexTree host store none [] where
  root := rfl
  shape := { fits := Nat.zero_le _, bounded := fun _ member => absurd member not_mem_nil
             filled := fun _ member => absurd member not_mem_nil, ordered := List.Pairwise.nil }
  nodes := fun nonempty => absurd rfl nonempty
  objects := fun _ member => absurd member not_mem_nil

def PagesKeyed (host : IndexHost) (recorded : OrderedMap String BlockRunPage) : Prop :=
  ∀ key page, recorded.get? key = some page → key = pageObjectId host page ∧ PageFilled page

variable {pages : List BlockRunPage}

theorem recordPages_ok (free : host.CollisionFree) (filled : ∀ page ∈ pages, PageFilled page)
    {recorded : OrderedMap String BlockRunPage} (keyed : PagesKeyed host recorded) :
    PagesKeyed host (((pages.map (descriptorOf host)).zip pages).foldl (fun all page => all.set page.1.objectId page.2) recorded) ∧
      ∀ page, page ∈ pages ∨ recorded.get? (pageObjectId host page) = some page →
        (((pages.map (descriptorOf host)).zip pages).foldl (fun all page => all.set page.1.objectId page.2) recorded).get?
          (pageObjectId host page) = some page := by
  induction pages generalizing recorded with
  | nil => exact ⟨keyed, fun page known => known.resolve_left not_mem_nil⟩
  | cons first _ ih =>
    have next_keyed : PagesKeyed host (recorded.set (pageObjectId host first) first) :=
      OrderedMap.forall_get?_set keyed ⟨rfl, filled first (by simp)⟩
    obtain ⟨all_keyed, all_found⟩ := ih (fun page member => filled page (mem_cons_of_mem _ member)) next_keyed
    refine ⟨all_keyed, fun page known => all_found page ?_⟩
    rw [OrderedMap.get?_set]
    split
    · rename_i same
      rw [pageObjectId_injective free same]
      exact .inr rfl
    · rename_i different
      rcases known with member | found
      · rcases mem_cons.mp member with same | later
        · exact absurd (congrArg _ same) different
        · exact .inl later
      · exact .inr found

variable {draft : GenerationDraft} {entries : BlockRunPage} {currentGeneration : String}
variable {mutation : BlockRunIndexMutation}

theorem fullGenerationDraft_ok (free : host.CollisionFree) (drafted : fullGenerationDraft host entries = .ok draft) :
    draft.retirement = none ∧ PagesKeyed host draft.newPages ∧ ∀ tree, draft.built host = .ok tree →
      ∃ next, Drafts host [] next draft.newPages tree [] ∧ indexPages next = sortedPages host entries := by
  have filled : ∀ page ∈ sortedPages host entries, PageFilled page := sortedPages_filled entries
  have described : (sortedPages host entries).mapM (pageDescriptor host) =
      .ok ((sortedPages host entries).map (descriptorOf host)) :=
    mapM_of_all fun page member => pageDescriptor_ok (filled page member).1
  obtain ⟨_, same, drafted⟩ := Checked.bind_ok.mp drafted
  rw [show chunks blockRunIndexPageSize (sortEntries host entries).length (sortEntries host entries) = sortedPages host entries
    from rfl, described] at same
  cases same
  cases drafted
  have start : PagesKeyed host ∅ := fun key page found => absurd found (by simp)
  obtain ⟨keyed, recorded⟩ := recordPages_ok free filled start
  refine ⟨rfl, keyed, fun tree built => ?_⟩
  obtain ⟨next, made⟩ := (buildTree_ok filled).1 tree built
  refine ⟨next, ?_, made.pages⟩
  exact {
    shape := {
      fits := made.fits, bounded := made.bounded
      filled := by rw [made.pages]; exact filled
      ordered := by
        rw [made.pages, sortedPages_flatten]
        exact sortEntries_chronological entries }
    root := made.root
    nodes := fun nonempty payload found => .inl (made.covered nonempty payload found)
    addressed := made.addressed
    pages := fun page found => .inl (recorded page (.inl (made.pages ▸ found)))
    keyed := keyed
    retired := fun candidate member => absurd member not_mem_nil
    record := rfl }

def KnownSnapshot (store : IndexStore) (previous : Option IndexSnapshot) : Prop :=
  ∀ name, snapshotGeneration previous = some name → name ∈ store.liveGenerations

theorem knownSnapshot_none (store : IndexStore) : KnownSnapshot store none := fun _ named => by cases named

def CurrentPages (host : IndexHost) (store : IndexStore) (pages : List BlockRunPage) : Prop :=
  ∃ generation previousGeneration manifest children, store.pointer = some (.v5 generation previousGeneration) ∧
    store.manifestOf generation = some manifest ∧ IndexTree host store manifest.rootNodeId children ∧ indexPages children = pages

variable {manifest : BlockRunIndexManifest} {previousGeneration : Option String}

theorem Publishing.indexed (publishing : Publishing host sound generation previousGeneration manifest store) :
    ∃ children, IndexTree host store manifest.rootNodeId children ∧ sound manifest (indexPages children) := by
  have member : generation ∈ store.liveGenerations := by
    rw [liveGenerations_of_pointer publishing.pointer]
    exact mem_cons_self
  obtain ⟨_, children, found, indexed, held⟩ := publishing.retains.live generation member
  cases publishing.current.symm.trans found
  exact ⟨children, indexed, held⟩

theorem Publishes.currentPages (free : host.CollisionFree)
    (published : Publishes host sound children generation previousGeneration draft left)
    (drafted : ∀ tree next, draft.built host = .ok tree →
      Drafts host children next draft.newPages tree (draft.retirement.getD []) → indexPages next = pages) :
    CurrentPages host left pages := by
  obtain ⟨tree, next, manifest, built, drafts, checked, publishing⟩ := published
  obtain ⟨others, indexed, _⟩ := publishing.indexed
  have root_same : rootIdOf host others = rootIdOf host next := by
    rw [← indexed.root, ← drafts.root, (checkedManifest_ok checked).1]
  refine ⟨generation, previousGeneration, manifest, others, publishing.pointer, publishing.current, indexed, ?_⟩
  rw [rootIdOf_injective free indexed.shape drafts.shape root_same]
  exact drafted tree next built drafts

theorem replaceBlockRunIndex_ensures (free : host.CollisionFree) (retains : Retains host sound store)
    (known : KnownSnapshot store previous) (held : ∀ manifest, sound manifest (sortedPages host entries)) :
    (replaceBlockRunIndexWithV5 host generation previous entries).Ensures store (Retains host sound) fun _ left =>
      Retains host sound left ∧ CurrentPages host left (sortedPages host entries) := by
  refine ensures_lift_bind fun draft drafted => ?_
  obtain ⟨none_retired, keyed, drafts⟩ := fullGenerationDraft_ok free drafted
  have retirement : draft.retirement.getD [] = [] := by rw [none_retired]; rfl
  refine (publishGeneration_completes free retains (IndexTree.empty host store) known keyed fun tree built => ?_).toEnsures.mono ?_
  · obtain ⟨next, made, pages⟩ := drafts tree built
    refine ⟨next, by rw [retirement]; exact made, fun manifest _ => ?_⟩
    rw [pages]
    exact held manifest
  · intro _ left published
    obtain ⟨_, _, _, _, _, _, publishing⟩ := id published
    refine ⟨publishing.retains, published.currentPages free fun tree next built made => ?_⟩
    obtain ⟨_, other_made, pages⟩ := drafts tree built
    rw [rootIdOf_injective free made.shape other_made.shape (made.root.symm.trans other_made.root)]
    exact pages

theorem readSnapshot_v5
    (ran : readBlockRunIndexSnapshot store = .ok (some (.v5 currentGeneration previousGeneration manifest))) :
    store.pointer = some (.v5 currentGeneration previousGeneration) ∧ store.manifestOf currentGeneration = some manifest ∧
      blockRunIndexManifestSchema manifest = true := by
  unfold readBlockRunIndexSnapshot at ran
  split at ran
  · cases ran
  · cases ran
  rename_i pointer
  obtain ⟨_, read, same⟩ := Checked.bind_ok.mp ran
  cases same
  obtain ⟨found, _, schema⟩ := readV5Manifest_some read
  exact ⟨pointer, found, schema⟩

theorem readSnapshot_known {snapshot : Option IndexSnapshot} (ran : readBlockRunIndexSnapshot store = .ok snapshot) :
    KnownSnapshot store snapshot := by
  intro name named
  cases snapshot with
  | none => cases named
  | some snapshot =>
    cases snapshot with
    | legacy => cases named
    | v5 =>
      cases named
      rw [liveGenerations_of_pointer (readSnapshot_v5 ran).1]
      exact mem_cons_self

theorem IndexTree.agrees (indexed : IndexTree host store manifest.rootNodeId children)
    (schema : blockRunIndexManifestSchema manifest = true) : manifest.pageCount = 0 ↔ children = [] := by
  have root : manifest.rootNodeId = none ↔ children = [] := by
    rw [indexed.root, rootIdOf]
    split <;> simp_all
  rw [← root]
  unfold blockRunIndexManifestSchema at schema
  simp only [Bool.and_eq_true, decide_eq_true_eq] at schema
  obtain ⟨_, schema⟩ := schema
  split at schema
  · simp only [Bool.and_eq_true, decide_eq_true_eq, isNone_iff_eq_none] at schema
    exact ⟨fun _ => schema.1.1.2, fun _ => schema.1.1.1⟩
  · simp only [Bool.and_eq_true, decide_eq_true_eq, isSome_iff_ne_none] at schema
    exact ⟨fun zero => absurd zero (by omega), fun none => absurd none schema.1.1.1.2⟩

theorem mutateV5_ensures (free : host.CollisionFree)
    (publishing : Publishing host sound currentGeneration previousGeneration manifest store)
    (schema : blockRunIndexManifestSchema manifest = true) (indexed : IndexTree host store manifest.rootNodeId children)
    (held : ∀ next published, PlanEffect host manifest mutation (indexPages children) next → sound published next) :
    (mutateV5 host generation currentGeneration previousGeneration manifest mutation).Ensures store (Retains host sound)
      fun _ left => Retains host sound left := by
  refine (maintainPending_completes free publishing False.elim).toEnsures.bind fun _ reached publishing => ?_
  refine ensures_read_bind (ensures_lift_bind fun plan planned => ?_)
  obtain ⟨_, again, _⟩ := publishing.indexed
  cases again.unique free indexed
  cases plan with
  | unchanged => exact ensures_pure publishing.retains
  | publish =>
    obtain ⟨next, drafts, effect⟩ := plan_drafts free again (again.agrees schema) planned
    have known : KnownSnapshot reached (some (.v5 currentGeneration previousGeneration manifest)) := by
      intro name named
      cases named
      rw [liveGenerations_of_pointer publishing.pointer]
      exact mem_cons_self
    refine (publishGeneration_completes free publishing.retains again known drafts.keyed fun tree built => ?_).toEnsures.mono ?_
    · cases built
      exact ⟨next, drafts, fun published _ => held (indexPages next) published effect⟩
    · intro _ left published
      obtain ⟨_, _, _, _, _, _, publishing⟩ := published
      exact publishing.retains

structure Admitted (host : IndexHost) (sound : BlockRunIndexManifest → List BlockRunPage → Prop) (store : IndexStore)
    (snapshot : IndexSnapshot) (mutation : BlockRunIndexMutation) : Prop where
  legacy : ∀ entries next, snapshot = .legacy entries → mutateEntries entries mutation = .ok next →
    ∀ manifest, sound manifest (sortedPages host next)
  v5 : ∀ currentGeneration previousGeneration manifest children, snapshot = .v5 currentGeneration previousGeneration manifest →
    IndexTree host store manifest.rootNodeId children →
      ∀ next published, PlanEffect host manifest mutation (indexPages children) next → sound published next

section
variable (free : host.CollisionFree) (retains : Retains host sound store)
include free retains

theorem mutateBlockRunIndex_ensures {snapshot : IndexSnapshot}
    (read : readBlockRunIndexSnapshot store = .ok (some snapshot))
    (admitted : Admitted host sound store snapshot mutation) :
    (mutateBlockRunIndex host generation snapshot mutation).Ensures store (Retains host sound)
      fun _ left => Retains host sound left := by
  cases snapshot with
  | v5 currentGeneration previousGeneration manifest =>
    obtain ⟨pointer, found, schema⟩ := readSnapshot_v5 read
    have publishing : Publishing host sound currentGeneration previousGeneration manifest store := ⟨retains, pointer, found⟩
    obtain ⟨children, indexed, _⟩ := publishing.indexed
    exact mutateV5_ensures free publishing schema indexed
      (admitted.v5 currentGeneration previousGeneration manifest children rfl indexed)
  | legacy entries =>
    refine ensures_lift_bind fun next mutated => ?_
    refine (replaceBlockRunIndex_ensures free retains (readSnapshot_known read) ?_).mono fun _ left holds => holds.1
    exact admitted.legacy entries next rfl mutated

theorem migrateExistingRuns_ensures {root : RunRoot} (known : KnownSnapshot store previous)
    (held : ∀ entries, migratedEntries host root = .ok entries → ∀ manifest, sound manifest (sortedPages host entries)) :
    (migrateExistingRuns host generation root previous).Ensures store (Retains host sound) fun _ left =>
      Retains host sound left ∧ ∃ entries, migratedEntries host root = .ok entries ∧
        CurrentPages host left (sortedPages host entries) := by
  refine ensures_lift_bind fun entries migrated => ?_
  refine (replaceBlockRunIndex_ensures free retains known (held entries migrated)).mono ?_
  exact fun _ left ⟨kept, pages⟩ => ⟨kept, entries, migrated, pages⟩

theorem requireSnapshot_ensures {root : RunRoot} {failure : String} (held : readBlockRunIndexSnapshot store = .ok none →
      ∀ entries, migratedEntries host root = .ok entries → ∀ manifest, sound manifest (sortedPages host entries)) :
    (requireSnapshot host generation root failure).Ensures store (Retains host sound) fun snapshot left =>
      Retains host sound left ∧ readBlockRunIndexSnapshot left = .ok (some snapshot) ∧
        (left = store ∨ readBlockRunIndexSnapshot store = .ok none ∧
          ∃ entries, migratedEntries host root = .ok entries ∧ CurrentPages host left (sortedPages host entries)) := by
  refine ensures_read_bind (ensures_lift_bind fun snapshot read => ?_)
  have prepared : (Durable.when snapshot.isNone (migrateExistingRuns host generation root none) : Indexing Unit).Ensures store
      (Retains host sound) fun _ left => Retains host sound left ∧
        (left = store ∨ readBlockRunIndexSnapshot store = .ok none ∧
          ∃ entries, migratedEntries host root = .ok entries ∧ CurrentPages host left (sortedPages host entries)) := by
    refine ensures_when (fun missing => ?_) fun _ => ⟨retains, .inl rfl⟩
    rw [isNone_iff_eq_none.mp missing] at read
    refine (migrateExistingRuns_ensures free retains (knownSnapshot_none store) (held read)).mono ?_
    exact fun _ left ⟨kept, pages⟩ => ⟨kept, .inr ⟨read, pages⟩⟩
  refine prepared.bind fun _ reached ⟨kept, origin⟩ => ?_
  refine ensures_read_bind (ensures_lift_bind fun snapshot read => ?_)
  cases snapshot with
  | none => exact ensures_fail failure
  | some => exact ensures_pure ⟨kept, read, origin⟩
end
end PlanWeave
