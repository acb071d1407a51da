import PlanWeave.Invariants.SchemaRuns
import PlanWeave.Lib.Greedy

namespace PlanWeave
open List
variable {digests : Digests} {context : RuntimeContext} {options : ClaimOptions}

theorem refsConflict_comm (graph : Graph) (left right : String) :
    refsConflict graph left right = refsConflict graph right left := by
  unfold refsConflict
  by_cases same : left = right
  · rw [same]
  have different : ¬ right = left := fun equal => same equal.symm
  rw [if_neg same, if_neg different]
  cases graph.blockTaskByRef.get? left <;> cases graph.blockTaskByRef.get? right <;> try rfl
  rename_i first second
  have swapped : decide (first = second) = decide (second = first) := by simp only [eq_comm]
  simp only [swapped, Bool.or_assoc, Bool.or_comm (graph.taskReachable first second)]

def admits (context : RuntimeContext) (options : ClaimOptions) (selected : List String) (ref : String) : Bool :=
  blockMatchesClaimFilter ref context.graph options.scope options.blockType && !context.graph.isReview ref &&
    ref ∉ inProgressBlockRefs context.graph context.state && (blockerOf options context.graph ref).isNone &&
    canDispatchImplementationBlock context.graph context.state context.manifest.maxConcurrent selected ref

def selectedImplementations (context : RuntimeContext) (options : ClaimOptions) : List String :=
  Greedy.select (admits context options) context.graph.blockRefsInManifestOrder

def reviewAdmitted (digests : Digests) (context : RuntimeContext) (options : ClaimOptions) (ref : String) : Bool :=
  context.graph.isReview ref && blockMatchesClaimFilter ref context.graph options.scope options.blockType &&
    blockReadyWithoutProjectBlockers digests context.graph context.state ref &&
    (blockerOf options context.graph ref).isNone &&
    (inProgressBlockRefs context.graph context.state).all (fun activeRef => !refsConflict context.graph ref activeRef) &&
    (selectedImplementations context options).all (fun selectedRef => !refsConflict context.graph ref selectedRef)

def noReviewSlot (context : RuntimeContext) (options : ClaimOptions) : Prop :=
  selectedImplementations context options = [] ∨
    context.manifest.maxConcurrent ≤
      (inProgressBlockRefs context.graph context.state).length + (selectedImplementations context options).length ∨
    ∃ active ∈ inProgressBlockRefs context.graph context.state, context.graph.isReview active = true

theorem selectedParallelBatchRefs_eq (digests : Digests) (context : RuntimeContext) (options : ClaimOptions) :
    (noReviewSlot context options ∧
      selectedParallelBatchRefs digests context options = selectedImplementations context options) ∨
    (¬ noReviewSlot context options ∧ selectedParallelBatchRefs digests context options =
      selectedImplementations context options ++
        (context.graph.blockRefsInManifestOrder.find? (reviewAdmitted digests context options)).toList) := by
  have implementations : context.graph.blockRefsInManifestOrder.foldl
      (selectRef context options (inProgressBlockRefs context.graph context.state)) [] =
      selectedImplementations context options := rfl
  unfold selectedParallelBatchRefs noReviewSlot
  simp only [implementations]
  split
  · rename_i full
    refine .inl ⟨?_, rfl⟩
    simpa [or_assoc] using full
  · rename_i room
    refine .inr ⟨by simpa [or_assoc] using room, ?_⟩
    split
    · rename_i reviewRef found
      exact congrArg (fun review => selectedImplementations context options ++ review.toList) found.symm
    · rename_i missing
      have whole := congrArg (fun review => selectedImplementations context options ++ review.toList) missing.symm
      exact (append_nil _).symm.trans whole

structure Startable (context : RuntimeContext) (ref : String) : Prop where
  owned : ∃ taskId, context.graph.blockTaskByRef.get? ref = some taskId
  implementation : context.graph.isImplementation ref = true
  status : context.state.status ref = .ready
  taskReady : taskDependenciesSatisfied context.graph context.state (context.graph.taskOfRef ref) = true
  blockReady : blockDependenciesCompleted context.graph context.state ref = true

variable {ref : String} {selected : List String}

theorem canDispatchImplementationBlock_refused
    (refused : canDispatchImplementationBlock context.graph context.state context.manifest.maxConcurrent selected ref =
      false) (startable : Startable context ref) :
    (∃ current ∈ context.state.currentRefs, context.state.status current = .inProgress ∧
      refsConflict context.graph ref current = true) ∨
    (∃ other ∈ selected, refsConflict context.graph ref other = true) ∨
    context.manifest.maxConcurrent ≤ (inProgressBlockRefs context.graph context.state).length + selected.length := by
  obtain ⟨⟨_, found⟩, implementation, status, taskReady, blockReady⟩ := startable
  unfold Graph.taskOfRef at taskReady
  rw [found, Option.getD_some] at taskReady
  unfold canDispatchImplementationBlock at refused
  rw [found] at refused
  by_contra admitted
  simp only [not_or, not_exists, not_and, not_le, Bool.not_eq_true] at admitted
  obtain ⟨clear, apart, room⟩ := admitted
  have current : (context.state.currentRefs.any (fun currentRef =>
      context.state.status currentRef = .inProgress && refsConflict context.graph ref currentRef)) = false := by
    simpa using clear
  have chosen : selected.any (refsConflict context.graph ref) = false := by simpa using apart
  simp [implementation, status, taskReady, blockReady, room, current, chosen] at refused

structure Wanted (context : RuntimeContext) (options : ClaimOptions) (ref : String) : Prop where
  matching : blockMatchesClaimFilter ref context.graph options.scope options.blockType = true
  free : blockerOf options context.graph ref = none

structure BatchSelected (digests : Digests) (context : RuntimeContext) (options : ClaimOptions) (retained batch : List String) :
    Prop where
  room : batch ≠ [] → retained.length + batch.length ≤ context.manifest.maxConcurrent
  apart : batch.Pairwise (fun left right => refsConflict context.graph left right = false)
  clear : ∀ ref ∈ batch, ∀ active ∈ retained, refsConflict context.graph ref active = false
  oneReview : (batch.filter context.graph.isReview).length ≤ 1
  noSecondReview : ∀ ref ∈ batch, context.graph.isReview ref = true →
    ∀ active ∈ retained, context.graph.isReview active = false
  implementations : ∀ ref ∈ batch, context.graph.isReview ref = false → Startable context ref
  reviews : ∀ ref ∈ batch, context.graph.isReview ref = true → ReadyToClaim digests context ref ∧
    (Consistent context.graph context.state → blockDependenciesCompleted context.graph context.state ref = true)
  skippedImplementation : ∀ before ref after, context.graph.blockRefsInManifestOrder = before ++ ref :: after →
    Wanted context options ref → context.graph.isReview ref = false → ref ∉ batch →
    ∃ earlier, earlier <+: batch ∧ (∀ other ∈ earlier, other ∈ before) ∧
      (¬ Startable context ref ∨
        (∃ current ∈ context.state.currentRefs, context.state.status current = .inProgress ∧
          refsConflict context.graph ref current = true) ∨
        (∃ other ∈ earlier, refsConflict context.graph ref other = true) ∨
        context.manifest.maxConcurrent ≤ retained.length + earlier.length)
  skippedReview : ∀ before ref after, context.graph.blockRefsInManifestOrder = before ++ ref :: after →
    Wanted context options ref → context.graph.isReview ref = true → ref ∉ batch →
    blockReadyWithoutProjectBlockers digests context.graph context.state ref = false ∨ batch = [] ∨
      context.manifest.maxConcurrent ≤ retained.length + batch.length ∨
      (∃ active ∈ retained, context.graph.isReview active = true) ∨
      (∃ other ∈ batch, context.graph.isReview other = true ∧ other ∈ before) ∨
      (∃ other ∈ retained ++ batch, refsConflict context.graph ref other = true)

theorem Dispatchable.startable {earlier : List String} (dispatchable : Dispatchable context earlier ref) :
    Startable context ref :=
  ⟨dispatchable.owned, dispatchable.implementation, dispatchable.status, dispatchable.taskReady, dispatchable.blockReady⟩

theorem mem_inProgressBlockRefs {graph : Graph} {state : RuntimeState}
    (member : ref ∈ inProgressBlockRefs graph state) : ref ∈ state.currentRefs ∧ state.status ref = .inProgress := by
  unfold inProgressBlockRefs at member
  simp only [mem_filter, Bool.and_eq_true, decide_eq_true_eq] at member
  exact ⟨member.1, member.2.1⟩

theorem admits_dispatchable (admitted : admits context options selected ref = true) :
    Dispatchable context selected ref := by
  unfold admits at admitted
  simp only [Bool.and_eq_true] at admitted
  exact canDispatchImplementationBlock_ok admitted.2

theorem admits_room (admitted : admits context options selected ref = true) :
    (inProgressBlockRefs context.graph context.state).length + selected.length < context.manifest.maxConcurrent := by
  unfold admits canDispatchImplementationBlock at admitted
  split at admitted
  · simp at admitted
  · simp only [Bool.and_eq_true, decide_eq_true_eq] at admitted
    omega

structure LoopKeeps (context : RuntimeContext) (selected : List String) : Prop where
  room : selected ≠ [] →
    (inProgressBlockRefs context.graph context.state).length + selected.length ≤ context.manifest.maxConcurrent
  apart : selected.Pairwise (fun left right => refsConflict context.graph left right = false)
  each : ∀ ref ∈ selected, ∃ earlier, Dispatchable context earlier ref

theorem LoopKeeps.take (keeps : LoopKeeps context selected)
    (admitted : admits context options selected ref = true) : LoopKeeps context (selected ++ [ref]) := by
  have dispatchable := admits_dispatchable admitted
  have room := admits_room admitted
  constructor
  · intro _
    simp only [length_append, length_singleton]
    omega
  · refine pairwise_append.mpr ⟨keeps.apart, pairwise_singleton _ _, ?_⟩
    intro other before new same
    rw [mem_singleton] at same
    rw [same, refsConflict_comm]
    exact dispatchable.apart other before
  · intro other member
    rcases mem_append.mp member with old | new
    · exact keeps.each other old
    · rw [mem_singleton] at new
      exact ⟨selected, new ▸ dispatchable⟩

theorem selectedImplementations_keep (context : RuntimeContext) (options : ClaimOptions) :
    LoopKeeps context (selectedImplementations context options) := by
  apply Greedy.select_induct
  · exact ⟨fun empty => absurd rfl empty, .nil, fun _ member => absurd member not_mem_nil⟩
  · exact fun _ _ _ keeps admitted => keeps.take admitted

theorem selectedImplementations_review (member : ref ∈ selectedImplementations context options) :
    context.graph.isReview ref = false := by
  obtain ⟨_, dispatchable⟩ := (selectedImplementations_keep context options).each ref member
  exact isReview_of_implementation dispatchable.implementation

theorem skipped_implementation {before after : List String}
    (order : context.graph.blockRefsInManifestOrder = before ++ ref :: after) (wanted : Wanted context options ref)
    (implementation : context.graph.isReview ref = false) (absent : ref ∉ selectedImplementations context options) :
    ∃ earlier, earlier <+: selectedImplementations context options ∧ (∀ other ∈ earlier, other ∈ before) ∧
      (¬ Startable context ref ∨ (∃ current ∈ context.state.currentRefs, context.state.status current = .inProgress ∧
          refsConflict context.graph ref current = true) ∨
        (∃ other ∈ earlier, refsConflict context.graph ref other = true) ∨ context.manifest.maxConcurrent ≤
          (inProgressBlockRefs context.graph context.state).length + earlier.length) := by
  unfold selectedImplementations at absent ⊢
  rw [order] at absent ⊢
  refine ⟨Greedy.select (admits context options) before, Greedy.select_initial before (ref :: after),
    Greedy.select_subset before, ?_⟩
  have refused := Greedy.select_refused absent
  by_cases startable : Startable context ref
  · have idle : ref ∉ inProgressBlockRefs context.graph context.state := by
      intro active
      have running := (mem_inProgressBlockRefs active).2
      rw [startable.status] at running
      cases running
    unfold admits at refused
    simp only [wanted.matching, implementation, wanted.free, idle, Bool.not_false, Bool.true_and, Option.isNone_none,
      not_false_eq_true, decide_true] at refused
    exact .inr (canDispatchImplementationBlock_refused refused startable)
  · exact .inl startable

theorem reviewAdmitted_refused (refused : reviewAdmitted digests context options ref = false)
    (wanted : Wanted context options ref) (review : context.graph.isReview ref = true) :
    blockReadyWithoutProjectBlockers digests context.graph context.state ref = false ∨
      ∃ other ∈ inProgressBlockRefs context.graph context.state ++ selectedImplementations context options,
        refsConflict context.graph ref other = true := by
  by_contra admitted
  simp only [not_or, not_exists, not_and, Bool.not_eq_true, Bool.not_eq_false, mem_append] at admitted
  obtain ⟨ready, apart⟩ := admitted
  have clear : (inProgressBlockRefs context.graph context.state).all
      (fun activeRef => !refsConflict context.graph ref activeRef) = true := by
    simpa using fun active running => apart active (.inl running)
  have distinct : (selectedImplementations context options).all
      (fun selectedRef => !refsConflict context.graph ref selectedRef) = true := by
    simpa using fun other chosen => apart other (.inr chosen)
  unfold reviewAdmitted at refused
  simp only [review, wanted.matching, ready, wanted.free, Option.isNone_none, clear, distinct, Bool.and_self,
    Bool.true_eq_false] at refused

theorem batch_without_review (none : selectedParallelBatchRefs digests context options = selectedImplementations context options)
    (reason : noReviewSlot context options ∨
      ∀ ref ∈ context.graph.blockRefsInManifestOrder, reviewAdmitted digests context options ref = false) :
    BatchSelected digests context options (inProgressBlockRefs context.graph context.state)
      (selectedParallelBatchRefs digests context options) := by
  rw [none]
  have keeps := selectedImplementations_keep context options
  have review : ∀ ref ∈ selectedImplementations context options, context.graph.isReview ref = true → False := by
    intro ref member isReview
    rw [selectedImplementations_review member] at isReview
    cases isReview
  constructor
  · exact keeps.room
  · exact keeps.apart
  · intro ref member active running
    obtain ⟨_, dispatchable⟩ := keeps.each ref member
    exact dispatchable.clear active (mem_inProgressBlockRefs running).1 (mem_inProgressBlockRefs running).2
  · rw [filter_eq_nil_iff.mpr (fun ref member isReview => review ref member isReview)]
    exact Nat.zero_le 1
  · exact fun ref member isReview => (review ref member isReview).elim
  · intro ref member _
    obtain ⟨_, dispatchable⟩ := keeps.each ref member
    exact dispatchable.startable
  · exact fun ref member isReview => (review ref member isReview).elim
  · exact fun before ref after order wanted implementation absent =>
      skipped_implementation order wanted implementation absent
  · intro before ref after order wanted isReview _
    rcases reason with (empty | full | ⟨active, running, activeReview⟩) | refused
    · exact .inr (.inl empty)
    · exact .inr (.inr (.inl full))
    · exact .inr (.inr (.inr (.inl ⟨active, running, activeReview⟩)))
    · have member : ref ∈ context.graph.blockRefsInManifestOrder := by simp [order]
      exact (reviewAdmitted_refused (refused ref member) wanted isReview).imp id
        (fun conflict => .inr (.inr (.inr (.inr conflict))))

theorem batch_with_review {reviewRef : String} (room : ¬ noReviewSlot context options)
    (found : context.graph.blockRefsInManifestOrder.find? (reviewAdmitted digests context options) = some reviewRef) :
    BatchSelected digests context options (inProgressBlockRefs context.graph context.state)
      (selectedImplementations context options ++ [reviewRef]) := by
  have keeps := selectedImplementations_keep context options
  have listed := mem_of_find?_eq_some found
  have admitted := find?_some found
  unfold reviewAdmitted at admitted
  simp only [Bool.and_eq_true, all_eq_true, Bool.not_eq_true'] at admitted
  obtain ⟨⟨⟨⟨⟨isReview, _⟩, ready⟩, _⟩, clear⟩, apart⟩ := admitted
  have implementations : ∀ ref ∈ selectedImplementations context options ++ [reviewRef],
      context.graph.isReview ref = true → ref = reviewRef := by
    intro ref member review
    rcases mem_append.mp member with old | new
    · rw [selectedImplementations_review old] at review
      cases review
    · exact mem_singleton.mp new
  unfold noReviewSlot at room
  simp only [not_or, not_le, not_exists, not_and, Bool.not_eq_true] at room
  constructor
  · intro _
    simp only [length_append, length_singleton]
    omega
  · refine pairwise_append.mpr ⟨keeps.apart, pairwise_singleton _ _, ?_⟩
    intro other before new same
    rw [mem_singleton] at same
    rw [same, refsConflict_comm]
    exact apart other before
  · intro ref member active running
    rcases mem_append.mp member with old | new
    · obtain ⟨_, dispatchable⟩ := keeps.each ref old
      exact dispatchable.clear active (mem_inProgressBlockRefs running).1 (mem_inProgressBlockRefs running).2
    · rw [mem_singleton.mp new]
      exact clear active running
  · have none : (selectedImplementations context options).filter context.graph.isReview = [] := by
      rw [filter_eq_nil_iff]
      intro ref member review
      rw [selectedImplementations_review member] at review
      cases review
    rw [filter_append, none, nil_append]
    exact length_filter_le _ _
  · exact fun _ _ _ active running => room.2.2 active running
  · intro ref member implementation
    rcases mem_append.mp member with old | new
    · obtain ⟨_, dispatchable⟩ := keeps.each ref old
      exact dispatchable.startable
    · rw [mem_singleton.mp new, isReview] at implementation
      cases implementation
  · intro ref member review
    have same := implementations ref member review
    subst same
    have claimable := readyToClaim_of_ready listed ready
    exact ⟨claimable, fun consistent => (consistent.ready ref claimable.status).2⟩
  · intro before ref after order wanted implementation absent
    rw [mem_append, not_or] at absent
    obtain ⟨earlier, early, inside, reason⟩ := skipped_implementation order wanted implementation absent.1
    exact ⟨earlier, early.trans (prefix_append _ _), inside, reason⟩
  · intro before ref after order wanted review absent
    rw [mem_append, not_or, mem_singleton] at absent
    obtain ⟨_, first, _, split, earlier⟩ := find?_eq_some_iff_append.mp found
    by_cases inside : reviewRef ∈ before
    · exact .inr (.inr (.inr (.inr (.inl ⟨reviewRef, by simp, isReview, inside⟩))))
    have passed : ref ∈ first := by
      rw [split] at order
      rcases append_eq_append_iff.mp order with ⟨more, same, rest⟩ | ⟨more, same, rest⟩
      · cases more with
        | nil => exact absurd (List.cons.inj rest).1.symm absent.2
        | cons head =>
          have head' : reviewRef = head := (List.cons.inj rest).1
          exact absurd (by simp [same, head']) inside
      · cases more with
        | nil => exact absurd (List.cons.inj rest).1 absent.2
        | cons =>
          rw [same, ← (List.cons.inj rest).1]
          simp
    have refused : reviewAdmitted digests context options ref = false := by simpa using earlier ref passed
    refine (reviewAdmitted_refused refused wanted review).imp id (fun conflict => ?_)
    obtain ⟨other, member, conflicts⟩ := conflict
    refine .inr (.inr (.inr (.inr ⟨other, ?_, conflicts⟩)))
    rw [← append_assoc]
    exact mem_append_left _ member

/-- Every batch is admissible and leaves out only what it has to. -/
theorem selectedParallelBatchRefs_greedy (digests : Digests) (context : RuntimeContext) (options : ClaimOptions) :
    BatchSelected digests context options (inProgressBlockRefs context.graph context.state)
      (selectedParallelBatchRefs digests context options) := by
  rcases selectedParallelBatchRefs_eq digests context options with ⟨full, same⟩ | ⟨room, same⟩
  · exact batch_without_review same (.inl full)
  cases found : context.graph.blockRefsInManifestOrder.find? (reviewAdmitted digests context options) with
  | none =>
    rw [found, Option.toList_none, append_nil] at same
    exact batch_without_review same (.inr (by simpa using found))
  | some =>
    rw [same, found]
    exact batch_with_review room found

def sampleContext (manifest : Manifest) (blocks : List (String × BlockState)) (tasks : List (String × TaskStatus)) :
    RuntimeContext :=
  let state : RuntimeState := {
    blocks := OrderedMap.ofList blocks
    tasks := OrderedMap.ofList (tasks.map (fun entry => (entry.1, { status := entry.2, openFeedbackCount := 0 }))) }
  { manifest, graph := indexGraph manifest (indexedTasks manifest), rawState := state, state }

def sampleOptions : ClaimOptions := { attempts := fun _ => sampleAttempt }

def reviewLeft : RuntimeContext := sampleContext (reviewedTask 1)
  [("T#a", { status := .completed }), ("T#r", { status := .ready })] [("T", .inProgress)]

/-- A review that was ready before a second review was put in front of it, in a state not reconciled since. -/
def staleReview : RuntimeContext := sampleContext
  (sampleManifest [sampleTask "T" [sampleImplementation "a", sampleReview "q" {},
    { sampleReview "r" {} with dependsOn := ["q"] }], sampleTask "U" [sampleImplementation "b"]] [])
  [("T#a", { status := .completed }), ("T#q", { status := .planned }), ("T#r", { status := .ready }),
    ("U#b", { status := .ready })] [("T", .inProgress), ("U", .ready)]

theorem selectedParallelBatchRefs_passes_reviews :
    (selectedParallelBatchRefs sampleDigests reviewLeft sampleOptions = [] ∧
      inProgressBlockRefs reviewLeft.graph reviewLeft.state = [] ∧ 0 < reviewLeft.manifest.maxConcurrent ∧
      blockReadyWithoutProjectBlockers sampleDigests reviewLeft.graph reviewLeft.state "T#r" = true) ∧
    ("T#r" ∈ selectedParallelBatchRefs sampleDigests staleReview sampleOptions ∧
      blockDependenciesCompleted staleReview.graph staleReview.state "T#r" = false) := by
  decide +kernel

end PlanWeave
