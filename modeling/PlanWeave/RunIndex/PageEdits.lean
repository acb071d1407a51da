import PlanWeave.RunIndex.IndexTree

namespace PlanWeave
open Checked List OrderedMap
variable {host : IndexHost} {store : IndexStore} {manifest : BlockRunIndexManifest} {location : DescriptorLocation}
  {page : BlockRunPage} {replacement : List BlockRunPage} {newPages : OrderedMap String BlockRunPage}

structure Replaces (host : IndexHost) (page : BlockRunPage) (replacement : List BlockRunPage)
    (newPages : OrderedMap String BlockRunPage) : Prop where
  filled : ∀ other ∈ replacement, PageFilled other
  short : replacement.length ≤ 2
  recorded : ∀ other ∈ replacement, newPages.get? (pageObjectId host other) = some other ∨ other = page
  keyed : ∀ key other, newPages.get? key = some other → key = pageObjectId host other ∧ PageFilled other

theorem recordPage_ok (nonempty : page ≠ []) (newPages : OrderedMap String BlockRunPage) :
    recordPage host page newPages = .ok (descriptorOf host page, newPages.set (pageObjectId host page) page) := by
  unfold recordPage
  rw [pageDescriptor_ok nonempty]
  rfl

theorem Replaces.single (filled : PageFilled page) (old : BlockRunPage) :
    Replaces host old [page] (OrderedMap.set ∅ (pageObjectId host page) page) where
  filled := fun other member => by
    rw [mem_singleton.mp member]
    exact filled
  short := Nat.le_of_ble_eq_true rfl
  recorded := fun other member => by
    rw [mem_singleton.mp member, get?_set_self]
    exact .inl rfl
  keyed := forall_get?_set (fun _ _ found => by cases found) ⟨rfl, filled⟩

theorem Replaces.pair (free : host.CollisionFree) {first second : BlockRunPage} (first_filled : PageFilled first)
    (second_filled : PageFilled second) (old : BlockRunPage) :
    Replaces host old [first, second]
      ((OrderedMap.set ∅ (pageObjectId host first) first).set (pageObjectId host second) second) where
  filled := fun other member => by
    simp only [mem_cons, not_mem_nil, or_false] at member
    rcases member with same | same
    · rw [same]
      exact first_filled
    · rw [same]
      exact second_filled
  short := Nat.le_of_ble_eq_true rfl
  recorded := fun other member => by
    simp only [mem_cons, not_mem_nil, or_false] at member
    rcases member with same | same
    · subst same
      rw [get?_set]
      split
      · rename_i collision
        rw [pageObjectId_injective free collision]
        exact .inl rfl
      · rw [get?_set_self]
        exact .inl rfl
    · rw [same, get?_set_self]
      exact .inl rfl
  keyed := forall_get?_set (Replaces.single first_filled old).keyed ⟨rfl, second_filled⟩

variable {entry : BlockRunIndexEntry}

theorem Replaces.append (filled : PageFilled page) :
    Replaces host page [page, [entry]] (OrderedMap.set ∅ (pageObjectId host [entry]) [entry]) where
  filled := fun other member => by
    simp only [mem_cons, not_mem_nil, or_false] at member
    rcases member with same | same
    · rw [same]
      exact filled
    · rw [same]
      exact ⟨cons_ne_nil _ _, Nat.le_of_ble_eq_true rfl⟩
  short := Nat.le_of_ble_eq_true rfl
  recorded := fun other member => by
    simp only [mem_cons, not_mem_nil, or_false] at member
    rcases member with same | same
    · exact .inr same
    · rw [same, get?_set_self]
      exact .inl rfl
  keyed := (Replaces.single ⟨cons_ne_nil _ _, Nat.le_of_ble_eq_true rfl⟩ page).keyed

theorem sortEntries_perm (entries : BlockRunPage) : (sortEntries host entries).Perm entries := perm_insertionSort _ _

theorem sortEntries_chronological (entries : BlockRunPage) : Chronological host (sortEntries host entries) := by
  have : Std.Total fun left right : BlockRunIndexEntry => Upto host left.cursor right.cursor := ⟨fun _ _ => Upto.total⟩
  have : IsTrans BlockRunIndexEntry fun left right => Upto host left.cursor right.cursor := ⟨fun _ _ _ => Upto.trans⟩
  exact pairwise_insertionSort _ _

theorem sortEntries_eq (ordered : Chronological host page) : sortEntries host page = page := List.Pairwise.insertionSort_eq ordered

theorem remainingPage_ok (filled : PageFilled page) (keep : BlockRunIndexEntry → Bool) :
    ∃ replacement newPages, remainingPage host (page.filter keep) = .ok (replacement.map (descriptorOf host), newPages) ∧
      Replaces host page replacement newPages ∧ replacement.flatten = page.filter keep ∧ replacement.length ≤ 1 := by
  unfold remainingPage
  by_cases empty : (page.filter keep).length = 0
  · refine ⟨[], ∅, by rw [if_pos empty]; rfl, ?_, (length_eq_zero_iff.mp empty).symm, Nat.zero_le _⟩
    exact { filled := fun other member => absurd member not_mem_nil, short := Nat.zero_le _
            recorded := fun other member => absurd member not_mem_nil
            keyed := fun key other found => absurd found (by simp) }
  · have nonempty : page.filter keep ≠ [] := fun none => empty (by rw [none]; rfl)
    refine ⟨[page.filter keep], _, ?_, Replaces.single ⟨nonempty, (length_filter_le _ _).trans filled.2⟩ page, by simp,
      Nat.le_refl _⟩
    rw [if_neg empty, recordPage_ok nonempty]
    rfl

theorem removeFromPage_ok {removed : BlockRunIndexEntry} (filled : PageFilled page) {change : PageChange}
    (ran : removeFromPage host store manifest location page removed = .ok change) :
    ∃ replacement, change.replacement = replacement.map (descriptorOf host) ∧ Replaces host page replacement change.newPages ∧
      replacement.flatten = page.filter (fun entry => entry.runId ≠ removed.runId) := by
  obtain ⟨replacement, _, recorded, replaces, flat, _⟩ :=
    remainingPage_ok filled fun entry => decide (entry.runId ≠ removed.runId)
  unfold removeFromPage at ran
  rw [recorded] at ran
  obtain ⟨_, same, ran⟩ := bind_ok.mp ran
  cases same
  obtain ⟨_, _, ran⟩ := rest_ok₂ ran
  cases ran
  exact ⟨replacement, rfl, replaces, flat⟩

theorem PageFilled.set (filled : PageFilled page) (index : Nat) (entry : BlockRunIndexEntry) : PageFilled (page.set index entry) := by
  refine ⟨?_, by rw [length_set]; exact filled.2⟩
  intro empty
  have none := congrArg List.length empty
  rw [length_set] at none
  exact filled.1 (length_eq_zero_iff.mp none)

theorem markInPage_ok {existing : BlockRunIndexEntry} {index : Nat} {marks : Bool} (filled : PageFilled page) :
    markInPage host manifest page index existing marks =
      if (existing.hasArtifact || marks) = existing.hasArtifact then .ok none
      else .ok (some {
        replacement := [page.set index existing.marked].map (descriptorOf host)
        newPages := OrderedMap.set ∅ (pageObjectId host (page.set index existing.marked)) (page.set index existing.marked)
        total := manifest.total, maxRetryIndex := manifest.maxRetryIndex
        head := if sameRun manifest.head existing.runId then some existing.marked else manifest.head
        latestArtifact := laterEntry host existing.marked manifest.latestArtifact }) := by
  unfold markInPage
  rw [recordPage_ok (filled.set index existing.marked).1]
  rfl

theorem recordSorted_ok (free : host.CollisionFree) {entries : BlockRunPage} (nonempty : entries ≠ [])
    (bound : entries.length ≤ blockRunIndexPageSize + 1) (old : BlockRunPage) :
    ∃ replacement newPages, recordSorted host entries = .ok (replacement.map (descriptorOf host), newPages) ∧
      Replaces host old replacement newPages ∧ replacement.flatten = entries ∧
      (replacement.length = 2 → blockRunIndexPageSize < entries.length) := by
  unfold recordSorted
  split
  · rename_i fits
    refine ⟨[entries], _, ?_, Replaces.single ⟨nonempty, fits⟩ old, by simp, by simp⟩
    rw [recordPage_ok nonempty]
    rfl
  · rename_i long
    have whole : entries.length = 65 := by
      have size : blockRunIndexPageSize = 64 := rfl
      omega
    have first_filled : PageFilled (entries.take ((entries.length + 1) / 2)) := by
      refine ⟨?_, by rw [length_take, whole]; decide⟩
      intro none
      have count := congrArg List.length none
      rw [length_take, whole] at count
      exact absurd count (by decide)
    have second_filled : PageFilled (entries.drop ((entries.length + 1) / 2)) := by
      refine ⟨?_, by rw [length_drop, whole]; decide⟩
      intro none
      have count := congrArg List.length none
      rw [length_drop, whole] at count
      exact absurd count (by decide)
    refine ⟨[_, _], _, ?_, Replaces.pair free first_filled second_filled old, by simp, fun _ => Nat.not_le.mp long⟩
    rw [recordPage_ok first_filled.1]
    show (recordPage host _ _ >>= _) = _
    rw [recordPage_ok second_filled.1]
    rfl

theorem append_chronological (filled : PageFilled page) (ordered : Chronological host page)
    (appends : isSequentialFullAppend host manifest location page entry = true) : Chronological host (page ++ [entry]) := by
  unfold isSequentialFullAppend at appends
  obtain ⟨_, last, _, last_same⟩ := Parts.exists_ends filled.1
  rw [last_same, Bool.and_eq_true] at appends
  have after : Before host last.cursor entry.cursor := of_decide_eq_true appends.2
  refine pairwise_append.mpr ⟨ordered, pairwise_singleton _ _, ?_⟩
  intro left left_member right right_member
  rw [mem_singleton.mp right_member]
  have upto := upto_last ordered left_member
  rw [show lastCursor page = last.cursor by simp [lastCursor, last_same]] at upto
  exact upto.trans after.upto

theorem insertIntoPage_ok (free : host.CollisionFree) (filled : PageFilled page) (ordered : Chronological host page)
    (described : location.descriptor = descriptorOf host page) (entry : BlockRunIndexEntry) :
    ∃ replacement newPages, insertIntoPage host manifest location page entry =
        .ok (replacement.map (descriptorOf host), newPages) ∧
      Replaces host page replacement newPages ∧ replacement.flatten = sortEntries host (page ++ [entry]) ∧
      (replacement.length = 2 → page.length = blockRunIndexPageSize) := by
  unfold insertIntoPage
  split
  · rename_i appends
    refine ⟨[page, [entry]], _, ?_, Replaces.append filled, ?_, fun _ => ?_⟩
    · rw [recordPage_ok (cons_ne_nil _ _), described]
      rfl
    · rw [sortEntries_eq (append_chronological filled ordered appends)]
      simp
    · unfold isSequentialFullAppend at appends
      rw [Bool.and_eq_true, Bool.and_eq_true] at appends
      exact of_decide_eq_true appends.1.2
  · have length : (sortEntries host (page ++ [entry])).length = page.length + 1 := by
      rw [(sortEntries_perm _).length_eq, length_append]
      rfl
    have nonempty : sortEntries host (page ++ [entry]) ≠ [] := by
      intro none
      rw [none] at length
      simp at length
    obtain ⟨replacement, newPages, recorded, replaces, flat, long⟩ :=
      recordSorted_ok free nonempty (by rw [length]; exact Nat.add_le_add_right filled.2 1) page
    refine ⟨replacement, newPages, recorded, replaces, flat, fun two => ?_⟩
    have small := filled.2
    omega

theorem insertChange_ok (free : host.CollisionFree) (filled : PageFilled page) (ordered : Chronological host page)
    (described : location.descriptor = descriptorOf host page) (entry : BlockRunIndexEntry) :
    ∃ replacement newPages, insertChange host manifest location page entry = .ok {
        replacement := replacement.map (descriptorOf host), newPages := newPages, total := manifest.total + 1
        maxRetryIndex := entry.retryIndex, head := laterEntry host entry manifest.head
        latestArtifact :=
          if entry.hasArtifact then laterEntry host entry manifest.latestArtifact else manifest.latestArtifact } ∧
      Replaces host page replacement newPages ∧ replacement.flatten = sortEntries host (page ++ [entry]) ∧
      (replacement.length = 2 → page.length = blockRunIndexPageSize) := by
  obtain ⟨replacement, newPages, inserted, replaces, flat, full⟩ := insertIntoPage_ok free filled ordered described entry
  refine ⟨replacement, newPages, ?_, replaces, flat, full⟩
  unfold insertChange
  rw [inserted]
  rfl

end PlanWeave
