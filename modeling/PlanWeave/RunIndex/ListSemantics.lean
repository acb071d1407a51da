import PlanWeave.RunIndex.PlanSpec

namespace PlanWeave
open List

def StrictlyChronological (host : IndexHost) (entries : BlockRunPage) : Prop :=
  entries.Pairwise fun left right => Before host left.cursor right.cursor

def Tied (host : IndexHost) (left right : BlockRunLogicalCursor) : Prop := Upto host left right ∧ Upto host right left

instance (host : IndexHost) : DecidableRel (Tied host) := fun _ _ => inferInstanceAs (Decidable (_ ∧ _))

structure Summarizes (host : IndexHost) (entries : BlockRunPage) (total maxRetryIndex : Nat)
    (head latestArtifact : Option BlockRunIndexEntry) : Prop where
  total : total = entries.length
  retries : ∀ entry ∈ entries, entry.retryIndex ≤ maxRetryIndex
  head : head = entries.getLast?
  latestArtifact : latestArtifact = (entries.filter BlockRunIndexEntry.hasArtifact).getLast?

theorem mutateEntries_eq (entries : BlockRunPage) (mutation : BlockRunIndexMutation) :
    mutateEntries entries mutation = mutateEntriesAfter (maxRetryIndexOf entries) entries mutation := rfl

variable {host : IndexHost} {entries others : BlockRunPage} {entry : BlockRunIndexEntry} {runId : String}
variable {left right : BlockRunLogicalCursor}

theorem Before.not_tied (before : Before host left right) : ¬ Tied host left right :=
  fun tied => not_upto.mpr before tied.2

theorem Tied.symm (tied : Tied host left right) : Tied host right left := ⟨tied.2, tied.1⟩

theorem Upto.before_of_not_tied (upto : Upto host left right) (apart : ¬ Tied host left right) :
    Before host left right := not_upto.mp fun back => apart ⟨upto, back⟩

theorem StrictlyChronological.chronological (strict : StrictlyChronological host entries) : Chronological host entries :=
  List.Pairwise.imp (fun before => before.upto) strict

def Untied (host : IndexHost) (entries : BlockRunPage) : Prop :=
  entries.Pairwise fun left right => ¬ Tied host left.cursor right.cursor

theorem StrictlyChronological.untied (strict : StrictlyChronological host entries) : Untied host entries :=
  List.Pairwise.imp (fun before => before.not_tied) strict

theorem Untied.perm (untied : Untied host entries) (same : entries.Perm others) : Untied host others :=
  (same.pairwise_iff fun apart tied => apart tied.symm).mp untied

theorem Chronological.strictly (ordered : Chronological host entries) (untied : Untied host entries) :
    StrictlyChronological host entries :=
  List.Pairwise.imp₂ (fun _ _ upto apart => upto.before_of_not_tied apart) ordered untied

theorem StrictlyChronological.eq_of_perm (strict : StrictlyChronological host entries)
    (other_strict : StrictlyChronological host others) (same : entries.Perm others) : entries = others := by
  refine List.Perm.eq_of_pairwise (fun left right _ _ forth back => ?_) strict other_strict same
  exact absurd (forth.trans_upto back.upto) (Before.irrefl _)

theorem eq_sortEntries (ordered : Chronological host entries) (untied : Untied host others) (same : entries.Perm others) :
    entries = sortEntries host others ∧ StrictlyChronological host entries := by
  have strict := ordered.strictly (untied.perm same.symm)
  have sorted_perm : (sortEntries host others).Perm others := sortEntries_perm others
  have sorted := (sortEntries_chronological others).strictly (untied.perm sorted_perm.symm)
  exact ⟨strict.eq_of_perm sorted (same.trans sorted_perm.symm), strict⟩

section
variable (strict : StrictlyChronological host entries)
include strict

theorem StrictlyChronological.sort : sortEntries host entries = entries :=
  (eq_sortEntries strict.chronological strict.untied (List.Perm.refl _)).1.symm

theorem lastEntry_iff :
    entries.getLast? = some entry ↔ entry ∈ entries ∧ ∀ other ∈ entries, Upto host other.cursor entry.cursor := by
  rcases eq_nil_or_concat entries with empty | ⟨_, last, same⟩
  · subst empty
    simp
  rw [concat_eq_append] at same
  subst same
  obtain ⟨_, _, across⟩ := pairwise_append.mp strict
  rw [getLast?_concat, Option.some.injEq]
  constructor
  · intro here
    subst here
    refine ⟨by simp, fun other member => ?_⟩
    rcases mem_append.mp member with earlier | here
    · exact (across other earlier last (by simp)).upto
    · rw [mem_singleton.mp here]
      exact Upto.refl _
  · rintro ⟨member, latest⟩
    rcases mem_append.mp member with earlier | here
    · exact absurd (latest last (by simp)) (not_upto.mpr (across entry earlier last (by simp)))
    · exact (mem_singleton.mp here).symm

theorem StrictlyChronological.filter (keep : BlockRunIndexEntry → Bool) :
    StrictlyChronological host (entries.filter keep) := List.Pairwise.filter keep strict

theorem laterEntry_last (all_strict : StrictlyChronological host others)
    (same : ∀ other, other ∈ others ↔ other = entry ∨ other ∈ entries) :
    laterEntry host entry entries.getLast? = others.getLast? := by
  have is_last : ∀ last, last = entry ∨ last ∈ entries → Upto host entry.cursor last.cursor → (∀ other ∈ entries, Upto host other.cursor last.cursor) →
      some last = others.getLast? := by
    intro last listed new old
    refine ((lastEntry_iff all_strict).mpr ⟨(same last).mpr listed, fun other member => ?_⟩).symm
    rcases (same other).mp member with rfl | earlier
    · exact new
    · exact old other earlier
  cases last : entries.getLast? with
  | none =>
    have empty : entries = [] := getLast?_eq_none_iff.mp last
    subst empty
    exact is_last entry (.inl rfl) (Upto.refl _) fun _ old => by cases old
  | some kept =>
    obtain ⟨kept_member, kept_latest⟩ := (lastEntry_iff strict).mp last
    unfold laterEntry
    simp only
    split
    · rename_i later
      exact is_last entry (.inl rfl) (Upto.refl _) fun other old => (kept_latest other old).trans later.upto
    · rename_i earlier
      exact is_last kept (.inr kept_member) (not_before.mp earlier) kept_latest
end

def DistinctRuns (entries : BlockRunPage) : Prop := (entries.map BlockRunIndexEntry.runId).Nodup

theorem DistinctRuns.eq (distinct : DistinctRuns entries) {left right : BlockRunIndexEntry} (left_member : left ∈ entries)
    (right_member : right ∈ entries) (same : left.runId = right.runId) : left = right :=
  inj_on_of_nodup_map distinct left_member right_member same

def changeRun (runId : String) (change : BlockRunIndexEntry → BlockRunIndexEntry) (entry : BlockRunIndexEntry) : BlockRunIndexEntry :=
  if entry.runId = runId then change entry else entry

variable {change : BlockRunIndexEntry → BlockRunIndexEntry}

theorem map_changeRun_absent (absent : ∀ entry ∈ entries, entry.runId ≠ runId) :
    entries.map (changeRun runId change) = entries := by
  have same : entries.map (changeRun runId change) = entries.map id :=
    map_congr_left fun entry member => if_neg (absent entry member)
  rw [same, map_id]

theorem set_runPosition {existing : BlockRunIndexEntry}
    (distinct : DistinctRuns entries) (found : entries[runPosition entries runId]? = some existing) :
    entries.set (runPosition entries runId) (change existing) = entries.map (changeRun runId change) := by
  induction entries with
  | nil => cases found
  | cons first rest ih =>
    obtain ⟨apart, rest_distinct⟩ := nodup_cons.mp distinct
    unfold runPosition at found ⊢
    rw [findIdx_cons] at found ⊢
    by_cases here : first.runId = runId
    · rw [decide_eq_true here] at found ⊢
      cases found
      have absent : ∀ entry ∈ rest, entry.runId ≠ runId :=
        fun entry member same => apart (mem_map.mpr ⟨entry, member, same.trans here.symm⟩)
      show change existing :: rest = changeRun runId change existing :: rest.map (changeRun runId change)
      rw [map_changeRun_absent absent, changeRun, if_pos here]
    · rw [decide_eq_false here] at found ⊢
      show first :: rest.set (runPosition rest runId) (change existing) = _
      rw [ih rest_distinct found, map_cons, changeRun, if_neg here]

theorem filter_absent (absent : ∀ entry ∈ entries, entry.runId ≠ runId) :
    entries.filter (fun entry => entry.runId ≠ runId) = entries :=
  filter_eq_self.mpr fun entry member => decide_eq_true (absent entry member)

theorem length_without {existing : BlockRunIndexEntry} (distinct : DistinctRuns entries) (member : existing ∈ entries) :
    (entries.filter fun entry => entry.runId ≠ existing.runId).length = entries.length - 1 := by
  have same : (entries.filter fun entry => entry.runId ≠ existing.runId) = entries.erase existing := by
    rw [List.Nodup.erase_eq_filter (List.Nodup.of_map _ distinct)]
    refine filter_congr fun entry inside => ?_
    by_cases equal : entry = existing
    · simp [equal]
    · have different : entry.runId ≠ existing.runId := fun ids => equal (distinct.eq inside member ids)
      simp [equal, different]
  rw [same, length_erase_of_mem member]

section Summary
variable {total maxRetryIndex : Nat} {head latestArtifact : Option BlockRunIndexEntry} {existing : BlockRunIndexEntry}

section
variable (summary : Summarizes host entries total maxRetryIndex head latestArtifact)
include summary

theorem Summarizes.insert (strict : StrictlyChronological host entries) (all_strict : StrictlyChronological host others)
    (rearranged : others.Perm (entry :: entries)) (next : entry.retryIndex = maxRetryIndex + 1) :
    Summarizes host others (total + 1) entry.retryIndex (laterEntry host entry head)
      (if entry.hasArtifact then laterEntry host entry latestArtifact else latestArtifact) where
  total := by
    rw [rearranged.length_eq, length_cons, summary.total]
  retries := fun other member => by
    rcases mem_cons.mp (rearranged.mem_iff.mp member) with new | old
    · rw [new]
    · have bound := summary.retries other old
      omega
  head := by
    rw [summary.head]
    exact laterEntry_last strict all_strict fun other => by rw [rearranged.mem_iff, mem_cons]
  latestArtifact := by
    have members : ∀ other, other ∈ others.filter BlockRunIndexEntry.hasArtifact ↔
        (other = entry ∨ other ∈ entries) ∧ other.hasArtifact = true := by
      intro other
      rw [mem_filter, rearranged.mem_iff, mem_cons]
    rw [summary.latestArtifact]
    by_cases artifact : entry.hasArtifact = true
    · rw [if_pos artifact]
      refine laterEntry_last (strict.filter _) (all_strict.filter _) fun other => ?_
      rw [members, mem_filter]
      constructor
      · rintro ⟨source, has⟩
        exact source.imp id fun old => ⟨old, has⟩
      · intro source
        rcases source with new | old
        · exact ⟨.inl new, new ▸ artifact⟩
        · exact ⟨.inr old.1, old.2⟩
    · rw [if_neg artifact]
      have same : (others.filter BlockRunIndexEntry.hasArtifact).Perm (entries.filter BlockRunIndexEntry.hasArtifact) := by
        have filtered := rearranged.filter BlockRunIndexEntry.hasArtifact
        rw [filter_cons_of_neg artifact] at filtered
        exact filtered
      rw [(all_strict.filter _).eq_of_perm (strict.filter _) same]

theorem Summarizes.mark
    (strict : StrictlyChronological host entries) (distinct : DistinctRuns entries) (member : existing ∈ entries)
    (unmarked : existing.hasArtifact = false)
    (all_strict : StrictlyChronological host (entries.map (changeRun existing.runId BlockRunIndexEntry.marked))) :
    Summarizes host (entries.map (changeRun existing.runId BlockRunIndexEntry.marked)) total maxRetryIndex
      (if sameRun head existing.runId then some existing.marked else head) (laterEntry host existing.marked latestArtifact) where
  total := by rw [length_map, summary.total]
  retries := fun other inside => by
    obtain ⟨source, source_member, rfl⟩ := mem_map.mp inside
    have bound := summary.retries source source_member
    unfold changeRun
    split <;> exact bound
  head := by
    rw [summary.head, getLast?_map]
    cases last : entries.getLast? with
    | none => rfl
    | some final =>
      have final_member : final ∈ entries := mem_of_getLast? last
      unfold sameRun changeRun
      simp only [Option.map_some, Option.some.injEq, decide_eq_true_eq]
      by_cases same : final.runId = existing.runId
      · rw [if_pos same, if_pos same, distinct.eq final_member member same]
      · rw [if_neg same, if_neg same]
  latestArtifact := by
    rw [summary.latestArtifact]
    refine laterEntry_last (strict.filter _) (all_strict.filter _) fun other => ?_
    rw [mem_filter, mem_map, mem_filter]
    constructor
    · rintro ⟨⟨_, source_member, changed⟩, has⟩
      unfold changeRun at changed
      split at changed
      · rename_i same
        rw [distinct.eq source_member member same] at changed
        exact .inl changed.symm
      · subst changed
        exact .inr ⟨source_member, has⟩
    · intro source
      rcases source with new | ⟨old, has⟩
      · rw [new]
        exact ⟨⟨existing, member, if_pos rfl⟩, rfl⟩
      · refine ⟨⟨other, old, if_neg fun same => ?_⟩, has⟩
        rw [distinct.eq old member same, unmarked] at has
        cases has
end

theorem last_without (strict : StrictlyChronological host entries) {last : BlockRunIndexEntry}
    (final : entries.getLast? = some last) (kept : last.runId ≠ runId) :
    (entries.filter fun entry => entry.runId ≠ runId).getLast? = some last := by
  obtain ⟨member, latest⟩ := (lastEntry_iff strict).mp final
  refine (lastEntry_iff (strict.filter _)).mpr ⟨mem_filter.mpr ⟨member, decide_eq_true kept⟩, fun other inside => ?_⟩
  exact latest other (mem_filter.mp inside).1

theorem last_without_other (strict : StrictlyChronological host entries) (other : sameRun entries.getLast? runId = false) :
    entries.getLast? = (entries.filter fun entry => entry.runId ≠ runId).getLast? := by
  cases final : entries.getLast? with
  | none =>
    rw [getLast?_eq_none_iff.mp final]
    rfl
  | some =>
    unfold sameRun at other
    rw [final, Option.map_some, decide_eq_false_iff_not, Option.some.injEq] at other
    exact (last_without strict final other).symm

end Summary
end PlanWeave
