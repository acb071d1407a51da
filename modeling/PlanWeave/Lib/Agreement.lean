import PlanWeave.Lib.Consolidation

namespace Table
open List
variable {K R : Type} {key : R → K}

/-- The rows that a condition selects are the same, in the same order. -/
def Agree (q : R → Prop) [DecidablePred q] (t t' : Table key) : Prop :=
  (t'.rows.filter fun row => q row) = t.rows.filter fun row => q row

namespace Agree
variable {q : R → Prop} [DecidablePred q] {t t' t'' : Table key}

theorem refl : Agree q t t := rfl

theorem of_eq (same : t' = t) : Agree q t t' := same ▸ refl

theorem trans (first : Agree q t t') (second : Agree q t' t'') : Agree q t t'' := Eq.trans second first

theorem mem (agree : Agree q t t') {row : R} (holds : q row) : row ∈ t' ↔ row ∈ t := by
  have same := congrArg (row ∈ ·) agree
  simpa [mem_filter, mem_rows, holds] using same

theorem filter (agree : Agree q t t') {p : R → Bool} (stronger : ∀ row, p row = true → q row) :
    t'.rows.filter p = t.rows.filter p := by
  have both : ∀ rows : List R, (rows.filter fun row => q row).filter p = rows.filter p := by
    intro rows
    rw [filter_filter]
    apply filter_congr
    intro row _
    by_cases holds : p row = true
    · simp [holds, stronger row holds]
    · simp [holds]
  rw [← both t'.rows, agree, both]

theorem find [DecidableEq K] (agree : Agree q t t') {k : K} (keyed : ∀ row, key row = k → q row) : t'.find k = t.find k := by
  apply Option.ext
  intro row
  rw [find_eq_some, find_eq_some]
  constructor
  · rintro ⟨member, same⟩
    exact ⟨(agree.mem (keyed row same)).mp member, same⟩
  · rintro ⟨member, same⟩
    exact ⟨(agree.mem (keyed row same)).mpr member, same⟩

section Operations

theorem insert [DecidableEq K] {row : R} (inserted : t.insert row = some t') (apart : ¬ q row) : Agree q t t' := by
  unfold Table.insert at inserted
  split at inserted
  · cases inserted
    simp [Agree, apart]
  · cases inserted

variable {p : R → Prop} [DecidablePred p]

theorem of_map {edit : R → R} (rows : t'.rows = t.rows.map edit)
    (apart : ∀ row ∈ t, edit row = row ∨ (¬ q row ∧ ¬ q (edit row))) : Agree q t t' := by
  have each : ∀ rows : List R, (∀ row ∈ rows, edit row = row ∨ (¬ q row ∧ ¬ q (edit row))) →
      ((rows.map edit).filter fun row => q row) = rows.filter fun row => q row := by
    intro rows
    induction rows with
    | nil => intro _; rfl
    | cons row _ ih =>
      intro untouched
      have tail := ih fun other member => untouched other (mem_cons_of_mem _ member)
      rw [map_cons, filter_cons, filter_cons, tail]
      rcases untouched row mem_cons_self with same | ⟨before, after⟩
      · rw [same]
      · simp [before, after]
  rw [Agree, rows]
  exact each t.rows apart

theorem update {f : R → R} (keeps : ∀ row, key (f row) = key row) (apart : ∀ row ∈ t, p row → ¬ q row ∧ ¬ q (f row)) :
    Agree q t (t.update p f keeps) := by
  apply of_map rfl
  intro row member
  by_cases chosen : p row
  · rw [if_pos chosen]
    exact .inr (apart row member chosen)
  · exact .inl (if_neg chosen)

theorem updateOne {f : R → R} {keeps : ∀ row, key (f row) = key row} (updated : t.updateOne p f keeps = some t')
    (apart : ∀ row ∈ t, p row → ¬ q row ∧ ¬ q (f row)) : Agree q t t' := by
  unfold Table.updateOne at updated
  split at updated
  · cases updated
    exact update keeps apart
  · cases updated

theorem put [DecidableEq K] {row : R} (apart : ∀ other, key other = key row → ¬ q other) : Agree q t (t.put row) := by
  unfold Table.put
  split
  · apply of_map rfl
    intro other _
    by_cases same : key other = key row
    · rw [if_pos same]
      exact .inr ⟨apart other same, apart row rfl⟩
    · exact .inl (if_neg same)
  · simp [Agree, apart row rfl]

theorem delete (apart : ∀ row, p row → ¬ q row) : Agree q t (t.delete p) := by
  unfold Agree Table.delete
  rw [filter_filter]
  apply filter_congr
  intro row _
  by_cases chosen : p row
  · simp [chosen, apart row chosen]
  · simp [chosen]

theorem consolidate {G : Type} [DecidableEq K] [DecidableEq G] (rule : Consolidation key G)
    (apart : ∀ row ∈ t, rule.touched row = true → ¬ q row ∧ ¬ q (rule.place t row)) : Agree q t (rule.consolidate t) :=
  update (rule.place_key t) apart

end Operations
end Agree
end Table
