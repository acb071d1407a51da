import PlanWeave.Lib.Table

structure Consolidation {K R : Type} (key : R → K) (G : Type) where
  touched : R → Bool
  group : R → G
  survivor : List R → Option R
  settle : List R → R → R
  drop : R → R
  survivor_mem : ∀ rows row, survivor rows = some row → row ∈ rows
  survivor_none : ∀ rows, survivor rows = none → rows = []
  settle_key : ∀ rows row, key (settle rows row) = key row
  drop_key : ∀ row, key (drop row) = key row

namespace Consolidation
open List
variable {K R G : Type} {key : R → K} [DecidableEq K] [DecidableEq G] (rule : Consolidation key G)

def rowsOf (t : Table key) (group : G) : List R := t.rows.filter fun row => rule.touched row ∧ rule.group row = group

def place (t : Table key) (row : R) : R :=
  if (rule.survivor (rule.rowsOf t (rule.group row))).map key = some (key row) then
    rule.settle (rule.rowsOf t (rule.group row)) row
  else rule.drop row

theorem place_key (t : Table key) (row : R) : key (rule.place t row) = key row := by
  unfold place
  split
  · exact rule.settle_key _ row
  · exact rule.drop_key row

/-- The updates of each group touch its own rows only, so the groups are consolidated in one pass. -/
def consolidate (t : Table key) : Table key := t.update (fun row => rule.touched row = true) (rule.place t) (rule.place_key t)

variable {rule} {t : Table key} {row kept : R}

omit [DecidableEq K] in
theorem mem_rowsOf {group : G} : row ∈ rule.rowsOf t group ↔ row ∈ t ∧ rule.touched row = true ∧ rule.group row = group := by
  rw [rowsOf, mem_filter, decide_eq_true_eq]
  exact Iff.rfl

def Kept (rule : Consolidation key G) (t : Table key) (row : R) : Prop :=
  rule.survivor (rule.rowsOf t (rule.group row)) = some row

theorem place_of_kept (survives : rule.Kept t row) : rule.place t row = rule.settle (rule.rowsOf t (rule.group row)) row := by
  unfold place
  rw [if_pos (by rw [survives, Option.map_some])]

theorem place_of_not_kept (member : row ∈ t) (lost : ¬ rule.Kept t row) : rule.place t row = rule.drop row := by
  unfold place
  rw [if_neg]
  intro same
  obtain ⟨_, survives, keyed⟩ := Option.map_eq_some_iff.mp same
  have other_mem := (mem_rowsOf.mp (rule.survivor_mem _ _ survives)).1
  have same := Table.eq_of_key other_mem member keyed
  subst same
  exact lost survives

theorem mem_consolidate : row ∈ rule.consolidate t ↔
    (row ∈ t ∧ rule.touched row = false) ∨
      (∃ old ∈ t, rule.touched old = true ∧ rule.Kept t old ∧ row = rule.settle (rule.rowsOf t (rule.group old)) old) ∨
      ∃ old ∈ t, rule.touched old = true ∧ ¬ rule.Kept t old ∧ row = rule.drop old := by
  rw [consolidate, Table.mem_update]
  constructor
  · rintro ⟨old, member, rfl⟩
    by_cases touches : rule.touched old = true
    · rw [if_pos touches]
      by_cases survives : rule.Kept t old
      · exact .inr (.inl ⟨old, member, touches, survives, place_of_kept survives⟩)
      · exact .inr (.inr ⟨old, member, touches, survives, place_of_not_kept member survives⟩)
    · rw [if_neg touches]
      exact .inl ⟨member, Bool.eq_false_iff.mpr touches⟩
  · rintro (⟨member, untouched⟩ | ⟨old, member, touches, survives, rfl⟩ | ⟨old, member, touches, lost, rfl⟩)
    · exact ⟨row, member, by rw [untouched]; rfl⟩
    · exact ⟨old, member, by rw [if_pos touches, place_of_kept survives]⟩
    · exact ⟨old, member, by rw [if_pos touches, place_of_not_kept member lost]⟩

omit [DecidableEq K] in
theorem exists_kept (member : row ∈ t) (touches : rule.touched row = true) :
    ∃ kept ∈ t, rule.touched kept = true ∧ rule.group kept = rule.group row ∧ rule.Kept t kept := by
  cases survives : rule.survivor (rule.rowsOf t (rule.group row)) with
  | none =>
    have inside : row ∈ rule.rowsOf t (rule.group row) := mem_rowsOf.mpr ⟨member, touches, rfl⟩
    rw [rule.survivor_none _ survives] at inside
    cases inside
  | some kept =>
    obtain ⟨present, touched, grouped⟩ := mem_rowsOf.mp (rule.survivor_mem _ _ survives)
    refine ⟨kept, present, touched, grouped, ?_⟩
    rw [Kept, grouped]
    exact survives

omit [DecidableEq K] in
theorem Kept.unique {other : R} (survives : rule.Kept t row) (survives' : rule.Kept t other)
    (grouped : rule.group other = rule.group row) : other = row := by
  rw [Kept, grouped] at survives'
  exact Option.some.inj (survives'.symm.trans survives)

theorem filter_consolidate {p : R → Bool} (before : ∀ row, rule.touched row = true → p row = false)
    (after : ∀ row, rule.touched row = true → p (rule.place t row) = false) :
    (rule.consolidate t).rows.filter p = t.rows.filter p := by
  have each : ∀ rows : List R,
      (rows.map fun row => if rule.touched row = true then rule.place t row else row).filter p = rows.filter p := by
    intro rows
    induction rows with
    | nil => rfl
    | cons row _ ih =>
      rw [map_cons, filter_cons, filter_cons, ih]
      by_cases touches : rule.touched row = true
      · simp [touches, before row touches, after row touches]
      · rw [if_neg touches]
  exact each t.rows

end Consolidation
