import Mathlib.Data.List.Range
import Mathlib.Data.List.Nodup

namespace CursorLog
open List
variable {R : Type} {cursor : R → Nat} {rows : List R} {first : Nat}

/-- The rows carry the cursors from `first` on, without gap. -/
def Spans (cursor : R → Nat) (first : Nat) (rows : List R) : Prop :=
  rows.map cursor = List.range' first rows.length

instance (cursor : R → Nat) (first : Nat) (rows : List R) : Decidable (Spans cursor first rows) :=
  inferInstanceAs (Decidable (_ = _))

theorem Spans.nil : Spans cursor first [] := rfl

theorem spans_cons {row : R} : Spans cursor first (row :: rows) ↔ cursor row = first ∧ Spans cursor (first + 1) rows := by
  simp only [Spans, map_cons, length_cons, range'_succ, List.cons.injEq]

theorem spans_append {more : List R} :
    Spans cursor first (rows ++ more) ↔ Spans cursor first rows ∧ Spans cursor (first + rows.length) more := by
  induction rows generalizing first with
  | nil => simp [Spans.nil]
  | cons _ rest ih =>
    have shift : first + 1 + rest.length = first + (rest.length + 1) := by omega
    simp only [cons_append, spans_cons, ih, and_assoc, length_cons, shift]

theorem Spans.snoc {row : R} (spans : Spans cursor first rows) (next : cursor row = first + rows.length) :
    Spans cursor first (rows ++ [row]) :=
  spans_append.mpr ⟨spans, spans_cons.mpr ⟨next, .nil⟩⟩

section
variable (spans : Spans cursor first rows)
include spans

theorem Spans.drop (count : Nat) : Spans cursor (first + count) (rows.drop count) := by
  unfold Spans at spans ⊢
  rw [map_drop, spans, drop_range', length_drop, Nat.mul_one]

theorem Spans.mem_range {row : R} (member : row ∈ rows) : first ≤ cursor row ∧ cursor row < first + rows.length := by
  have inside : cursor row ∈ rows.map cursor := mem_map_of_mem member
  rw [spans] at inside
  exact mem_range'_1.mp inside

theorem Spans.exists_row {position : Nat} (low : first ≤ position)
    (high : position < first + rows.length) : ∃ row ∈ rows, cursor row = position := by
  have inside : position ∈ rows.map cursor := by
    rw [spans]
    exact mem_range'_1.mpr ⟨low, high⟩
  exact mem_map.mp inside

theorem Spans.nodup : (rows.map cursor).Nodup := by
  rw [spans]
  exact nodup_range'

theorem Spans.eq_of_cursor {left right : R} (hl : left ∈ rows) (hr : right ∈ rows)
    (same : cursor left = cursor right) : left = right :=
  inj_on_of_nodup_map spans.nodup hl hr same

theorem Spans.min? (nonempty : rows ≠ []) : (rows.map cursor).min? = some first := by
  obtain ⟨row, _, rfl⟩ := exists_cons_of_ne_nil nonempty
  refine min?_eq_some_iff.mpr ⟨?_, fun position inside => ?_⟩
  · exact mem_map.mpr ⟨row, mem_cons_self, (spans_cons.mp spans).1⟩
  · rw [spans] at inside
    exact (mem_range'_1.mp inside).1

theorem Spans.max? (nonempty : rows ≠ []) : (rows.map cursor).max? = some (first + rows.length - 1) := by
  have pos := length_pos_iff.mpr nonempty
  refine max?_eq_some_iff.mpr ⟨?_, fun position inside => ?_⟩
  · obtain ⟨row, member, last⟩ : ∃ row ∈ rows, cursor row = first + rows.length - 1 :=
      spans.exists_row (by omega) (by omega)
    exact mem_map.mpr ⟨row, member, last⟩
  · rw [spans] at inside
    have := (mem_range'_1.mp inside).2
    omega
end

theorem Spans.getLast?_getD (spans : Spans cursor (first + 1) rows) :
    ((rows.map cursor).getLast?).getD first = first + rows.length := by
  rw [spans, getLast?_range']
  split
  · rename_i empty
    rw [Option.getD_none, empty, Nat.add_zero]
  · rw [Option.getD_some]
    omega

theorem Spans.take (spans : Spans cursor first rows) (count : Nat) : Spans cursor first (rows.take count) := by
  rw [← take_append_drop count rows] at spans
  exact (spans_append.mp spans).1

theorem Spans.filter_above (spans : Spans cursor first rows) (after : Nat) :
    rows.filter (fun row => after < cursor row) = rows.drop (after + 1 - first) := by
  induction rows generalizing first with
  | nil => simp
  | cons row rest ih =>
    obtain ⟨_, tail⟩ := spans_cons.mp spans
    by_cases above : after < cursor row
    · have all : ∀ other ∈ row :: rest, decide (after < cursor other) = true := by
        intro other member
        have := (spans.mem_range member).1
        simp only [decide_eq_true_eq]
        omega
      have zero : after + 1 - first = 0 := by omega
      rw [filter_eq_self.mpr all, zero, drop_zero]
    · have shift : after + 1 - first = after + 1 - (first + 1) + 1 := by omega
      rw [filter_cons_of_neg (by simpa using above), ih tail, shift, drop_succ_cons]

end CursorLog
