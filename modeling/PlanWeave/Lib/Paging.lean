import Mathlib.Data.List.Basic
import Mathlib.Data.List.Pairwise

namespace Paging
open List
variable {α : Type}

/-- `LIMIT limit OFFSET offset` -/
def page (rows : List α) (limit offset : Nat) : List α := (rows.drop offset).take limit

theorem flatten_pages (rows : List α) (limit pages : Nat) :
    ((List.range pages).map fun i => page rows limit (i * limit)).flatten = rows.take (pages * limit) := by
  induction pages with
  | zero => simp
  | succ _ ih =>
    rw [range_succ, map_append, flatten_append, ih, Nat.succ_mul, take_add]
    simp [page]

def seek (later : α → α → Bool) (limit : Nat) : Nat → List α → List α
  | 0, _ => []
  | rounds + 1, rows => rows.take limit ++
    if limit < rows.length then seek later limit rounds (rows.filter fun row => (rows.take limit).getLast?.any (later · row)) else []

/-- The row behind each full page comes later than the last row of the page. -/
def CleanCuts (later : α → α → Bool) (limit : Nat) (rows : List α) : Prop :=
  ∀ front last next back, rows = front ++ last :: next :: back → limit ∣ front.length + 1 → later last next = true

/-- No row comes later than one behind it, and what comes later than a row so does all that stands behind. -/
structure Ordered (later : α → α → Bool) (rows : List α) : Prop where
  pairwise : rows.Pairwise fun left right => later right left = false
  irrefl : ∀ row, later row row = false
  trans : ∀ first second third, later first second = true → later third second = false → later first third = true

variable {later : α → α → Bool} {limit : Nat} {rows front back : List α} {last next : α}

theorem exists_cut (positive : 0 < limit) (long : limit < rows.length) : ∃ front last next back,
    rows = front ++ last :: next :: back ∧ front.length + 1 = limit := by
  obtain ⟨count, rfl⟩ := Nat.exists_eq_succ_of_ne_zero (Nat.ne_of_gt positive)
  refine ⟨rows.take count, rows[count], rows[count + 1], rows.drop (count + 2), ?_, by simp; omega⟩
  rw [← drop_eq_getElem_cons, ← drop_eq_getElem_cons, take_append_drop]

theorem Ordered.behind (ordered : Ordered later (front ++ last :: next :: back)) :
    Ordered later (next :: back) ∧
      (front ++ last :: next :: back).filter (later last) = (next :: back).filter (later last) ∧
      ((next :: back).filter (later last) = next :: back ↔ later last next = true) := by
  obtain ⟨_, tail, across⟩ := pairwise_append.mp ordered.pairwise
  obtain ⟨_, tail⟩ := pairwise_cons.mp tail
  refine ⟨⟨tail, ordered.irrefl, ordered.trans⟩, ?_, ?_⟩
  · have early : front.filter (later last) = [] := filter_eq_nil_iff.mpr fun row member => by
      rw [across row member last (by simp)]
      exact Bool.false_ne_true
    rw [filter_append, early, nil_append, filter_cons_of_neg (by rw [ordered.irrefl]; exact Bool.false_ne_true)]
  · rw [filter_eq_self]
    constructor
    · exact fun all => all next (by simp)
    · intro clean row member
      rcases mem_cons.mp member with rfl | behind
      · exact clean
      · exact ordered.trans last next row clean ((pairwise_cons.mp tail).1 row behind)

theorem cleanCuts_cons (full : front.length + 1 = limit) :
    CleanCuts later limit (front ++ last :: next :: back) ↔ later last next = true ∧ CleanCuts later limit (next :: back) := by
  constructor
  · intro clean
    refine ⟨clean front last next back rfl ⟨1, by omega⟩, fun front' last' next' back' same divides => ?_⟩
    refine clean (front ++ last :: front') last' next' back' (by rw [same]; simp) ?_
    rw [length_append, length_cons, show front.length + (front'.length + 1) + 1 = front.length + 1 + (front'.length + 1) by omega, full]
    exact Nat.dvd_add (Nat.dvd_refl _) divides
  · rintro ⟨first, clean⟩ front' last' next' back' same divides
    have far := Nat.le_of_dvd (Nat.succ_pos _) divides
    obtain ⟨middle, rfl⟩ : ∃ middle, front' = front ++ middle := by
      refine prefix_of_prefix_length_le ⟨_, rfl⟩ ⟨_, same.symm⟩ ?_ |>.imp fun _ => Eq.symm
      omega
    rw [append_assoc, append_cancel_left_eq] at same
    cases middle with
    | nil =>
      cases same
      exact first
    | cons _ middle =>
      rw [cons_append, List.cons.injEq] at same
      refine clean middle last' next' back' same.2 ?_
      rw [length_append, length_cons, show front.length + (middle.length + 1) + 1 = front.length + 1 + (middle.length + 1) by omega, full] at divides
      exact (Nat.dvd_add_right (Nat.dvd_refl _)).mp divides

theorem seek_cut (full : front.length + 1 = limit) (rounds : Nat) : seek later limit (rounds + 1) (front ++ last :: next :: back) =
    front ++ last :: seek later limit rounds ((front ++ last :: next :: back).filter (later last)) := by
  have page : (front ++ last :: next :: back).take limit = front ++ [last] := by
    rw [show front ++ last :: next :: back = (front ++ [last]) ++ next :: back by simp]
    exact take_left' (by simpa using full)
  rw [seek, if_pos (by simp; omega), page]
  simp

theorem Ordered.filter (ordered : Ordered later rows) (keep : α → Bool) : Ordered later (rows.filter keep) :=
  ⟨ordered.pairwise.sublist filter_sublist, ordered.irrefl, ordered.trans⟩

theorem seek_sublist (positive : 0 < limit) : ∀ (rounds : Nat) {rows : List α}, Ordered later rows →
    (seek later limit rounds rows).Sublist rows
  | 0, _, _ => nil_sublist _
  | rounds + 1, rows, ordered => by
    by_cases long : limit < rows.length
    · obtain ⟨front, last, _, _, rfl, full⟩ := exists_cut positive long
      obtain ⟨rest, skipped, _⟩ := ordered.behind
      rw [seek_cut full, skipped]
      have inner := seek_sublist positive rounds (rest.filter (later last))
      exact ((inner.trans filter_sublist).cons_cons last).append_left front
    · rw [seek, if_neg long, append_nil]
      exact take_sublist _ _

/-- Following the cursors reads every row once exactly when no page ends between rows that the cursor cannot tell apart. -/
theorem seek_eq_iff (positive : 0 < limit) : ∀ (rounds : Nat) {rows : List α}, Ordered later rows → rows.length ≤ rounds →
    (seek later limit rounds rows = rows ↔ CleanCuts later limit rows)
  | rounds, rows, ordered, enough => by
    by_cases long : limit < rows.length
    · obtain ⟨_, last, next, back, rfl, full⟩ := exists_cut positive long
      obtain ⟨rest, skipped, clean⟩ := ordered.behind
      cases rounds with
      | zero => simp at enough
      | succ rounds =>
        rw [seek_cut full, skipped, cleanCuts_cons full, ← clean, append_cancel_left_eq, List.cons.injEq, and_iff_right rfl]
        have inner := seek_eq_iff positive rounds rest (by simp only [length_append, length_cons] at enough ⊢; omega)
        constructor
        · intro same
          have below := seek_sublist positive rounds (rest.filter (later last))
          have all : (next :: back).filter (later last) = next :: back :=
            filter_sublist.eq_of_length_le (by rw [same] at below; exact below.length_le)
          rw [all] at same
          exact ⟨all, inner.mp same⟩
        · rintro ⟨all, cuts⟩
          rw [all]
          exact inner.mpr cuts
    · have none : CleanCuts later limit rows := by
        rintro _ _ _ _ rfl divides
        have far := Nat.le_of_dvd (Nat.succ_pos _) divides
        simp only [length_append, length_cons] at long
        omega
      refine iff_of_true ?_ none
      cases rounds with
      | zero => simpa [seek] using (length_eq_zero_iff.mp (Nat.le_zero.mp enough)).symm
      | succ => rw [seek, if_neg long, append_nil, take_of_length_le (Nat.le_of_not_lt long)]

end Paging
