import Mathlib.Data.List.Induction

namespace Greedy
open List
variable {α : Type} {accepts : List α → α → Bool}

def visit (accepts : List α → α → Bool) (chosen : List α) (item : α) : List α :=
  if accepts chosen item then chosen ++ [item] else chosen

/-- Take items in order, each by what has been taken before it. -/
def select (accepts : List α → α → Bool) (items : List α) : List α := items.foldl (visit accepts) []

theorem select_snoc (items : List α) (item : α) :
    select accepts (items ++ [item]) = visit accepts (select accepts items) item := by
  simp [select, foldl_append]

theorem select_induct {property : List α → Prop} (start : property []) (items : List α)
    (step : ∀ chosen, ∀ item ∈ items, property chosen → accepts chosen item = true → property (chosen ++ [item])) :
    property (select accepts items) := by
  induction items using List.reverseRecOn with
  | nil => exact start
  | append_singleton _ item ih =>
    have before := ih (fun chosen other member => step chosen other (mem_append_left _ member))
    rw [select_snoc]
    unfold visit
    split
    · rename_i admitted
      exact step _ item (by simp) before admitted
    · exact before

theorem select_initial (first second : List α) : select accepts first <+: select accepts (first ++ second) := by
  induction second using List.reverseRecOn with
  | nil => simp
  | append_singleton _ _ ih =>
    rw [← append_assoc, select_snoc]
    unfold visit
    split
    · exact ih.trans (prefix_append _ _)
    · exact ih

theorem select_subset (items : List α) : ∀ item ∈ select accepts items, item ∈ items := by
  apply @select_induct _ _ (fun chosen => ∀ item ∈ chosen, item ∈ items)
  · simp
  intro chosen item member inside _ other chosen'
  rcases mem_append.mp chosen' with old | new
  · exact inside other old
  · rw [mem_singleton] at new
    exact new ▸ member

theorem select_refused {first second : List α} {item : α} (absent : item ∉ select accepts (first ++ item :: second)) :
    accepts (select accepts first) item = false := by
  rw [← Bool.not_eq_true]
  intro admitted
  apply absent
  have early := @select_initial _ accepts (first ++ [item]) second
  rw [select_snoc, append_assoc] at early
  apply early.subset
  simp [visit, admitted]

end Greedy
