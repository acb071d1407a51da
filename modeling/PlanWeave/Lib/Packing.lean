import Mathlib.Data.List.Basic

namespace Packing
open List
variable {α : Type} {fits : Bool → List α → Bool} {first : Bool} {group items : List α}

/-- Fill one group after another in order; the flag says that no group is complete yet. -/
def pack (fits : Bool → List α → Bool) (first : Bool) (group : List α) : List α → List (List α)
  | [] => [group]
  | item :: items =>
    if fits first (group ++ [item]) then pack fits first (group ++ [item]) items
    else group :: pack fits false [item] items

def Packed (fits : Bool → List α → Bool) : Bool → List (List α) → Prop
  | _, [] => True
  | first, group :: groups => fits first group = true ∧ Packed fits false groups

theorem pack_ne_nil : pack fits first group items ≠ [] := by
  fun_induction pack with
  | case1 => simp
  | case2 _ _ _ _ _ ih => exact ih
  | case3 => simp

theorem pack_flatten : (pack fits first group items).flatten = group ++ items := by
  fun_induction pack with
  | case1 => simp
  | case2 _ _ _ _ _ ih => rw [ih, append_assoc, singleton_append]
  | case3 _ _ _ _ _ ih => rw [flatten_cons, ih, singleton_append]

theorem packed_pack (fit : fits first group = true) (alone : ∀ item ∈ items, fits false [item] = true) :
    Packed fits first (pack fits first group items) := by
  fun_induction pack with
  | case1 => exact ⟨fit, trivial⟩
  | case2 _ _ _ _ larger ih => exact ih larger fun other member => alone other (by simp [member])
  | case3 _ _ item _ _ ih =>
    exact ⟨fit, ih (alone item (by simp)) fun other member => alone other (by simp [member])⟩

section Fewest
variable (sublist : ∀ first fewer more, List.Sublist fewer more → fits first more = true → fits first fewer = true)
include sublist

theorem packed_rest {groups : List (List α)} {front rest : List α} (packed : Packed fits false groups)
    (same : groups.flatten = front ++ rest) :
    ∃ fewer, Packed fits false fewer ∧ fewer.flatten = rest ∧ fewer.length ≤ groups.length := by
  induction groups generalizing front with
  | nil =>
    have empty : rest = [] := (append_eq_nil_iff.mp same.symm).2
    exact ⟨[], trivial, empty.symm, Nat.le_refl _⟩
  | cons group groups ih =>
    rw [flatten_cons] at same
    rcases append_eq_append_iff.mp same with ⟨middle, _, later⟩ | ⟨middle, split, later⟩
    · obtain ⟨fewer, kept, flat, shorter⟩ := ih packed.2 later
      exact ⟨fewer, kept, flat, Nat.le_succ_of_le shorter⟩
    · have fit := sublist false middle group (split ▸ sublist_append_right _ _) packed.1
      exact ⟨middle :: groups, ⟨fit, packed.2⟩, by rw [flatten_cons, later], Nat.le_refl _⟩

/-- No other way to cut the list into groups that fit needs fewer of them. -/
theorem pack_fewest {groups : List (List α)} (packed : Packed fits first groups) (some : groups ≠ [])
    (same : groups.flatten = group ++ items) : (pack fits first group items).length ≤ groups.length := by
  induction items generalizing first group groups with
  | nil => exact length_pos_iff.mpr some
  | cons item items ih =>
    rw [pack]
    split
    · exact ih packed some (by rw [same, append_assoc, singleton_append])
    rename_i full
    cases groups with
    | nil => exact absurd rfl some
    | cons earliest =>
      rw [flatten_cons] at same
      have leads : earliest <+: group ++ item :: items := ⟨_, same⟩
      rcases Nat.lt_or_ge group.length earliest.length with longer | shorter
      · -- the earliest group would hold the item that did not fit
        have held : group ++ [item] <+: earliest := by
          apply prefix_of_prefix_length_le _ leads
          · rw [length_append]
            exact longer
          · exact ⟨items, by simp⟩
        exact absurd (sublist first _ _ held.sublist packed.1) full
      · obtain ⟨_, rfl⟩ := prefix_of_prefix_length_le leads (prefix_append _ _) shorter
        rw [append_assoc, append_cancel_left_eq] at same
        obtain ⟨fewer, kept, flat, less⟩ := packed_rest sublist packed.2 same
        have nonempty : fewer ≠ [] := by
          rintro rfl
          cases flat
        exact Nat.succ_le_succ (Nat.le_trans (ih kept nonempty flat) less)

end Fewest
end Packing
