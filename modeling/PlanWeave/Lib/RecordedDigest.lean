import Mathlib.Data.List.Nodup
import Mathlib.Logic.Equiv.List

namespace RecordedDigest
open List

instance encodableChar : Encodable Char :=
  Encodable.ofLeftInverse Char.toNat Char.ofNat Char.ofNat_toNat

instance encodableString : Encodable String :=
  Encodable.ofLeftInverse String.toList String.ofList fun _ => String.ofList_toList

variable {α : Type}

def numeral [Encodable α] (value : α) : String := String.ofList (List.replicate (Encodable.encode value) 'x')

theorem numeral_injective [Encodable α] : Function.Injective (numeral : α → String) := by
  intro left right same
  have lists := congrArg String.toList same
  simp only [numeral, String.toList_ofList] at lists
  have lengths := congrArg List.length lists
  rw [length_replicate, length_replicate] at lengths
  exact Encodable.encode_injective lengths

/-- A digest that is known at the inputs of a table. -/
def digest [DecidableEq α] [Encodable α] (table : List (α × String)) (value : α) : String := (table.lookup value).getD (numeral value)

variable {table : List (α × String)}

theorem lookup_mem [DecidableEq α] {value : α} {text : String} (found : table.lookup value = some text) :
    (value, text) ∈ table := by
  induction table with
  | nil => cases found
  | cons _ _ ih =>
    rw [lookup_cons] at found
    split at found
    · rename_i same
      cases found
      rw [eq_of_beq same]
      exact mem_cons_self
    · exact mem_cons_of_mem _ (ih found)

theorem digest_injective [DecidableEq α] [Encodable α] (distinct : (table.map Prod.snd).Nodup)
    (apart : (table.all fun pair => pair.2.toList.any (· ≠ 'x')) = true) : Function.Injective (digest table) := by
  have foreign : ∀ pair ∈ table, ∀ value : α, pair.2 ≠ numeral value := by
    intro pair member value same
    obtain ⟨_, inside, different⟩ := any_eq_true.mp (all_eq_true.mp apart pair member)
    rw [same, numeral, String.toList_ofList] at inside
    exact of_decide_eq_true different (eq_of_mem_replicate inside)
  intro left right same
  unfold digest at same
  cases left_found : table.lookup left with
  | none =>
    cases right_found : table.lookup right with
    | none =>
      rw [left_found, right_found] at same
      exact numeral_injective same
    | some =>
      rw [left_found, right_found] at same
      exact absurd same.symm (foreign _ (lookup_mem right_found) left)
  | some =>
    cases right_found : table.lookup right with
    | none =>
      rw [left_found, right_found] at same
      exact absurd same (foreign _ (lookup_mem left_found) right)
    | some =>
      rw [left_found, right_found] at same
      have pairs := inj_on_of_nodup_map distinct (lookup_mem left_found) (lookup_mem right_found) same
      exact congrArg Prod.fst pairs

end RecordedDigest
