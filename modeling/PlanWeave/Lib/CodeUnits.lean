import Mathlib.Algebra.GroupWithZero.Nat
import Mathlib.Data.List.DropRight
import Mathlib.Data.List.Range

namespace CodeUnits
open List

abbrev CodeUnit := Fin 65536

instance units_exist : NeZero 65536 := ⟨by decide⟩

/-- A string, as the list of its code units. -/
abbrev Utf16 := List CodeUnit

def isSpace (unit : CodeUnit) : Bool :=
  unit.val ∈ [9, 10, 11, 12, 13, 32, 0xA0, 0x1680, 0x2028, 0x2029, 0x202F, 0x205F, 0x3000, 0xFEFF] ||
    (0x2000 ≤ unit.val && unit.val ≤ 0x200A)

def trimSpaces (text : Utf16) : Utf16 := (text.dropWhile isSpace).rdropWhile isSpace

def slice {α : Type} (text : List α) (first last : Nat) : List α := (text.take last).drop first

def indexOf (text query : Utf16) : Option Nat :=
  (range (text.length + 1)).find? fun start => query.isPrefixOf (text.drop start)

/-- What a code unit adds to the lower-case text, between the units before and behind it: nothing, one unit or several.
A pair of surrogates is lowered at once, and a capital sigma by what stands around it. -/
abbrev LowerCase := Utf16 → CodeUnit → Utf16 → Utf16

section
variable (lower : LowerCase) (text query : Utf16)

def lowerUnits : List Utf16 :=
  text.mapIdx fun index unit => lower (text.take index) unit (text.drop (index + 1))

def toLowerCase : Utf16 := (lowerUnits lower text).flatten

/-- Up to the end of the first place of the query in the lower-case text, every unit becomes one unit. -/
def Steady : Prop :=
  ∀ start ∈ indexOf (toLowerCase lower text) query, ∀ part ∈ (lowerUnits lower text).take (start + query.length),
    part.length = 1

/-- What stands at that place has the same lower case without the text around it. -/
def Settled : Prop :=
  ∀ start ∈ indexOf (toLowerCase lower text) query, toLowerCase lower (slice text start (start + query.length)) =
    (slice (lowerUnits lower text) start (start + query.length)).flatten
end

variable {lower : LowerCase} {text query : Utf16} {start : Nat}

theorem indexOf_slice (found : indexOf text query = some start) :
    start + query.length ≤ text.length ∧ slice text start (start + query.length) = query := by
  have leads : query <+: text.drop start :=
    isPrefixOf_iff_prefix.mp (find?_some (p := fun start => query.isPrefixOf (text.drop start)) found)
  have within := mem_range.mp (mem_of_find?_eq_some found)
  have fits := leads.length_le
  rw [length_drop] at fits
  refine ⟨by omega, ?_⟩
  rw [slice, drop_take, Nat.add_sub_cancel_left]
  exact (prefix_iff_eq_take.mp leads).symm

theorem take_of_single {α : Type} {parts : List (List α)} {count : Nat}
    (single : ∀ part ∈ parts.take count, part.length = 1) : parts.take count = (parts.flatten.take count).map ([·]) := by
  induction parts generalizing count with
  | nil => simp
  | cons part parts ih =>
    cases count with
    | zero => simp
    | succ count =>
      rw [take_succ_cons, forall_mem_cons] at single
      obtain ⟨unit, rfl⟩ := length_eq_one_iff.mp single.1
      simp [ih single.2]

/-- Where the units before it are steady, the query stands at the same place in the text. -/
theorem Steady.place (steady : Steady lower text query) (found : indexOf (toLowerCase lower text) query = some start) :
    start + query.length ≤ text.length ∧
      (slice (lowerUnits lower text) start (start + query.length)).flatten = query := by
  obtain ⟨fits, placed⟩ := indexOf_slice found
  have single := take_of_single (steady start found)
  constructor
  · have lengths := congrArg length single
    have units : (lowerUnits lower text).length = text.length := length_mapIdx
    rw [length_take, length_map, length_take, units] at lengths
    rw [toLowerCase] at fits
    omega
  · rw [slice, single, ← map_drop]
    exact (flatMap_singleton' _).trans placed

end CodeUnits
