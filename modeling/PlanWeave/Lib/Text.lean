import Mathlib.Data.List.Basic
import Mathlib.Data.List.TakeWhile

namespace Text
open List

def pieces (separator : Char) : List Char → List (List Char)
  | [] => [[]]
  | c :: rest =>
    if c = separator then [] :: pieces separator rest
    else match pieces separator rest with
      | [] => [[c]]
      | piece :: more => (c :: piece) :: more

variable {separator : Char}

theorem pieces_of_free {text : List Char} (free : separator ∉ text) : pieces separator text = [text] := by
  induction text with
  | nil => rfl
  | cons c _ ih =>
    rw [mem_cons, not_or] at free
    have different : ¬ c = separator := fun same => free.1 same.symm
    simp [pieces, different, ih free.2]

theorem pieces_append_separator {left : List Char} (right : List Char)
    (free : separator ∉ left) : pieces separator (left ++ separator :: right) = left :: pieces separator right := by
  induction left with
  | nil => simp [pieces]
  | cons c _ ih =>
    rw [mem_cons, not_or] at free
    have different : ¬ c = separator := fun same => free.1 same.symm
    simp [pieces, different, ih free.2]

theorem pieces_length (separator : Char) (text : List Char) :
    (pieces separator text).length = text.count separator + 1 := by
  induction text with
  | nil => rfl
  | cons c rest ih =>
    by_cases same : c = separator
    · simp [pieces, same, ih]
    · simp only [pieces, same, if_false, count_cons_of_ne same]
      cases split : pieces separator rest with
      | nil => rw [split] at ih; simp at ih
      | cons => rw [split] at ih; simpa using ih

def isBlank (c : Char) : Bool :=
  c.val ∈ [9, 10, 11, 12, 13, 32, 0xA0, 0x1680, 0x2028, 0x2029, 0x202F, 0x205F, 0x3000, 0xFEFF] ||
    (0x2000 ≤ c.val && c.val ≤ 0x200A)

def trimChars (text : List Char) : List Char :=
  ((text.dropWhile isBlank).reverse.dropWhile isBlank).reverse

def trim (text : String) : String := String.ofList (trimChars text.toList)

theorem join_injective {left left' right right' : List Char} (free : separator ∉ left) (free' : separator ∉ left')
    (same : left ++ separator :: right = left' ++ separator :: right') : left = left' ∧ right = right' := by
  induction left generalizing left' with
  | nil =>
    cases left' with
    | nil => exact ⟨rfl, by simpa using same⟩
    | cons c =>
      simp only [nil_append, cons_append, List.cons.injEq] at same
      exact absurd (same.1 ▸ mem_cons_self) free'
  | cons c _ ih =>
    rw [mem_cons, not_or] at free
    cases left' with
    | nil =>
      simp only [nil_append, cons_append, List.cons.injEq] at same
      exact absurd same.1.symm free.1
    | cons d =>
      rw [mem_cons, not_or] at free'
      simp only [cons_append, List.cons.injEq] at same
      obtain ⟨rfl, tails⟩ := same
      obtain ⟨rfl, rights⟩ := ih free.2 free'.2 tails
      exact ⟨rfl, rights⟩

end Text
