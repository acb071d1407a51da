import Mathlib.Data.List.Forall2

namespace Separated
open List
variable {α β γ : Type} {marks : γ → Prop} {separator close : γ} {text : α → List γ} {text' : β → List γ}
  {related : α → β → Prop} {xs : List α} {ys : List β} {rest rest' : List γ}

/-- A text that ends here, or goes on with one of the marks. -/
def Stops (marks : γ → Prop) (rest : List γ) : Prop := ∀ mark ∈ rest.head?, marks mark

def remaining (separator close : γ) (rest : List γ) : List (List γ) → List γ
  | [] => close :: rest
  | item :: items => separator :: ([separator].intercalate (item :: items) ++ close :: rest)

end Separated
