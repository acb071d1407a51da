import Mathlib.Data.List.Basic
import Mathlib.Logic.Relation

namespace Checked
open List
variable {α β ε : Type}
variable {action : Except ε α} {f : α → Except ε β} {items : List α} {step : β → α → Except ε β}
variable {result : β} {item : α}

theorem bind_ok {next : α → Except ε β} :
    (action >>= next) = .ok result ↔ ∃ value, action = .ok value ∧ next value = .ok result := by
  cases action <;> simp [Bind.bind, Except.bind]

section Rest
variable {γ δ : Type} {last : δ}

theorem rest_ok {next : α → Except ε δ} (done : (action >>= next) = .ok last) : ∃ value, next value = .ok last := by
  obtain ⟨value, _, rest⟩ := bind_ok.mp done
  exact ⟨value, rest⟩

theorem rest_ok₂ {next : α → Except ε β} {following : α → β → Except ε δ}
    (done : (action >>= fun value => next value >>= following value) = .ok last) : ∃ value other, following value other = .ok last := by
  obtain ⟨value, rest⟩ := rest_ok done
  exact ⟨value, rest_ok rest⟩

theorem rest_ok₃ {next : α → Except ε β} {following : α → β → Except ε γ} {final : α → β → γ → Except ε δ}
    (done : (action >>= fun value => next value >>= fun other => following value other >>= final value other) = .ok last) :
    ∃ value other third, final value other third = .ok last := by
  obtain ⟨value, rest⟩ := rest_ok done
  exact ⟨value, rest_ok₂ rest⟩

end Rest

theorem map_ok {f : α → β} : action.map f = .ok result ↔ ∃ value, action = .ok value ∧ f value = result := by
  cases action <;> simp [Except.map]

theorem toOption_eq_some {value : α} : action.toOption = some value ↔ action = .ok value := by
  cases action <;> simp [Except.toOption]

/-- `if (!condition) throw reason` -/
def demand (condition : Prop) [Decidable condition] (reason : ε) : Except ε Unit :=
  if condition then .ok () else .error reason

/-- `if (value === undefined) throw reason` -/
def present (value : Option α) (reason : ε) : Except ε α :=
  match value with
  | some value => .ok value
  | none => .error reason

variable {reason : ε} {rest : List α} {results : List β} {start : β}

@[simp] theorem demand_ok {condition : Prop} [Decidable condition] {result : Unit} :
    demand condition reason = .ok result ↔ condition := by
  unfold demand
  split <;> simp [*]

@[simp] theorem present_ok {value : Option α} {result : α} :
    present value reason = .ok result ↔ value = some result := by
  cases value <;> simp [present]

def errorOf : Except ε α → Option ε
  | .ok _ => none
  | .error error => some error

theorem mapM_of_all {g : α → β} (all : ∀ item ∈ items, f item = .ok (g item)) : items.mapM f = .ok (items.map g) := by
  induction items with
  | nil => rfl
  | cons item _ ih =>
    rw [mapM_cons, all item (by simp), ih (fun other member => all other (mem_cons_of_mem _ member))]
    rfl

theorem mapM_cons_ok (accepted : (item :: rest).mapM f = .ok results) :
    ∃ result later, f item = .ok result ∧ rest.mapM f = .ok later ∧ results = result :: later := by
  rw [mapM_cons] at accepted
  obtain ⟨result, head, accepted⟩ := bind_ok.mp accepted
  obtain ⟨later, tail, accepted⟩ := bind_ok.mp accepted
  cases accepted
  exact ⟨result, later, head, tail, rfl⟩

theorem mapM_member
    (accepted : items.mapM f = .ok results) (member : item ∈ items) : ∃ result ∈ results, f item = .ok result := by
  induction items generalizing results with
  | nil => cases member
  | cons _ _ ih =>
    obtain ⟨result, _, head, tail, rfl⟩ := mapM_cons_ok accepted
    rcases mem_cons.mp member with rfl | among
    · exact ⟨result, mem_cons_self, head⟩
    · obtain ⟨made, listed, done⟩ := ih tail among
      exact ⟨made, mem_cons_of_mem _ listed, done⟩

theorem mapM_result
    (accepted : items.mapM f = .ok results) (member : result ∈ results) : ∃ item ∈ items, f item = .ok result := by
  induction items generalizing results with
  | nil =>
    cases accepted
    cases member
  | cons first _ ih =>
    obtain ⟨_, _, head, tail, rfl⟩ := mapM_cons_ok accepted
    rcases mem_cons.mp member with rfl | among
    · exact ⟨first, mem_cons_self, head⟩
    · obtain ⟨item, listed, done⟩ := ih tail among
      exact ⟨item, mem_cons_of_mem _ listed, done⟩

theorem foldlM_cons_ok {next : β}
    (first : step start item = .ok next) : (item :: rest).foldlM step start = rest.foldlM step next := by
  rw [foldlM_cons, first]
  rfl

theorem foldlM_cons_inv {last : β} (done : (item :: rest).foldlM step start = .ok last) :
    ∃ next, step start item = .ok next ∧ rest.foldlM step next = .ok last := by
  rw [foldlM_cons] at done
  cases first : step start item with
  | error => rw [first] at done; cases done
  | ok next => rw [first] at done; exact ⟨next, rfl, done⟩

theorem foldlM_keeps {γ : Type} (value : β → γ)
    (keeps : ∀ start item next, step start item = .ok next → value next = value start)
    {last : β} (done : items.foldlM step start = .ok last) : value last = value start := by
  induction items generalizing start with
  | nil => cases done; rfl
  | cons item _ ih =>
    obtain ⟨next, first, tail⟩ := foldlM_cons_inv done
    exact (ih tail).trans (keeps start item next first)

theorem foldlM_invariant {holds : β → Prop} {related : β → β → Prop}
    (each : ∀ start item next, holds start → step start item = .ok next →
      Relation.ReflTransGen related start next ∧ holds next)
    {last : β} (first : holds start) (done : items.foldlM step start = .ok last) :
    Relation.ReflTransGen related start last ∧ holds last := by
  induction items generalizing start with
  | nil =>
    cases done
    exact ⟨.refl, first⟩
  | cons item _ ih =>
    obtain ⟨next, head, tail⟩ := foldlM_cons_inv done
    obtain ⟨moved, held⟩ := each start item next first head
    obtain ⟨later, final⟩ := ih held tail
    exact ⟨moved.trans later, final⟩

end Checked
