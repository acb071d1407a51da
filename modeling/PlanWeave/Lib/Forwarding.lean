import Mathlib.Data.List.Nodup
import Mathlib.Data.List.Perm.Subperm

namespace Forwarding
open List
variable {α : Type}

inductive Ends (next : α → Option α) : α → α → Prop where
  | here {a : α} : next a = none → Ends next a a
  | step {a b last : α} : next a = some b → Ends next b last → Ends next a last

inductive EndsIn (next : α → Option α) : Nat → α → α → Prop where
  | here {a : α} : next a = none → EndsIn next 0 a a
  | step {n : Nat} {a b last : α} : next a = some b → EndsIn next n b last → EndsIn next (n + 1) a last

variable {next : α → Option α} {a last other : α}

theorem Ends.endsIn (ends : Ends next a last) : ∃ n, EndsIn next n a last := by
  induction ends with
  | here none => exact ⟨0, .here none⟩
  | step link _ ih =>
    obtain ⟨n, counted⟩ := ih
    exact ⟨n + 1, .step link counted⟩

theorem EndsIn.functional {n m : Nat} (first : EndsIn next n a last) (second : EndsIn next m a other) :
    n = m ∧ last = other := by
  induction first generalizing m with
  | here none =>
    cases second with
    | here _ => exact ⟨rfl, rfl⟩
    | step link _ => rw [none] at link; cases link
  | step link _ ih =>
    cases second with
    | here none => rw [none] at link; cases link
    | step link' rest =>
      rw [link] at link'
      cases link'
      have same := ih rest
      exact ⟨congrArg (· + 1) same.1, same.2⟩

theorem Ends.functional (first : Ends next a last) (second : Ends next a other) : last = other := by
  obtain ⟨n, counted⟩ := first.endsIn
  obtain ⟨m, counted'⟩ := second.endsIn
  exact (counted.functional counted').2

theorem Ends.last_none (ends : Ends next a last) : next last = none := by
  induction ends with
  | here none => exact none
  | step _ _ ih => exact ih

section Follow
variable [DecidableEq α]

def follow (next : α → Option α) : Nat → List α → α → Option α
  | 0, _, _ => none
  | fuel + 1, seen, current =>
    if current ∈ seen then none
    else match next current with
      | none => some current
      | some further => follow next fuel (current :: seen) further

variable {fuel : Nat} {seen links : List α}

theorem follow_ends (found : follow next fuel seen a = some last) : Ends next a last := by
  induction fuel generalizing seen a with
  | zero => cases found
  | succ _ ih =>
    unfold follow at found
    split at found
    · cases found
    split at found
    · rename_i none
      cases found
      exact .here none
    · rename_i further link
      exact .step link (ih found)

/-- Elements seen before the current one are farther from the end, so none comes back, and there is a link for each. -/
theorem follow_endsIn (bounded : ∀ a, next a ≠ none → a ∈ links) {n : Nat}
    (counted : EndsIn next n a last) (distinct : seen.Nodup)
    (farther : ∀ x ∈ seen, ∃ m, n < m ∧ EndsIn next m x last) (enough : fuel + seen.length = links.length + 1) :
    follow next fuel seen a = some last := by
  have linked : ∀ x ∈ seen, x ∈ links := by
    intro x member
    obtain ⟨m, _, counted⟩ := farther x member
    cases counted with
    | here => omega
    | step link => exact bounded x (by rw [link]; exact Option.some_ne_none _)
  have short : seen.length ≤ links.length := (subperm_of_subset distinct linked).length_le
  have fresh : a ∉ seen := by
    intro member
    obtain ⟨m, _, other⟩ := farther a member
    have := (counted.functional other).1
    omega
  induction counted generalizing fuel seen with
  | here none =>
    cases fuel with
    | zero => omega
    | succ =>
      unfold follow
      rw [if_neg fresh, none]
  | @step n a b last link rest ih =>
    cases fuel with
    | zero => omega
    | succ =>
      unfold follow
      rw [if_neg fresh, link]
      have nearer : ∀ x ∈ a :: seen, ∃ m, n < m ∧ EndsIn next m x last := by
        intro x member
        rcases mem_cons.mp member with rfl | member
        · exact ⟨n + 1, Nat.lt_succ_self n, .step link rest⟩
        · obtain ⟨m, _, counted⟩ := farther x member
          exact ⟨m, by omega, counted⟩
      have linkedAll : ∀ x ∈ a :: seen, x ∈ links := by
        intro x member
        rcases mem_cons.mp member with rfl | member
        · exact bounded x (by rw [link]; exact Option.some_ne_none _)
        · exact linked x member
      have distinctAll : (a :: seen).Nodup := nodup_cons.mpr ⟨fresh, distinct⟩
      refine ih distinctAll nearer (by simp only [length_cons]; omega) linkedAll
        (subperm_of_subset distinctAll linkedAll).length_le ?_
      intro member
      obtain ⟨m, _, other⟩ := nearer b member
      have := (rest.functional other).1
      omega

/-- Following as many links as there are finds the end of every chain that has one. -/
theorem follow_eq_some (bounded : ∀ a, next a ≠ none → a ∈ links) :
    follow next (links.length + 1) [] a = some last ↔ Ends next a last := by
  constructor
  · exact follow_ends
  · intro ends
    obtain ⟨n, counted⟩ := ends.endsIn
    exact follow_endsIn bounded counted nodup_nil (by simp) (by simp)

end Follow

section Link
variable [DecidableEq α] {source target : α}

def link (next : α → Option α) (source target : α) : α → Option α := fun a => if a = source then some target else next a

theorem Ends.link (ends : Ends next a last) (free : next source = none) (target_end : next target = none)
    (apart : source ≠ target) : Ends (link next source target) a (if last = source then target else last) := by
  induction ends with
  | @here a none =>
    by_cases same : a = source
    · rw [if_pos same]
      refine .step (b := target) (by simp [Forwarding.link, same]) (.here ?_)
      simp [Forwarding.link, apart.symm, target_end]
    · rw [if_neg same]
      exact .here (by simp [Forwarding.link, same, none])
  | @step a b _ linked _ ih =>
    have different : a ≠ source := by
      rintro rfl
      rw [free] at linked
      cases linked
    exact .step (by simp [Forwarding.link, different, linked]) ih

theorem Ends.of_link (ends : Ends (Forwarding.link next source target) a last) (free : next source = none) :
    ∃ last', Ends next a last' := by
  induction ends with
  | @here a none =>
    refine ⟨a, .here ?_⟩
    unfold Forwarding.link at none
    split at none
    · cases none
    · exact none
  | @step a b _ linked _ ih =>
    unfold Forwarding.link at linked
    split at linked
    · rename_i same
      exact ⟨a, .here (same ▸ free)⟩
    · obtain ⟨last', rest⟩ := ih
      exact ⟨last', .step linked rest⟩

end Link
end Forwarding
