import Mathlib.Data.List.Basic

namespace Runs
open List
variable {S E : Type} {step : S → E → S}

def run (step : S → E → S) (events : List E) (start : S) : S := events.foldl step start

def Along (step : S → E → S) (allowed : S → E → Prop) : List E → S → Prop
  | [], _ => True
  | event :: rest, state => allowed state event ∧ Along step allowed rest (step state event)

theorem run_append (before after : List E) (start : S) :
    run step (before ++ after) start = run step after (run step before start) := foldl_append

variable {allowed : S → E → Prop}

theorem along_append {before after : List E} {start : S} : Along step allowed (before ++ after) start ↔
      Along step allowed before start ∧ Along step allowed after (run step before start) := by
  induction before generalizing start with
  | nil => simp [Along, run]
  | cons _ _ ih => simp only [cons_append, Along, ih, run, foldl_cons, and_assoc]

instance decidableAlong (allowed : S → E → Prop) [∀ state event, Decidable (allowed state event)] :
    (events : List E) → (start : S) → Decidable (Along step allowed events start)
  | [], _ => isTrue trivial
  | event :: rest, state =>
    have := decidableAlong allowed rest (step state event)
    inferInstanceAs (Decidable (_ ∧ _))

theorem Along.invariant (holds : S → Prop)
    (keeps : ∀ state event, holds state → allowed state event → holds (step state event)) {events : List E} {start : S}
    (along : Along step allowed events start) (first : holds start) : holds (run step events start) := by
  induction events generalizing start with
  | nil => exact first
  | cons event _ ih => exact ih along.2 (keeps start event first along.1)

theorem along_all (events : List E) (start : S) : Along step (fun _ _ => True) events start := by
  induction events generalizing start with
  | nil => trivial
  | cons _ _ ih => exact ⟨trivial, ih _⟩

end Runs
