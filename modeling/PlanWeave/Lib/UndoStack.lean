import Mathlib.Data.List.Basic

structure UndoStack (α : Type) where
  done : List α := []
  undone : List α := []

namespace UndoStack
open List
variable {α : Type}

/-- A new action discards what was undone. It joins the last action when the two can be joined. -/
def push (join : α → α → Option α) (action : α) (stack : UndoStack α) : UndoStack α :=
  match stack.done with
  | [] => { done := [action] }
  | last :: rest => { done := (match join last action with
      | some joined => joined :: rest
      | none => action :: last :: rest) }

def undo (stack : UndoStack α) : UndoStack α :=
  match stack.done with
  | [] => stack
  | last :: rest => { done := rest, undone := last :: stack.undone }

def redo (stack : UndoStack α) : UndoStack α :=
  match stack.undone with
  | [] => stack
  | last :: rest => { done := last :: stack.done, undone := rest }

def All (property : α → Prop) (stack : UndoStack α) : Prop :=
  (∀ action ∈ stack.done, property action) ∧ ∀ action ∈ stack.undone, property action

variable {property : α → Prop} {stack : UndoStack α}

section
variable (all : stack.All property)
include all

theorem All.push {join : α → α → Option α} {action : α} (new : property action)
    (joins : ∀ last joined, property last → join last action = some joined → property joined) :
    (stack.push join action).All property := by
  unfold UndoStack.push
  cases done : stack.done with
  | nil => exact ⟨by simpa using new, by simp⟩
  | cons last rest =>
    have earlier := all.1
    rw [done] at earlier
    have kept : ∀ other ∈ rest, property other := fun other member => earlier other (mem_cons_of_mem _ member)
    have lastHolds := earlier last mem_cons_self
    cases joined : join last action with
    | none => exact ⟨by simpa [joined] using ⟨new, lastHolds, kept⟩, by simp⟩
    | some together => exact ⟨by simpa [joined] using ⟨joins last together lastHolds joined, kept⟩, by simp⟩

theorem All.undo : stack.undo.All property := by
  unfold UndoStack.undo
  cases done : stack.done with
  | nil => exact all
  | cons =>
    have earlier := all.1
    rw [done] at earlier
    refine ⟨fun other member => earlier other (mem_cons_of_mem _ member), ?_⟩
    intro other member
    rcases mem_cons.mp member with rfl | later
    · exact earlier other mem_cons_self
    · exact all.2 other later

theorem All.redo : stack.redo.All property := by
  unfold UndoStack.redo
  cases undone : stack.undone with
  | nil => exact all
  | cons =>
    have earlier := all.2
    rw [undone] at earlier
    refine ⟨?_, fun other member => earlier other (mem_cons_of_mem _ member)⟩
    intro other member
    rcases mem_cons.mp member with rfl | later
    · exact earlier other mem_cons_self
    · exact all.1 other later
end
end UndoStack
