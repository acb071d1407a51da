import PlanWeave.TaskManager.Operations
import PlanWeave.Graph.Sound

namespace PlanWeave
open List
variable {manifest : Manifest}

theorem ErrorFree.wellformed (clean : ErrorFree manifest) : Wellformed manifest :=
  (compileTaskGraph_accepts_iff manifest).mp clean

variable {graph : Graph}

theorem ErrorFree.sound (clean : ErrorFree manifest)
    (compiled : compileTaskGraph manifest = .ok graph) : graph.Sound := by
  obtain ⟨_, ran, errors⟩ := clean
  rw [compiled] at ran
  cases ran
  exact Graph.Sound.of_compile compiled errors

theorem ErrorFree.indexes (clean : ErrorFree manifest)
    (compiled : compileTaskGraph manifest = .ok graph) : Indexes graph manifest :=
  compiled_indexes compiled clean.wellformed.toIndexable

def editedEntry (ref : String) (cycles : Nat) (key : String) (entry : ManifestTask × ManifestBlock) :
    ManifestTask × ManifestBlock :=
  ({ entry.1 with blocks := entry.1.blocks.map (fun block =>
      if blockRef entry.1.id block.id = ref then withMaxFeedbackCycles cycles block else block) },
    if key = ref then withMaxFeedbackCycles cycles entry.2 else entry.2)

theorem withMaxFeedbackCycles_id (cycles : Nat) (block : ManifestBlock) :
    (withMaxFeedbackCycles cycles block).id = block.id := by
  unfold withMaxFeedbackCycles
  split <;> rfl

theorem withMaxFeedbackCycles_isReview (cycles : Nat) (block : ManifestBlock) :
    (withMaxFeedbackCycles cycles block).isReview = block.isReview := by
  unfold withMaxFeedbackCycles
  split
  · rename_i settings kind
    unfold ManifestBlock.isReview
    rw [kind]
  · rfl

theorem blockEntries_edited (manifest : Manifest) (ref : String) (cycles : Nat) :
    blockEntries (editMaxFeedbackCycles manifest ref cycles).nodes =
      (blockEntries manifest.nodes).map (fun entry => (entry.1, editedEntry ref cycles entry.1 entry.2)) := by
  unfold blockEntries editMaxFeedbackCycles
  simp only [flatMap_map, map_flatMap, map_map]
  congr 1
  funext task
  apply map_congr_left
  intro block _
  simp only [Function.comp_apply, editedEntry]
  split
  · simp only [withMaxFeedbackCycles_id]
  · rfl

structure SameShape (left right : Graph) : Prop where
  refs : right.blockRefsInManifestOrder = left.blockRefsInManifestOrder
  reviews : ∀ ref, right.isReview ref = left.isReview ref

theorem editMaxFeedbackCycles_shape {ref : String} {cycles : Nat} {edited : Graph}
    (clean : ErrorFree manifest) (cleanEdited : ErrorFree (editMaxFeedbackCycles manifest ref cycles))
    (compiled : compileTaskGraph manifest = .ok graph)
    (compiledEdited : compileTaskGraph (editMaxFeedbackCycles manifest ref cycles) = .ok edited) :
    SameShape graph edited := by
  have before := clean.indexes compiled
  have after := cleanEdited.indexes compiledEdited
  have entries := blockEntries_edited manifest ref cycles
  refine ⟨?_, ?_⟩
  · rw [after.refOrder, before.refOrder, entries, map_map]
    rfl
  intro other
  unfold Graph.isReview
  rw [after.blocks, before.blocks]
  unfold entryOf
  rw [entries, OrderedMap.find_map]
  cases OrderedMap.find other (blockEntries manifest.nodes) with
  | none => rfl
  | some =>
    simp only [Option.map_some, Option.any_some, editedEntry]
    split
    · exact withMaxFeedbackCycles_isReview _ _
    · rfl

end PlanWeave
