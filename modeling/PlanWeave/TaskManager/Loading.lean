import PlanWeave.TaskManager.Operations
import PlanWeave.State.Derived

namespace PlanWeave
open Durable

@[simp] theorem withState_results (world : World) (state : RuntimeState) :
    (world.withState state).results = world.results := rfl

structure Loaded (world : World) (context : RuntimeContext) : Prop where
  manifest : context.manifest = world.manifest
  compiled : compileTaskGraph world.manifest = .ok context.graph
  raw : context.rawState = world.state
  valid : world.state.Valid
  ensured : ensureStateForGraph context.graph world.state = .ok context.state

theorem ensureStateForManifest_eq {manifest : Manifest} {graph : Graph} (compiled : compileTaskGraph manifest = .ok graph)
    (stored : RuntimeState) : ensureStateForManifest manifest stored = ensureStateForGraph graph stored := by
  unfold ensureStateForManifest
  rw [compiled]
  rfl

variable {context : RuntimeContext} {world : World} {holds : World → Prop}

theorem loadRuntimeContext_ok (ran : loadRuntimeContext world = .ok context) : Loaded world context := by
  obtain ⟨graph, compiled, ran⟩ := Checked.bind_ok.mp ran
  obtain ⟨_, stored, ran⟩ := Checked.bind_ok.mp ran
  obtain ⟨valid, rfl⟩ := (readState_ok_iff _ _).mp stored
  obtain ⟨_, ensured, ran⟩ := Checked.bind_ok.mp ran
  cases ran
  exact ⟨rfl, compiled, rfl, valid, ensureStateForManifest_eq compiled _ ▸ ensured⟩

theorem Loaded.written (loaded : Loaded world context)
    (same : context.rawState = context.state) : world.withState context.state = world := by
  rw [← same, loaded.raw]
  rfl

theorem returns_loadRuntime {left : World} : loadRuntime.Returns world context left ↔
      loadRuntimeContext world = .ok context ∧ world.withState context.state = left := by
  unfold loadRuntime loadRuntimeReadonly writeState
  simp only [returns_bind, returns_read, returns_lift, returns_when, returns_write,
    returns_pure]
  constructor
  · rintro ⟨_, _, ⟨_, _, ⟨rfl, rfl⟩, ran, same⟩, _, _, wrote, produced, final⟩
    subst same produced final
    refine ⟨ran, ?_⟩
    split at wrote
    · exact wrote
    · rename_i same
      rw [← wrote]
      exact (loadRuntimeContext_ok ran).written (by simpa using same)
  · rintro ⟨ran, rfl⟩
    refine ⟨context, world, ⟨world, world, ⟨rfl, rfl⟩, ran, rfl⟩, (), _, ?_, rfl, rfl⟩
    split
    · rfl
    · rename_i same
      exact ((loadRuntimeContext_ok ran).written (by simpa using same)).symm

theorem keeps_loadRuntime_bind {α : Type} {next : RuntimeContext → Locked α}
    (each : ∀ context, loadRuntimeContext world = .ok context →
      holds (world.withState context.state) ∧ (next context).Keeps (world.withState context.state) holds) :
    (loadRuntime >>= next).Keeps world holds := by
  rw [Durable.keeps_bind]
  constructor
  · unfold loadRuntime loadRuntimeReadonly writeState
    simp only [Durable.keeps_bind, returns_bind, returns_read, returns_lift, keeps_read,
      keeps_lift, keeps_when, keeps_write, keeps_pure, true_and, implies_true, and_true]
    rintro context _ ⟨_, _, ⟨rfl, rfl⟩, ran, same⟩ _
    subst same
    exact (each context ran).1
  · intro context left ran
    obtain ⟨loaded, rfl⟩ := returns_loadRuntime.mp ran
    exact (each context loaded).2

theorem keeps_loadRuntimeReadonly_bind {α : Type}
    {next : RuntimeContext → Locked α} : (loadRuntimeReadonly >>= next).Keeps world holds ↔
      ∀ context, loadRuntimeContext world = .ok context → (next context).Keeps world holds := by
  unfold loadRuntimeReadonly
  simp [Durable.keeps_bind, returns_bind]

variable {state : RuntimeState}

theorem keeps_writeState_bind {α : Type} {next : Unit → Locked α} : (writeState state >>= next).Keeps world holds ↔
      holds (world.withState state) ∧ (next ()).Keeps (world.withState state) holds := keeps_write_bind

theorem keeps_writeRefreshed_bind {α : Type}
    {next : RuntimeState → Locked α} : (writeRefreshed context state >>= next).Keeps world holds ↔
      ∀ written, ensureStateForManifest context.manifest state = .ok written →
        holds (world.withState written) ∧ (next written).Keeps (world.withState written) holds := by
  unfold writeRefreshed refreshDerivedState writeState
  simp only [Durable.keeps_bind, returns_bind, keeps_lift, returns_lift, keeps_write,
    returns_write, keeps_pure, returns_pure, implies_true, and_true, true_and]
  constructor
  · rintro ⟨writes, rest⟩ written ensured
    exact ⟨writes written world ⟨ensured, rfl⟩, rest written _ ⟨written, world, ⟨ensured, rfl⟩, (), _, rfl, rfl, rfl⟩⟩
  intro all
  refine ⟨?_, ?_⟩
  · rintro written _ ⟨ensured, same⟩
    subst same
    exact (all written ensured).1
  · rintro _ _ ⟨written, _, ⟨ensured, same⟩, _, _, wrote, produced, final⟩
    subst same wrote produced final
    exact (all written ensured).2

@[simp] theorem keeps_discard {α : Type} {action : Locked α} :
    (discard action).Keeps world holds ↔ action.Keeps world holds := by
  unfold discard
  simp [Durable.keeps_bind]

structure World.SameState (left right : World) : Prop where
  manifest : right.manifest = left.manifest
  state : right.state = left.state

theorem World.SameState.refl (world : World) : world.SameState world := ⟨rfl, rfl⟩

theorem World.SameState.trans {first second third : World} (left : first.SameState second)
    (right : second.SameState third) : first.SameState third :=
  ⟨right.manifest.trans left.manifest, right.state.trans left.state⟩

def ResultsOnly {α : Type} (action : Locked α) : Prop := ∀ world, action.Keeps world world.SameState

namespace ResultsOnly
variable {α β : Type}
variable {action : Locked α}

theorem returns (quiet : ResultsOnly action) {left : World} {value : α}
    (ran : action.Returns world value left) : world.SameState left := by
  rw [← ran.2]
  exact (quiet world).final_holds (World.SameState.refl world)

theorem pure (value : α) : ResultsOnly (Pure.pure value : Locked α) := fun _ => keeps_pure value

theorem fail (reason : String) : ResultsOnly (Durable.fail reason : Locked α) := fun _ => keeps_fail reason

theorem read : ResultsOnly (Durable.read : Locked World) := fun _ => keeps_read

theorem writeResults (change : Results → Results) : ResultsOnly (writeResults change) :=
  fun _ => (keeps_write _).mpr ⟨rfl, rfl⟩

theorem updateTaskIndex (taskId : String) (update : TaskResultIndex → TaskResultIndex) :
    ResultsOnly (updateTaskIndex taskId update) := ResultsOnly.writeResults _

variable {next : α → Locked β}

theorem bind (first : ResultsOnly action)
    (rest : ∀ value, ResultsOnly (next value)) : ResultsOnly (action >>= next) := by
  intro world
  rw [Durable.keeps_bind]
  refine ⟨first world, ?_⟩
  intro value reached ran
  exact (rest value reached).mono (fun _ later => (first.returns ran).trans later)

theorem when {needed : Bool} {action : Locked Unit} (quiet : ResultsOnly action) :
    ResultsOnly (Durable.when needed action) := by
  intro world
  rw [keeps_when]
  exact fun _ => quiet world

theorem keeps (quiet : ResultsOnly action)
    (stable : ∀ reached, world.SameState reached → holds reached) : action.Keeps world holds :=
  (quiet world).mono stable

theorem keeps_bind (quiet : ResultsOnly action)
    (stable : ∀ reached, world.SameState reached → holds reached)
    (rest : ∀ value reached, action.Returns world value reached → world.SameState reached →
      (next value).Keeps reached holds) : (action >>= next).Keeps world holds := by
  rw [Durable.keeps_bind]
  exact ⟨quiet.keeps stable, fun value reached ran => rest value reached ran (quiet.returns ran)⟩

end ResultsOnly
end PlanWeave
