import PlanWeave.Access.Listing
import PlanWeave.Access.RestoreRuns
import PlanWeave.Access.StaffingRuns
import PlanWeave.Admission.FixedWindow
import PlanWeave.AgentHost.Isolation
import PlanWeave.AgentHost.WakeListeners
import PlanWeave.AutoRun.TransitionRuns
import PlanWeave.Desktop.SearchIndex
import PlanWeave.Graph.AffectedTasks
import PlanWeave.HostState.CanvasRuntimeRuns
import PlanWeave.HostState.Heartbeats
import PlanWeave.HostState.RelayRuns
import PlanWeave.Interaction.SettlementRuns
import PlanWeave.Invariants.Batches
import PlanWeave.PlanGraph.Atomicity
import PlanWeave.PlanGraph.History
import PlanWeave.PlanGraph.StableJson
import PlanWeave.PlanGraph.StagedCommit
import PlanWeave.Remote.Capacity
import PlanWeave.Remote.LeaseAuthority
import PlanWeave.Remote.RunnerEventRuns
import PlanWeave.RunIndex.TreeUpdates
import PlanWeave.RunIndex.Views
import PlanWeave.State.Reordering
import PlanWeave.TaskManager.OwnershipRuns
import PlanWeave.WorkspaceExecution.DispatchRuns
import PlanWeave.WorkspaceExecution.ResponseRuns
