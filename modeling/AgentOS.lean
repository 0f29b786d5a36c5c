import AgentOS.Artifacts.CapabilityTokens
import AgentOS.Artifacts.Cursors
import AgentOS.Artifacts.QuotaRules
import AgentOS.Budget.Limits
import AgentOS.Budget.UsageCost
import AgentOS.Checkpoint.Concurrent
import AgentOS.Checkpoint.Fencing
import AgentOS.Checkpoint.Postgres
import AgentOS.Config.Graph
import AgentOS.ControlPlane.BacklogDecision
import AgentOS.ControlPlane.BacklogStores
import AgentOS.ControlPlane.PlanSecrecy
import AgentOS.ControlPlane.ResumeKeeps
import AgentOS.ControlPlane.ReturnTo
import AgentOS.Gate.Coverage
import AgentOS.Goal.Rerun
import AgentOS.Kimi.Conversations
import AgentOS.Kimi.Runs
import AgentOS.Kimi.Starts
import AgentOS.LocalDirect.DispatchRuns
import AgentOS.ManagedAgents.Cleanup
import AgentOS.ManagedAgents.Events
import AgentOS.ManagedAgents.Provisioning
import AgentOS.ManagedAgents.Reconcile
import AgentOS.Outbox.OrphanTreats
import AgentOS.Publication.AtMostOnce
import AgentOS.Publication.ChangeSets
import AgentOS.Publication.CheckpointStores
import AgentOS.Publication.InFlight
import AgentOS.Publication.LocalResume
import AgentOS.Publication.LocalTree
import AgentOS.Publication.PatchPolicy
import AgentOS.Publication.Sealing
import AgentOS.Reducers.FeatureHistory
import AgentOS.Reducers.StepResults
import AgentOS.Routing
import AgentOS.Source.GitBatch
import AgentOS.Source.Imports
import AgentOS.System.ApprovalHistory
import AgentOS.System.ArtifactCalls
import AgentOS.System.ChainDepth
import AgentOS.System.ConfigHistory
import AgentOS.System.DecisionDelivery
import AgentOS.System.Decisions
import AgentOS.System.Grants
import AgentOS.System.Listings
import AgentOS.System.Replays
import AgentOS.System.Results
import AgentOS.Workflow.StepRecords
