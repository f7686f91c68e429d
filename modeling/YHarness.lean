/-
# YHarness -- the durable core of an agent harness
-/
import YHarness.Lib.Json
import YHarness.Lib.Check
import YHarness.Lib.Interleave
import YHarness.State.Execution
import YHarness.State.Project
import YHarness.State.WaitDue
import YHarness.State.Store
import YHarness.State.Sqlite
import YHarness.State.Reserve
import YHarness.State.Reading
import YHarness.Orchestration.Progress
import YHarness.State.InboxRepair
import YHarness.Lib.Rely
import YHarness.Runtime.Evidence
import YHarness.Runtime.Route
import YHarness.Runtime.Metadata
import YHarness.Orchestration.Fencing
import YHarness.Effects.InFlight
import YHarness.Effects.Governor
import YHarness.Effects.RateLimit
import YHarness.Effects.Circuit
import YHarness.Workflow.Reserve
import YHarness.Workflow.Agreement
import YHarness.Orchestration.Clients
import YHarness.Approval.Safety
import YHarness.Effects.Idempotency
import YHarness.Handoff.Reserve
import YHarness.Protocol.TaskCalls
import YHarness.Orchestration.Governed
import YHarness.Effects.Isolation
import YHarness.Effects.ExecutorLease
import YHarness.Workflow.Stores
import YHarness.Handoff.Stores
import YHarness.Handoff.QueuePages
import YHarness.CommandStores
import YHarness.Workflow.Engine
import YHarness.DomainPack.Lineage
import YHarness.Orchestration.RunnerWorkspaces
import YHarness.Completion.ToolHistory
import YHarness.Completion.Binding
import YHarness.State.RepairQueue
import YHarness.Context.Split
import YHarness.Context.HandoffSlice
import YHarness.State.Paging
import YHarness.Approval.Closure
import YHarness.Skill.Resolution
import YHarness.Protocol.Framing
import YHarness.Protocol.OperationStream
import YHarness.Model.Decoders
import YHarness.Model.ChatMapping
import YHarness.Approval.OrphanTurn
import YHarness.Runtime.ProgressReplay
import YHarness.Kernel.Shape
import YHarness.Orchestration.Acyclic
import YHarness.Runtime.LoopDetection
import YHarness.Transport.BoundedLine
import YHarness.Orchestration.Inbox
