import AgentLedger.Adapters.Evidence
import AgentLedger.Adapters.LangGraph
import AgentLedger.Adapters.ModelEvidence
import AgentLedger.Adapters.PendingWrites
import AgentLedger.Adapters.RoundTrip
import AgentLedger.Adapters.Session
import AgentLedger.Adapters.Turns
import AgentLedger.Connections.Appending
import AgentLedger.Diff
import AgentLedger.Equality
import AgentLedger.Errors
import AgentLedger.EvidenceDiff
import AgentLedger.Failure.Regression
import AgentLedger.Failure.ReplayPlan
import AgentLedger.Foundation.Binary64
import AgentLedger.Foundation.Decimal
import AgentLedger.Foundation.Entries
import AgentLedger.Foundation.Evaluation
import AgentLedger.Foundation.Files
import AgentLedger.Foundation.Framing
import AgentLedger.Foundation.Hexadecimal
import AgentLedger.Foundation.Json
import AgentLedger.Foundation.JsonNormal
import AgentLedger.Foundation.JsonNotation
import AgentLedger.Foundation.Logic
import AgentLedger.Foundation.Machine
import AgentLedger.Foundation.Program
import AgentLedger.Foundation.Protocol
import AgentLedger.Foundation.Rounding
import AgentLedger.Foundation.Run
import AgentLedger.Foundation.Table
import AgentLedger.Foundation.Transaction
import AgentLedger.Foundation.TransactionContract
import AgentLedger.Foundation.Words
import AgentLedger.Foundation.Writes
import AgentLedger.Go.Calls
import AgentLedger.Go.Failures
import AgentLedger.Go.Schema
import AgentLedger.Go.Store
import AgentLedger.Go.Values
import AgentLedger.JsonUtil
import AgentLedger.MergePatch
import AgentLedger.Policy
import AgentLedger.Policy.Composing
import AgentLedger.Policy.Decisions
import AgentLedger.Policy.Engine
import AgentLedger.Policy.Registration
import AgentLedger.Policy.Table
import AgentLedger.Ports.Agreement
import AgentLedger.Ports.Merging
import AgentLedger.Ports.Requests
import AgentLedger.Ports.Schemas
import AgentLedger.Ports.Snapshots
import AgentLedger.Ports.Validation
import AgentLedger.Python
import AgentLedger.Reconstruction
import AgentLedger.Runtime.Archive
import AgentLedger.Runtime.AtMostOnce
import AgentLedger.Runtime.Boundary
import AgentLedger.Runtime.Budget
import AgentLedger.Runtime.Commands
import AgentLedger.Runtime.Fencing
import AgentLedger.Runtime.Idleness
import AgentLedger.Runtime.Ownership
import AgentLedger.Runtime.Replay
import AgentLedger.Runtime.RunOnce
import AgentLedger.Runtime.Shadow
import AgentLedger.Runtime.Succeeded
import AgentLedger.Runtime.System
import AgentLedger.Runtime.Worker
import AgentLedger.Rust.Evidence.Bundle
import AgentLedger.Rust.Evidence.BundleReplay
import AgentLedger.Rust.Evidence.Calls
import AgentLedger.Rust.Evidence.Delivery
import AgentLedger.Rust.Evidence.History
import AgentLedger.Rust.Evidence.Ingestion
import AgentLedger.Rust.Evidence.Projection
import AgentLedger.Rust.Evidence.Receipt
import AgentLedger.Rust.Evidence.Schema
import AgentLedger.Rust.Evidence.Soundness
import AgentLedger.Rust.Evidence.Store
import AgentLedger.Rust.Evidence.Times
import AgentLedger.Rust.Json
import AgentLedger.Rust.Memory.Calls
import AgentLedger.Rust.Memory.Identities
import AgentLedger.Rust.Memory.Operations
import AgentLedger.Rust.Memory.Restarts
import AgentLedger.Rust.Memory.RoundTrip
import AgentLedger.Rust.Memory.Rules
import AgentLedger.Rust.Memory.ValueCodec
import AgentLedger.Rust.Numbers
import AgentLedger.Rust.SerdeJson
import AgentLedger.Rust.Value
import AgentLedger.Store.Approvals
import AgentLedger.Store.Attempts
import AgentLedger.Store.Calls
import AgentLedger.Store.Cancellation
import AgentLedger.Store.Effects
import AgentLedger.Store.Grounding
import AgentLedger.Store.Issues
import AgentLedger.Store.Ledger
import AgentLedger.Store.Operations
import AgentLedger.Store.RunStatus
import AgentLedger.Store.Schema
import AgentLedger.Store.Specs
import AgentLedger.TimeTravel
import AgentLedger.Tools.Bridge
import AgentLedger.Tools.Gateway
import AgentLedger.Tools.Keys
import AgentLedger.Tools.Sandbox
import AgentLedger.Tools.Schema
import AgentLedger.Tools.Validation
import AgentLedger.TypeScript.Schema
import AgentLedger.TypeScript.Values
import AgentLedger.Failure.CausalGraph
import AgentLedger.Adapters.ModelCalls
import AgentLedger.Failure.ModelRefs
import AgentLedger.Foundation.Emission
import AgentLedger.Adapters.ModelOutputs
import AgentLedger.Adapters.ToolRecords
import AgentLedger.Foundation.Answers
import AgentLedger.Adapters.Besides
import AgentLedger.Adapters.ToolHistory
import AgentLedger.Policy.Denials
import AgentLedger.Policy.Listed
import AgentLedger.Policy.Document
import AgentLedger.Policy.Denied
import AgentLedger.Foundation.TreeText
import AgentLedger.Ports.Evidence
import AgentLedger.Go.Regression
import AgentLedger.TypeScript.Regression
import AgentLedger.Rust.Regression
import AgentLedger.Ports.Regression
import AgentLedger.Foundation.Buckets
import AgentLedger.Cost
import AgentLedger.Foundation.Pattern
import AgentLedger.StorageConfig
import AgentLedger.Foundation.Trimming
import AgentLedger.Tools.KubernetesNames
import AgentLedger.Lint
import AgentLedger.LintImports
import AgentLedger.Foundation.Newest
import AgentLedger.Rust.Evidence.Retention
import AgentLedger.Adapters.Observers
import AgentLedger.Foundation.Magnitude
import AgentLedger.Ports.Usage
import AgentLedger.Foundation.Guarded
import AgentLedger.Rust.Memory.Untrusted
import AgentLedger.Rust.Memory.Demands
import AgentLedger.Rust.Memory.UntrustedSnapshot
import AgentLedger.Connections.Commits
import AgentLedger.Connections.Keys
import AgentLedger.Connections.Footprints
import AgentLedger.Connections.Records
import AgentLedger.Connections.Versions
