import ConnectionRelay.Scenario.Step
import ConnectionRelay.Telemetry
import ConnectionRelay.Text.Base64
import ConnectionRelay.Wire.Document
import ConnectionRelay.Proofs.Cluster.Exchange
import ConnectionRelay.Proofs.Cluster.Target
import ConnectionRelay.Proofs.Wire.Record
import ConnectionRelay.Proofs.Cluster.StoredSecret
import ConnectionRelay.Proofs.Cluster.FairServer
import ConnectionRelay.Proofs.Store.ClusterWrite
import ConnectionRelay.Proofs.Task.Interleaving
import ConnectionRelay.Proofs.Store.NoLostUpdate
import ConnectionRelay.Proofs.Cancellation.Plan
import ConnectionRelay.Proofs.Cancellation.Trees
import ConnectionRelay.Proofs.Cancellation.Operations
import ConnectionRelay.Proofs.Pipeline.Contributions
import ConnectionRelay.Proofs.Store.Routing
import ConnectionRelay.Proofs.Pipeline.EndToEnd
import ConnectionRelay.Proofs.Cluster.PlainSecret
import ConnectionRelay.Proofs.Cluster.PlainServer
import ConnectionRelay.Proofs.Store.ClusterAnswers
import ConnectionRelay.Proofs.Store.Agreement
import ConnectionRelay.Proofs.Store.MemoryKey
import ConnectionRelay.Proofs.Store.Isolation
import ConnectionRelay.Proofs.Store.DefaultConfig
import ConnectionRelay.Proofs.Pipeline.AdditivePublish
import ConnectionRelay.Proofs.Task.Lockstep
import ConnectionRelay.Proofs.Store.TwoRuns
import ConnectionRelay.Proofs.Pipeline.Undisclosed
import ConnectionRelay.Proofs.Task.Ending
import ConnectionRelay.Proofs.Configuring.Call
import ConnectionRelay.Proofs.Configuring.Once
import ConnectionRelay.Proofs.Configuring.ClusterUpdate
import ConnectionRelay.Proofs.Configuring.Rollback
import ConnectionRelay.Proofs.Cluster.ReadResource
import ConnectionRelay.Proofs.Configuring.Refreshed
import ConnectionRelay.Proofs.Configuring.Apart
import ConnectionRelay.Proofs.Chains.Gathering
import ConnectionRelay.Proofs.Chains.Nesting
import ConnectionRelay.Proofs.Chains.Visits
import ConnectionRelay.Proofs.Chains.Leaves
import ConnectionRelay.Proofs.Chains.Flattening
import ConnectionRelay.Proofs.Store.SparingStores
import ConnectionRelay.Proofs.Chains.PublishedFlag
import ConnectionRelay.Proofs.Chains.ErrorClass
import ConnectionRelay.Proofs.Pipeline.Accounting
import ConnectionRelay.Proofs.Wire.Gives
import ConnectionRelay.Proofs.Wire.Undeclared
import ConnectionRelay.Proofs.Wire.Records
import ConnectionRelay.Proofs.Wire.RoundTrip
import ConnectionRelay.Proofs.Pipeline.Selected
import ConnectionRelay.Proofs.Chains.Stopping
import ConnectionRelay.Proofs.Task.Reaching
import ConnectionRelay.Proofs.Store.WriteCourse
import ConnectionRelay.Proofs.Store.NeededUpdate
import ConnectionRelay.Proofs.Cluster.Calendar
import ConnectionRelay.Proofs.Cluster.Timestamps
import ConnectionRelay.Proofs.Cluster.Metadata
import ConnectionRelay.Proofs.Cluster.KeptSecret
import ConnectionRelay.Proofs.Cluster.Content
import ConnectionRelay.Proofs.Store.QuietCluster
import ConnectionRelay.Proofs.Store.SuccessiveWrites
import ConnectionRelay.Proofs.Cluster.KeptResource
import ConnectionRelay.Proofs.Cluster.ObjectTarget
import ConnectionRelay.Proofs.Configuring.WrittenBack
import ConnectionRelay.Proofs.Pipeline.ListedKeys
import ConnectionRelay.Proofs.Cluster.DynamicConversion
