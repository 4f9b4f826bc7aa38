import AplaneSdk.Lib.Interaction
import AplaneSdk.Lib.Comparison
import AplaneSdk.Lib.Threads
import AplaneSdk.Lib.Checks
import AplaneSdk.Lib.Grouping
import AplaneSdk.Lib.Base64
import AplaneSdk.Lib.Lines
import AplaneSdk.Wire
import AplaneSdk.Hex
import AplaneSdk.Txn
import AplaneSdk.Http
import AplaneSdk.Mutations
import AplaneSdk.Requests
import AplaneSdk.Components
import AplaneSdk.Assembly
import AplaneSdk.Plan
import AplaneSdk.Calls
import AplaneSdk.Prepared
import AplaneSdk.Guarded
import AplaneSdk.Bounded
import AplaneSdk.Dialects
import AplaneSdk.Phases
import AplaneSdk.Stages
import AplaneSdk.Entries
import AplaneSdk.Provenance
import AplaneSdk.EndToEnd
import AplaneSdk.Strictness
import AplaneSdk.AlgoKit
import AplaneSdk.Agreement
import AplaneSdk.SignPaths
import AplaneSdk.Cancel
import AplaneSdk.KeyCache
import AplaneSdk.Revisions
import AplaneSdk.RekeyTarget
import AplaneSdk.Listing
import AplaneSdk.Inventory
import AplaneSdk.Lib.Embedding
import AplaneSdk.Bodies
import AplaneSdk.Scripts
import AplaneSdk.Disclosure
import AplaneSdk.Sent
import AplaneSdk.AppCalls
import AplaneSdk.Envelopes
import AplaneSdk.SlotRequests
import AplaneSdk.Builders
import AplaneSdk.OwnRequests
import AplaneSdk.OrderIndependence
import AplaneSdk.PlanExact
import AplaneSdk.GroupFunds
import AplaneSdk.Sweep
import AplaneSdk.InFlight
import AplaneSdk.KnownHosts
import AplaneSdk.Endpoints
import AplaneSdk.Registry
import AplaneSdk.Encoding
import AplaneSdk.Preflight
import AplaneSdk.AuthLookup
import AplaneSdk.AbiArgs
import AplaneSdk.Merge
import AplaneSdk.SignedGroups
import AplaneSdk.Leniency
import AplaneSdk.RequestBuilders
import AplaneSdk.Lib.Pinning
import AplaneSdk.HostKeys
import AplaneSdk.SharedHosts
import AplaneSdk.Parties
import AplaneSdk.Simulation
import AplaneSdk.Lib.Views
import AplaneSdk.SetupDeadline
import AplaneSdk.SshSetup
import AplaneSdk.Lib.Events
import AplaneSdk.Tunnel
import AplaneSdk.ApprovalWait
import AplaneSdk.Enrollment
import AplaneSdk.EnrollmentSession
