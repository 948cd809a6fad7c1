import Capcs.Keyed.Upsert
import Capcs.Keyed.Mirror
import Capcs.Interaction.Program
import Capcs.Interaction.Contract
import Capcs.Interaction.History
import Capcs.Interaction.Frame
import Capcs.Interaction.Runtime
import Capcs.Interaction.Sweep
import Capcs.Api.Conditions
import Capcs.Api.Types
import Capcs.Cloudscale.Sdk
import Capcs.Cloudscale.Regions
import Capcs.Controller.Services
import Capcs.Controller.Network
import Capcs.Controller.Router
import Capcs.Net.Addr
import Capcs.Controller.LoadBalancer
import Capcs.Controller.FloatingIP
import Capcs.Controller.ServerGroup
import Capcs.Controller.Cluster
import Capcs.Controller.MachineServer
import Capcs.Controller.Reconcile
import Capcs.Controller.Frames
import Capcs.Cloudscale.World
import Capcs.Cloudscale.Simulator
import Capcs.Ownership.Invariant
import Capcs.Ownership.Calls
import Capcs.Ownership.Status
import Capcs.Ownership.Networks
import Capcs.Ownership.Routers
import Capcs.Ownership.LoadBalancer
import Capcs.Ownership.Normal
import Capcs.Ownership.Teardown
import Capcs.Ownership.Machine
import Capcs.Ownership.Passes
import Capcs.Readiness.Calls
import Capcs.Readiness.Networks
import Capcs.Readiness.Routers
import Capcs.Readiness.LoadBalancer
import Capcs.Readiness.FloatingIP
import Capcs.Readiness.Pass
import Capcs.Readiness.Progress
import Capcs.Readiness.Truthful
import Capcs.Readiness.Provisioned
import Capcs.Webhook.Field
import Capcs.Webhook.Cluster
import Capcs.Webhook.Admission
import Capcs.Webhook.Machine
import Capcs.Ownership.Tenant
import Capcs.System.Life
import Capcs.System.ClusterLife
import Capcs.System.MachineLife
import Capcs.System.Fleet
import Capcs.System.FleetSafety
import Capcs.System.OneCluster
import Capcs.System.Tenancy
import Capcs.System.PassRule
import Capcs.System.Finalizer
import Capcs.System.Objects
import Capcs.System.Provisioning
import Capcs.Retention.Kept
import Capcs.Retention.Normal
import Capcs.Retention.Delete
import Capcs.Retention.Machine
import Capcs.Interfaces.Claims
import Capcs.Interfaces.Detach
import Capcs.Interfaces.Recognition
import Capcs.Lineage.Family
import Capcs.Lineage.Normal
import Capcs.Lineage.Pass
import Capcs.System.Versions
import Capcs.System.Belonging
import Capcs.System.MachineIdentity
import Capcs.System.ForeignInterfaces
import Capcs.Webhook.OwnPatches
import Capcs.Teardown.Routers
import Capcs.Teardown.Networks
import Capcs.Endpoint.Assignment
import Capcs.Endpoint.Ports
import Capcs.Members.Pool
import Capcs.Members.Loops
import Capcs.Members.Converge
import Capcs.Members.Tracking
import Capcs.Mirror.Passes
import Capcs.System.Mirrored
import Capcs.Interaction.Same
import Capcs.References.Lookups
import Capcs.Members.Relocation
import Capcs.References.Resolve
import Capcs.System.References
import Capcs.System.Relocation
import Capcs.System.GroupWorld
import Capcs.System.GroupAgreement
import Capcs.Webhook.MachineTags
import Capcs.Webhook.ClusterTemplate
import Capcs.Webhook.MachineTemplate
import Capcs.Controller.Persistence
import Capcs.System.DefaultNetwork
import Capcs.System.FloatingAddress
import Capcs.Interaction.Ledger
import Capcs.Records.Made
import Capcs.Records.Networks
import Capcs.Records.Routers
import Capcs.Records.Pass
import Capcs.Interfaces.Attachment
import Capcs.System.Attachments
import Capcs.Interaction.Accepted
import Capcs.Interaction.Cleanup
import Capcs.Teardown.Estate
import Capcs.Teardown.Pending
import Capcs.Teardown.Steps
import Capcs.Teardown.Chain
import Capcs.System.Convergence
import Capcs.Interaction.Returns
import Capcs.Steady.Project
import Capcs.Steady.Networks
import Capcs.Steady.Routers
import Capcs.Steady.Members
import Capcs.Steady.LoadBalancer
import Capcs.Steady.FloatingIP
import Capcs.Steady.Pass
