import Capcs.Controller.Network
import Capcs.Net.Addr

/-!
# Capcs.Controller.LoadBalancer — the control plane load balancer

`internal/controller/cloudscalecluster_loadbalancer.go`. The load balancer, its
pool, its listener and its health monitor are four instances of one pattern
(`reconcileOwned`): ensure by recorded ID or by the ownership tags, record what
was found, and create if nothing was. Pool members follow the control plane
machines.
-/

namespace Capcs.Controller

open Cloudscale
open Interaction (Proc)

def loadBalancerRunningStatus : String := "running"

def loadBalancerChangingStatus : String := "changing"

/-- `lbStatus`. -/
structure LbStatus where
  ipAddress : String := ""
  ready : Bool := false
  deriving DecidableEq, Repr

/-! ## Subnets of the pool members -/

/-- `safeUseSubnet`. -/
def safeUseSubnet (c : CloudscaleCluster) (networkName : String) : Except GoError String :=
  match c.status.getNetworkStatus networkName with
  | some ns =>
    if ns.subnetID = "" then .error (errorf ("network " ++ quote networkName ++
      " not yet provisioned"))
    else .ok ns.subnetID
  | none => .error (errorf ("network " ++ quote networkName ++ " not yet provisioned"))

/-- `getPoolMemberSubnetID`. -/
def getPoolMemberSubnetID (c : CloudscaleCluster) : Except GoError String :=
  let lbSpec := c.spec.controlPlaneLoadBalancer
  if lbSpec.poolMemberNetwork ≠ "" then safeUseSubnet c lbSpec.poolMemberNetwork
  else if lbSpec.network ≠ "" then safeUseSubnet c lbSpec.network
  else match c.status.networks with
    | [] => .error (errorf "no networks in cluster status")
    | first :: _ =>
      if first.subnetID = "" then .error (errorf ("first network " ++ quote first.name ++
        " has no subnet ID"))
      else .ok first.subnetID

/-- `getMemberSubnetCIDR`. -/
def getMemberSubnetCIDR (c : CloudscaleCluster) (subnetID : String) : Except GoError String :=
  match c.status.networks.find? fun ns => ns.subnetID = subnetID ∧ ns.cidr ≠ "" with
  | some ns => .ok ns.cidr
  | none => .error (errorf ("subnet " ++ subnetID ++
      " has no cached CIDR in status; ensure networks are reconciled first"))

/-! ## The owned resources -/

/-- The pattern of `reconcileLB`, `reconcileLBPool`, `reconcileLBListener` and
`reconcileLBHealthMonitor`: `id` and `setID` are the status field, and `request`
builds the create request from the object as it is then. -/
def reconcileOwned (k : Kind) (what : String) (id : CloudscaleClusterStatus → String)
    (setID : String → CloudscaleClusterStatus → CloudscaleClusterStatus)
    (request : CloudscaleCluster → Except GoError k.Request) : ClusterM Result := do
  let c ← Proc.read
  let (_, found) ← ensureResource k (id c.status) what (clusterOwnershipTags c)
  Proc.update fun c => { c with status := setID found c.status }
  if found ≠ "" then pure {}
  else
    let c ← Proc.read
    match request c with
    | .error err => Proc.fail err
    | .ok req =>
      match ← createResource k req what 5 with
      | .error result => pure result
      | .ok resource =>
        Proc.update fun c => { c with status := setID (uuidOf resource) c.status }
        pure {}

/-- The request of `reconcileLB`: a private VIP needs its subnet. -/
def loadBalancerRequest (c : CloudscaleCluster) : Except GoError LoadBalancerRequest := do
  let lbSpec := c.spec.controlPlaneLoadBalancer
  let req : LoadBalancerRequest :=
    { name := c.metadata.name ++ "-cp-lb", flavor := lbSpec.flavor, zone := c.spec.zone,
      tags := clusterOwnershipTags c }
  if lbSpec.network ≠ "" then
    let subnetID ← safeUseSubnet c lbSpec.network
    pure { req with vipAddresses := some [subnetID] }
  else pure req

/-- `reconcileLB`. -/
def reconcileLB : ClusterM Result :=
  reconcileOwned .loadBalancer "load balancer" (·.loadBalancerID)
    (fun id s => { s with loadBalancerID := id }) loadBalancerRequest

/-- `reconcileLBPool`. -/
def reconcileLBPool : ClusterM Result :=
  reconcileOwned .pool "load balancer pool" (·.loadBalancerPoolID)
    (fun id s => { s with loadBalancerPoolID := id }) fun c => .ok
      { name := c.metadata.name ++ "-cp-pool", loadBalancer := c.status.loadBalancerID,
        algorithm := c.spec.controlPlaneLoadBalancer.algorithm, protocol := "tcp",
        tags := clusterOwnershipTags c }

/-- `reconcileLBListener`. -/
def reconcileLBListener : ClusterM Result :=
  reconcileOwned .listener "load balancer listener" (·.loadBalancerListenerID)
    (fun id s => { s with loadBalancerListenerID := id }) fun c => .ok
      { name := c.metadata.name ++ "-cp-listener", pool := c.status.loadBalancerPoolID,
        protocol := "tcp", protocolPort := c.spec.controlPlaneLoadBalancer.apiServerPort,
        tags := clusterOwnershipTags c }

/-- `reconcileLBHealthMonitor`. -/
def reconcileLBHealthMonitor : ClusterM Result :=
  reconcileOwned .healthMonitor "load balancer health monitor" (·.loadBalancerHealthMonitorID)
    (fun id s => { s with loadBalancerHealthMonitorID := id }) fun c => .ok
      { pool := c.status.loadBalancerPoolID, type := "tcp",
        delayS := c.spec.controlPlaneLoadBalancer.healthMonitor.delayS,
        timeoutS := c.spec.controlPlaneLoadBalancer.healthMonitor.timeoutS,
        upThreshold := c.spec.controlPlaneLoadBalancer.healthMonitor.upThreshold,
        downThreshold := c.spec.controlPlaneLoadBalancer.healthMonitor.downThreshold,
        tags := clusterOwnershipTags c }

/-! ## Members -/

/-- The first internal address of a machine inside the member subnet. -/
def memberAddress (net : Net.Prefix) (machine : CloudscaleMachine) : Option String :=
  (machine.status.addresses.find? fun addr =>
    addr.type = .internalIP ∧ addr.address ≠ "" ∧
      (Net.parseIP addr.address).any fun ip => net.ipNetContains ip).map (·.address)

/-- The desired members: one for each machine with an address on the subnet. -/
def desiredMembers (c : CloudscaleCluster) (subnetID : String) (net : Net.Prefix)
    (machines : List CloudscaleMachine) : List LoadBalancerPoolMemberRequest :=
  machines.filterMap fun machine => (memberAddress net machine).map fun address =>
    { name := machine.metadata.name, subnet := subnetID, address,
      protocolPort := c.spec.controlPlaneLoadBalancer.apiServerPort,
      tags := clusterOwnershipTags c }

/-- The machines with the labels of the cluster and of the control plane. -/
def listControlPlaneMachines (cluster : Cluster) (c : CloudscaleCluster) :
    ClusterM (Except KubeError (List CloudscaleMachine)) :=
  Proc.perform (Op.listMachines c.metadata.ns cluster.name true)

/-- `getDesiredLoadBalancerMembers`. -/
def getDesiredLoadBalancerMembers (cluster : Cluster) :
    ClusterM (List LoadBalancerPoolMemberRequest) := do
  let c ← Proc.read
  match ← listControlPlaneMachines cluster c with
  | .error err => Proc.fail (wrapKube "listing CloudscaleMachines: " err)
  | .ok machines =>
    match getPoolMemberSubnetID c with
    | .error err => Proc.fail err
    | .ok memberSubnetID =>
      match getMemberSubnetCIDR c memberSubnetID with
      | .error err => Proc.fail (err.wrap "resolving pool member subnet CIDR: ")
      | .ok memberSubnetCIDR =>
        match Net.parseCIDR memberSubnetCIDR with
        | none => Proc.fail (errorf ("parsing pool member subnet CIDR " ++
            quote memberSubnetCIDR ++ ": invalid CIDR address: " ++ memberSubnetCIDR))
        | some memberIPNet => pure (desiredMembers c memberSubnetID memberIPNet machines)

/-- `createLoadBalancerMember`. -/
def createLoadBalancerMember (member : LoadBalancerPoolMemberRequest) : ClusterM Result := do
  let c ← Proc.read
  let reply : Except ApiError LoadBalancerPoolMember ←
    Proc.perform (Op.createMember c.status.loadBalancerPoolID member)
  match reply with
  | .error err =>
    if isTimeoutError err then pure { requeueAfter := 5 }
    else Proc.fail (wrapApi "creating load balancer member: " err)
  | .ok cm =>
    Proc.update fun c => { c with status := { c.status with
      loadBalancerMemberIDs := c.status.loadBalancerMemberIDs ++ [cm.uuid] } }
    pure {}

/-- `updateLoadBalancerMember`. -/
def updateLoadBalancerMember (memberUUID newAddress : String) : ClusterM Unit := do
  let c ← Proc.read
  let reply : Except ApiError Unit ← Proc.perform
    (Op.updateMember c.status.loadBalancerPoolID memberUUID { address := newAddress })
  match reply with
  | .error err => Proc.fail (wrapApi "updating load balancer member: " err)
  | .ok _ => pure ()

/-- `deleteLoadBalancerMember`. -/
def deleteLoadBalancerMember (member : LoadBalancerPoolMember) : ClusterM Unit := do
  let c ← Proc.read
  let reply : Except ApiError Unit ←
    Proc.perform (Op.deleteMember c.status.loadBalancerPoolID member.uuid)
  match reply with
  | .error err => Proc.fail (wrapApi "deleting load balancer member: " err)
  | .ok _ => Proc.update fun c => { c with status := { c.status with
      loadBalancerMemberIDs := c.status.loadBalancerMemberIDs.filter (· ≠ member.uuid) } }

/-- `currentByName`: the last member of a name. -/
def currentByName (current : List LoadBalancerPoolMember) (name : String) :
    Option LoadBalancerPoolMember :=
  (current.filter fun m => m.name = name).getLast?

/-- The update of a member whose address has changed. -/
def updateMoved (member : LoadBalancerPoolMember) (desired : LoadBalancerPoolMemberRequest) :
    ClusterM Unit :=
  if member.address ≠ desired.address then
    (updateLoadBalancerMember member.uuid desired.address).wrapErr
      (.wrap "failed to update load balancer member: ")
  else pure ()

/-- The first loop of `reconcileLBMembers`: create what is missing, update what
has moved. -/
def addMembers (current : List LoadBalancerPoolMember) :
    List LoadBalancerPoolMemberRequest → ClusterM Result
  | [] => pure {}
  | desired :: rest => do
    match currentByName current desired.name with
    | none =>
      let result ← (createLoadBalancerMember desired).wrapErr
        (.wrap "failed to create load balancer member: ")
      if result.isZero then addMembers current rest else pure result
    | some member =>
      updateMoved member desired
      addMembers current rest

/-- The removal of a member that no desired member has the name of. -/
def deleteExtra (desired : List LoadBalancerPoolMemberRequest) (member : LoadBalancerPoolMember) :
    ClusterM Unit :=
  if !desired.any (·.name = member.name) then
    (deleteLoadBalancerMember member).wrapErr (.wrap "failed to delete load balancer member: ")
  else pure ()

/-- The second loop of `reconcileLBMembers`: remove what is not desired. -/
def removeMembers (desired : List LoadBalancerPoolMemberRequest) :
    List LoadBalancerPoolMember → ClusterM Unit
  | [] => pure ()
  | member :: rest => do
    deleteExtra desired member
    removeMembers desired rest

/-- `reconcileLBMembers`. -/
def reconcileLBMembers (cluster : Cluster) : ClusterM Result := do
  let c ← Proc.read
  let reply : Except ApiError (List LoadBalancerPoolMember) ←
    Proc.perform (Op.listMembers c.status.loadBalancerPoolID)
  match reply with
  | .error err => Proc.fail (wrapApi "failed to get current load balancer members: " err)
  | .ok currentMembers =>
    let desired ← (getDesiredLoadBalancerMembers cluster).wrapErr
      (.wrap "failed to get desired load balancer members: ")
    let result ← addMembers currentMembers desired
    if result.isZero then
      removeMembers desired currentMembers
      pure {}
    else pure result

/-! ## The whole load balancer -/

/-- The members failing their health check, as the pending message lists them. -/
def downMembers (members : List LoadBalancerPoolMember) : List String :=
  members.filterMap fun m =>
    if m.monitorStatus = "down" then
      some (m.name ++ "@" ++ m.address ++ ":" ++ toString m.protocolPort)
    else none

/-- The pending message for a load balancer that is neither running nor changing. -/
def degradedMessage (lb : LoadBalancer) : ClusterM String := do
  let c ← Proc.read
  let msg := "Load balancer is in " ++ lb.status
  if c.status.loadBalancerPoolID = "" then pure msg
  else
    let reply : Except ApiError (List LoadBalancerPoolMember) ←
      Proc.perform (Op.listMembers c.status.loadBalancerPoolID)
    match reply with
    | .error _ => pure msg
    | .ok members =>
      match downMembers members with
      | [] => pure msg
      | down => pure (msg ++ "; pool members failing health check: [" ++
          String.intercalate " " down ++ "]")

/-- What the body of `reconcileLoadBalancer` returns: the status, the result, and
the pending message if the load balancer is not running. -/
structure LbOutcome where
  status : LbStatus := {}
  result : Result := {}
  pending : Option String := none
  deriving DecidableEq, Repr

/-- Steps 2 to 5 of `reconcileLoadBalancer`: the first step with a result ends it. -/
def reconcileLBChildren (cluster : Cluster) : ClusterM Result := do
  let result ← reconcileLBPool.wrapErr (.wrap "reconciling load balancer pool: ")
  if !result.isZero then pure result
  else
    let result ← reconcileLBListener.wrapErr (.wrap "reconciling load balancer listener: ")
    if !result.isZero then pure result
    else
      let result ← reconcileLBHealthMonitor.wrapErr
        (.wrap "reconciling load balancer health monitor: ")
      if !result.isZero then pure result
      else (reconcileLBMembers cluster).wrapErr (.wrap "reconciling load balancer members: ")

/-- What `reconcileLoadBalancer` does once the status of the load balancer is known. -/
def finishLoadBalancer (cluster : Cluster) (lb : LoadBalancer) (pending : Option String) :
    ClusterM LbOutcome := do
  let result ← reconcileLBChildren cluster
  if !result.isZero then pure { result, pending }
  else pure { status := { ipAddress := lb.vipAddresses.head?.getD "", ready := pending.isNone }
              pending }

/-- The body of `reconcileLoadBalancer` below its deferred write. -/
def loadBalancerBody (cluster : Cluster) : ClusterM LbOutcome := do
  let result ← reconcileLB.wrapErr (.wrap "reconciling load balancer: ")
  if !result.isZero then pure { result }
  else
    let c ← Proc.read
    if c.status.loadBalancerID = "" then
      pure { result := { requeueAfter := 5 }, pending := some "Load balancer is not yet running" }
    else
      match ← svcGet .loadBalancer c.status.loadBalancerID with
      | .error err => Proc.fail (wrapApi "getting load balancer status: " err)
      | .ok lb =>
        if lb.status = loadBalancerRunningStatus then finishLoadBalancer cluster lb none
        else if lb.status = loadBalancerChangingStatus then
          pure { result := { requeueAfter := 10 },
                 pending := some "Load balancer is not yet running" }
        else
          let msg ← degradedMessage lb
          finishLoadBalancer cluster lb (some msg)

/-- The deferred write of `LoadBalancerReady`. -/
def setLoadBalancerReady (out : Except GoError LbOutcome) (c : CloudscaleCluster) :
    CloudscaleCluster :=
  match out with
  | .error err => setCondition .loadBalancerReady .isFalse .loadBalancerError err.text c
  | .ok { pending := some msg, .. } =>
    setCondition .loadBalancerReady .isFalse .loadBalancerNotReady msg c
  | .ok { pending := none, .. } =>
    setCondition .loadBalancerReady .isTrue .loadBalancerRunning "" c

/-- `reconcileLoadBalancer`. -/
def reconcileLoadBalancer (cluster : Cluster) : ClusterM (LbStatus × Result) := do
  let c ← Proc.read
  if !c.spec.controlPlaneLoadBalancer.isEnabled then
    Proc.update (setCondition .loadBalancerReady .isTrue .loadBalancerDisabled "")
    pure ({ ready := true }, {})
  else
    let out ← (loadBalancerBody cluster).deferred setLoadBalancerReady
    pure (out.status, out.result)

/-! ## Teardown -/

/-- The deferred write of `LoadBalancerReady` during teardown. -/
def setLoadBalancerDeleting (out : Except GoError Unit) (c : CloudscaleCluster) :
    CloudscaleCluster :=
  match out with
  | .error err => setCondition .loadBalancerReady .isFalse .loadBalancerError
      ("Failed to delete load balancer: " ++ err.text) c
  | .ok _ => setCondition .loadBalancerReady .isFalse .loadBalancerDeleting
      "Load balancer has been deleted" c

/-- The status without its load balancer, whose children go with it. -/
def clearLoadBalancer (c : CloudscaleCluster) : CloudscaleCluster :=
  { c with status := { c.status with
      loadBalancerID := "", loadBalancerPoolID := "", loadBalancerListenerID := ""
      loadBalancerHealthMonitorID := "", loadBalancerMemberIDs := [] } }

/-- `deleteLoadBalancer`. -/
def deleteLoadBalancer : ClusterM Unit := do
  let c ← Proc.read
  if !c.spec.controlPlaneLoadBalancer.isEnabled then pure ()
  else Proc.deferred (do
    if c.status.loadBalancerID = "" then Proc.update clearLoadBalancer
    else
      match ← svcDelete .loadBalancer c.status.loadBalancerID with
      | .ok _ => Proc.update clearLoadBalancer
      | .error err =>
        if isNotFound err then Proc.update clearLoadBalancer
        else Proc.fail (wrapApi "deleting load balancer: " err)) setLoadBalancerDeleting

end Capcs.Controller
