import Capcs.Controller.Services

/-!
# Capcs.Controller.Network — networks and subnets

`internal/controller/cloudscalecluster_network.go`. A network entry with a UUID
is looked up once and cached in status; one without is found or created together
with its subnet, and recorded only when both exist.
-/

namespace Capcs.Controller

open Cloudscale
open Interaction (Proc)

/-- `createNetworkTimeoutRequeueAfter`. -/
def createNetworkTimeoutRequeueAfter : Nat := 5

/-- `networkTags`. -/
def networkTags (cluster : Cluster) (networkName : String) : TagMap :=
  [(nameCloudscaleProviderOwned ++ cluster.name, networkName)]

/-- `setNetworkStatus`: update the entry of that name, or append one. -/
def setNetworkStatus (name networkID subnetID cidr : String) (managed : Bool) (mtu : Int)
    (c : CloudscaleCluster) : CloudscaleCluster :=
  { c with status := { c.status with
      networks := Keyed.upsertFirst (fun ns => ns.name = name)
        (fun ns => { ns with networkID, subnetID, cidr, managed, mtu })
        { name, networkID, subnetID, cidr, managed, mtu } c.status.networks } }

/-- `reconcilePreExistingNetwork`. -/
def reconcilePreExistingNetwork (netSpec : NetworkSpec) : ClusterM Unit := do
  let c ← Proc.read
  let cached := (c.status.getNetworkStatus netSpec.name).any fun ns =>
    ns.networkID ≠ "" ∧ ns.subnetID ≠ "" ∧ ns.cidr ≠ ""
  if cached then pure ()
  else
    match ← svcGet .network netSpec.uuid with
    | .error err =>
      Proc.fail (wrapApi ("getting pre-existing network " ++ netSpec.uuid ++ ": ") err)
    | .ok network =>
      if network.zone ≠ c.spec.zone then
        Proc.fail (errorf ("pre-existing network " ++ netSpec.uuid ++ " is in zone " ++
          quote network.zone ++ ", expected zone " ++ quote c.spec.zone))
      else
        match network.subnets with
        | [] => Proc.fail (errorf ("pre-existing network " ++ netSpec.uuid ++ " has no subnets"))
        | subnet :: _ =>
          Proc.update (setNetworkStatus netSpec.name network.uuid subnet.uuid subnet.cidr false
            network.mtu)

/-- The create request of a managed network. -/
def networkCreateRequest (c : CloudscaleCluster) (netSpec : NetworkSpec) (tags : TagMap) :
    NetworkCreateRequest :=
  { name := netSpec.name
    autoCreateIPV4Subnet := false
    zone := c.spec.zone
    mtu := if netSpec.mtu > 0 then netSpec.mtu else 0
    tags }

/-- The network half of `reconcileManagedNetwork`: find or create the network.
A requeue result ends the pass. -/
def resolveNetwork (netSpec : NetworkSpec) (networkID : String) (tags : TagMap) :
    ClusterM (Except Result (Option Network × String)) := do
  let c ← Proc.read
  let (network, resolvedNetworkID) ← ensureResource .network networkID
    ("network/" ++ netSpec.name) tags
  if resolvedNetworkID ≠ "" then pure (.ok (network, resolvedNetworkID))
  else
    match ← createResource .network (networkCreateRequest c netSpec tags) "network"
      createNetworkTimeoutRequeueAfter with
    | .error result => pure (.error result)
    | .ok network => pure (.ok (some network, network.uuid))

/-- The subnet half of `reconcileManagedNetwork`. -/
def resolveSubnet (netSpec : NetworkSpec) (subnetID resolvedNetworkID : String) (tags : TagMap) :
    ClusterM (Except Result String) := do
  let (_, resolvedSubnetID) ← ensureResource .subnet subnetID ("subnet/" ++ netSpec.name) tags
  if resolvedSubnetID ≠ "" then pure (.ok resolvedSubnetID)
  else
    match ← createResource .subnet
      { network := resolvedNetworkID, cidr := netSpec.cidr,
        gatewayAddress := netSpec.gatewayAddress, tags } "subnet"
      createNetworkTimeoutRequeueAfter with
    | .error result => pure (.error result)
    | .ok subnet => pure (.ok subnet.uuid)

/-- `reconcileManagedNetwork`. The status entry is written only at the very end. -/
def reconcileManagedNetwork (cluster : Cluster) (netSpec : NetworkSpec) : ClusterM Result := do
  let c ← Proc.read
  let ns := c.status.getNetworkStatus netSpec.name
  let tags := networkTags cluster netSpec.name
  match ← resolveNetwork netSpec (ns.elim "" (·.networkID)) tags with
  | .error result => pure result
  | .ok (network, resolvedNetworkID) =>
    match ← resolveSubnet netSpec (ns.elim "" (·.subnetID)) resolvedNetworkID tags with
    | .error result => pure result
    | .ok resolvedSubnetID =>
      Proc.update (setNetworkStatus netSpec.name resolvedNetworkID resolvedSubnetID netSpec.cidr
        true (network.elim 0 (·.mtu)))
      pure {}

/-- The loop of `reconcileNetwork`. -/
def reconcileNetworks (cluster : Cluster) : List NetworkSpec → ClusterM Result
  | [] => pure {}
  | netSpec :: rest => do
    if netSpec.uuid ≠ "" then
      (reconcilePreExistingNetwork netSpec).wrapErr
        (.wrap ("reconciling pre-existing network " ++ quote netSpec.name ++ ": "))
      reconcileNetworks cluster rest
    else
      let result ← (reconcileManagedNetwork cluster netSpec).wrapErr
        (.wrap ("reconciling managed network " ++ quote netSpec.name ++ ": "))
      if result.isZero then reconcileNetworks cluster rest else pure result

/-- The deferred write of `NetworkReady`: any return without an error makes it
`True`, a requeue included. -/
def setNetworkReady (out : Except GoError Result) (c : CloudscaleCluster) : CloudscaleCluster :=
  match out with
  | .error err => setCondition .networkReady .isFalse .networkError err.text c
  | .ok _ => setCondition .networkReady .isTrue .networkProvisioned "" c

/-- `reconcileNetwork`. -/
def reconcileNetwork (cluster : Cluster) : ClusterM Result :=
  Proc.deferred (do
    let c ← Proc.read
    if c.spec.networks = [] then Proc.fail (errorf "no networks defined in spec")
    else reconcileNetworks cluster c.spec.networks) setNetworkReady

/-! ## Teardown -/

/-- `errNetworkNotReady`. -/
def errNetworkNotReady : GoError :=
  { text := "network has pending dependencies", sentinel := some .errNetworkNotReady }

/-- `isLBPoolMembersError`. -/
def isLBPoolMembersError (err : ApiError) : Bool :=
  stringContains err.text "load balancer pool members"

/-- The loop of `deleteNetwork`, over the entries read at its start. It returns
the entries that remain and the errors met; the sentinel ends it at once. -/
def deleteNetworks : List NetworkStatus → ClusterM (List NetworkStatus × List GoError)
  | [] => pure ([], [])
  | ns :: rest => do
    if !ns.managed then
      let (remaining, errs) ← deleteNetworks rest
      pure (ns :: remaining, errs)
    else if ns.networkID = "" then deleteNetworks rest
    else
      match ← svcDelete .network ns.networkID with
      | .ok _ => deleteNetworks rest
      | .error err =>
        if isLBPoolMembersError err then Proc.fail errNetworkNotReady
        else if isNotFound err then deleteNetworks rest
        else
          let (remaining, errs) ← deleteNetworks rest
          pure (ns :: remaining, wrapApi ("deleting network " ++ ns.name ++ ": ") err :: errs)

/-- `return errors.Join(errs...)`. -/
def returnJoined (errs : List GoError) : ClusterM Unit :=
  match errorsJoin errs with
  | none => pure ()
  | some err => Proc.fail err

/-- The deferred write of `NetworkReady` during teardown. -/
def setNetworkDeleting (out : Except GoError Unit) (c : CloudscaleCluster) : CloudscaleCluster :=
  match out with
  | .error err =>
    setCondition .networkReady .isFalse .networkError ("Failed to delete network: " ++ err.text) c
  | .ok _ =>
    setCondition .networkReady .isFalse .networkDeleting "Networks have been deleted" c

/-- `deleteNetwork`. -/
def deleteNetwork : ClusterM Unit :=
  Proc.deferred (do
    let c ← Proc.read
    let (remaining, errs) ← deleteNetworks c.status.networks
    Proc.update fun c => { c with status := { c.status with networks := remaining } }
    returnJoined errs) setNetworkDeleting

end Capcs.Controller
