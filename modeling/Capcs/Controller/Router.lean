import Capcs.Controller.Network

/-!
# Capcs.Controller.Router — routers and their interfaces

`internal/controller/cloudscalecluster_router.go`. The source keeps pointers into
`status.routers` while it works; here every use reads the in-memory status again,
which is what such a pointer shows.
-/

namespace Capcs.Controller

open Cloudscale
open Interaction (Proc)

/-- `routerRequeueAfter`. -/
def routerRequeueAfter : Nat := 5

/-- `routerTags`. -/
def routerTags (cluster : Cluster) (routerName : String) : TagMap :=
  [(nameCloudscaleProviderOwned ++ cluster.name, routerName)]

/-! ## Status entries -/

/-- `setRouterStatus`: update the entry of that name, or append one. -/
def setRouterStatus (routerSpec : RouterSpec) (routerID : String) (c : CloudscaleCluster) :
    CloudscaleCluster :=
  let managed : Bool := routerSpec.uuid = ""
  { c with status := { c.status with
      routers := Keyed.upsertFirst (fun rs => rs.name = routerSpec.name)
        (fun rs => { rs with routerID, managed })
        { name := routerSpec.name, routerID, managed } c.status.routers } }

/-- A router entry with the interface entry of a network updated or appended. -/
def upsertInterface (networkName interfaceID : String) (managed : Bool) (rs : RouterStatus) :
    RouterStatus :=
  let interfaces := Keyed.upsertFirst (fun i => i.network = networkName)
    (fun i => { i with interfaceID, managed })
    { network := networkName, interfaceID, managed } rs.interfaces
  { rs with interfaces }

/-- `setRouterInterfaceStatus`: upsert the interface entry on the router's entry.
Its boolean result only decides what is logged. -/
def setRouterInterfaceStatus (routerName networkName interfaceID : String) (managed : Bool)
    (c : CloudscaleCluster) : CloudscaleCluster :=
  { c with status := { c.status with
      routers := Keyed.updateFirst (fun rs => rs.name = routerName)
        (upsertInterface networkName interfaceID managed) c.status.routers } }

/-! ## Resolving a router -/

/-- `adoptRouter`. -/
def adoptRouter (routerSpec : RouterSpec) : ClusterM Router := do
  let c ← Proc.read
  match ← svcGet .router routerSpec.uuid with
  | .error err =>
    Proc.fail (wrapApi ("getting pre-existing router " ++ routerSpec.uuid ++ ": ") err)
  | .ok router =>
    if router.zone ≠ c.spec.zone then
      Proc.fail (errorf ("pre-existing router " ++ routerSpec.uuid ++ " is in zone " ++
        quote router.zone ++ ", expected zone " ++ quote c.spec.zone))
    else pure router

/-- `ensureManagedRouter`. -/
def ensureManagedRouter (cluster : Cluster) (routerSpec : RouterSpec) :
    ClusterM (Except Result Router) := do
  let c ← Proc.read
  let tags := routerTags cluster routerSpec.name
  let (router, resolvedRouterID) ← (ensureResource .router
      ((c.status.getRouterStatus routerSpec.name).elim "" (·.routerID))
      ("router/" ++ routerSpec.name) tags).wrapErr (.wrap "ensuring router: ")
  match router with
  | some router =>
    if resolvedRouterID ≠ "" then pure (.ok router)
    else createRouter c tags
  | none => createRouter c tags
where
  createRouter (c : CloudscaleCluster) (tags : TagMap) : ClusterM (Except Result Router) :=
    createResource .router
      { name := routerSpec.name, internetGateway := routerSpec.internetGateway,
        zone := c.spec.zone, tags } "router" routerRequeueAfter

/-! ## Interfaces -/

/-- `liveByNetwork`: the last interface on a network. -/
def liveByNetwork (ifaces : List RouterInterface) (networkID : String) : Option RouterInterface :=
  (ifaces.filter fun i => i.network = networkID).getLast?

/-- `liveByUUID`. -/
def liveByUUID (ifaces : List RouterInterface) (uuid : String) : Option RouterInterface :=
  (ifaces.filter fun i => i.uuid = uuid).getLast?

/-- `adoptRouterInterface`. The address it returns is only logged. -/
def adoptRouterInterface (routerSpec : RouterSpec) (ifaceSpec : RouterInterfaceSpec)
    (ns : NetworkStatus) (router : Router) : ClusterM Unit :=
  match liveByUUID router.interfaces ifaceSpec.uuid with
  | none => Proc.fail (errorf ("router " ++ quote routerSpec.name ++ " has no interface " ++
      ifaceSpec.uuid ++ " to adopt, it may have been detached outside of CAPCS"))
  | some live =>
    if live.network ≠ ns.networkID then
      Proc.fail (errorf ("router " ++ quote routerSpec.name ++ " interface " ++ ifaceSpec.uuid ++
        " is attached to network " ++ live.network ++ ", not to network " ++
        quote ifaceSpec.network ++ " (" ++ ns.networkID ++ ")"))
    else Proc.update (setRouterInterfaceStatus routerSpec.name ns.name live.uuid false)

/-- `claimRouterInterface`. -/
def claimRouterInterface (routerSpec : RouterSpec) (ifaceSpec : RouterInterfaceSpec)
    (ns : NetworkStatus) (live : RouterInterface) : ClusterM Unit := do
  let c ← Proc.read
  -- attached, unknown to us, on a router we did not create: the interface is not ours
  let foreign := (c.status.getRouterStatus routerSpec.name).any fun rs =>
    (rs.getInterfaceStatus ns.name).isNone ∧ ¬ rs.managed
  if foreign then
    Proc.fail (errorf ("pre-existing router " ++ quote routerSpec.name ++
      " is already attached to network " ++ quote ifaceSpec.network ++ " by interface " ++
      live.uuid ++ ": set spec.routers[].interfaces[].uuid to adopt that interface, or detach it"))
  else Proc.update (setRouterInterfaceStatus routerSpec.name ns.name live.uuid true)

/-- `createRouterInterface`: the entry is recorded before the call, with an empty ID. -/
def createRouterInterface (routerSpec : RouterSpec) (router : Router)
    (ifaceSpec : RouterInterfaceSpec) (ns : NetworkStatus) : ClusterM Result := do
  Proc.update (setRouterInterfaceStatus routerSpec.name ns.name "" true)
  let reply : Except ApiError RouterInterface ← Proc.perform (Op.createInterface router.uuid
    { network := ns.networkID,
      addresses := [{ subnet := ns.subnetID, address := ifaceSpec.address }] })
  match reply with
  | .error err =>
    if isTimeoutError err then pure { requeueAfter := routerRequeueAfter }
    else Proc.fail (wrapApi ("creating interface for router " ++ quote routerSpec.name ++
      " network " ++ quote ifaceSpec.network ++ ": ") err)
  | .ok createdIface =>
    Proc.update (setRouterInterfaceStatus routerSpec.name ns.name createdIface.uuid true)
    pure {}

/-- The loop of `reconcileRouterInterfaces`. -/
def reconcileInterfaces (routerSpec : RouterSpec) (router : Router) :
    List RouterInterfaceSpec → ClusterM Result
  | [] => pure {}
  | ifaceSpec :: rest => do
    let c ← Proc.read
    match c.status.getNetworkStatus ifaceSpec.network with
    | none => Proc.fail (errorf ("network " ++ quote ifaceSpec.network ++
        " not found in status for router " ++ quote routerSpec.name ++ " interface"))
    | some ns =>
      if ifaceSpec.uuid ≠ "" then
        adoptRouterInterface routerSpec ifaceSpec ns router
        reconcileInterfaces routerSpec router rest
      else
        match liveByNetwork router.interfaces ns.networkID with
        | some live =>
          claimRouterInterface routerSpec ifaceSpec ns live
          reconcileInterfaces routerSpec router rest
        | none =>
          let result ← createRouterInterface routerSpec router ifaceSpec ns
          if result.isZero then reconcileInterfaces routerSpec router rest else pure result

/-- `reconcileRouterInterfaces`. -/
def reconcileRouterInterfaces (routerSpec : RouterSpec) (router : Router) : ClusterM Result := do
  let c ← Proc.read
  match c.status.getRouterStatus routerSpec.name with
  | none => Proc.fail (errorf ("router " ++ quote routerSpec.name ++ " not found in status"))
  | some _ => reconcileInterfaces routerSpec router routerSpec.interfaces

/-! ## Reconciling routers -/

/-- What `reconcileRouter` does with a router it resolved. -/
def recordRouter (routerSpec : RouterSpec) (router : Router) : ClusterM Result := do
  Proc.update (setRouterStatus routerSpec router.uuid)
  if router.status ≠ routerActive then pure { requeueAfter := routerRequeueAfter }
  else reconcileRouterInterfaces routerSpec router

/-- `reconcileRouter`. -/
def reconcileRouter (cluster : Cluster) (routerSpec : RouterSpec) : ClusterM Result := do
  if routerSpec.uuid ≠ "" then
    let router ← adoptRouter routerSpec
    recordRouter routerSpec router
  else
    match ← ensureManagedRouter cluster routerSpec with
    | .error result => pure result
    | .ok router => recordRouter routerSpec router

/-- The lowest non-zero requeue so far. -/
def lowerResult (result res : Result) : Result :=
  if !res.isZero && (result.isZero || res.requeueAfter < result.requeueAfter) then res else result

/-- The loop of `reconcileRouters`, carrying the result so far. -/
def reconcileEachRouter (cluster : Cluster) : Result → List RouterSpec → ClusterM Result
  | result, [] => pure result
  | result, routerSpec :: rest => do
    let res ← (reconcileRouter cluster routerSpec).wrapErr
      (.wrap ("reconciling router " ++ quote routerSpec.name ++ ": "))
    reconcileEachRouter cluster (lowerResult result res) rest

/-- The deferred write of `RouterReady`. -/
def setRouterReady (out : Except GoError Result) (c : CloudscaleCluster) : CloudscaleCluster :=
  match out with
  | .error err => setCondition .routerReady .isFalse .routerError err.text c
  | .ok result =>
    if !result.isZero then
      setCondition .routerReady .isFalse .routerNotReady "Waiting for routers to become available" c
    else if c.spec.routers = [] then setCondition .routerReady .isTrue .routerDisabled "" c
    else setCondition .routerReady .isTrue .routerProvisioned "" c

/-- `reconcileRouters`. -/
def reconcileRouters (cluster : Cluster) : ClusterM Result :=
  Proc.deferred (do
    let c ← Proc.read
    reconcileEachRouter cluster {} c.spec.routers) setRouterReady

/-! ## Teardown -/

/-- `hasManagedInterface`. -/
def hasManagedInterface (rs : RouterStatus) : Bool := rs.interfaces.any (·.managed)

/-- The interface a recorded entry stands for: its ID, or for an attach whose
response never arrived the live interface on its network. -/
def recordedInterfaceID (c : CloudscaleCluster) (router : Router) (iface : RouterInterfaceStatus) :
    String :=
  if iface.interfaceID ≠ "" then iface.interfaceID
  else match c.status.getNetworkStatus iface.network with
    | none => ""
    | some ns => (liveByNetwork router.interfaces ns.networkID).elim "" (·.uuid)

/-- The loop of `deleteRouterInterfaces`. -/
def detachInterfaces (rs : RouterStatus) (router : Router) :
    List RouterInterfaceStatus → ClusterM (List RouterInterfaceStatus × List GoError)
  | [] => pure ([], [])
  | iface :: rest => do
    if !iface.managed then
      let (remaining, errs) ← detachInterfaces rs router rest
      pure (iface :: remaining, errs)
    else
      let c ← Proc.read
      let interfaceID := recordedInterfaceID c router iface
      if !router.interfaces.any (·.uuid = interfaceID) then detachInterfaces rs router rest
      else
        let reply : Except ApiError Unit ← Proc.perform (Op.deleteInterface rs.routerID interfaceID)
        match reply with
        | .ok _ => detachInterfaces rs router rest
        | .error err =>
          if isNotFound err then detachInterfaces rs router rest
          else
            let (remaining, errs) ← detachInterfaces rs router rest
            -- the resolved UUID is kept for the retry
            pure ({ iface with interfaceID } :: remaining,
              wrapApi ("deleting router interface for " ++ rs.name ++ "/" ++ iface.network ++ ": ")
                err :: errs)

/-- `deleteRouterInterfaces`: the router entry with its interfaces pruned, and the
errors met. -/
def deleteRouterInterfaces (rs : RouterStatus) : ClusterM (RouterStatus × List GoError) := do
  if !hasManagedInterface rs then pure (rs, [])
  else
    match ← svcGet .router rs.routerID with
    | .error err =>
      -- a router that is gone took its interfaces with it
      if isNotFound err then pure ({ rs with interfaces := [] }, [])
      else pure (rs, [wrapApi ("getting router " ++ quote rs.name ++
        " to detach its interfaces: ") err])
    | .ok router =>
      let (remaining, errs) ← detachInterfaces rs router rs.interfaces
      pure ({ rs with interfaces := remaining }, errs)

/-- The loop of `deleteRouters`. -/
def deleteEachRouter : List RouterStatus → ClusterM (List RouterStatus × List GoError)
  | [] => pure ([], [])
  | entry :: rest => do
    if entry.routerID = "" then deleteEachRouter rest
    else
      let (router, ifaceErrs) ← deleteRouterInterfaces entry
      if ifaceErrs ≠ [] then
        let (remaining, errs) ← deleteEachRouter rest
        pure (router :: remaining, ifaceErrs ++ errs)
      else if !router.managed then
        let (remaining, errs) ← deleteEachRouter rest
        pure (router :: remaining, errs)
      else
        match ← svcDelete .router router.routerID with
        | .ok _ => deleteEachRouter rest
        | .error err =>
          if isNotFound err then deleteEachRouter rest
          else
            let (remaining, errs) ← deleteEachRouter rest
            pure (router :: remaining,
              wrapApi ("deleting router " ++ quote router.name ++ ": ") err :: errs)

/-- The deferred write of `RouterReady` during teardown. -/
def setRouterDeleting (out : Except GoError Unit) (c : CloudscaleCluster) : CloudscaleCluster :=
  match out with
  | .error err =>
    setCondition .routerReady .isFalse .routerError ("Failed to delete routers: " ++ err.text) c
  | .ok _ => setCondition .routerReady .isFalse .routerDeleting "Routers have been deleted" c

/-- `deleteRouters`. -/
def deleteRouters : ClusterM Unit :=
  Proc.deferred (do
    let c ← Proc.read
    let (remaining, errs) ← deleteEachRouter c.status.routers
    Proc.update fun c => { c with status := { c.status with routers := remaining } }
    returnJoined errs) setRouterDeleting

end Capcs.Controller
