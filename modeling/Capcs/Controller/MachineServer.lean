import Capcs.Controller.ServerGroup

/-!
# Capcs.Controller.MachineServer — one pass over a CloudscaleMachine

`cloudscalemachine_server.go` and the passes of `cloudscalemachine_controller.go`.
A `MachineScope` carries the owning objects, which a pass only reads.
-/

namespace Capcs.Controller

open Cloudscale
open Interaction (Proc)

/-- The read-only part of `scope.MachineScope`. -/
structure MachineScope where
  cluster : Cluster
  machine : Machine
  cloudscaleCluster : CloudscaleCluster
  deriving DecidableEq, Repr

/-- `InterfaceTypePublic`. -/
def interfaceTypePublic : String := "public"

/-- `ServerStatusPollInterval`, in seconds. -/
def serverStatusPollInterval : Nat := 5

/-! ## Tags -/

/-- `machineLookupTag`. -/
def machineLookupTag (s : MachineScope) (m : CloudscaleMachine) : TagMap :=
  [(m.machineTagKey s.cluster.name,
    s.cluster.ns ++ "/" ++ s.cluster.name ++ "/" ++ m.metadata.name)]

/-- `machineCreateTags`: the user's tags are copied over the lookup tag. -/
def machineCreateTags (s : MachineScope) (m : CloudscaleMachine) : TagMap :=
  m.spec.tags ++ machineLookupTag s m

/-! ## The server request -/

/-- The loop of `buildInterfaceRequests`: the networks asked for, and the family
of the last public interface. -/
def interfaceRequests (c : CloudscaleCluster) :
    List InterfaceSpec → Option IPFamily → Except GoError (List String × Option IPFamily)
  | [], ipFamily => .ok ([], ipFamily)
  | iface :: rest, ipFamily =>
    if iface.type = interfaceTypePublic then do
      let (reqs, fam) ← interfaceRequests c rest iface.ipFamily
      pure (interfaceTypePublic :: reqs, fam)
    else if iface.network ≠ "" then
      match c.status.getNetworkStatus iface.network with
      | none => .error (errorf ("network " ++ quote iface.network ++
          " not found in cluster status"))
      | some ns =>
        if ns.networkID = "" then
          .error (errorf ("network " ++ quote iface.network ++ " not yet provisioned"))
        else do
          let (reqs, fam) ← interfaceRequests c rest ipFamily
          pure (ns.networkID :: reqs, fam)
    else .error (errorf "interface must have either type or network set")

/-- `buildInterfaceRequests`. -/
def buildInterfaceRequests (c : CloudscaleCluster) (m : CloudscaleMachine) :
    Except GoError (List String × Option IPFamily) :=
  match m.spec.interfaces with
  | [] =>
    match c.status.networks with
    | [] => .error (errorf "cluster has no networks provisioned yet")
    | firstNetwork :: _ => .ok ([interfaceTypePublic, firstNetwork.networkID], none)
  | ifaceSpecs => interfaceRequests c ifaceSpecs none

/-- `ipFamilyToUseIPV6`. -/
def ipFamilyToUseIPV6 : Option IPFamily → Option Bool
  | none => none
  | some .dualStack => some true
  | some .ipv6 => some true
  | some .ipv4 => some false

/-- The request of `Servers.Create`. -/
def serverRequest (s : MachineScope) (m : CloudscaleMachine) (bootstrapData : String)
    (interfaces : List String) (ipFamily : Option IPFamily) : ServerRequest :=
  { name := m.metadata.name, flavor := m.spec.flavor, image := m.spec.image
    zone := s.cloudscaleCluster.spec.zone, tags := machineCreateTags s m
    userData := bootstrapData, interfaces, useIPV6 := ipFamilyToUseIPV6 ipFamily
    volumeSizeGB := if m.spec.rootVolumeSize > 0 then m.spec.rootVolumeSize else 0
    serverGroups := if m.status.serverGroupID ≠ "" then [m.status.serverGroupID] else [] }

/-- `GetBootstrapData`. -/
def getBootstrapData (s : MachineScope) : MachineM String :=
  match s.machine.dataSecretName with
  | none => Proc.fail (errorf "bootstrap data secret name is nil")
  | some name => do
    let reply : Except KubeError (List (String × String)) ←
      Proc.perform (Op.getSecret s.machine.ns name)
    match reply with
    | .error err => Proc.fail (wrapKube "getting bootstrap data secret: " err)
    | .ok data =>
      match data.lookup "value" with
      | none => Proc.fail (errorf "bootstrap data secret missing 'value' key")
      | some value => pure value

/-! ## The server -/

/-- The addresses `updateMachineFromServer` records. -/
def serverAddresses (server : Server) : List MachineAddress :=
  server.interfaces.flatMap fun iface => iface.addresses.map fun address =>
    { type := if iface.type = interfaceTypePublic then .externalIP else .internalIP, address }

/-- `updateMachineFromServer`. -/
def updateMachineFromServer (server : Server) (m : CloudscaleMachine) : CloudscaleMachine :=
  { m with
    spec := { m.spec with providerID := some ("cloudscale://" ++ server.uuid) }
    status := { m.status with addresses := serverAddresses server } }

/-- Write `status.serverID`. -/
def setServerID (id : String) (m : CloudscaleMachine) : CloudscaleMachine :=
  { m with status := { m.status with serverID := id } }

/-- `setServerStatusCondition`. -/
def setServerStatusCondition (server : Server) (m : CloudscaleMachine) : CloudscaleMachine :=
  let notReady := setMachineCondition .serverReady .isFalse
  let isAlreadyProvisioned := (m.status.initialization.bind (·.provisioned)).getD false
  match server.status with
  | "running" => setMachineCondition .serverReady .isTrue .serverRunning "" m
  | "changing" =>
    if isAlreadyProvisioned then notReady .serverChanging "Server is transitioning" m
    else notReady .serverStarting "Server is being created" m
  | "stopped" => notReady .serverStopped "Server is stopped" m
  | "rescue_running" | "rescue_stopped" =>
    notReady .serverInRescueMode
      ("Server is in rescue mode (status: " ++ server.status ++ ")") m
  | "paused" | "error" | "unknown" =>
    notReady .serverInternalError ("Server has internal issue (status: " ++ server.status ++
      "), contact cloudscale.ch support") m
  | _ => notReady .serverError ("Unknown server status: " ++ server.status) m

/-- The poll of a server that is still changing. -/
def pollResult (server : Server) : Result :=
  if server.status = "changing" then { requeueAfter := serverStatusPollInterval } else {}

/-- What the body of `reconcileServer` returns: the result, and the server its
deferred closure reads the condition from. -/
abbrev ServerOutcome := Result × Option Server

/-- Record a server found or created. -/
def adoptServer (server : Server) : MachineM ServerOutcome := do
  Proc.update (setServerID server.uuid)
  Proc.update (updateMachineFromServer server)
  pure (pollResult server, some server)

/-- Step 3 of `reconcileServer`. -/
def createServer (s : MachineScope) : MachineM ServerOutcome := do
  let bootstrapData ← (getBootstrapData s).wrapErr (.wrap "getting bootstrap data: ")
  let m ← Proc.read
  match buildInterfaceRequests s.cloudscaleCluster m with
  | .error err => Proc.fail (err.wrap "building interface requests: ")
  | .ok (interfaces, ipFamily) =>
    match ← createResource .server (serverRequest s m bootstrapData interfaces ipFamily)
      "server" 30 with
    | .error result => pure (result, none)
    | .ok server => adoptServer server

/-- Step 2 of `reconcileServer`: the server found by its tag. -/
def findServer (s : MachineScope) : MachineM ServerOutcome := do
  let m ← Proc.read
  match ← svcList .server (machineLookupTag s m) with
  | .error err => Proc.fail (wrapApi "listing servers: " err)
  | .ok [] => createServer s
  | .ok [server] => adoptServer server
  | .ok servers => Proc.fail (errorf ("found " ++ toString servers.length ++
      " servers matching tag filter, expected at most 1"))

/-- The body of `reconcileServer` below its deferred write. -/
def serverBody (s : MachineScope) : MachineM ServerOutcome := do
  let m ← Proc.read
  if m.status.serverID = "" then findServer s
  else
    match ← svcGet .server m.status.serverID with
    | .ok server =>
      Proc.update (updateMachineFromServer server)
      pure (pollResult server, some server)
    | .error err =>
      if isNotFound err then
        -- deleted externally: it is not created again
        Proc.update (setMachineCondition .serverReady .isFalse .serverDeletedExternally
          ("Server " ++ m.status.serverID ++ " was deleted outside of CAPI"))
        pure ({}, none)
      else Proc.fail (wrapApi "getting server: " err)

/-- The deferred write of `ServerReady`. -/
def setServerReady (out : Except GoError ServerOutcome) (m : CloudscaleMachine) :
    CloudscaleMachine :=
  match out with
  | .error err => setMachineCondition .serverReady .isFalse .serverError err.text m
  | .ok (_, some server) => setServerStatusCondition server m
  | .ok (_, none) => m

/-- `reconcileServer`. -/
def reconcileServer (s : MachineScope) : MachineM Result := do
  let (result, _) ← (serverBody s).deferred setServerReady
  pure result

/-- The deferred write of `ServerReady` during teardown. -/
def setServerDeleting (out : Except GoError Unit) (m : CloudscaleMachine) : CloudscaleMachine :=
  match out with
  | .error err => setMachineCondition .serverReady .isFalse .serverError err.text m
  | .ok _ => setMachineCondition .serverReady .isFalse .serverDeleting "Server has been deleted" m

/-- `deleteServer`. -/
def deleteServer : MachineM Unit :=
  Proc.deferred (do
    let m ← Proc.read
    if m.status.serverID = "" then pure ()
    else
      match ← svcDelete .server m.status.serverID with
      | .ok _ => Proc.update (setServerID "")
      | .error err =>
        if isNotFound err then Proc.update (setServerID "")
        else Proc.fail (wrapApi "deleting server: " err)) setServerDeleting

/-! ## The passes -/

/-- `CloudscaleMachineReconciler.setReadyCondition`. -/
def setMachineReadyCondition (m : CloudscaleMachine) : CloudscaleMachine :=
  if Conditions.IsTrue m.status.conditions .serverReady then
    setMachineCondition .ready .isTrue .ready "" m
  else match Conditions.get m.status.conditions .serverReady with
    | none => setMachineCondition .ready .isFalse .notReady
        ("Waiting for " ++ ConditionType.serverReady.text) m
    | some cond => setMachineCondition .ready .isFalse cond.reason cond.message m

/-- `Provisioned` is set once the server is ready, and never reverted. -/
def setMachineProvisioned (m : CloudscaleMachine) : CloudscaleMachine :=
  if Conditions.IsTrue m.status.conditions .serverReady then
    { m with status := { m.status with initialization := some { provisioned := some true } } }
  else m

/-- The server step of `reconcileNormal`. -/
def machineServerStep (s : MachineScope) : MachineM Result := do
  let result ← (reconcileServer s).wrapErr (.wrap "reconciling server: ")
  Proc.update setMachineProvisioned
  pure result

/-- `CloudscaleMachineReconciler.reconcileNormal`. -/
def machineReconcileNormal (s : MachineScope) : MachineM Result :=
  Proc.deferred (do
    if s.machine.dataSecretName.isNone then
      Proc.update (setMachineCondition .serverReady .isFalse .waitingForBootstrapData
        "Waiting for bootstrap data to be available")
      pure {}
    else
      let m ← Proc.read
      if m.spec.serverGroup.isNone then machineServerStep s
      else
        let result ← reconcileServerGroup s.cloudscaleCluster
        if !result.isZero then pure result else machineServerStep s)
    fun _ => setMachineReadyCondition

/-- `CloudscaleMachineReconciler.reconcileDelete`. -/
def machineReconcileDelete : MachineM Result := do
  Proc.update (setMachineCondition .deleting .isTrue .deleting "Deleting server")
  deleteServer.wrapErr (.wrap "deleting server: ")
  Proc.update deleteServerGroup
  Proc.update (setMachineCondition .ready .isFalse .deleting
    "Machine infrastructure has been deleted")
  Proc.update fun m => { m with metadata := { m.metadata with
    finalizers := m.metadata.finalizers.filter (· ≠ machineFinalizer) } }
  pure {}

end Capcs.Controller
