import Capcs.Controller.Services

/-!
# Capcs.Controller.ServerGroup — server groups

`cloudscalecluster_servergroup.go` and `cloudscalemachine_servergroup.go`. Groups
are shared by the machines of a cluster: a machine finds or creates its group by
name, and the cluster deletes the groups once their servers are gone. The mutex
around list and create is no part of the programs; it belongs to the system they run
in (`Capcs.System.GroupWorld`).
-/

namespace Capcs.Controller

open Cloudscale
open Interaction (Proc)

/-! ## The cluster's side -/

/-- `errServerGroupNotEmpty`. -/
def errServerGroupNotEmpty : GoError :=
  { text := "server group still contains owned servers", sentinel := some .errServerGroupNotEmpty }

/-- `getOwnedServerIDs`: the recorded servers of all machines of the cluster. -/
def getOwnedServerIDs (cluster : Cluster) : ClusterM (List String) := do
  let c ← Proc.read
  let reply : Except KubeError (List CloudscaleMachine) ←
    Proc.perform (Op.listMachines c.metadata.ns cluster.name false)
  match reply with
  | .error err => Proc.fail (wrapKube "listing CloudscaleMachines: " err)
  | .ok machines => pure ((machines.map (·.status.serverID)).filter (· ≠ ""))

/-- The loop of `deleteServerGroups`. -/
def deleteEachServerGroup (ownedServerIDs : List String) : List ServerGroup → ClusterM Unit
  | [] => pure ()
  | g :: rest => do
    if g.servers.any (· ∈ ownedServerIDs) then Proc.fail errServerGroupNotEmpty
    -- a group with foreign servers is left alone
    else if g.servers ≠ [] then deleteEachServerGroup ownedServerIDs rest
    else
      match ← svcDelete .serverGroup g.uuid with
      | .ok _ => deleteEachServerGroup ownedServerIDs rest
      | .error err =>
        if isNotFound err then deleteEachServerGroup ownedServerIDs rest
        else Proc.fail (wrapApi ("deleting server group " ++ g.uuid ++ ": ") err)

/-- `deleteServerGroups`. -/
def deleteServerGroups (cluster : Cluster) : ClusterM Unit := do
  let ownedServerIDs ← (getOwnedServerIDs cluster).wrapErr (.wrap "listing owned servers: ")
  let c ← Proc.read
  match ← svcList .serverGroup (clusterOwnershipTags c) with
  | .error err => Proc.fail (wrapApi "listing server groups: " err)
  | .ok groups => deleteEachServerGroup ownedServerIDs groups

/-! ## The machine's side -/

/-- `CloudscaleMachineReconciler.setCondition`. -/
def setMachineCondition (t : ConditionType) (status : ConditionStatus) (reason : Reason)
    (message : String) (m : CloudscaleMachine) : CloudscaleMachine :=
  { m with status := { m.status with
      conditions := Conditions.set { type := t, status, reason, message } m.status.conditions } }

/-- Write `status.serverGroupID`. -/
def setServerGroupID (id : String) (m : CloudscaleMachine) : CloudscaleMachine :=
  { m with status := { m.status with serverGroupID := id } }

/-- The list and create half of `reconcileServerGroup`. -/
def findOrCreateServerGroup (cluster : CloudscaleCluster) (groupName : String) :
    MachineM Result := do
  match ← svcList .serverGroup (clusterOwnershipTags cluster) with
  | .error err => Proc.fail (wrapApi "listing server groups: " err)
  | .ok groups =>
    match groups.find? fun g => g.name = groupName ∧ g.zone = cluster.spec.zone with
    | some g =>
      Proc.update (setServerGroupID g.uuid)
      pure {}
    | none =>
      match ← createResource .serverGroup
        { name := groupName, type := "anti-affinity", zone := cluster.spec.zone,
          tags := clusterOwnershipTags cluster } "server group" 5 with
      | .error result => pure result
      | .ok group =>
        Proc.update (setServerGroupID group.uuid)
        pure {}

/-- The deferred write of `ServerGroupReady`. -/
def setServerGroupReady (out : Except GoError Result) (m : CloudscaleMachine) :
    CloudscaleMachine :=
  match out with
  | .error err => setMachineCondition .serverGroupReady .isFalse .serverGroupError err.text m
  | .ok _ => setMachineCondition .serverGroupReady .isTrue .serverGroupReady "" m

/-- `reconcileServerGroup`. -/
def reconcileServerGroup (cluster : CloudscaleCluster) : MachineM Result :=
  Proc.deferred (do
    let m ← Proc.read
    match m.spec.serverGroup with
    | none => pure {}
    | some group =>
      if m.status.serverGroupID = "" then findOrCreateServerGroup cluster group.name
      else
        match ← svcGet .serverGroup m.status.serverGroupID with
        | .ok _ => pure {}
        | .error err =>
          if isNotFound err then
            Proc.update (setServerGroupID "")
            findOrCreateServerGroup cluster group.name
          else Proc.fail (wrapApi "getting server group: " err)) setServerGroupReady

/-- `deleteServerGroup`: only the reference is cleared. -/
def deleteServerGroup (m : CloudscaleMachine) : CloudscaleMachine :=
  if m.spec.serverGroup.isNone then m else setServerGroupID "" m

end Capcs.Controller
