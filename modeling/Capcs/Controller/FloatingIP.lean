import Capcs.Controller.LoadBalancer

/-!
# Capcs.Controller.FloatingIP — the floating IP of the endpoint

`internal/controller/cloudscalecluster_floatingip.go`. The address of a floating
IP is its identifier, so `status.floatingIP` plays the part of a recorded ID.
-/

namespace Capcs.Controller

open Cloudscale
open Interaction (Proc)

/-- `createFloatingIPTimeoutRequeueAfter`. -/
def createFloatingIPTimeoutRequeueAfter : Nat := 5

/-- `floatingIPTarget`. -/
structure FloatingIPTarget where
  lbUUID : String := ""
  serverUUID : String := ""
  deriving DecidableEq, Repr

/-- `getFloatingIPTarget`; `none` stands for its errors, which callers only log. -/
def getFloatingIPTarget (cluster : Cluster) : ClusterM (Option FloatingIPTarget) := do
  let c ← Proc.read
  if c.spec.controlPlaneLoadBalancer.isEnabled then
    if c.status.loadBalancerID = "" then pure none
    else pure (some { lbUUID := c.status.loadBalancerID })
  else
    match ← listControlPlaneMachines cluster c with
    | .error _ => pure none
    | .ok machines =>
      match machines.find? fun m => m.status.serverID ≠ "" with
      | some m => pure (some { serverUUID := m.status.serverID })
      | none => pure none

/-- The update request that brings a floating IP to its target, if one is needed. -/
def reassignment (target : FloatingIPTarget) (fip : FloatingIP) : Option FloatingIPUpdateRequest :=
  if target.lbUUID ≠ "" ∧ fip.loadBalancer ≠ some target.lbUUID then
    some { loadBalancer := target.lbUUID }
  else if target.serverUUID ≠ "" ∧ fip.server ≠ some target.serverUUID then
    some { server := target.serverUUID }
  else none

/-- `ensureFloatingIPAssignment`. -/
def ensureFloatingIPAssignment (cluster : Cluster) (fip : FloatingIP) : ClusterM Unit := do
  match ← getFloatingIPTarget cluster with
  | none => pure ()
  | some target =>
    match reassignment target fip with
    | none => pure ()
    | some updateReq =>
      let c ← Proc.read
      let reply : Except ApiError Unit ←
        Proc.perform (Op.updateFloatingIP c.status.floatingIP updateReq)
      match reply with
      | .ok _ => pure ()
      | .error err =>
        if isFloatingIPNoPublicInterface err then
          Proc.fail (errorf ("floating IP cannot be assigned to control plane server: server " ++
            "must have a public interface when the load balancer is disabled; add " ++
            "\x7btype: public\x7d to the control-plane machine template interfaces"))
        else Proc.fail (wrapApi "updating floating IP assignment: " err)

/-- Write `status.floatingIP`. -/
def setFloatingIP (ip : String) (c : CloudscaleCluster) : CloudscaleCluster :=
  { c with status := { c.status with floatingIP := ip } }

/-- `reconcilePreExistingFloatingIP`. -/
def reconcilePreExistingFloatingIP (cluster : Cluster) (ip : String) : ClusterM Unit := do
  match ← svcGet .floatingIP ip with
  | .error err => Proc.fail (wrapApi ("getting pre-existing floating IP " ++ ip ++ ": ") err)
  | .ok fip =>
    let c ← Proc.read
    -- a floating IP without a region is global and valid everywhere
    match fip.region with
    | some region =>
      if region ≠ c.spec.region then
        Proc.fail (errorf ("pre-existing floating IP " ++ ip ++ " is in region " ++ quote region ++
          ", expected region " ++ quote c.spec.region))
      else adopt fip
    | none => adopt fip
where
  adopt (fip : FloatingIP) : ClusterM Unit := do
    Proc.update (setFloatingIP fip.ip)
    ensureFloatingIPAssignment cluster fip

/-- The create request of a managed floating IP. -/
def floatingIPCreateRequest (c : CloudscaleCluster) (fipSpec : FloatingIPSpec)
    (target : FloatingIPTarget) : FloatingIPCreateRequest :=
  { ipVersion := if fipSpec.ipFamily = some .ipv6 then 6 else 4
    region := c.spec.region
    loadBalancer := target.lbUUID
    server := if target.lbUUID ≠ "" then "" else target.serverUUID
    tags := clusterOwnershipTags c }

/-- The create half of `reconcileManagedFloatingIP`. Without a target the floating
IP is created unassigned. -/
def createFloatingIP (cluster : Cluster) (fipSpec : FloatingIPSpec) : ClusterM Result := do
  let c ← Proc.read
  let target ← getFloatingIPTarget cluster
  match ← createResource .floatingIP (floatingIPCreateRequest c fipSpec (target.getD {}))
    "floating IP" createFloatingIPTimeoutRequeueAfter with
  | .error result => pure result
  | .ok fip =>
    Proc.update (setFloatingIP fip.ip)
    pure {}

/-- `reconcileManagedFloatingIP`. -/
def reconcileManagedFloatingIP (cluster : Cluster) (fipSpec : FloatingIPSpec) :
    ClusterM Result := do
  let c ← Proc.read
  let (fip, id) ← ensureResource .floatingIP c.status.floatingIP "floating IP"
    (clusterOwnershipTags c)
  Proc.update (setFloatingIP id)
  match fip with
  | some fip =>
    if id ≠ "" then
      ensureFloatingIPAssignment cluster fip
      pure {}
    else createFloatingIP cluster fipSpec
  | none => createFloatingIP cluster fipSpec

/-- The deferred write of `FloatingIPReady`: a requeue makes it `True` as well. -/
def setFloatingIPReady (out : Except GoError Result) (c : CloudscaleCluster) : CloudscaleCluster :=
  match out with
  | .error err => setCondition .floatingIPReady .isFalse .floatingIPError err.text c
  | .ok _ => setCondition .floatingIPReady .isTrue .floatingIPProvisioned "" c

/-- `reconcileFloatingIP`. -/
def reconcileFloatingIP (cluster : Cluster) : ClusterM Result := do
  let c ← Proc.read
  match c.spec.floatingIP with
  | none =>
    Proc.update (setCondition .floatingIPReady .isTrue .floatingIPDisabled "")
    pure {}
  | some fipSpec => Proc.deferred (do
    if fipSpec.address ≠ "" then
      reconcilePreExistingFloatingIP cluster fipSpec.address
      pure {}
    else reconcileManagedFloatingIP cluster fipSpec) setFloatingIPReady

/-! ## Teardown -/

/-- The deferred write of `FloatingIPReady` during teardown. -/
def setFloatingIPDeleting (out : Except GoError Unit) (c : CloudscaleCluster) :
    CloudscaleCluster :=
  match out with
  | .error err => setCondition .floatingIPReady .isFalse .floatingIPError
      ("Failed to delete floating IP: " ++ err.text) c
  | .ok _ => setCondition .floatingIPReady .isFalse .floatingIPDeleting
      "Floating IP has been deleted" c

/-- The part of `deleteFloatingIP` that works on a managed floating IP. -/
def deleteManagedFloatingIP : ClusterM Unit := do
  let c ← Proc.read
  if c.status.floatingIP = "" then pure ()
  else
    match ← svcDelete .floatingIP c.status.floatingIP with
    | .ok _ => Proc.update (setFloatingIP "")
    | .error err =>
      if isNotFound err then Proc.update (setFloatingIP "")
      else Proc.fail (wrapApi "deleting floating IP: " err)

/-- `deleteFloatingIP`. -/
def deleteFloatingIP : ClusterM Unit := do
  let c ← Proc.read
  match c.spec.floatingIP with
  | none => pure ()
  | some fipSpec =>
    if fipSpec.address ≠ "" then pure ()
    else deleteManagedFloatingIP.deferred setFloatingIPDeleting

end Capcs.Controller
