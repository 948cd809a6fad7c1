import Capcs.Controller.Router
import Capcs.Controller.FloatingIP
import Capcs.Controller.ServerGroup

/-!
# Capcs.Controller.Cluster — one pass over a CloudscaleCluster

`reconcileNormal` and `reconcileDelete` of
`internal/controller/cloudscalecluster_controller.go`, and the helpers they use.
The Kubernetes side of a pass is in `Capcs.Controller.Reconcile`.
-/

namespace Capcs.Controller

open Cloudscale
open Interaction (Proc)

/-! ## Endpoint and provisioning -/

/-- The host `reconcileControlPlaneEndpoint` would set: the floating IP has
precedence over the load balancer. -/
def endpointHost (c : CloudscaleCluster) (lbIPAddress : String) : String :=
  if c.spec.floatingIP.isSome then c.status.floatingIP
  else if c.spec.controlPlaneLoadBalancer.isEnabled then lbIPAddress
  -- external control plane: the endpoint must be provided by the user
  else ""

/-- `reconcileControlPlaneEndpoint`. -/
def reconcileControlPlaneEndpoint (lbIPAddress : String) (c : CloudscaleCluster) :
    CloudscaleCluster :=
  if c.spec.controlPlaneEndpoint.host ≠ "" then c
  else if endpointHost c lbIPAddress = "" then c
  else { c with spec := { c.spec with controlPlaneEndpoint :=
      { host := endpointHost c lbIPAddress
        port := c.spec.controlPlaneLoadBalancer.apiServerPort } } }

/-- All recorded networks have both IDs, and there is at least one. -/
def networksProvisioned (c : CloudscaleCluster) : Bool :=
  c.status.networks ≠ [] ∧ ∀ ns ∈ c.status.networks, ns.networkID ≠ "" ∧ ns.subnetID ≠ ""

/-- A router of the spec is recorded, with an ID for each of its interfaces. -/
def routerProvisioned (c : CloudscaleCluster) (routerSpec : RouterSpec) : Bool :=
  (c.status.getRouterStatus routerSpec.name).any fun rs =>
    rs.routerID ≠ "" ∧ ∀ ifaceSpec ∈ routerSpec.interfaces,
      (rs.getInterfaceStatus ifaceSpec.network).any fun iface => iface.interfaceID ≠ ""

/-- The load balancer, its pool and its listener are recorded, if it is enabled. -/
def loadBalancerProvisioned (c : CloudscaleCluster) : Bool :=
  c.spec.controlPlaneLoadBalancer.isEnabled →
    c.status.loadBalancerID ≠ "" ∧ c.status.loadBalancerPoolID ≠ "" ∧
      c.status.loadBalancerListenerID ≠ ""

/-- The floating IP is recorded, if one is configured. -/
def floatingIPProvisioned (c : CloudscaleCluster) : Bool :=
  c.spec.floatingIP.isSome → c.status.floatingIP ≠ ""

/-- `isInfrastructureProvisioned`. -/
def isInfrastructureProvisioned (c : CloudscaleCluster) : Bool :=
  networksProvisioned c && c.spec.routers.all (routerProvisioned c) && loadBalancerProvisioned c &&
    floatingIPProvisioned c && c.spec.controlPlaneEndpoint.host ≠ ""

/-- Write `status.initialization.provisioned`. -/
def setProvisioned (c : CloudscaleCluster) : CloudscaleCluster :=
  { c with status := { c.status with
      initialization := some { provisioned := some (isInfrastructureProvisioned c) } } }

/-! ## Ready -/

/-- The sub-conditions of `Ready`, in order. -/
def subConditions : List ConditionType :=
  [.networkReady, .routerReady, .loadBalancerReady, .floatingIPReady]

/-- `Ready` from a list of sub-conditions: the first that is not `True` explains it. -/
def readyFrom (conds : List Condition) : List ConditionType → Condition
  | [] => { type := .ready, status := .isTrue, reason := .ready }
  | t :: rest =>
    if Conditions.IsTrue conds t then readyFrom conds rest
    else match Conditions.get conds t with
      | none => { type := .ready, status := .isFalse, reason := .notReady,
                  message := "Waiting for " ++ t.text }
      | some cond => { type := .ready, status := .isFalse, reason := cond.reason,
                       message := cond.message }

theorem readyFrom_type (conds : List Condition) (ts : List ConditionType) :
    (readyFrom conds ts).type = .ready := by
  induction ts with
  | nil => rfl
  | cons t ts ih =>
      rw [readyFrom]
      split
      · exact ih
      · split <;> rfl

/-- `setReadyCondition`. -/
def setReadyCondition (c : CloudscaleCluster) : CloudscaleCluster :=
  { c with status := { c.status with
      conditions := Conditions.set (readyFrom c.status.conditions subConditions)
        c.status.conditions } }

/-! ## The passes -/

/-- The end of `reconcileNormal`, past the floating IP step. -/
def finishNormal (cluster : Cluster) (lb : LbStatus) : ClusterM Result := do
  Proc.update (reconcileControlPlaneEndpoint lb.ipAddress)
  Proc.update setProvisioned
  if !lb.ready || !cluster.controlPlaneInitialized then pure { requeueAfter := 10 } else pure {}

/-- `reconcileNormal`. -/
def reconcileNormal (cluster : Cluster) : ClusterM Result :=
  Proc.deferred (do
    let result ← (reconcileNetwork cluster).wrapErr (.wrap "reconciling network: ")
    if !result.isZero then pure result
    else
      let result ← (reconcileRouters cluster).wrapErr (.wrap "reconciling routers: ")
      if !result.isZero then pure result
      else
        let (lb, result) ← (reconcileLoadBalancer cluster).wrapErr
          (.wrap "reconciling load balancer: ")
        if !result.isZero then pure result
        else
          let result ← (reconcileFloatingIP cluster).wrapErr (.wrap "reconciling floating IP: ")
          if !result.isZero then pure result
          else finishNormal cluster lb) fun _ => setReadyCondition

/-- The requeue of a teardown step that waits for something. -/
def requeueOn (sentinel : Sentinel) (pre : String) (step : ClusterM Unit)
    (next : ClusterM Result) : ClusterM Result := do
  match ← step.attempt with
  | .ok _ => next
  | .error err =>
    if err.sentinel = some sentinel then pure { requeueAfter := 10 }
    else Proc.fail (err.wrap pre)

/-- The end of `reconcileDelete`: everything is gone and the finalizer is removed. -/
def finishDelete : ClusterM Result := do
  Proc.update (setCondition .ready .isFalse .deleting "Infrastructure has been deleted")
  Proc.update fun c => { c with metadata := { c.metadata with
    finalizers := c.metadata.finalizers.filter (· ≠ clusterFinalizer) } }
  pure {}

/-- `reconcileDelete`. -/
def reconcileDelete (cluster : Cluster) : ClusterM Result := do
  Proc.update (setCondition .deleting .isTrue .deleting "Deleting infrastructure resources")
  deleteFloatingIP.wrapErr (.wrap "deleting floating IP: ")
  deleteLoadBalancer.wrapErr (.wrap "deleting load balancer: ")
  requeueOn .errServerGroupNotEmpty "deleting server groups: " (deleteServerGroups cluster) do
    deleteRouters.wrapErr (.wrap "deleting routers: ")
    requeueOn .errNetworkNotReady "deleting network: " deleteNetwork finishDelete

end Capcs.Controller
