import Capcs.System.Finalizer
import Capcs.Webhook.Admission

/-!
# Capcs.System.Objects — the stored objects and the passes over them

Passes over a cluster and over its machines, call by call, beside the stored objects.
The user edits the cluster within what the webhook admits, and does what they like with
the machines; the cloud may lose anything at any time, so its replies are arbitrary up
to a condition on single replies. A patch writes spec and status apart from each other,
and either part may be refused.
-/

namespace Capcs.System

open Cloudscale Controller Webhook
open Interaction (Program Runtime Contract)

/-! ## Stored objects -/

/-- The cluster and its machines as stored. `held` says of a machine that the pass over
it has read a version with the finalizer. -/
structure Objects where
  cluster : CloudscaleCluster
  machine : String → Option CloudscaleMachine := fun _ => none
  held : String → Bool := fun _ => false

/-- A field after a patch: it is sent if it differs. -/
def patched {α : Type} [DecidableEq α] (before after stored : α) : α :=
  if after = before then stored else after

/-- The status a patch leads to, apart from the conditions. -/
def patchedStatus (before after stored : CloudscaleClusterStatus) : CloudscaleClusterStatus where
  initialization := patched before.initialization after.initialization stored.initialization
  networks := patched before.networks after.networks stored.networks
  routers := patched before.routers after.routers stored.routers
  floatingIP := patched before.floatingIP after.floatingIP stored.floatingIP
  loadBalancerID := patched before.loadBalancerID after.loadBalancerID stored.loadBalancerID
  loadBalancerPoolID :=
    patched before.loadBalancerPoolID after.loadBalancerPoolID stored.loadBalancerPoolID
  loadBalancerListenerID :=
    patched before.loadBalancerListenerID after.loadBalancerListenerID stored.loadBalancerListenerID
  loadBalancerHealthMonitorID := patched before.loadBalancerHealthMonitorID
    after.loadBalancerHealthMonitorID stored.loadBalancerHealthMonitorID
  loadBalancerMemberIDs :=
    patched before.loadBalancerMemberIDs after.loadBalancerMemberIDs stored.loadBalancerMemberIDs

/-- The endpoint a patch asks for. -/
def patchedEndpoint (before after stored : APIEndpoint) : APIEndpoint where
  host := patched before.host after.host stored.host
  port := patched before.port after.port stored.port

/-- The two statuses differ in their conditions at most. -/
def SameRecords (s s' : CloudscaleClusterStatus) : Prop :=
  s' = { s with conditions := s'.conditions }

/-- An update the webhook lets through; the schema keeps the keys unique, and defaulting
has set `enabled`. -/
structure AdmittedUpdate (old new : CloudscaleCluster) : Prop where
  keys : UniqueKeys new.spec
  accepted : (clusterValidateUpdate old new).Accepted
  enabled : new.spec.controlPlaneLoadBalancer.enabled.isSome = true
  alive : new.metadata.deletionTimestamp = old.metadata.deletionTimestamp

/-- What a patch of the cluster may do. -/
structure ClusterPatched (before after stored new : CloudscaleCluster) : Prop where
  alive : new.metadata.deletionTimestamp = stored.metadata.deletionTimestamp
  spec : new.spec = stored.spec ∨ AdmittedUpdate stored new ∧ new.spec.controlPlaneEndpoint =
    patchedEndpoint before.spec.controlPlaneEndpoint after.spec.controlPlaneEndpoint
      stored.spec.controlPlaneEndpoint
  status : SameRecords stored.status new.status ∨
    SameRecords (patchedStatus before.status after.status stored.status) new.status

/-- A field of the patched status is that of the stored status or that of the pass. -/
theorem patched_or {α : Type} [DecidableEq α] (before after stored : α) :
    patched before after stored = stored ∨ patched before after stored = after := by
  rw [patched]
  split
  · exact .inl rfl
  · exact .inr rfl

section Patched

variable {before after stored new : CloudscaleCluster}

theorem networks_patched (hp : ClusterPatched before after stored new) :
    new.status.networks = stored.status.networks ∨ new.status.networks = after.status.networks := by
  rcases hp.status with hsame | hsame
  · exact .inl (by rw [hsame])
  · rw [hsame]
    exact patched_or _ _ _

theorem routers_patched (hp : ClusterPatched before after stored new) :
    new.status.routers = stored.status.routers ∨ new.status.routers = after.status.routers := by
  rcases hp.status with hsame | hsame
  · exact .inl (by rw [hsame])
  · rw [hsame]
    exact patched_or _ _ _

end Patched

/-! ## The system -/

/-- Who works on the objects. -/
inductive Reconciler where
  | cluster
  | machine (name : String)
  deriving DecidableEq

/-- What happens on a call. Reads return what is stored, and the cloud what is `good`. -/
def objectsAnswer (good : (op : Op) → op.Reply → Prop) (i : Reconciler) (w : Objects) :
    (op : PassOp) → op.Reply → Objects → Prop
  | .cloud op, r, w' => w' = w ∧ good op r
  | .kube (.getCluster _ _), r, w' => w' = w ∧ ∀ c, r = .ok c → c = w.cluster
  | .kube (.getMachine _ _), r, w' => match i, r with
    | .machine name, .ok m => w.machine name = some m ∧ w' = { w with
        held := Function.update w.held name (decide (machineFinalizer ∈ m.metadata.finalizers)) }
    | _, _ => w' = w
  | .kube (.patchCluster before after _), _, w' => w' = w ∨
      ∃ new, ClusterPatched before after w.cluster new ∧ w' = { w with cluster := new }
  | .kube (.patchMachine before after _), _, w' => w' = w ∨ ∃ name stored new,
      i = .machine name ∧ w.machine name = some stored ∧
      (∀ m, new = some m →
        m.metadata.finalizers = patchedFinalizers machineCalls before after stored) ∧
      w' = { w with machine := Function.update w.machine name new }
  | .kube _, _, w' => w' = w

/-- What the user does. -/
inductive ObjectsEnv (w : Objects) : Objects → Prop where
  | update {new : CloudscaleCluster} : AdmittedUpdate w.cluster new →
      new.status = w.cluster.status → ObjectsEnv w { w with cluster := new }
  -- machines come and go, but only the controller hands out its finalizer
  | machine {name : String} {new : Option CloudscaleMachine} :
      (∀ m, new = some m → machineFinalizer ∈ m.metadata.finalizers →
        ∃ old, w.machine name = some old ∧ machineFinalizer ∈ old.metadata.finalizers) →
      ObjectsEnv w { w with machine := Function.update w.machine name new }

/-- The passes of both controllers over these objects. -/
def controllers (good : (op : Op) → op.Reply → Prop) (ns name : String) :
    Runtime Objects Reconciler PassOp PassOp.Reply (Except GoError Result) where
  start w i p w' := w' = w ∧ match i with
    | .cluster => p = clusterReconcile ns name
    | .machine m => p = machineReconcile ns m
  answer := objectsAnswer good
  finish w _ _ w' := w' = w
  crash w _ w' := w' = w
  env := ObjectsEnv

/-- A new cluster, as admitted, without machines. -/
structure NewObjects (w : Objects) : Prop where
  admitted : ∃ ri c, w.cluster = clusterDefault ri c ∧ UniqueKeys w.cluster.spec ∧
    (clusterValidateCreate ri w.cluster).Accepted
  status : w.cluster.status = {}
  alive : w.cluster.metadata.deletionTimestamp = false
  machine : ∀ name, w.machine name = none
  held : ∀ name, w.held name = false

end Capcs.System
