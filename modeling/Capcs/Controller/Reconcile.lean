import Capcs.Controller.Cluster
import Capcs.Controller.MachineServer

/-!
# Capcs.Controller.Reconcile — a pass with its Kubernetes calls

`Reconcile` of both controllers, call by call. The object is read at the start,
worked on in memory, and written back by a single patch in the deferred `Close`
of the scope; `PassOp` adds the Kubernetes calls a pass makes around the work on
the cloud.

The patch carries the object as it was when the scope was created, since the
patch helper sends the difference. Building a scope is taken not to fail.
-/

namespace Capcs.Controller

open Cloudscale
open Interaction (Proc Program)

/-- The Kubernetes calls of `Reconcile`. -/
inductive KubeOp where
  | getCluster (ns name : String)
  | getMachine (ns name : String)
  | getOwnerCluster (c : CloudscaleCluster)
  | getOwnerMachine (m : CloudscaleMachine)
  | getClusterFromMetadata (m : Machine)
  | getToken (c : CloudscaleCluster)
  | patchCluster (before after : CloudscaleCluster) (observedGeneration : Bool)
  | patchMachine (before after : CloudscaleMachine) (observedGeneration : Bool)

/-- The type of the reply to a Kubernetes call. -/
@[reducible] def KubeOp.Reply : KubeOp → Type
  | .getCluster _ _ => Except KubeError CloudscaleCluster
  | .getMachine _ _ => Except KubeError CloudscaleMachine
  | .getOwnerCluster _ => Except KubeError (Option Cluster)
  | .getOwnerMachine _ => Except KubeError (Option Machine)
  | .getClusterFromMetadata _ => Except KubeError Cluster
  | .getToken _ => Except KubeError String
  | .patchCluster _ _ _ => Except KubeError Unit
  | .patchMachine _ _ _ => Except KubeError Unit

/-- A call of a pass: to Kubernetes, or while working on the cloud. -/
inductive PassOp where
  | kube (op : KubeOp)
  | cloud (op : Op)

/-- The type of the reply to a call of a pass. -/
@[reducible] def PassOp.Reply : PassOp → Type
  | .kube op => op.Reply
  | .cloud op => op.Reply

/-- A whole pass. -/
abbrev Pass := Program PassOp PassOp.Reply

/-- The work on the cloud as part of a pass. -/
def onCloud {α : Type} : Program Op Op.Reply α → Pass α
  | .ret a => .ret a
  | .call op k => .call (.cloud op) fun r => onCloud (k r)

/-- One Kubernetes call. -/
def onKube (op : KubeOp) : Pass op.Reply := .call (.kube op) .ret

/-- The annotation that pauses an object. -/
def pausedAnnotation : String := "cluster.x-k8s.io/paused"

/-- `annotations.IsPaused`. -/
def isPaused (cluster : Cluster) (obj : ObjectMeta) : Bool :=
  cluster.paused || (obj.annotations.lookup pausedAnnotation).isSome

/-- `controllerutil.AddFinalizer`, if it is missing. -/
def addFinalizer (finalizer : String) (obj : ObjectMeta) : ObjectMeta :=
  if finalizer ∈ obj.finalizers then obj
  else { obj with finalizers := obj.finalizers ++ [finalizer] }

/-- The result of a pass after the patch: a patch error counts only if there was
no error before. -/
def afterPatch (out : Except GoError Result) (patched : Except KubeError Unit) :
    Except GoError Result :=
  match out, patched with
  | .ok _, .error err => .error (wrapKube "" err)
  | out, _ => out

/-! ## CloudscaleCluster -/

/-- The part of the pass inside the scope. -/
def clusterWork (cluster : Cluster) (c : CloudscaleCluster) :
    Program Op Op.Reply (Except GoError Result × CloudscaleCluster) :=
  if c.metadata.deletionTimestamp then (reconcileDelete cluster).exec c
  else (reconcileNormal cluster).exec
    { c with metadata := addFinalizer clusterFinalizer c.metadata }

/-- `CloudscaleClusterReconciler.Reconcile`. -/
def clusterReconcile (ns name : String) : Pass (Except GoError Result) := do
  match ← onKube (.getCluster ns name) with
  | .error .notFound => pure (.ok {})
  | .error err => pure (.error (wrapKube "" err))
  | .ok c =>
    match ← onKube (.getOwnerCluster c) with
    | .error err => pure (.error (wrapKube "" err))
    | .ok none => pure (.ok {})
    | .ok (some cluster) =>
      -- the Paused condition is set in memory only, without a patch
      if isPaused cluster c.metadata then pure (.ok {})
      else
        let c := { c with status := { c.status with
          conditions := Conditions.delete c.status.conditions .paused } }
        match ← onKube (.getToken c) with
        | .error err => pure (.error (wrapKube "failed to get cloudscale.ch credentials: " err))
        | .ok _ =>
          let (out, c') ← onCloud (clusterWork cluster c)
          let patched ← onKube (.patchCluster c c' out.isOk)
          pure (afterPatch out patched)

/-! ## CloudscaleMachine -/

/-- The infrastructure of the cluster is provisioned. -/
def infrastructureReady (c : CloudscaleCluster) : Bool :=
  (c.status.initialization.bind (·.provisioned)).getD false

/-- The part of the pass inside the scope. -/
def machineWork (s : MachineScope) (m : CloudscaleMachine) :
    Program Op Op.Reply (Except GoError Result × CloudscaleMachine) :=
  if m.metadata.deletionTimestamp then machineReconcileDelete.exec m
  else (machineReconcileNormal s).exec
    { m with metadata := addFinalizer machineFinalizer m.metadata }

/-- `CloudscaleMachineReconciler.Reconcile`. -/
def machineReconcile (ns name : String) : Pass (Except GoError Result) := do
  match ← onKube (.getMachine ns name) with
  | .error .notFound => pure (.ok {})
  | .error err => pure (.error (wrapKube "" err))
  | .ok m =>
    match ← onKube (.getOwnerMachine m) with
    | .error err => pure (.error (wrapKube "" err))
    | .ok none => pure (.ok {})
    | .ok (some machine) =>
      match ← onKube (.getClusterFromMetadata machine) with
      | .error _ => pure (.ok {})
      | .ok cluster =>
        if isPaused cluster m.metadata then pure (.ok {})
        else
          let m := { m with status := { m.status with
            conditions := Conditions.delete m.status.conditions .paused } }
          match ← onKube (.getCluster m.metadata.ns cluster.infrastructureRef) with
          | .error _ => pure (.ok {})
          | .ok cloudscaleCluster =>
            -- the condition this early return sets is not patched either
            if !infrastructureReady cloudscaleCluster then pure (.ok {})
            else
              match ← onKube (.getToken cloudscaleCluster) with
              | .error err =>
                pure (.error (wrapKube "failed to get cloudscale.ch credentials: " err))
              | .ok _ =>
                let (out, m') ← onCloud
                  (machineWork { cluster, machine, cloudscaleCluster } m)
                let patched ← onKube (.patchMachine m m' out.isOk)
                pure (afterPatch out patched)

end Capcs.Controller
