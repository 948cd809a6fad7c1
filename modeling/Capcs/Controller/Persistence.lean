import Capcs.Controller.Frames
import Capcs.Controller.Reconcile

/-!
# Capcs.Controller.Persistence — which conditions a pass stores

`Reconcile` works on a copy of the object, and what becomes of the copy is up to the patch
helper: `Patch` sends the difference between the object and the snapshot taken when the scope
was created. Here a pass returns the copy as well (`clusterReconcileObject`,
`machineReconcileObject`), and runs against an API server that stores the conditions of the
object and is written to by patches only.

The snapshot comes too late for the removal of `Paused`, and three returns come too early for
any patch. Everything else a pass does to the conditions is inside of the snapshot, where
nothing touches `Paused` (`clusterWork_paused`, `machineWork_paused`).
-/

namespace Capcs.Controller

open Cloudscale
open Interaction (Proc Program Frame)

/-! ## The store -/

/-- The stored conditions of an object. -/
abbrev StoredConditions := ConditionType → Option Condition

/-- `Patch`: the conditions that differ from the snapshot are written, the others are left
as they are stored. -/
def patchConditions (before after : List Condition) (stored : StoredConditions) :
    StoredConditions := fun t =>
  if Conditions.get before t = Conditions.get after t then stored t else Conditions.get after t

/-- A patch stores the object exactly if what it leaves out is stored already. -/
theorem patchConditions_eq_iff {before after : List Condition} {stored : StoredConditions} :
    patchConditions before after stored = Conditions.get after ↔
      ∀ t, Conditions.get before t = Conditions.get after t →
        stored t = Conditions.get after t := by
  constructor
  · intro heq t hsame
    have ht := congrFun heq t
    rwa [patchConditions, if_pos hsame] at ht
  · intro hall
    funext t
    rw [patchConditions]
    split
    · next hsame => exact hall t hsame
    · rfl

/-- The API server during a pass over the stored cluster `c`: `owner` is what it has to say
about the owner, and everything else is answered in any way. -/
def clusterApi (c : CloudscaleCluster) (owner : Except KubeError (Option Cluster))
    (stored : StoredConditions) :
    (op : PassOp) → op.Reply → StoredConditions → Prop
  | .kube (.getCluster _ _), reply, stored' => reply = .ok c ∧ stored' = stored
  | .kube (.getOwnerCluster _), reply, stored' => reply = owner ∧ stored' = stored
  | .kube (.patchCluster before after _), reply, stored' => reply = .ok () ∧
      stored' = patchConditions before.status.conditions after.status.conditions stored
  | _, _, stored' => stored' = stored

/-- What a pass over a machine is told about the objects around it. -/
structure Surroundings where
  owner : Except KubeError (Option Machine)
  cluster : Except KubeError Cluster
  infrastructure : Except KubeError CloudscaleCluster

/-- The API server during a pass over the stored machine `m`. -/
def machineApi (m : CloudscaleMachine) (around : Surroundings) (stored : StoredConditions) :
    (op : PassOp) → op.Reply → StoredConditions → Prop
  | .kube (.getMachine _ _), reply, stored' => reply = .ok m ∧ stored' = stored
  | .kube (.getOwnerMachine _), reply, stored' => reply = around.owner ∧ stored' = stored
  | .kube (.getClusterFromMetadata _), reply, stored' => reply = around.cluster ∧ stored' = stored
  | .kube (.getCluster _ _), reply, stored' => reply = around.infrastructure ∧ stored' = stored
  | .kube (.patchMachine before after _), reply, stored' => reply = .ok () ∧
      stored' = patchConditions before.status.conditions after.status.conditions stored
  | _, _, stored' => stored' = stored

/-! ## The object in memory -/

/-- The condition of a paused object. -/
def pausedCondition : Condition := { type := .paused, status := .isTrue, reason := .paused }

/-- `CloudscaleClusterReconciler.Reconcile`, with the object as it is in memory when the pass
returns; there is none before it has been read. -/
def clusterReconcileObject (ns name : String) :
    Pass (Except GoError Result × Option CloudscaleCluster) := do
  match ← onKube (.getCluster ns name) with
  | .error .notFound => pure (.ok {}, none)
  | .error err => pure (.error (wrapKube "" err), none)
  | .ok c =>
    match ← onKube (.getOwnerCluster c) with
    | .error err => pure (.error (wrapKube "" err), some c)
    | .ok none => pure (.ok {}, some c)
    | .ok (some cluster) =>
      if isPaused cluster c.metadata then
        pure (.ok {}, some (setCondition .paused .isTrue .paused "" c))
      else
        let c := { c with status := { c.status with
          conditions := Conditions.delete c.status.conditions .paused } }
        match ← onKube (.getToken c) with
        | .error err =>
          pure (.error (wrapKube "failed to get cloudscale.ch credentials: " err), some c)
        | .ok _ =>
          -- the scope takes its snapshot here
          let (out, c') ← onCloud (clusterWork cluster c)
          let patched ← onKube (.patchCluster c c' out.isOk)
          pure (afterPatch out patched, some c')

/-- `CloudscaleMachineReconciler.Reconcile`, with the object as it is in memory when the pass
returns. -/
def machineReconcileObject (ns name : String) :
    Pass (Except GoError Result × Option CloudscaleMachine) := do
  match ← onKube (.getMachine ns name) with
  | .error .notFound => pure (.ok {}, none)
  | .error err => pure (.error (wrapKube "" err), none)
  | .ok m =>
    match ← onKube (.getOwnerMachine m) with
    | .error err => pure (.error (wrapKube "" err), some m)
    | .ok none => pure (.ok {}, some m)
    | .ok (some machine) =>
      match ← onKube (.getClusterFromMetadata machine) with
      | .error _ => pure (.ok {}, some m)
      | .ok cluster =>
        if isPaused cluster m.metadata then
          pure (.ok {}, some (setMachineCondition .paused .isTrue .paused "" m))
        else
          let m := { m with status := { m.status with
            conditions := Conditions.delete m.status.conditions .paused } }
          match ← onKube (.getCluster m.metadata.ns cluster.infrastructureRef) with
          | .error _ => pure (.ok {}, some m)
          | .ok cloudscaleCluster =>
            if !infrastructureReady cloudscaleCluster then
              pure (.ok {}, some (setMachineReadyCondition
                (setMachineCondition .serverReady .isFalse .waitingForClusterInfrastructure
                  "Waiting for cluster infrastructure to be provisioned" m)))
            else
              match ← onKube (.getToken cloudscaleCluster) with
              | .error err =>
                pure (.error (wrapKube "failed to get cloudscale.ch credentials: " err), some m)
              | .ok _ =>
                let (out, m') ← onCloud
                  (machineWork { cluster, machine, cloudscaleCluster } m)
                let patched ← onKube (.patchMachine m m' out.isOk)
                pure (afterPatch out patched, some m')

/-- Two passes that begin with the same call are equal if they are after each of its replies. -/
theorem onKube_bind_eq {α β : Type} {op : KubeOp} {f : op.Reply → Pass α} {k : α → Pass β}
    {g : op.Reply → Pass β} (h : ∀ r, (f r >>= k) = g r) :
    ((onKube op >>= f) >>= k) = (onKube op >>= g) := by
  rw [Program.bind_bind, funext h]

/-- Forgetting the object leaves `Reconcile`. -/
theorem clusterReconcileObject_fst (ns name : String) :
    (clusterReconcileObject ns name >>= fun out => pure out.1) = clusterReconcile ns name := by
  refine onKube_bind_eq fun r => ?_
  rcases r with (_ | _) | c
  · rfl
  · rfl
  refine onKube_bind_eq fun r => ?_
  rcases r with err | _ | cluster
  · rfl
  · rfl
  dsimp only
  split
  · rfl
  refine onKube_bind_eq fun r => ?_
  cases r with
  | error err => rfl
  | ok _ => exact Program.bind_bind _ _ _

/-- Forgetting the object leaves `Reconcile`. -/
theorem machineReconcileObject_fst (ns name : String) :
    (machineReconcileObject ns name >>= fun out => pure out.1) = machineReconcile ns name := by
  refine onKube_bind_eq fun r => ?_
  rcases r with (_ | _) | m
  · rfl
  · rfl
  refine onKube_bind_eq fun r => ?_
  rcases r with err | _ | machine
  · rfl
  · rfl
  refine onKube_bind_eq fun r => ?_
  cases r with
  | error err => rfl
  | ok cluster =>
      dsimp only
      split
      · rfl
      refine onKube_bind_eq fun r => ?_
      cases r with
      | error err => rfl
      | ok cloudscaleCluster =>
          dsimp only
          split
          · rfl
          refine onKube_bind_eq fun r => ?_
          cases r with
          | error err => rfl
          | ok _ => exact Program.bind_bind _ _ _

/-! ## `Paused` is nobody else's -/

/-- The `Paused` condition of a cluster. -/
def pausedOf (c : CloudscaleCluster) : Option Condition :=
  Conditions.get c.status.conditions .paused

theorem pausedOf_setCondition {t : ConditionType} (ht : .paused ≠ t) (status : ConditionStatus)
    (reason : Reason) (message : String) (c : CloudscaleCluster) :
    pausedOf (setCondition t status reason message c) = pausedOf c :=
  Conditions.get_set_of_ne ht _

theorem reconcileNormal_paused (cluster : Cluster) :
    Frame pausedOf (fun _ => True) (reconcileNormal cluster) := by
  have hnetwork := reconcileNetwork_blind (f := pausedOf) cluster
    (fun _ _ hsame => (congrArg pausedOf hsame :)) (pausedOf_setCondition (by decide))
  have hrouters := reconcileRouters_blind (f := pausedOf) cluster
    (fun _ => ⟨fun _ _ => rfl, fun _ _ _ _ => rfl⟩) (pausedOf_setCondition (by decide))
  have hlb := reconcileLoadBalancer_blind (f := pausedOf) cluster
    (fun _ _ hsame => (congrArg pausedOf hsame :)) (pausedOf_setCondition (by decide))
  have hfip := reconcileFloatingIP_blind (f := pausedOf) cluster
    (fun _ _ hsame => (congrArg pausedOf hsame :)) (pausedOf_setCondition (by decide))
  have hfinish (lb : LbStatus) := (finishNormal_blind cluster lb).mono (g := pausedOf)
    (fun _ _ hsame => (congrArg pausedOf hsame :)) fun _ hop => hop
  intro x
  refine reconcileNormal_preserves (hnetwork.anyOp x) (hrouters.anyOp x) (hlb.anyOp x)
    (hfip.anyOp x)
    (fun lb => (hfinish lb).anyOp x) fun c _ hx => (Conditions.get_set_of_ne ?_ _).trans hx
  rw [readyFrom_type]
  decide

theorem reconcileDelete_paused (cluster : Cluster) :
    Frame pausedOf (fun _ => True) (reconcileDelete cluster) := by
  have hfip := deleteFloatingIP_blind (f := pausedOf)
    (fun _ _ hsame => (congrArg pausedOf hsame :)) (pausedOf_setCondition (by decide))
  have hlb := deleteLoadBalancer_blind (f := pausedOf)
    (fun _ _ hsame => (congrArg pausedOf hsame :)) (pausedOf_setCondition (by decide))
  have hrouters := deleteRouters_blind (f := pausedOf) (fun _ _ => rfl)
    (pausedOf_setCondition (by decide))
  have hnetwork := deleteNetwork_blind (f := pausedOf)
    (fun _ _ hsame => (congrArg pausedOf hsame :)) (pausedOf_setCondition (by decide))
  exact fun x => reconcileDelete_preserves
    (fun _ ht _ _ _ c _ hx => (pausedOf_setCondition ht _ _ _ c).trans hx)
      (hfip.anyOp x) (hlb.anyOp x)
    ((deleteServerGroups_frame cluster).anyOp x) (hrouters.anyOp x) (hnetwork.anyOp x)
      fun _ _ _ hx => hx

/-- The work on the cloud leaves `Paused` alone. -/
theorem clusterWork_paused {cluster : Cluster} {c c' : CloudscaleCluster}
    {tr : Interaction.History Op Op.Reply} {out : Except GoError Result}
    (hrun : (clusterWork cluster c).Runs tr (out, c')) :
    pausedOf c' = pausedOf c := by
  rw [clusterWork] at hrun
  split at hrun
  · exact ((reconcileDelete_paused cluster).runs hrun).1
  · exact ((reconcileNormal_paused cluster).runs hrun).1

/-- The `Paused` condition of a machine. -/
def machinePausedOf (m : CloudscaleMachine) : Option Condition :=
  Conditions.get m.status.conditions .paused

theorem machinePausedOf_set {t : ConditionType} (ht : .paused ≠ t) (status : ConditionStatus)
    (reason : Reason) (message : String) (m : CloudscaleMachine) :
    machinePausedOf (setMachineCondition t status reason message m) = machinePausedOf m :=
  Conditions.get_set_of_ne ht _

theorem blind_machinePausedOf (x : Option Condition) :
    MachineBlind fun m (_ : Unit) => machinePausedOf m = x where
  condition _ ht _ _ _ m _ hx := (machinePausedOf_set ht _ _ _ m).trans hx
  initialization _ _ _ hx := hx

theorem machineReconcileNormal_paused (s : MachineScope) :
    Frame machinePausedOf (fun _ => True) (machineReconcileNormal s) := by
  intro x
  have hblind := blind_machinePausedOf x
  have hbody : Frame machinePausedOf (fun _ => True) (serverBody s) :=
    serverBody_frame s ⟨fun _ _ => rfl, fun _ _ => rfl, blind_machinePausedOf⟩
  have hop (op : Op) : Frame machinePausedOf (fun _ => True) (Proc.perform op : MachineM _) :=
    .perform trivial
  refine machineReconcileNormal_preserves hblind ?_ (hbody x)
  exact reconcileServerGroup_preserves hblind (fun _ _ _ hx => hx) (fun _ => hop _ x)
    (fun _ => hop _ x) fun _ => hop _ x

theorem machineReconcileDelete_paused :
    Frame machinePausedOf (fun _ => True) machineReconcileDelete := by
  refine .bind (.update (machinePausedOf_set (by decide) _ _ _)) fun _ => ?_
  refine .bind (.wrapErr (.deferred (.read fun m => .ite (fun _ => .pure _) fun _ => ?_) ?_))
    fun _ => ?_
  · refine .bind (.perform trivial) fun r => ?_
    split
    · exact .update fun _ => rfl
    · exact .ite (fun _ => .update fun _ => rfl) fun _ => .fail _
  · intro out m
    cases out <;> exact machinePausedOf_set (by decide) _ _ _ m
  · refine .bind (.update fun m => ?_) fun _ => ?_
    · rw [deleteServerGroup]
      split <;> rfl
    · exact .bind (.update (machinePausedOf_set (by decide) _ _ _)) fun _ =>
        .bind (.update fun _ => rfl) fun _ => .pure _

/-- The work on the cloud leaves `Paused` alone. -/
theorem machineWork_paused {s : MachineScope} {m m' : CloudscaleMachine}
    {tr : Interaction.History Op Op.Reply} {out : Except GoError Result}
    (hrun : (machineWork s m).Runs tr (out, m')) :
    machinePausedOf m' = machinePausedOf m := by
  rw [machineWork] at hrun
  split at hrun
  · exact (machineReconcileDelete_paused.runs hrun).1
  · exact ((machineReconcileNormal_paused s).runs hrun).1

/-! ## What a pass stores -/

section Executing

variable {α : Type} {A : StoredConditions → (op : PassOp) → op.Reply → StoredConditions → Prop}
  {w w' : StoredConditions} {a : α}

theorem executes_onKube {op : KubeOp} {f : op.Reply → Pass α}
    (h : Program.Executes A (onKube op >>= f) w a w') :
    ∃ r w₁, A w (.kube op) r w₁ ∧ Program.Executes A (f r) w₁ a w' := by
  cases h with
  | call hans hrest => exact ⟨_, _, hans, hrest⟩

/-- The work on the cloud does not get to the store. -/
theorem executes_onCloud (hquiet : ∀ w op r w', A w (.cloud op) r w' → w' = w)
    {p : Program Op Op.Reply α} (h : Program.Executes A (onCloud p) w a w') :
    w' = w ∧ ∃ tr, p.Runs tr a := by
  induction p generalizing w with
  | ret b =>
      cases h with
      | ret => exact ⟨rfl, [], .ret _⟩
  | call op k ih =>
      cases h with
      | call hans hrest =>
          obtain ⟨rfl, tr, hrun⟩ := ih _ hrest
          exact ⟨hquiet _ _ _ _ hans, _, .call hrun⟩

theorem executes_pure {b : α} (h : Program.Executes A (pure b : Pass α) w a w') :
    a = b ∧ w' = w := by
  cases h with
  | ret => exact ⟨rfl, rfl⟩

end Executing

/-- The stored `Paused` condition says whether the object is paused. -/
def PausedStored (paused : Bool) (conds : List Condition) : Prop :=
  Conditions.get conds .paused = if paused then some pausedCondition else none

instance (paused : Bool) (conds : List Condition) : Decidable (PausedStored paused conds) :=
  inferInstanceAs (Decidable (_ = _))

/-- The object is in memory as it was read, with the `Paused` condition of a paused object. -/
theorem eq_set_paused_iff {conds : List Condition} :
    Conditions.get conds = Conditions.get (Conditions.set pausedCondition conds) ↔
      PausedStored true conds := by
  constructor
  · intro heq
    exact (congrFun heq .paused).trans (Conditions.get_set_self pausedCondition conds)
  · intro hstored
    funext t
    by_cases ht : t = .paused
    · subst ht
      exact hstored.trans (Conditions.get_set_self pausedCondition conds).symm
    · exact (Conditions.get_set_of_ne ht conds).symm

/-- The object is in memory as it was read, without a `Paused` condition. -/
theorem eq_delete_paused_iff {conds : List Condition} :
    Conditions.get conds = Conditions.get (Conditions.delete conds .paused) ↔
      PausedStored false conds := by
  constructor
  · intro heq
    have hpaused := congrFun heq .paused
    rwa [Conditions.get_delete, if_pos rfl] at hpaused
  · intro hstored
    funext t
    rw [Conditions.get_delete]
    split
    · next ht => exact ht ▸ hstored
    · rfl

/-- The patch at the end of a pass that has left `Paused` alone: whatever else it has changed
is stored, and a stored `Paused` condition stays. -/
theorem patched_iff {conds after : List Condition}
    (hafter : Conditions.get after .paused = Conditions.get
      (Conditions.delete conds .paused) .paused) :
    patchConditions (Conditions.delete conds .paused) after
      (Conditions.get conds) = Conditions.get after ↔ PausedStored false conds := by
  rw [patchConditions_eq_iff]
  have hdeleted : Conditions.get (Conditions.delete conds .paused) .paused = none := by
    rw [Conditions.get_delete, if_pos rfl]
  constructor
  · intro hall
    exact (hall .paused hafter.symm).trans (hafter.trans hdeleted)
  · intro hstored t hsame
    rw [← hsame, Conditions.get_delete]
    split
    · next ht => exact ht ▸ hstored
    · rfl

/-- The stored cluster already says what the pass changes without a patch. -/
def ClusterSettled (c : CloudscaleCluster) (owner : Except KubeError (Option Cluster)) : Prop :=
  ∀ cluster, owner = .ok (some cluster) →
    PausedStored (isPaused cluster c.metadata) c.status.conditions

theorem cluster_stored_iff {ns name : String} {c : CloudscaleCluster}
    {owner : Except KubeError (Option Cluster)} {out : Except GoError Result}
    {obj : Option CloudscaleCluster} {stored : StoredConditions}
    (hexec : Program.Executes (clusterApi c owner) (clusterReconcileObject ns name)
      (Conditions.get c.status.conditions) (out, obj) stored) :
    ∃ c', obj = some c' ∧
      (stored = Conditions.get c'.status.conditions ↔ ClusterSettled c owner) := by
  obtain ⟨_, _, ⟨rfl, rfl⟩, hexec⟩ := executes_onKube hexec
  obtain ⟨owner, _, ⟨rfl, rfl⟩, hexec⟩ := executes_onKube hexec
  -- the object as it was read, if there is no owner yet
  rcases owner with err | _ | cluster
  · obtain ⟨hout, rfl⟩ := executes_pure hexec
    cases hout
    exact ⟨c, rfl, iff_of_true rfl fun _ h => by cases h⟩
  · obtain ⟨hout, rfl⟩ := executes_pure hexec
    cases hout
    exact ⟨c, rfl, iff_of_true rfl fun _ h => by cases h⟩
  have hsettled : ClusterSettled c (.ok (some cluster)) ↔
      PausedStored (isPaused cluster c.metadata) c.status.conditions :=
    ⟨fun h => h cluster rfl, fun h _ heq => by cases heq; exact h⟩
  rw [hsettled]
  dsimp only at hexec
  split at hexec
  · next hpaused =>
    obtain ⟨hout, rfl⟩ := executes_pure hexec
    cases hout
    rw [hpaused]
    exact ⟨_, rfl, eq_set_paused_iff⟩
  · next hpaused =>
    rw [Bool.eq_false_iff.mpr hpaused]
    obtain ⟨r, _, rfl, hexec⟩ := executes_onKube hexec
    cases r with
    | error err =>
        obtain ⟨hout, rfl⟩ := executes_pure hexec
        cases hout
        exact ⟨_, rfl, eq_delete_paused_iff⟩
    | ok token =>
        obtain ⟨⟨out', c'⟩, _, hwork, hexec⟩ := Program.executes_bind.mp hexec
        obtain ⟨rfl, tr, hrun⟩ := executes_onCloud (fun _ _ _ _ h => h) hwork
        obtain ⟨_, _, ⟨rfl, rfl⟩, hexec⟩ := executes_onKube hexec
        obtain ⟨hout, rfl⟩ := executes_pure hexec
        cases hout
        exact ⟨c', rfl, patched_iff (clusterWork_paused hrun)⟩

/-- The message of a machine that waits for its cluster. -/
def waitingMessage : String := "Waiting for cluster infrastructure to be provisioned"

/-- `ServerReady` of a machine that waits for its cluster. -/
def waitingServer : Condition :=
  { type := .serverReady, status := .isFalse, reason := .waitingForClusterInfrastructure
    message := waitingMessage }

/-- `Ready` of a machine that waits for its cluster. -/
def waitingReady : Condition := { waitingServer with type := .ready }

/-- What a machine that waits for its cluster has in memory. -/
theorem get_waiting (m : CloudscaleMachine) :
    (setMachineReadyCondition (setMachineCondition .serverReady .isFalse
      .waitingForClusterInfrastructure waitingMessage m)).status.conditions =
      Conditions.set waitingReady (Conditions.set waitingServer m.status.conditions) := by
  have hserver : Conditions.get (setMachineCondition .serverReady .isFalse
      .waitingForClusterInfrastructure waitingMessage m).status.conditions .serverReady =
        some waitingServer := Conditions.get_set_self waitingServer m.status.conditions
  have hfalse : ¬ Conditions.IsTrue (setMachineCondition .serverReady .isFalse
      .waitingForClusterInfrastructure waitingMessage m).status.conditions .serverReady := by
    rintro ⟨cond, hcond, htrue⟩
    rw [hserver] at hcond
    cases hcond
    cases htrue
  rw [setMachineReadyCondition, if_neg hfalse, hserver]
  rfl

theorem eq_waiting_iff {conds : List Condition} :
    Conditions.get conds = Conditions.get
      (Conditions.set waitingReady
        (Conditions.set waitingServer (Conditions.delete conds .paused))) ↔
      PausedStored false conds ∧ Conditions.get conds .serverReady = some waitingServer ∧
        Conditions.get conds .ready = some waitingReady := by
  have hready := Conditions.get_set_self waitingReady
    (Conditions.set waitingServer (Conditions.delete conds .paused))
  have hserver : Conditions.get (Conditions.set waitingReady (Conditions.set waitingServer
      (Conditions.delete conds .paused))) .serverReady = some waitingServer :=
    (Conditions.get_set_of_ne (by decide) _).trans (Conditions.get_set_self waitingServer _)
  -- the other conditions are as before, without `Paused`
  have hother {t : ConditionType} (h₁ : t ≠ .ready) (h₂ : t ≠ .serverReady) : Conditions.get
      (Conditions.set waitingReady (Conditions.set waitingServer (Conditions.delete conds .paused)))
        t = if t = .paused then none else Conditions.get conds t := by
    rw [Conditions.get_set_of_ne h₁, Conditions.get_set_of_ne h₂, Conditions.get_delete]
  constructor
  · intro heq
    refine ⟨?_, (congrFun heq _).trans hserver, (congrFun heq _).trans hready⟩
    exact (congrFun heq _).trans (hother (by decide) (by decide))
  · rintro ⟨hpaused, hs, hr⟩
    funext t
    by_cases h₁ : t = .ready
    · subst h₁
      exact hr.trans hready.symm
    by_cases h₂ : t = .serverReady
    · subst h₂
      exact hs.trans hserver.symm
    rw [hother h₁ h₂]
    split
    · next ht => exact ht ▸ hpaused
    · rfl

/-- The stored machine already says what the pass changes without a patch. -/
def MachineSettled (m : CloudscaleMachine) (around : Surroundings) : Prop :=
  ∀ machine cluster, around.owner = .ok (some machine) → around.cluster = .ok cluster →
    PausedStored (isPaused cluster m.metadata) m.status.conditions ∧
    (isPaused cluster m.metadata = false → ∀ cloudscaleCluster,
      around.infrastructure = .ok cloudscaleCluster →
        infrastructureReady cloudscaleCluster = false →
        Conditions.get m.status.conditions .serverReady = some waitingServer ∧
        Conditions.get m.status.conditions .ready = some waitingReady)

theorem machine_stored_iff {ns name : String} {m : CloudscaleMachine} {around : Surroundings}
    {out : Except GoError Result} {obj : Option CloudscaleMachine} {stored : StoredConditions}
    (hexec : Program.Executes (machineApi m around) (machineReconcileObject ns name)
      (Conditions.get m.status.conditions) (out, obj) stored) :
    ∃ m', obj = some m' ∧
      (stored = Conditions.get m'.status.conditions ↔ MachineSettled m around) := by
  obtain ⟨owner, cluster, infrastructure⟩ := around
  obtain ⟨_, _, ⟨rfl, rfl⟩, hexec⟩ := executes_onKube hexec
  obtain ⟨_, _, ⟨hreply, rfl⟩, hexec⟩ := executes_onKube hexec
  rw [hreply] at hexec
  rcases owner with err | _ | machine
  · obtain ⟨hout, rfl⟩ := executes_pure hexec
    cases hout
    exact ⟨m, rfl, iff_of_true rfl fun _ _ h => by cases h⟩
  · obtain ⟨hout, rfl⟩ := executes_pure hexec
    cases hout
    exact ⟨m, rfl, iff_of_true rfl fun _ _ h => by cases h⟩
  obtain ⟨_, _, ⟨hreply, rfl⟩, hexec⟩ := executes_onKube hexec
  rw [hreply] at hexec
  rcases cluster with err | cluster
  · obtain ⟨hout, rfl⟩ := executes_pure hexec
    cases hout
    exact ⟨m, rfl, iff_of_true rfl fun _ _ _ h => by cases h⟩
  have hsettled : MachineSettled m ⟨.ok (some machine), .ok cluster, infrastructure⟩ ↔
      PausedStored (isPaused cluster m.metadata) m.status.conditions ∧
      (isPaused cluster m.metadata = false → ∀ cloudscaleCluster,
        infrastructure = .ok cloudscaleCluster → infrastructureReady cloudscaleCluster = false →
          Conditions.get m.status.conditions .serverReady = some waitingServer ∧
          Conditions.get m.status.conditions .ready = some waitingReady) := by
    refine ⟨fun h => h machine cluster rfl rfl, fun h _ _ hm hc => ?_⟩
    cases hm
    cases hc
    exact h
  rw [hsettled]
  dsimp only at hexec
  split at hexec
  · next hpaused =>
    obtain ⟨hout, rfl⟩ := executes_pure hexec
    cases hout
    rw [hpaused]
    refine ⟨_, rfl, eq_set_paused_iff.trans ⟨fun h => ⟨h, fun hno => by cases hno⟩, fun h => h.1⟩⟩
  next hpaused =>
  rw [Bool.eq_false_iff.mpr hpaused]
  obtain ⟨_, _, ⟨hreply, rfl⟩, hexec⟩ := executes_onKube hexec
  rw [hreply] at hexec
  rcases infrastructure with err | cloudscaleCluster
  · obtain ⟨hout, rfl⟩ := executes_pure hexec
    cases hout
    exact ⟨_, rfl, eq_delete_paused_iff.trans
      ⟨fun h => ⟨h, fun _ _ hno => by cases hno⟩, fun h => h.1⟩⟩
  dsimp only at hexec
  split at hexec
  · next hwaiting =>
    obtain ⟨hout, rfl⟩ := executes_pure hexec
    cases hout
    refine ⟨_, rfl, ?_⟩
    rw [show "Waiting for cluster infrastructure to be provisioned" = waitingMessage from rfl,
      get_waiting]
    refine eq_waiting_iff.trans ⟨fun h => ⟨h.1, fun _ _ _ _ => h.2⟩, fun h => ⟨h.1, ?_⟩⟩
    exact h.2 rfl _ rfl (by simpa using hwaiting)
  next hready =>
  -- the machine is not waiting, and that leaves `Paused`
  have hleft (h : PausedStored false m.status.conditions) : PausedStored false m.status.conditions ∧
      (false = false → ∀ c, (.ok cloudscaleCluster : Except KubeError _) = .ok c →
        infrastructureReady c = false →
          Conditions.get m.status.conditions .serverReady = some waitingServer ∧
          Conditions.get m.status.conditions .ready = some waitingReady) := by
    refine ⟨h, fun _ c hc hno => absurd ?_ hready⟩
    cases hc
    simp [hno]
  obtain ⟨r, _, rfl, hexec⟩ := executes_onKube hexec
  cases r with
  | error err =>
      obtain ⟨hout, rfl⟩ := executes_pure hexec
      cases hout
      exact ⟨_, rfl, eq_delete_paused_iff.trans ⟨hleft, fun h => h.1⟩⟩
  | ok token =>
      obtain ⟨⟨out', m'⟩, _, hwork, hexec⟩ := Program.executes_bind.mp hexec
      obtain ⟨rfl, tr, hrun⟩ := executes_onCloud (fun _ _ _ _ h => h) hwork
      obtain ⟨_, _, ⟨rfl, rfl⟩, hexec⟩ := executes_onKube hexec
      obtain ⟨hout, rfl⟩ := executes_pure hexec
      cases hout
      exact ⟨m', rfl, (patched_iff (machineWork_paused hrun)).trans ⟨hleft, fun h => h.1⟩⟩

/-- What `Reconcile` leaves in the store is what it has in memory exactly if the store already
had what the pass changes without a patch: `Paused`, and the conditions of a machine that waits
for its cluster. -/
theorem conditions_stored_iff (ns name : String) (c : CloudscaleCluster)
    (owner : Except KubeError (Option Cluster)) (m : CloudscaleMachine) (around : Surroundings) :
    (∀ out obj stored, Program.Executes (clusterApi c owner) (clusterReconcileObject ns name)
        (Conditions.get c.status.conditions) (out, obj) stored →
      ∃ c', obj = some c' ∧
        (stored = Conditions.get c'.status.conditions ↔ ClusterSettled c owner)) ∧
    (∀ out obj stored, Program.Executes (machineApi m around) (machineReconcileObject ns name)
        (Conditions.get m.status.conditions) (out, obj) stored →
      ∃ m', obj = some m' ∧
        (stored = Conditions.get m'.status.conditions ↔ MachineSettled m around)) :=
  ⟨fun _ _ _ => cluster_stored_iff, fun _ _ _ => machine_stored_iff⟩

/-- A cluster with some conditions. -/
def conditionedCluster (conditions : List Condition) : CloudscaleCluster :=
  { metadata := { name := "c", ns := "default" }, status := { conditions } }

/-- A machine with some conditions. -/
def conditionedMachine (conditions : List Condition) : CloudscaleMachine :=
  { metadata := { name := "m", ns := "default" }, status := { conditions } }

/-- The owner of both. -/
def pausableOwner (paused : Bool) : Cluster := { name := "c", ns := "default", paused }

/-- A machine without bootstrap data, in a cluster that is provisioned or not. -/
def bareSurroundings (provisioned : Bool) : Surroundings where
  owner := .ok (some { ns := "default" })
  cluster := .ok (pausableOwner false)
  infrastructure := .ok { conditionedCluster [] with
    status := { initialization := some { provisioned := some provisioned } } }

/-- A pass over a cluster that has been paused. -/
theorem executes_paused (conditions : List Condition) :
    Program.Executes (clusterApi (conditionedCluster conditions) (.ok (some (pausableOwner true))))
      (clusterReconcileObject "default" "c") (Conditions.get conditions)
      (.ok {}, some (setCondition .paused .isTrue .paused "" (conditionedCluster conditions)))
      (Conditions.get conditions) :=
  .call ⟨rfl, rfl⟩ (.call ⟨rfl, rfl⟩ .ret)

/-- A pass over a machine that waits for its cluster. -/
theorem executes_waiting (conditions : List Condition) :
    Program.Executes (machineApi (conditionedMachine conditions) (bareSurroundings false))
      (machineReconcileObject "default" "m") (Conditions.get conditions)
      (.ok {}, some (setMachineReadyCondition (setMachineCondition .serverReady .isFalse
        .waitingForClusterInfrastructure waitingMessage
        (conditionedMachine (Conditions.delete conditions .paused)))))
      (Conditions.get conditions) :=
  .call ⟨rfl, rfl⟩ (.call ⟨rfl, rfl⟩ (.call ⟨rfl, rfl⟩ (.call ⟨rfl, rfl⟩ .ret)))

/-- A machine without bootstrap data, after a pass over it. -/
def bootstrapMachine : CloudscaleMachine :=
  setMachineReadyCondition (setMachineCondition .serverReady .isFalse .waitingForBootstrapData
    "Waiting for bootstrap data to be available"
    { conditionedMachine [] with
      metadata := addFinalizer machineFinalizer (conditionedMachine []).metadata })

/-- A pass over a machine that is paused no more, up to its end. -/
theorem executes_unpaused :
    Program.Executes (machineApi (conditionedMachine [pausedCondition]) (bareSurroundings true))
      (machineReconcileObject "default" "m") (Conditions.get [pausedCondition])
      (.ok {}, some bootstrapMachine)
      (patchConditions [] bootstrapMachine.status.conditions
        (Conditions.get [pausedCondition])) := by
  refine .call ⟨rfl, rfl⟩ (.call ⟨rfl, rfl⟩ (.call ⟨rfl, rfl⟩ (.call ⟨rfl, rfl⟩
    (.call (r := .ok "token") rfl ?_))))
  -- there is nothing to do on the cloud, and the patch follows
  show Program.Executes _ (onKube (.patchMachine (conditionedMachine []) bootstrapMachine true) >>=
    fun patched => pure (afterPatch (.ok {}) patched, some bootstrapMachine)) _ _ _
  exact .call ⟨rfl, rfl⟩ .ret

/-- Once stored, the conditions of a paused cluster and of a waiting machine are kept. -/
theorem conditions_stored_iff_settled :
    Conditions.get [pausedCondition] = Conditions.get (setCondition .paused .isTrue .paused ""
      (conditionedCluster [pausedCondition])).status.conditions ∧
    Conditions.get [waitingServer, waitingReady] = Conditions.get (setMachineReadyCondition
      (setMachineCondition .serverReady .isFalse .waitingForClusterInfrastructure waitingMessage
        (conditionedMachine [waitingServer, waitingReady]))).status.conditions := by
  have hc := (conditions_stored_iff "default" "c" (conditionedCluster [pausedCondition])
    (.ok (some (pausableOwner true))) (conditionedMachine []) (bareSurroundings false)).1
  obtain ⟨c', hobj, hc⟩ := hc _ _ _ (executes_paused [pausedCondition])
  cases hobj
  have hm := (conditions_stored_iff "default" "m" (conditionedCluster []) (.ok none)
    (conditionedMachine [waitingServer, waitingReady]) (bareSurroundings false)).2
  obtain ⟨m', hobj, hm⟩ := hm _ _ _ (executes_waiting [waitingServer, waitingReady])
  cases hobj
  refine ⟨hc.mpr ?_, hm.mpr ?_⟩
  · intro cluster hcluster
    cases hcluster
    decide
  · intro machine cluster hmachine hcluster
    cases hmachine
    cases hcluster
    exact ⟨by decide, fun _ _ _ _ => by decide⟩

/-- A pass over a paused cluster, one over a machine that is paused no more, and one over a
machine that waits for its cluster: in none of them does the store get to know. -/
theorem conditions_lost :
    (∃ c' stored, Program.Executes
        (clusterApi (conditionedCluster []) (.ok (some (pausableOwner true))))
        (clusterReconcileObject "default" "c") (Conditions.get []) (.ok {}, some c') stored ∧
      Conditions.get c'.status.conditions .paused = some pausedCondition ∧
      stored .paused = none) ∧
    (∃ m' stored, Program.Executes
        (machineApi (conditionedMachine [pausedCondition]) (bareSurroundings true))
        (machineReconcileObject "default" "m") (Conditions.get [pausedCondition])
        (.ok {}, some m') stored ∧
      Conditions.get m'.status.conditions .paused = none ∧
      stored .paused = some pausedCondition) ∧
    (∃ m' stored, Program.Executes
        (machineApi (conditionedMachine []) (bareSurroundings false))
        (machineReconcileObject "default" "m") (Conditions.get []) (.ok {}, some m') stored ∧
      Conditions.get m'.status.conditions .serverReady = some waitingServer ∧
      stored .serverReady = none) := by
  refine ⟨⟨_, _, executes_paused [], ?_, rfl⟩, ⟨_, _, executes_unpaused, ?_, ?_⟩,
    ⟨_, _, executes_waiting [], ?_, rfl⟩⟩ <;> decide

end Capcs.Controller
