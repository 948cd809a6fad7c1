import Capcs.Ownership.Passes
import Capcs.Ownership.Tenant
import Capcs.System.Life

/-!
# Capcs.System.MachineLife — the teardown of a machine

The same for a `CloudscaleMachine`: its delete pass only knows the server ID in the
status. Without lost creates no server outlives the finalizer
(`finalizer_leaves_no_server`); a `Servers.Create` that takes effect and times out,
followed by a delete request, leaves the server running (`finalizer_leaves_server`).
-/

namespace Capcs.System

open Cloudscale Controller Ownership Webhook
open Relation (ReflTransGen)

variable {a b : Life CloudscaleMachine} {cluster : Cluster} {name : String}

/-- Passes over a `CloudscaleMachine` of a cluster. Bootstrap data and the state of the
infrastructure may differ from pass to pass. -/
def machineLifecycle (cluster : Cluster) (name : String) : Lifecycle CloudscaleMachine where
  work m p := ∃ s : MachineScope, s.cluster = cluster ∧ s.cloudscaleCluster.metadata.name = name ∧
    p = machineWork s m
  markDeleted m := { m with metadata := { m.metadata with deletionTimestamp := true } }

/-- The project with this cluster alone. -/
def machineProject (cluster : Cluster) (name : String) : Project Unit where
  tenant _ := { cluster, name, networks := fun _ => False, routers := fun _ => False }
  distinct _ _ h := absurd rfl h

/-- A new machine, with tags the webhook admits, in a project where nothing carries
the tags of the cluster. -/
structure NewMachine (cluster : Cluster) (name : String) (a : Life CloudscaleMachine) : Prop where
  status : a.obj.status = {}
  tags : FreeTags a.obj.spec.tags
  cloud : Pristine (machineProject cluster name).slots a.cloud

/-! ## The status stays in order -/

/-- The invariant of a run over machine `n`. -/
structure MachineSound (cluster : Cluster) (name n : String) (a : Life CloudscaleMachine) :
    Prop where
  inv : Inv (machineProject cluster name).slots a.cloud
  named : a.obj.metadata.name = n
  tags : FreeTags a.obj.spec.tags
  server : Own a.cloud () .server a.obj.status.serverID
  recorded : ServerRecorded ((machineProject cluster name).machineRole () n) a.obj.status.serverID
    a.cloud

theorem NewMachine.sound (h : NewMachine cluster name a) :
    MachineSound cluster name a.obj.metadata.name a where
  inv := h.cloud.inv
  named := rfl
  tags := h.tags
  server := by simp [Own, h.status]
  recorded i _ hc := by simp [h.cloud.created] at hc

/-- The contract its passes work under. -/
abbrev machineContract (cluster : Cluster) (name n : String) :
    Interaction.Contract (World Unit) Op Op.Reply :=
  api (machineProject cluster name).slots ((machineProject cluster name).machineRole () n) True

theorem MachineSound.pass {n : String} (h : MachineSound cluster name n a)
    (hpass : a.Pass (machineLifecycle cluster name) losslessReplies b) :
    MachineSound cluster name n b ∧ (machineFinalizer ∈ a.obj.metadata.finalizers →
      machineFinalizer ∉ b.obj.metadata.finalizers →
      ∀ i ∈ b.cloud.cloud .server, ((), .server, i.uuid) ∉ b.cloud.created) := by
  obtain ⟨_, out, ⟨s, hcluster, hname, rfl⟩, hex⟩ := hpass
  have hex' : (machineWork s a.obj).Executes (machineContract cluster name n).answer a.cloud
      (out, b.obj) b.cloud :=
    hex.mono fun w op r w' hans => ⟨hans.1.1, fun _ => ⟨hans.1.2, hans.2⟩⟩
  have hfits : MachineFits (machineProject cluster name).slots
      ((machineProject cluster name).machineRole () n) s a.obj.metadata.name a.obj.spec.tags :=
    h.named ▸ Project.machineFits _ hcluster hname h.tags _
  have hspec : (machineContract cluster name n).wp (fun out w' =>
      MachineWorkEnd (machineProject cluster name).slots
        ((machineProject cluster name).machineRole () n) True s a.obj out.2 w')
      (machineWork s a.obj) a.cloud :=
    machineWork_spec h.inv hfits h.server fun _ => h.recorded
  obtain ⟨hinv, hend⟩ := api_executes hex' h.inv hspec
  have htags : b.obj.spec.tags = a.obj.spec.tags := by rw [hend.spec]
  exact ⟨⟨hinv, hend.name.trans h.named, htags ▸ h.tags, hend.server, hend.recorded trivial⟩,
    fun hmem hno => hend.gone hmem hno trivial⟩

theorem MachineSound.run {n : String} (h : MachineSound cluster name n a)
    (hrun : ReflTransGen (Life.Step (machineLifecycle cluster name) losslessReplies) a b) :
    MachineSound cluster name n b :=
  Life.run_invariant (fun _ _ h hp => (h.pass hp).1)
    (fun _ h => ⟨h.inv, h.named, h.tags, h.server, h.recorded⟩) h hrun

/-! ## Teardown -/

/-- If no reply loses a resource, a pass that removes the finalizer leaves no server
that was created for the machine. -/
theorem finalizer_leaves_no_server {d : Life CloudscaleMachine} (hnew : NewMachine cluster name a)
    (hrun : ReflTransGen (Life.Step (machineLifecycle cluster name) losslessReplies) a b)
    (hpass : b.Pass (machineLifecycle cluster name) losslessReplies d)
    (hbefore : machineFinalizer ∈ b.obj.metadata.finalizers)
    (hafter : machineFinalizer ∉ d.obj.metadata.finalizers) :
    ∀ i ∈ d.cloud.cloud .server, ((), .server, i.uuid) ∉ d.cloud.created :=
  ((hnew.sound.run hrun).pass hpass).2 hbefore hafter

/-- A machine of cluster `c` with its bootstrap data, on a provisioned network. -/
def scope : MachineScope where
  cluster := { name := "c", ns := "default" }
  machine := { ns := "default", dataSecretName := some "boot" }
  cloudscaleCluster :=
    { metadata := { name := "c", ns := "default" }
      status := { networks := [{ name := "net", networkID := "n", subnetID := "s" }] } }

/-- A machine without a status, in an empty project. -/
def newMachine : Life CloudscaleMachine where
  cloud := .empty
  obj := { metadata := { name := "m", ns := "default" }, spec := { flavor := "flex-4-2" } }

theorem newMachine_new : NewMachine scope.cluster "c" newMachine where
  status := rfl
  tags := by simp [FreeTags, newMachine]
  cloud := .empty _

/-- A pass over a machine on a simulated cloud. -/
def simulateMachine (S : Scenario) (a : Life CloudscaleMachine) : Life CloudscaleMachine :=
  Life.simulate S (machineWork scope a.obj) a.cloud

/-- After a first pass without faults the user asks for the deletion. -/
def oldMachine : Life CloudscaleMachine :=
  (simulateMachine {} newMachine).requestDeletion (machineLifecycle scope.cluster "c")

/-- The whole life of a machine on a cloud without faults. -/
theorem finalizer_leaves_no_server_newMachine :
    (simulateMachine {} oldMachine).cloud.created ≠ [] ∧
      ∀ i ∈ (simulateMachine {} oldMachine).cloud.cloud .server,
        ((), .server, i.uuid) ∉ (simulateMachine {} oldMachine).cloud.created := by
  have hfirst : newMachine.Pass (machineLifecycle scope.cluster "c") losslessReplies
      (simulateMachine {} newMachine) :=
    Life.pass_simulate_lossless ⟨scope, rfl, rfl, rfl⟩ (by decide +kernel)
  have hlast : oldMachine.Pass (machineLifecycle scope.cluster "c") losslessReplies
      (simulateMachine {} oldMachine) :=
    Life.pass_simulate_lossless ⟨scope, rfl, rfl, rfl⟩ (by decide +kernel)
  exact ⟨by decide +kernel, finalizer_leaves_no_server newMachine_new
    (.tail (.single (.pass hfirst)) .requestDeletion) hlast (by decide +kernel)
    (by decide +kernel)⟩

/-- The create of the server takes effect and runs into its deadline. -/
def lostServer : Scenario where
  fault k := if k = .server then some (.lost (.timeout "deadline exceeded")) else none

/-- The pass that loses the server, and the user's request to delete the machine. -/
def lossyMachine : Life CloudscaleMachine :=
  (simulateMachine lostServer newMachine).requestDeletion (machineLifecycle scope.cluster "c")

/-- A lost create leaves the server running: the pass after it finds no server ID and
removes the finalizer. -/
theorem finalizer_leaves_server :
    NewMachine scope.cluster "c" newMachine ∧
      ReflTransGen (Life.Step (machineLifecycle scope.cluster "c") anyReplies) newMachine
        lossyMachine ∧
      lossyMachine.Pass (machineLifecycle scope.cluster "c") anyReplies
        (simulateMachine {} lossyMachine) ∧
      machineFinalizer ∈ lossyMachine.obj.metadata.finalizers ∧
      machineFinalizer ∉ (simulateMachine {} lossyMachine).obj.metadata.finalizers ∧
      ∃ i ∈ (simulateMachine {} lossyMachine).cloud.cloud .server,
        ((), .server, i.uuid) ∈ (simulateMachine {} lossyMachine).cloud.created := by
  have hpass : newMachine.Pass (machineLifecycle scope.cluster "c") anyReplies
      (simulateMachine lostServer newMachine) := Life.pass_simulate _ ⟨scope, rfl, rfl, rfl⟩
  exact ⟨newMachine_new, .tail (.single (.pass hpass)) .requestDeletion,
    Life.pass_simulate _ ⟨scope, rfl, rfl, rfl⟩, by decide +kernel, by decide +kernel,
    by decide +kernel⟩

end Capcs.System
