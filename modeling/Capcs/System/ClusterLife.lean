import Capcs.Ownership.Passes
import Capcs.Ownership.Tenant
import Capcs.System.Life

/-!
# Capcs.System.ClusterLife — the teardown of a cluster

Teardown only knows what the status records. The status records everything as long
as no create is lost and no pass stops between a network and its subnet
(`finalizer_leaves_nothing`); a create that takes effect and reports a timeout is
enough to leave a network behind for good (`finalizer_leaves_network`).
-/

namespace Capcs.System

open Cloudscale Controller Ownership
open Relation (ReflTransGen)

variable {a b : Life CloudscaleCluster} {cluster : Cluster} {c : CloudscaleCluster}

/-- Passes over a `CloudscaleCluster`. -/
def clusterLifecycle (cluster : Cluster) : Lifecycle CloudscaleCluster where
  work c p := p = clusterWork cluster c
  markDeleted c := { c with metadata := { c.metadata with deletionTimestamp := true } }

/-- The names in the tags of a cluster. -/
def tenantOf (cluster : Cluster) (c : CloudscaleCluster) : Tenant where
  cluster := cluster
  name := c.metadata.name
  networks n := ∃ e ∈ c.spec.networks, e.uuid = "" ∧ e.name = n
  routers r := ∃ e ∈ c.spec.routers, e.uuid = "" ∧ e.name = r

/-- The project with this cluster alone. -/
def project (cluster : Cluster) (c : CloudscaleCluster) : Project Unit where
  tenant _ := tenantOf cluster c
  distinct _ _ h := absurd rfl h

/-- A new object, with keys as the schema and the webhook have them, in a project
where nothing carries its tags. -/
structure NewCluster (cluster : Cluster) (a : Life CloudscaleCluster) : Prop where
  status : a.obj.status = {}
  networks : (a.obj.spec.networks.map (·.name)).Nodup
  routers : (a.obj.spec.routers.map (·.name)).Nodup
  cloud : Pristine (project cluster a.obj).slots a.cloud

/-! ## The status stays in order -/

/-- What the object was admitted with. -/
def admittedOf (cluster : Cluster) (c : CloudscaleCluster) : Admitted where
  cluster := cluster
  name := c.metadata.name
  networks := c.spec.networks
  routers := c.spec.routers
  floatingIP := c.spec.floatingIP

theorem project_serves (hnet : (c.spec.networks.map (·.name)).Nodup)
    (hrouter : (c.spec.routers.map (·.name)).Nodup) :
    (project cluster c).Serves () (admittedOf cluster c) where
  cluster := rfl
  name := rfl
  networks n hn hu := ⟨n, hn, hu, rfl⟩
  routers r hr hu := ⟨r, hr, hu, rfl⟩
  adopts := ⟨fun _ _ _ => trivial, fun _ _ _ => trivial, fun _ _ _ => trivial⟩
  networkNames n hn n' hn' he := by rw [List.inj_on_of_nodup_map hnet hn hn' he]
  routerNames r hr r' hr' he := by rw [List.inj_on_of_nodup_map hrouter hr hr' he]

/-- The invariant of a run that started with `c`. -/
structure ClusterSound (cluster : Cluster) (c : CloudscaleCluster) (a : Life CloudscaleCluster) :
    Prop where
  inv : Inv (project cluster c).slots a.cloud
  ok : ClusterOK (project cluster c).slots ((project cluster c).clusterRole ()) True
    (admittedOf cluster c) none a.obj a.cloud

/-- The contract its passes work under. -/
abbrev contractOf (cluster : Cluster) (c : CloudscaleCluster) :
    Interaction.Contract (World Unit) Op Op.Reply :=
  api (project cluster c).slots ((project cluster c).clusterRole ()) True

theorem NewCluster.sound (h : NewCluster cluster a) : ClusterSound cluster a.obj a :=
  ⟨h.cloud.inv, h.cloud.clusterOK (project_serves h.networks h.routers).fits
    ⟨rfl, fun _ hn => hn, fun _ hr => hr, rfl⟩ h.status⟩

theorem ClusterSound.pass (h : ClusterSound cluster c a)
    (hpass : a.Pass (clusterLifecycle cluster) losslessReplies b) :
    ClusterSound cluster c b ∧ (clusterFinalizer ∈ a.obj.metadata.finalizers →
      clusterFinalizer ∉ b.obj.metadata.finalizers →
      ∀ k ∈ tornDownKinds, ∀ i ∈ b.cloud.cloud k, ((), k, i.uuid) ∉ b.cloud.created) := by
  obtain ⟨_, out, rfl, hex⟩ := hpass
  have hex' : (clusterWork cluster a.obj).Executes (contractOf cluster c).answer a.cloud
      (out, b.obj) b.cloud :=
    hex.mono fun w op r w' hans => ⟨hans.1.1, fun _ => ⟨hans.1.2, hans.2⟩⟩
  have hspec : (contractOf cluster c).wp (fun out w' => WorkEnd (project cluster c).slots
      ((project cluster c).clusterRole ()) True (admittedOf cluster c) a.obj out.2 w')
      (clusterWork cluster a.obj) a.cloud := clusterWork_spec h.inv h.ok
  obtain ⟨hinv, hend⟩ := api_executes hex' h.inv hspec
  exact ⟨⟨hinv, hend.ok⟩, fun hmem hno k hk i hi => hend.gone hmem hno k hk trivial i hi⟩

theorem ClusterSound.run (h : ClusterSound cluster c a)
    (hrun : ReflTransGen (Life.Step (clusterLifecycle cluster) losslessReplies) a b) :
    ClusterSound cluster c b :=
  Life.run_invariant (fun _ _ h hp => (h.pass hp).1) (fun _ h => ⟨h.inv, h.ok.edit rfl rfl rfl⟩)
    h hrun

/-! ## Teardown -/

/-- If no reply loses a resource, a pass that removes the finalizer leaves no
network, subnet, router, load balancer or floating IP that was created for the
cluster. -/
theorem finalizer_leaves_nothing {d : Life CloudscaleCluster} (hnew : NewCluster cluster a)
    (hrun : ReflTransGen (Life.Step (clusterLifecycle cluster) losslessReplies) a b)
    (hpass : b.Pass (clusterLifecycle cluster) losslessReplies d)
    (hbefore : clusterFinalizer ∈ b.obj.metadata.finalizers)
    (hafter : clusterFinalizer ∉ d.obj.metadata.finalizers) :
    ∀ k ∈ [Kind.network, .subnet, .router, .loadBalancer, .floatingIP],
      ∀ i ∈ d.cloud.cloud k, ((), k, i.uuid) ∉ d.cloud.created :=
  ((hnew.sound.run hrun).pass hpass).2 hbefore hafter

/-- The owner of the cluster below. -/
def owner : Cluster := { name := "c", ns := "default" }

/-- A cluster with one network and a load balancer, in an empty project. -/
def newborn : Life CloudscaleCluster where
  cloud := .empty
  obj :=
    { metadata := { name := "c", ns := "default" }
      spec := { region := "rma", zone := "rma1"
                networks := [{ name := "net", cidr := "10.0.0.0/24" }] } }

/-- A pass over a cluster on a simulated cloud. -/
def simulateCluster (S : Scenario) (a : Life CloudscaleCluster) : Life CloudscaleCluster :=
  Life.simulate S (clusterWork owner a.obj) a.cloud

/-- After a first pass without faults the user asks for the deletion. -/
def grown : Life CloudscaleCluster :=
  (simulateCluster {} newborn).requestDeletion (clusterLifecycle owner)

theorem newborn_new : NewCluster owner newborn where
  status := rfl
  networks := by decide
  routers := by decide
  cloud := .empty _

/-- The whole life of a cluster on a cloud without faults. -/
theorem finalizer_leaves_nothing_newborn :
    (simulateCluster {} grown).cloud.created ≠ [] ∧
      ∀ k ∈ [Kind.network, .subnet, .router, .loadBalancer, .floatingIP],
        ∀ i ∈ (simulateCluster {} grown).cloud.cloud k,
          ((), k, i.uuid) ∉ (simulateCluster {} grown).cloud.created := by
  have hfirst : newborn.Pass (clusterLifecycle owner) losslessReplies
      (simulateCluster {} newborn) :=
    Life.pass_simulate_lossless rfl (by decide +kernel)
  have hlast : grown.Pass (clusterLifecycle owner) losslessReplies (simulateCluster {} grown) :=
    Life.pass_simulate_lossless rfl (by decide +kernel)
  exact ⟨by decide +kernel, finalizer_leaves_nothing newborn_new
    (.tail (.single (.pass hfirst)) .requestDeletion) hlast (by decide +kernel)
    (by decide +kernel)⟩

/-- The create of the network takes effect and runs into its deadline. -/
def lostNetwork : Scenario where
  fault k := if k = .network then some (.lost (.timeout "deadline exceeded")) else none

/-- The pass that loses the network, and the user's request to delete the object. -/
def lossy : Life CloudscaleCluster :=
  (simulateCluster lostNetwork newborn).requestDeletion (clusterLifecycle owner)

/-- A lost create leaves a network behind: the pass after it removes the finalizer
from an object whose status never knew of the network. -/
theorem finalizer_leaves_network :
    NewCluster owner newborn ∧
      ReflTransGen (Life.Step (clusterLifecycle owner) anyReplies) newborn lossy ∧
      lossy.Pass (clusterLifecycle owner) anyReplies (simulateCluster {} lossy) ∧
      clusterFinalizer ∈ lossy.obj.metadata.finalizers ∧
      clusterFinalizer ∉ (simulateCluster {} lossy).obj.metadata.finalizers ∧
      ∃ i ∈ (simulateCluster {} lossy).cloud.cloud .network,
        ((), .network, i.uuid) ∈ (simulateCluster {} lossy).cloud.created := by
  have hpass : newborn.Pass (clusterLifecycle owner) anyReplies
      (simulateCluster lostNetwork newborn) := Life.pass_simulate _ rfl
  exact ⟨newborn_new, .tail (.single (.pass hpass)) .requestDeletion, Life.pass_simulate _ rfl,
    by decide +kernel, by decide +kernel, by decide +kernel⟩

end Capcs.System
