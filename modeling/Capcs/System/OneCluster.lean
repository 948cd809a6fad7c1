import Capcs.System.FleetSafety

/-!
# Capcs.System.OneCluster — one cluster and its machines

The fleet with a single cluster. Whatever its passes start from, however they are cut
off and whatever others delete:

* `atMostOne_reachable` — there is at most one of everything a pass looks up by tags;
* `delete_own` — nothing is deleted that was not created for the cluster.
-/

namespace Capcs.System

open Cloudscale Controller Ownership Webhook
open Interaction (Program Runtime)

/-- A project with one cluster in it; any name may be that of a network or a router. -/
def oneTenant (cluster : Cluster) (name : String) : Unit → Tenant := fun _ =>
  { cluster, name, networks := fun _ => True, routers := fun _ => True }

def oneProject (cluster : Cluster) (name : String) : Project Unit where
  tenant := oneTenant cluster name
  distinct _ _ h := absurd rfl h

/-- The configurations of the system with this cluster alone. -/
abbrev OneConfig := Runtime.Config (Fleet Unit) (Worker Unit) Op Op.Reply Outcome

/-! ## At most one of everything -/

/-- There is at most one resource for everything the cluster looks up by tags, and
whatever was created for it is found that way. -/
structure AtMostOne (cluster : Cluster) (name : String) (fl : Fleet Unit) : Prop where
  network : ∀ n, (fl.cloud.listed .network (networkTags cluster n)).length ≤ 1
  subnet : ∀ n, (fl.cloud.listed .subnet (networkTags cluster n)).length ≤ 1
  router : ∀ r, (fl.cloud.listed .router (routerTags cluster r)).length ≤ 1
  owned : ∀ k ∈ [Kind.loadBalancer, .pool, .listener, .healthMonitor, .floatingIP],
    (fl.cloud.listed k (ownershipTags name)).length ≤ 1
  server : ∀ m, (fl.cloud.listed .server (serverTags cluster m)).length ≤ 1
  member : ∀ st ∈ fl.statuses (), ∀ m,
    (fl.cloud.membersNamed st.loadBalancerPoolID m).length ≤ 1
  /-- The tags of everything that was created are among those above. -/
  tagged : ∀ k, ∀ i ∈ fl.cloud.cloud k, ((), k, i.uuid) ∈ fl.cloud.created →
    ∃ t, (oneTenant cluster name ()).slot k t ∧ matchesTags t i.tags

theorem FleetInv.atMostOne {cluster : Cluster} {name : String} {ri : RegionInfo} {fl : Fleet Unit}
    (h : FleetInv (oneProject cluster name) ri fl) : AtMostOne cluster name fl := by
  have hunique := fun k t ht hk => h.cloud.unique () k t ht hk
  refine ⟨?_, ?_, ?_, ?_, ?_, ?_, h.cloud.tagged ()⟩
  · exact fun n => hunique .network _ ⟨n, trivial, rfl⟩ (by simp)
  · exact fun n => hunique .subnet _ ⟨n, trivial, rfl⟩ (by simp)
  · exact fun r => hunique .router _ ⟨r, trivial, rfl⟩ (by simp)
  · intro k hk
    simp only [List.mem_cons, List.not_mem_nil, or_false] at hk
    rcases hk with rfl | rfl | rfl | rfl | rfl <;> exact hunique _ _ rfl (by simp)
  · exact fun m => hunique .server _ ⟨m, rfl⟩ (by simp)
  · intro st hst m
    obtain ⟨hist, c, -, -, rfl, hok⟩ := h.statuses () st hst
    rcases hok.pool with hempty | hcreated
    · -- no pool is recorded: nothing lives in it
      have hnone : fl.cloud.membersNamed c.status.loadBalancerPoolID m = [] := by
        rw [World.membersNamed, List.filter_eq_nil_iff]
        intro mem hmem hm
        have hpool : mem.pool = c.status.loadBalancerPoolID := (by simpa using hm : _ ∧ _).1
        exact (h.cloud.member_issued mem hmem).1 (hpool.trans hempty)
      simp [hnone]
    · exact h.cloud.members () _ hcreated m

/-- In every reachable state there is at most one of everything. -/
theorem atMostOne_reachable {cluster : Cluster} {name : String} {ri : RegionInfo} {fl : Fleet Unit}
    (hinit : fl.Initial (oneTenant cluster name)) {c : OneConfig}
    (hreach : (fleet (oneTenant cluster name) ri).Reachable (.idle fl) c) :
    AtMostOne cluster name c.world :=
  (fleet_holds (P := oneProject cluster name) hinit hreach).world.atMostOne

/-- The `Cluster` that owns the cluster below. -/
def oneOwner : Cluster := { name := "c", ns := "default" }

/-- Nothing is stored and nothing exists. -/
def emptyFleet : Fleet Unit where
  cloud := .empty
  specs _ := []
  statuses _ := []
  machineStatuses _ _ := []

theorem emptyFleet_initial : emptyFleet.Initial (oneTenant oneOwner "c") :=
  ⟨.empty _, fun _ => rfl, fun _ => rfl, fun _ _ => rfl⟩

/-- The fleet once a cluster is stored. -/
def storedFleet : Fleet Unit :=
  { emptyFleet with specs := Function.update emptyFleet.specs () ([] ++ [storedCluster]) }

theorem storedFleet_reachable :
    (fleet (oneTenant oneOwner "c") oneRegion).Reachable (.idle emptyFleet)
      (.idle storedFleet) := by
  have hrun : AdmittedRun oneRegion [storedCluster] := .create (by decide) (by decide)
  have hstored : Stored (oneTenant oneOwner "c" ()) storedCluster :=
    ⟨rfl, fun _ _ _ => trivial, fun _ _ _ => trivial,
      ⟨fun _ _ _ => trivial, fun _ _ _ => trivial, fun _ _ _ => trivial⟩⟩
  exact .single (.env (.store hrun hstored))

/-- The fleet after a pass over the new object. -/
def grownFleet : Fleet Unit := storedFleet.afterPass {} oneOwner () storedCluster

theorem grownFleet_reachable :
    (fleet (oneTenant oneOwner "c") oneRegion).Reachable (.idle emptyFleet) (.idle grownFleet) := by
  have hmem : storedCluster ∈ storedFleet.specs () := by simp [storedFleet]
  have hstart : storedFleet.Starts (oneTenant oneOwner "c") (.cluster ())
      (clusterJob oneOwner storedCluster) := .cluster hmem rfl rfl ⟨{}, .inl rfl, rfl⟩
  exact storedFleet_reachable.trans (reachable_afterPass {} hstart)

/-- After a pass there is exactly one network with the tags of the spec's network. -/
theorem atMostOne_grownFleet :
    AtMostOne oneOwner "c" grownFleet ∧
      (grownFleet.cloud.listed .network (networkTags oneOwner "net")).length = 1 := by
  have hone := atMostOne_reachable emptyFleet_initial grownFleet_reachable
  exact ⟨hone, by decide +kernel⟩

/-! ## Only own resources are deleted -/

/-- Every delete that is about to go out names a resource that was created for the
cluster. -/
theorem delete_own {cluster : Cluster} {name : String} {ri : RegionInfo} {fl : Fleet Unit}
    (hinit : fl.Initial (oneTenant cluster name)) {c : OneConfig}
    (hreach : (fleet (oneTenant cluster name) ri).Reachable (.idle fl) c) {v : Worker Unit}
    {k : Kind} {id : String} {next : Except ApiError Unit → Job}
    (hcall : c.slot v = some (.call (.delete k id) next)) :
    ((), k, id) ∈ c.world.cloud.created :=
  (fleetObligations (oneProject cluster name) ri).guarded
    (fleet_holds (P := oneProject cluster name) hinit hreach) hcall

/-- The object once the user has asked for its deletion. -/
def dyingCluster : CloudscaleCluster where
  metadata := { name := "c", ns := "default", deletionTimestamp := true }
  spec := storedCluster.spec
  status := (grownFleet.statuses ()).headD {}

/-- The fleet as its delete pass starts. -/
def dyingConfig : OneConfig :=
  (Runtime.Config.idle grownFleet).set (.cluster ()) (some (clusterJob oneOwner dyingCluster))
    grownFleet

theorem dyingConfig_reachable :
    (fleet (oneTenant oneOwner "c") oneRegion).Reachable (.idle emptyFleet) dyingConfig := by
  have hmem : storedCluster ∈ grownFleet.specs () := by
    show storedCluster ∈ storedFleet.specs ()
    simp [storedFleet]
  have hstatus : (grownFleet.statuses ()).headD {} ∈ grownFleet.statuses () := by
    simp [grownFleet, Fleet.afterPass]
  have hstart : grownFleet.Starts (oneTenant oneOwner "c") (.cluster ())
      (clusterJob oneOwner dyingCluster) := starts_stored hmem rfl (started_of_mem hstatus)
  exact grownFleet_reachable.tail (.start rfl ⟨rfl, hstart⟩)

/-- The first call of the delete pass deletes the load balancer of the first pass. -/
theorem delete_own_dying :
    ∃ id next, dyingConfig.slot (.cluster ()) = some (.call (.delete .loadBalancer id) next) ∧
      ((), .loadBalancer, id) ∈ dyingConfig.world.cloud.created := by
  have hfirst : firstDelete (clusterJob oneOwner dyingCluster) = some (.loadBalancer, "xxx") := by
    decide +kernel
  obtain ⟨next, hnext⟩ := call_of_firstDelete hfirst
  have hslot : dyingConfig.slot (.cluster ()) = some
      (.call (.delete .loadBalancer "xxx") next) := by
    simp [dyingConfig, Runtime.Config.set, hnext]
  exact ⟨_, next, hslot, delete_own emptyFleet_initial dyingConfig_reachable hslot⟩

end Capcs.System
