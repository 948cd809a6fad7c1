import Capcs.System.FleetSafety

/-!
# Capcs.System.Tenancy — clusters that share a project

Tags carry the name of the `CloudscaleCluster`, or of the `Cluster` that owns it, but
not the namespace. Clusters whose names keep them apart never get hold of each other's
resources (`tenants_apart`); two clusters of one name in two namespaces do
(`namesakes_share`).
-/

namespace Capcs.System

open Cloudscale Controller Ownership Webhook
open Interaction (Program Runtime)

variable {ι : Type}

/-! ## Names that keep clusters apart -/

/-- What Kubernetes guarantees of two clusters: each is owned by a `Cluster` of its own,
and namespaces are DNS labels, without a slash. -/
structure OwnClusters (T : ι → Tenant) : Prop where
  owner : ∀ i j, i ≠ j → (T i).cluster.name = (T j).cluster.name →
    (T i).cluster.ns ≠ (T j).cluster.ns
  plain : ∀ i, '/' ∉ (T i).cluster.ns.toList

/-- The names of the `CloudscaleCluster`s differ, and owners of the same name do not
manage networks or routers of the same name. -/
structure NamesApart (T : ι → Tenant) : Prop where
  name : ∀ i j, i ≠ j → (T i).name ≠ (T j).name
  networks : ∀ i j, i ≠ j → (T i).cluster.name = (T j).cluster.name →
    ∀ n, (T i).networks n → ¬ (T j).networks n
  routers : ∀ i j, i ≠ j → (T i).cluster.name = (T j).cluster.name →
    ∀ r, (T i).routers r → ¬ (T j).routers r

/-- Such clusters keep apart. -/
def apartProject (T : ι → Tenant) (hown : OwnClusters T) (hnames : NamesApart T) : Project ι where
  tenant := T
  distinct i j hij :=
    { name := hnames.name i j hij
      networks := hnames.networks i j hij
      routers := hnames.routers i j hij
      servers := by
        intro m m' heq
        obtain ⟨hname, hns⟩ := serverTags_inj (hown.plain i) (hown.plain j) heq
        exact hown.owner i j hij hname hns }

/-- The request gets at nothing of cluster `j`, unless the user of the one that makes
it has put the identifier into a spec. A lookup of a server group, whose ID may come
from a machine's spec, is left out. -/
def KeepsOff (T : Tenant) (j : ι) (w : World ι) : Op → Prop
  | .get k id => k ≠ .serverGroup → (j, k, id) ∈ w.created → T.adopts k id
  | .list k tags => ∀ r ∈ w.listed k tags, (j, k, r.uuid) ∉ w.created
  | .delete k id => (j, k, id) ∉ w.created
  | .deleteInterface router _ => (j, .router, router) ∈ w.created → T.adopts .router router
  | _ => True

theorem named_of_may {w : World ι} {slot : Slots ι} {R : Role ι} {j : ι} {k : Kind} {id : String}
    (h : May w R k id) (hinv : Inv slot w) (hj : R.owner ≠ j) (hmem : (j, k, id) ∈ w.created) :
    R.names k id := by
  rcases h with (rfl | hown) | hnamed
  · exact absurd rfl (hinv.created_issued j k _ hmem).1
  · exact absurd (hinv.created_once _ _ _ _ hown hmem) hj
  · exact hnamed

/-- Whatever is created for one cluster, no pass over another cluster or its machines
looks it up, finds it by tags, deletes it or takes an interface off it. -/
theorem tenants_apart [DecidableEq ι] {T : ι → Tenant} (hown : OwnClusters T)
    (hnames : NamesApart T) {ri : RegionInfo} {fl : Fleet ι} (hinit : fl.Initial T)
    {c : Runtime.Config (Fleet ι) (Worker ι) Op Op.Reply Outcome}
    (hreach : (openFleet T ri).Reachable (.idle fl) c) (honce : IssuedOnce c.world.cloud)
    {v : Worker ι} {j : ι} (hj : v.owner ≠ j) {op : Op} {next : op.Reply → Job}
    (hslot : c.slot v = some (.call op next)) : KeepsOff (T v.owner) j c.world.cloud op := by
  let P := apartProject T hown hnames
  have hholds := fleet_holds (P := P) hinit (reachable_issuedOnce hreach honce)
  have hinv := hholds.world.cloud
  have hguard : Guard P.slots (roleOf P v) c.world.cloud op :=
    (fleetObligations P ri).guarded hholds hslot
  have hj' : (roleOf P v).owner ≠ j := roleOf_owner P v ▸ hj
  have hadopts : ∀ k id, (roleOf P v).names k id → (T v.owner).adopts k id := by
    intro k id h
    cases v with
    | cluster i => exact h
    | machine i n => exact h.elim
  -- a guarded call is on what the tenant made, or on what it adopts
  cases op with
  | get k id => exact fun hk hmem => hadopts k id (named_of_may (hguard hk) hinv hj' hmem)
  | list k tags =>
      intro r hr hmem
      obtain ⟨hex, hm⟩ := List.mem_filter.mp hr
      exact hj' (hinv.created_once _ _ _ _ (hinv.owned _ _ _ hguard _ hex hm) hmem)
  | delete k id => exact fun hmem => hj' (hinv.created_once _ _ _ _ hguard hmem)
  | deleteInterface router iface =>
      exact fun hmem => hadopts _ _ (named_of_may hguard hinv hj' hmem)
  | _ => trivial

/-! ## Two clusters -/

/-- A cluster `c` in namespace `a`, and one of the given name in namespace `b`. Neither
adopts anything by its UUID. -/
def twoTenants (name : String) : Bool → Tenant
  | false => { cluster := { name := "c", ns := "a" }, name := "c", networks := fun _ => True
               routers := fun _ => True, adopts := fun _ _ => False }
  | true => { cluster := { name, ns := "b" }, name, networks := fun _ => True
              routers := fun _ => True, adopts := fun _ _ => False }

theorem twoTenants_own (name : String) : OwnClusters (twoTenants name) where
  owner i j hij _ := by
    cases i <;> cases j
    · exact absurd rfl hij
    · simp [twoTenants]
    · simp [twoTenants]
    · exact absurd rfl hij
  plain i := by
    cases i <;> simp [twoTenants]

/-- The small cluster under a name and in a namespace, as stored. -/
def storedAs (name ns : String) : CloudscaleCluster :=
  clusterDefault oneRegion { smallCluster with metadata := { name, ns } }

theorem stored_run (name ns : String) : AdmittedRun oneRegion ([] ++ [storedAs name ns]) := by
  refine .create ?_ ?_
  · show UniqueKeys storedCluster.spec
    decide
  · show (clusterValidateCreate oneRegion storedCluster).Accepted
    decide

/-- Nothing is stored and nothing exists. -/
def emptyTwo : Fleet Bool where
  cloud := .empty
  specs _ := []
  statuses _ := []
  machineStatuses _ _ := []

/-- Both objects are stored. -/
def bothStored (name : String) : Fleet Bool where
  cloud := .empty
  specs := Function.update (Function.update (fun _ => []) false ([] ++ [storedAs "c" "a"])) true
    ([] ++ [storedAs name "b"])
  statuses _ := []
  machineStatuses _ _ := []

theorem storedAs_stored {name ns : String} {T : Tenant} (hname : T.name = name)
    (hnet : ∀ n, T.networks n) (hrouter : ∀ r, T.routers r) : Stored T (storedAs name ns) where
  name := hname.symm
  networks n _ _ := hnet n.name
  routers r _ _ := hrouter r.name
  adopts := by
    have huuid : (∀ n ∈ storedCluster.spec.networks, n.uuid = "") ∧
        (∀ r ∈ storedCluster.spec.routers, r.uuid = "") ∧
        ∀ f ∈ storedCluster.spec.floatingIP, f.address = "" := by decide
    exact ⟨fun n hn hu => absurd (huuid.1 n hn) hu, fun r hr hu => absurd (huuid.2.1 r hr) hu,
      fun f hf hu => absurd (huuid.2.2 f hf) hu⟩

theorem bothStored_reachable (name : String) :
    (fleet (twoTenants name) oneRegion).Reachable (.idle emptyTwo) (.idle (bothStored name)) := by
  have hfirst : (fleet (twoTenants name) oneRegion).Step (.idle emptyTwo) _ :=
    .env (.store (i := false) (stored_run "c" "a")
      (storedAs_stored rfl (fun _ => trivial) fun _ => trivial))
  refine .tail (.single hfirst) ?_
  exact .env (.store (i := true) (stored_run name "b")
    (storedAs_stored rfl (fun _ => trivial) fun _ => trivial))

/-- After a pass over the first cluster. -/
def firstDone (name : String) : Fleet Bool :=
  (bothStored name).afterPass {} (twoTenants name false).cluster false (storedAs "c" "a")

/-- And a pass over the second. -/
def bothDone (name : String) : Fleet Bool :=
  (firstDone name).afterPass {} (twoTenants name true).cluster true (storedAs name "b")

theorem firstDone_reachable (name : String) :
    (fleet (twoTenants name) oneRegion).Reachable (.idle emptyTwo) (.idle (firstDone name)) := by
  have hmem : storedAs "c" "a" ∈ (bothStored name).specs false := by simp [bothStored]
  have hstart : (bothStored name).Starts (twoTenants name) (.cluster false)
      (clusterJob (twoTenants name false).cluster (storedAs "c" "a")) :=
    .cluster hmem rfl rfl ⟨{}, .inl rfl, rfl⟩
  exact (bothStored_reachable name).trans (reachable_afterPass {} hstart)

theorem bothDone_reachable (name : String) :
    (fleet (twoTenants name) oneRegion).Reachable (.idle emptyTwo) (.idle (bothDone name)) := by
  have hmem : storedAs name "b" ∈ (firstDone name).specs true := by
    show storedAs name "b" ∈ (bothStored name).specs true
    simp [bothStored]
  have hstart : (firstDone name).Starts (twoTenants name) (.cluster true)
      (clusterJob (twoTenants name true).cluster (storedAs name "b")) :=
    .cluster hmem rfl rfl ⟨{}, .inl rfl, rfl⟩
  exact (firstDone_reachable name).trans (reachable_afterPass {} hstart)

/-- The second object once the user has asked for its deletion. -/
def dyingSecond (name : String) : CloudscaleCluster where
  metadata := { name, ns := "b", deletionTimestamp := true }
  spec := (storedAs name "b").spec
  status := ((bothDone name).statuses true).headD {}

/-- The fleet as its delete pass starts. -/
def secondDying (name : String) :
    Runtime.Config (Fleet Bool) (Worker Bool) Op Op.Reply Outcome :=
  (Runtime.Config.idle (bothDone name)).set (.cluster true)
    (some (clusterJob (twoTenants name true).cluster (dyingSecond name))) (bothDone name)

theorem secondDying_reachable (name : String) :
    (fleet (twoTenants name) oneRegion).Reachable (.idle emptyTwo) (secondDying name) := by
  have hmem : storedAs name "b" ∈ (bothDone name).specs true := by
    show storedAs name "b" ∈ (bothStored name).specs true
    simp [bothStored]
  have hstatus : ((bothDone name).statuses true).headD {} ∈ (bothDone name).statuses true := by
    simp [bothDone, Fleet.afterPass]
  have hstart : (bothDone name).Starts (twoTenants name) (.cluster true)
      (clusterJob (twoTenants name true).cluster (dyingSecond name)) :=
    starts_stored hmem rfl (started_of_mem hstatus)
  exact (bothDone_reachable name).tail (.start rfl ⟨rfl, hstart⟩)

theorem emptyTwo_initial (T : Bool → Tenant) : emptyTwo.Initial T :=
  ⟨.empty _, fun _ => rfl, fun _ => rfl, fun _ _ => rfl⟩

/-- The names of the two clusters differ. -/
theorem namesApart_of_ne {name : String} (h : name ≠ "c") : NamesApart (twoTenants name) := by
  have hne : ∀ i j : Bool, i ≠ j → (twoTenants name i).cluster.name ≠
      (twoTenants name j).cluster.name := by
    intro i j hij
    cases i <;> cases j
    · exact absurd rfl hij
    · exact h.symm
    · exact h
    · exact absurd rfl hij
  refine ⟨?_, fun i j hij he => absurd he (hne i j hij), fun i j hij he => absurd he (hne i j hij)⟩
  intro i j hij
  cases i <;> cases j
  · exact absurd rfl hij
  · exact h.symm
  · exact h
  · exact absurd rfl hij

/-- Cluster `d` is about to delete its load balancer, which is not that of `c`. -/
theorem tenants_apart_two :
    ∃ id next, (secondDying "d").slot (.cluster true) = some
      (.call (.delete .loadBalancer id) next) ∧
      (false, .loadBalancer, id) ∉ (secondDying "d").world.cloud.created := by
  have hfirst : firstDelete (clusterJob (twoTenants "d" true).cluster (dyingSecond "d")) =
      some (.loadBalancer, "xxxxxxxxx") := by
    decide +kernel
  have honce : IssuedOnce (secondDying "d").world.cloud := by
    unfold IssuedOnce
    decide +kernel
  obtain ⟨next, hnext⟩ := call_of_firstDelete hfirst
  have hslot : (secondDying "d").slot (.cluster true) =
      some (.call (.delete .loadBalancer "xxxxxxxxx") next) := by
    simp [secondDying, Runtime.Config.set, hnext]
  exact ⟨_, next, hslot, tenants_apart (twoTenants_own "d") (namesApart_of_ne (by decide))
    (emptyTwo_initial _) (reachable_open (secondDying_reachable "d")) honce
    (v := .cluster true) (j := false) (by decide) hslot⟩

/-! ## Namesakes -/

/-- The fleet as a pass over the second cluster starts, after one over the first. -/
def secondNew : Runtime.Config (Fleet Bool) (Worker Bool) Op Op.Reply Outcome :=
  (Runtime.Config.idle (firstDone "c")).set (.cluster true)
    (some (clusterJob (twoTenants "c" true).cluster (storedAs "c" "b"))) (firstDone "c")

theorem secondNew_reachable :
    (fleet (twoTenants "c") oneRegion).Reachable (.idle emptyTwo) secondNew := by
  have hmem : storedAs "c" "b" ∈ (firstDone "c").specs true := by
    show storedAs "c" "b" ∈ (bothStored "c").specs true
    simp [bothStored]
  exact (firstDone_reachable "c").tail
    (.start rfl ⟨rfl, .cluster hmem rfl rfl ⟨{}, .inl rfl, rfl⟩⟩)

/-- Two clusters named `c` in the namespaces `a` and `b`: `ensureResource` for the second
lists the network of the first, a pass records it as managed, and a delete pass over
the second deletes the load balancer of the first. -/
theorem namesakes_share :
    OwnClusters (twoTenants "c") ∧ emptyTwo.Initial (twoTenants "c") ∧
      (∃ c, (fleet (twoTenants "c") oneRegion).Reachable (.idle emptyTwo) c ∧
        ∃ tags next, c.slot (.cluster true) = some (.call (.list .network tags) next) ∧
          ∃ r ∈ c.world.cloud.listed .network tags,
            (false, .network, r.uuid) ∈ c.world.cloud.created) ∧
      (∃ fl, (fleet (twoTenants "c") oneRegion).Reachable (.idle emptyTwo) (.idle fl) ∧
        ∃ st ∈ fl.statuses true, ∃ e ∈ st.networks, e.managed = true ∧
          (false, .network, e.networkID) ∈ fl.cloud.created) ∧
      (∃ c, (fleet (twoTenants "c") oneRegion).Reachable (.idle emptyTwo) c ∧
        ∃ id next, c.slot (.cluster true) = some (.call (.delete .loadBalancer id) next) ∧
          (false, .loadBalancer, id) ∈ c.world.cloud.created) := by
  refine ⟨twoTenants_own "c", emptyTwo_initial _, ?_, ?_, ?_⟩
  · refine ⟨secondNew, secondNew_reachable, networkTags
      { name := "c", ns := "b" } "net", _, rfl, ?_⟩
    decide +kernel
  · refine ⟨bothDone "c", bothDone_reachable "c", ?_⟩
    decide +kernel
  -- the second cluster is deleted, and with it the load balancer of the first
  · have hfirst : firstDelete (clusterJob (twoTenants "c" true).cluster (dyingSecond "c")) =
        some (.loadBalancer, "xxx") := by
      decide +kernel
    obtain ⟨next, hnext⟩ := call_of_firstDelete hfirst
    have hslot : (secondDying "c").slot (.cluster true) =
        some (.call (.delete .loadBalancer "xxx") next) := by
      simp [secondDying, Runtime.Config.set, hnext]
    have hcreated : (false, Kind.loadBalancer, "xxx") ∈ (secondDying "c").world.cloud.created := by
      decide +kernel
    exact ⟨secondDying "c", secondDying_reachable "c", _, next, hslot, hcreated⟩

end Capcs.System
