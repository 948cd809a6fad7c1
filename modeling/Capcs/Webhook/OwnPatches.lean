import Capcs.Webhook.Admission
import Capcs.Webhook.Machine

/-!
# Capcs.Webhook.OwnPatches — the controllers' own patches pass admission

Every patch of a controller goes through the defaulter and `ValidateUpdate` again. Defaulting is
a fixpoint on what is stored, and what a pass writes is not covered by the immutability rules, so
such a patch is accepted whatever the object looks like (`own_patches_admitted`).
-/

namespace Capcs.Webhook

open Cloudscale

/-! ## Defaulting twice -/

theorem orDefault_orDefault {α : Type} [DecidableEq α] (zero value default_ : α) :
    orDefault zero (orDefault zero value default_) default_ = orDefault zero value default_ := by
  unfold orDefault
  split_ifs <;> simp_all

theorem loadBalancerDefault_idem (lb : LoadBalancerSpec) :
    loadBalancerDefault (loadBalancerDefault lb) = loadBalancerDefault lb := by
  simp only [loadBalancerDefault, orDefault_orDefault]

theorem floatingIPDefault_idem (fip : FloatingIPSpec) :
    floatingIPDefault (floatingIPDefault fip) = floatingIPDefault fip := by
  unfold floatingIPDefault
  split_ifs <;> simp_all

theorem clusterSpecDefault_idem (spec : CloudscaleClusterSpec) :
    clusterSpecDefault (clusterSpecDefault spec) = clusterSpecDefault spec := by
  simp only [clusterSpecDefault, loadBalancerDefault_idem, Option.map_map]
  congr 2
  funext fip
  exact floatingIPDefault_idem fip

theorem clusterDefault_idem (ri : RegionInfo) (c : CloudscaleCluster) :
    clusterDefault ri (clusterDefault ri c) = clusterDefault ri c := by
  have hspec := clusterSpecDefault_idem { c.spec with
    zone := orDefault "" c.spec.zone (ri.getDefaultZoneForRegion c.spec.region)
    networks := orDefault [] c.spec.networks
      [{ name := c.metadata.name, cidr := defaultSubnetCIDR }] }
  simp only [clusterSpecDefault, CloudscaleClusterSpec.mk.injEq] at hspec
  simp only [clusterDefault, clusterSpecDefault, orDefault_orDefault, hspec]

theorem defaultInterfaceIPFamily_idem (interfaces : List InterfaceSpec) :
    defaultInterfaceIPFamily (defaultInterfaceIPFamily interfaces) =
      defaultInterfaceIPFamily interfaces := by
  simp only [defaultInterfaceIPFamily, List.map_map]
  refine List.map_congr_left fun iface _ => ?_
  simp only [Function.comp_apply]
  split_ifs <;> simp_all

/-! ## Clusters -/

/-- What a pass over a cluster writes: finalizers, the endpoint and the status. -/
def clusterWritten (finalizers : List String) (endpoint : APIEndpoint)
    (status : CloudscaleClusterStatus) (c : CloudscaleCluster) : CloudscaleCluster :=
  { c with
    metadata := { c.metadata with finalizers }
    spec := { c.spec with controlPlaneEndpoint := endpoint }
    status }

/-- Defaulting has nothing to do with what a pass writes. -/
theorem clusterDefault_written (ri : RegionInfo) (finalizers : List String) (endpoint : APIEndpoint)
    (status : CloudscaleClusterStatus) (c : CloudscaleCluster) :
    clusterDefault ri (clusterWritten finalizers endpoint status c) =
      clusterWritten finalizers endpoint status (clusterDefault ri c) := rfl

/-- An entry of a list with unique keys is the last of its key. -/
theorem lastByKey_self {α : Type} {key : α → String} {l : List α} (hkeys : (l.map key).Nodup)
    {a : α} (ha : a ∈ l) : ∃ i, lastByKey key l (key a) = some (a, i) := by
  have hsome : ∃ p, lastByKey key l (key a) = some p := exists_lastByKey ha
  obtain ⟨⟨b, i⟩, hlast⟩ := hsome
  obtain ⟨hb, hkey⟩ := mem_of_lastByKey hlast
  exact ⟨i, List.inj_on_of_nodup_map hkeys hb ha hkey ▸ hlast⟩

theorem validateNetworkImmutability_self {networks : List NetworkSpec} {p : Path}
    (hkeys : (networks.map (·.name)).Nodup) :
    validateNetworkImmutability networks networks p = [] := by
  refine List.flatMap_eq_nil_iff.mpr fun n hn => ?_
  obtain ⟨i, hlast⟩ := lastByKey_self hkeys hn
  simp [validateNetworkKept, hlast]

theorem validateRouterDiff_self {routers : List RouterSpec} {p : Path}
    (hkeys : (routers.map (·.name)).Nodup)
    (hifaces : ∀ r ∈ routers, (r.interfaces.map (·.network)).Nodup) :
    validateRouterDiff routers routers p = [] := by
  refine List.flatMap_eq_nil_iff.mpr fun r hr => ?_
  obtain ⟨i, hlast⟩ := lastByKey_self hkeys hr
  simp only [validateRouterKept, hlast, List.append_eq_nil_iff, errorIf_eq_nil, ne_eq,
    not_true_eq_false, not_false_eq_true, true_and, List.flatMap_eq_nil_iff]
  intro iface hiface
  obtain ⟨j, hlast⟩ := lastByKey_self (hifaces r hr) hiface
  simp [validateInterfaceKept, hlast]

theorem validateLBImmutability_self (lb : LoadBalancerSpec) (p : Path) :
    validateLBImmutability lb lb p = [] := by
  simp [validateLBImmutability]

theorem validateFloatingIPImmutability_self (fip : Option FloatingIPSpec) (p : Path) :
    validateFloatingIPImmutability fip fip p = [] := by
  cases fip <;> simp [validateFloatingIPImmutability]

theorem validateEndpointImmutability_once {old new : APIEndpoint} {p : Path}
    (honce : new = old ∨ old.host = "") : validateEndpointImmutability old new p = [] := by
  rcases honce with rfl | hempty
  · simp [validateEndpointImmutability]
  · simp [validateEndpointImmutability, hempty]

/-- A spec that passes the create rules passes the update rules over itself, with the endpoint
set. -/
theorem clusterSpecValidateUpdate_own {ri : RegionInfo} {spec : CloudscaleClusterSpec}
    {endpoint : APIEndpoint} (hvalid : clusterSpecValidateCreate spec ri "spec" = [])
    (hkeys : UniqueKeys spec)
    (honce : endpoint = spec.controlPlaneEndpoint ∨ spec.controlPlaneEndpoint.host = "") :
    clusterSpecValidateUpdate spec { spec with controlPlaneEndpoint := endpoint } = [] := by
  have hnames := networkNames_nodup hvalid
  simp only [clusterSpecValidateCreate, List.append_eq_nil_iff] at hvalid
  obtain ⟨⟨⟨⟨-, hnets⟩, hrouters⟩, hrefs⟩, hrules⟩ := hvalid
  simp only [clusterSpecValidateUpdate, List.append_eq_nil_iff, errorIf_eq_nil, ne_eq,
    not_true_eq_false,
    not_false_eq_true, true_and, and_true, validateNetworkImmutability_self hnames,
    validateRouterDiff_self hkeys.1 hkeys.2, validateLBImmutability_self,
    validateFloatingIPImmutability_self, validateEndpointImmutability_once honce]
  exact ⟨⟨⟨hnets, hrouters⟩, hrefs⟩, hrules⟩

theorem AdmittedRun.fixed {ri : RegionInfo} {run : List CloudscaleCluster}
    (h : AdmittedRun ri run) :
    ∀ c ∈ run, clusterDefault ri c = c := by
  induction h with
  | create =>
      intro c hc
      rw [List.mem_singleton.mp hc]
      exact clusterDefault_idem ..
  | @update run prev d _ _ _ ih =>
      intro c hc
      rcases List.mem_append.mp hc with hc | hc
      · exact ih c (List.mem_append_left _ hc)
      · rcases List.mem_cons.mp hc with rfl | hc
        · exact ih c (by simp)
        · rw [List.mem_singleton.mp hc]
          exact clusterDefault_idem ..

/-! ## Machines -/

/-- The machines stored under one name, oldest first. -/
inductive AdmittedMachineRun (flavorInfo : Option FlavorInfo) : List CloudscaleMachine → Prop where
  | create {m : CloudscaleMachine} :
      (machineValidateCreate flavorInfo (machineDefault m)).Accepted →
      AdmittedMachineRun flavorInfo [machineDefault m]
  | update {run : List CloudscaleMachine} {prev m : CloudscaleMachine} :
      AdmittedMachineRun flavorInfo (run ++ [prev]) →
      (machineValidateUpdate prev (machineDefault m)).Accepted →
      AdmittedMachineRun flavorInfo (run ++ [prev, machineDefault m])

/-- What a pass over a machine writes: finalizers, the provider ID and the status. -/
def machineWritten (finalizers : List String) (providerID : Option String)
    (status : CloudscaleMachineStatus) (m : CloudscaleMachine) : CloudscaleMachine :=
  { m with
    metadata := { m.metadata with finalizers }
    spec := { m.spec with providerID }
    status }

theorem machineDefault_idem (m : CloudscaleMachine) :
    machineDefault (machineDefault m) = machineDefault m := by
  simp only [machineDefault, defaultInterfaceIPFamily_idem]

theorem machineDefault_written (finalizers : List String) (providerID : Option String)
    (status : CloudscaleMachineStatus) (m : CloudscaleMachine) :
    machineDefault (machineWritten finalizers providerID status m) =
      machineWritten finalizers providerID status (machineDefault m) := rfl

/-- A stored machine is defaulted, and its tags are accepted. -/
theorem AdmittedMachineRun.fixed {flavorInfo : Option FlavorInfo} {run : List CloudscaleMachine}
    (h : AdmittedMachineRun flavorInfo run) :
    ∀ m ∈ run, machineDefault m = m ∧ validateTags m.spec.tags (Path.child "spec" "tags") = [] := by
  induction h with
  | create hacc =>
      intro m hm
      rw [List.mem_singleton.mp hm]
      have herrs : validateMachineSpec _ _ _ = [] := hacc
      simp only [validateMachineSpec, List.append_eq_nil_iff] at herrs
      exact ⟨machineDefault_idem _, herrs.1.2⟩
  | @update run prev d _ hacc ih =>
      intro m hm
      rcases List.mem_append.mp hm with hm | hm
      · exact ih m (List.mem_append_left _ hm)
      · rcases List.mem_cons.mp hm with rfl | hm
        · exact ih m (by simp)
        · rw [List.mem_singleton.mp hm]
          have herrs : validateMachineSpecUpdate _ _ _ = [] := hacc
          simp only [validateMachineSpecUpdate, List.append_eq_nil_iff] at herrs
          exact ⟨machineDefault_idem _, herrs.2⟩

/-! ## The result -/

/-- What a pass over a stored cluster writes is accepted, if the endpoint is set at most once. -/
theorem AdmittedRun.patch_accepted {ri : RegionInfo} {run : List CloudscaleCluster}
    (h : AdmittedRun ri run) {c : CloudscaleCluster} (hc : c ∈ run) {finalizers : List String}
    {endpoint : APIEndpoint} {status : CloudscaleClusterStatus}
    (honce : endpoint = c.spec.controlPlaneEndpoint ∨ c.spec.controlPlaneEndpoint.host = "") :
    (clusterValidateUpdate c
      (clusterDefault ri (clusterWritten finalizers endpoint status c))).Accepted := by
  rw [clusterDefault_written, h.fixed c hc]
  exact clusterSpecValidateUpdate_own (h.coherent.valid c hc) (h.coherent.keys c hc) honce

/-- Over a stored machine, if the provider ID is. -/
theorem AdmittedMachineRun.patch_accepted {flavorInfo : Option FlavorInfo}
    {run : List CloudscaleMachine} (h : AdmittedMachineRun flavorInfo run) {m : CloudscaleMachine}
    (hm : m ∈ run) {finalizers : List String} {providerID : Option String}
    {status : CloudscaleMachineStatus}
    (honce : providerID = m.spec.providerID ∨ m.spec.providerID = none) :
    (machineValidateUpdate m
      (machineDefault (machineWritten finalizers providerID status m))).Accepted := by
  obtain ⟨hfixed, htags⟩ := h.fixed m hm
  rw [machineDefault_written, hfixed]
  show validateMachineSpecUpdate _ _ _ = []
  have honce : ¬ (m.spec.providerID ≠ none ∧ providerID ≠ m.spec.providerID) := by
    rintro ⟨hset, hne⟩
    exact honce.elim hne hset
  simp only [validateMachineSpecUpdate, machineWritten, List.append_eq_nil_iff, errorIf_eq_nil,
    ne_eq, not_true_eq_false, not_false_eq_true, true_and, and_true]
  exact ⟨errorIf_eq_nil.mpr honce, htags⟩

/-- Defaulting changes nothing that is stored, and `ValidateUpdate` accepts every patch of a pass:
over a cluster, with the endpoint set at most once, and over a machine, with the provider ID set at
most once. -/
theorem own_patches_admitted :
    (∀ ri run, AdmittedRun ri run → ∀ c ∈ run, clusterDefault ri c = c ∧
      ∀ finalizers endpoint status,
        endpoint = c.spec.controlPlaneEndpoint ∨ c.spec.controlPlaneEndpoint.host = "" →
        (clusterValidateUpdate c
          (clusterDefault ri (clusterWritten finalizers endpoint status c))).Accepted) ∧
    (∀ flavorInfo run, AdmittedMachineRun flavorInfo run → ∀ m ∈ run, machineDefault m = m ∧
      ∀ finalizers providerID status,
        providerID = m.spec.providerID ∨ m.spec.providerID = none →
        (machineValidateUpdate m
          (machineDefault (machineWritten finalizers providerID status m))).Accepted) := by
  refine ⟨fun ri run h c hc => ⟨h.fixed c hc, ?_⟩, fun flavorInfo run h m hm =>
    ⟨(h.fixed m hm).1, ?_⟩⟩
  · exact fun finalizers endpoint status => h.patch_accepted hc
  · exact fun finalizers providerID status => h.patch_accepted hm

/-- A machine of the cluster. -/
def smallMachine : CloudscaleMachine := { metadata := { name := "m", ns := "default" } }

/-- The first patches of a pass over a new cluster (the finalizer, the endpoint and some status)
and over a new machine (the finalizer, the provider ID and some status). -/
theorem own_patches_admitted_small :
    (clusterValidateUpdate storedCluster (clusterDefault oneRegion
      (clusterWritten [clusterFinalizer] { host := "192.0.2.1", port := 6443 }
        { loadBalancerID := "lb" } storedCluster))).Accepted ∧
    (machineValidateUpdate (machineDefault smallMachine) (machineDefault
      (machineWritten [machineFinalizer] (some "cloudscale://srv") { serverID := "srv" }
        (machineDefault smallMachine)))).Accepted := by
  constructor
  · exact (own_patches_admitted.1 oneRegion _ (.create (by decide) (by decide)) _
      (List.mem_singleton.mpr rfl)).2 _ _ _ (.inr (by decide))
  · exact (own_patches_admitted.2 none _ (.create (by decide)) _
      (List.mem_singleton.mpr rfl)).2 _ _ _ (.inr rfl)

end Capcs.Webhook
