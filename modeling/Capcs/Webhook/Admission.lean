import Capcs.Webhook.Cluster
import Mathlib.Data.List.Nodup
import Mathlib.Data.List.Pairwise

/-!
# Capcs.Webhook.Admission — what admission guarantees over time

`ValidateUpdate` repeats the create rules one by one and adds the immutability
rules. An `AdmittedRun` is a history of stored objects, each accepted over its
predecessor; everything in it satisfies the create rules, and an entry once
admitted stays as it was.

* `Extends` — how a later spec relates to an earlier one.
* `extends_of_update` — what one accepted update guarantees.
* `admission_invariant` — the whole history.
-/

namespace Capcs.Webhook

open Cloudscale

variable {ri : RegionInfo} {run : List CloudscaleCluster} {a b : CloudscaleClusterSpec} {p : Path}

/-! ## How specs may change -/

/-- A later router still is the earlier one, with all its interfaces. -/
structure RouterExtends (r r' : RouterSpec) : Prop where
  name : r'.name = r.name
  uuid : r'.uuid = r.uuid
  internetGateway : r'.internetGateway = r.internetGateway
  interfaces : ∀ iface ∈ r.interfaces, ∃ iface' ∈ r'.interfaces, iface'.network = iface.network ∧
    iface'.address = iface.address ∧ iface'.uuid = iface.uuid

/-- What is kept of a spec: networks and routers may only be added. -/
structure Extends (a b : CloudscaleClusterSpec) : Prop where
  region : b.region = a.region
  zone : b.zone = a.zone
  networks : ∀ n ∈ a.networks, ∃ n' ∈ b.networks, n'.name = n.name ∧ n'.uuid = n.uuid ∧
    n'.cidr = n.cidr ∧ n'.mtu = n.mtu ∧ n'.gatewayAddress = n.gatewayAddress
  routers : ∀ r ∈ a.routers, ∃ r' ∈ b.routers, RouterExtends r r'
  loadBalancer : b.controlPlaneLoadBalancer = a.controlPlaneLoadBalancer
  floatingIP : b.floatingIP = a.floatingIP
  endpoint : a.controlPlaneEndpoint.host ≠ "" → b.controlPlaneEndpoint = a.controlPlaneEndpoint

theorem RouterExtends.trans {r r' r'' : RouterSpec} (h : RouterExtends r r')
    (h' : RouterExtends r' r'') : RouterExtends r r'' where
  name := h'.name.trans h.name
  uuid := h'.uuid.trans h.uuid
  internetGateway := h'.internetGateway.trans h.internetGateway
  interfaces iface hi := by
    obtain ⟨iface', hi', hn, ha, hu⟩ := h.interfaces iface hi
    obtain ⟨iface'', hi'', hn', ha', hu'⟩ := h'.interfaces iface' hi'
    exact ⟨iface'', hi'', hn'.trans hn, ha'.trans ha, hu'.trans hu⟩

theorem Extends.refl (a : CloudscaleClusterSpec) : Extends a a where
  region := rfl
  zone := rfl
  networks n hn := ⟨n, hn, rfl, rfl, rfl, rfl, rfl⟩
  routers r hr := ⟨r, hr, rfl, rfl, rfl, fun i hi => ⟨i, hi, rfl, rfl, rfl⟩⟩
  loadBalancer := rfl
  floatingIP := rfl
  endpoint _ := rfl

theorem Extends.trans {a b c : CloudscaleClusterSpec} (h : Extends a b) (h' : Extends b c) :
    Extends a c where
  region := h'.region.trans h.region
  zone := h'.zone.trans h.zone
  networks n hn := by
    obtain ⟨n', hn', h1, h2, h3, h4, h5⟩ := h.networks n hn
    obtain ⟨n'', hn'', h1', h2', h3', h4', h5'⟩ := h'.networks n' hn'
    exact ⟨n'', hn'', h1'.trans h1, h2'.trans h2, h3'.trans h3, h4'.trans h4, h5'.trans h5⟩
  routers r hr := by
    obtain ⟨r', hr', hext⟩ := h.routers r hr
    obtain ⟨r'', hr'', hext'⟩ := h'.routers r' hr'
    exact ⟨r'', hr'', hext.trans hext'⟩
  loadBalancer := h'.loadBalancer.trans h.loadBalancer
  floatingIP := h'.floatingIP.trans h.floatingIP
  endpoint hhost := by
    have hb := h.endpoint hhost
    rw [h'.endpoint (hb ▸ hhost), hb]

/-! ## One accepted update -/

theorem network_kept {networks : List NetworkSpec} {n : NetworkSpec}
    (h : validateNetworkKept networks p n = []) : ∃ n' ∈ networks, n'.name = n.name ∧
      n'.uuid = n.uuid ∧ n'.cidr = n.cidr ∧ n'.mtu = n.mtu ∧
        n'.gatewayAddress = n.gatewayAddress := by
  unfold validateNetworkKept at h
  split at h
  · cases h
  · next n' i hlast =>
      obtain ⟨hmem, hname⟩ := mem_of_lastByKey hlast
      simp only [List.append_eq_nil_iff, errorIf_eq_nil, ne_eq, not_not] at h
      obtain ⟨⟨⟨hcidr, huuid⟩, hmtu⟩, hgw⟩ := h
      exact ⟨n', hmem, hname, huuid, hcidr, hmtu, hgw⟩

theorem interface_kept {router : RouterSpec} {iface : RouterInterfaceSpec}
    (h : validateInterfaceKept router p iface = []) :
    ∃ iface' ∈ router.interfaces, iface'.network = iface.network ∧
      iface'.address = iface.address ∧ iface'.uuid = iface.uuid := by
  unfold validateInterfaceKept at h
  split at h
  · cases h
  · next iface' i hlast =>
      obtain ⟨hmem, hnet⟩ := mem_of_lastByKey hlast
      simp only [List.append_eq_nil_iff, errorIf_eq_nil, ne_eq, not_not] at h
      exact ⟨iface', hmem, hnet, h.1, h.2⟩

theorem router_kept {routers : List RouterSpec} {r : RouterSpec}
    (h : validateRouterKept routers p r = []) : ∃ r' ∈ routers, RouterExtends r r' := by
  unfold validateRouterKept at h
  split at h
  · cases h
  · next r' i hlast =>
      obtain ⟨hmem, hname⟩ := mem_of_lastByKey hlast
      simp only [List.append_eq_nil_iff, errorIf_eq_nil, ne_eq, not_not,
        List.flatMap_eq_nil_iff] at h
      obtain ⟨⟨huuid, hgw⟩, hifaces⟩ := h
      exact ⟨r', hmem, hname, huuid, hgw, fun iface hi => interface_kept (hifaces iface hi)⟩

theorem floatingIP_kept {old new : Option FloatingIPSpec}
    (h : validateFloatingIPImmutability old new p = []) : new = old := by
  match old, new, h with
  | none, none, _ => rfl
  | some old, some new, h =>
      simp only [validateFloatingIPImmutability, List.append_eq_nil_iff, errorIf_eq_nil, ne_eq,
        not_not] at h
      obtain ⟨haddr, hfam⟩ := h
      cases old
      cases new
      simp_all

theorem endpoint_kept {old new : APIEndpoint} (h : validateEndpointImmutability old new p = [])
    (hhost : old.host ≠ "") : new = old := by
  simp only [validateEndpointImmutability, hhost, ne_eq, not_false_eq_true, if_true,
    List.append_eq_nil_iff, errorIf_eq_nil, not_not] at h
  cases old
  cases new
  simp_all

/-- Enabling is compared through its default, so both specs have to be defaulted. -/
theorem loadBalancer_kept {old new : LoadBalancerSpec} (hold : old.enabled.isSome)
    (hnew : new.enabled.isSome) (henabled : new.isEnabled = old.isEnabled)
    (hnetwork : new.network = old.network) (h : validateLBImmutability old new p = []) :
    new = old := by
  simp only [validateLBImmutability, List.append_eq_nil_iff, errorIf_eq_nil, ne_eq, not_not] at h
  obtain ⟨⟨⟨⟨⟨⟨⟨halg, hflavor⟩, hport⟩, hpool⟩, hdelay⟩, htimeout⟩, hup⟩, hdown⟩ := h
  obtain ⟨b, hb⟩ := Option.isSome_iff_exists.mp hold
  obtain ⟨b', hb'⟩ := Option.isSome_iff_exists.mp hnew
  obtain ⟨_, _, _, _, _, _, ⟨_, _, _, _⟩⟩ := old
  obtain ⟨_, _, _, _, _, _, ⟨_, _, _, _⟩⟩ := new
  simp_all [LoadBalancerSpec.isEnabled]

/-- The parts of an accepted update. -/
structure UpdateChecks (a b : CloudscaleClusterSpec) : Prop where
  keeps : Extends a b
  networks : validateNetworks b.networks "spec.networks" = []
  routers : validateRouters b.routers b.networks "spec.routers" = []
  references : validateLBReferences b "spec" = []
  rules : validateEndpointRules b "spec" = []

theorem extends_of_update (ha : a.controlPlaneLoadBalancer.enabled.isSome)
    (hb : b.controlPlaneLoadBalancer.enabled.isSome) (h : clusterSpecValidateUpdate a b = []) :
    UpdateChecks a b := by
  simp only [clusterSpecValidateUpdate, List.append_eq_nil_iff, errorIf_eq_nil, ne_eq, not_not] at h
  obtain ⟨⟨⟨⟨⟨⟨⟨⟨⟨⟨⟨⟨hregion, hzone⟩, hnets⟩, hvnets⟩, hrouters⟩, hdiff⟩, henabled⟩, hnetwork⟩,
    hlb⟩, href⟩, hend⟩, hfip⟩, hrules⟩ := h
  refine ⟨?_, hvnets, hrouters, href, hrules⟩
  exact {
    region := hregion
    zone := hzone
    networks := fun n hn => network_kept (List.flatMap_eq_nil_iff.mp hnets n hn)
    routers := fun r hr => router_kept (List.flatMap_eq_nil_iff.mp hdiff r hr)
    loadBalancer := loadBalancer_kept ha hb henabled hnetwork hlb
    floatingIP := floatingIP_kept hfip
    endpoint := endpoint_kept hend }

/-- An accepted update of a spec that passes the create rules passes them again. -/
theorem validateCreate_of_update (ha : clusterSpecValidateCreate a ri "spec" = [])
    (h : UpdateChecks a b) :
    clusterSpecValidateCreate b ri "spec" = [] := by
  simp only [clusterSpecValidateCreate, List.append_eq_nil_iff, errorIf_eq_nil] at ha ⊢
  obtain ⟨⟨⟨⟨hzone, -⟩, -⟩, -⟩, -⟩ := ha
  refine ⟨⟨⟨⟨?_, h.networks⟩, h.routers⟩, h.references⟩, h.rules⟩
  -- region and zone are those of the old spec
  rw [h.keeps.zone, h.keeps.region]
  exact hzone

/-! ## Histories -/

/-- The list-map keys of a spec, which the schema makes unique. -/
def UniqueKeys (spec : CloudscaleClusterSpec) : Prop :=
  (spec.routers.map (·.name)).Nodup ∧
    ∀ r ∈ spec.routers, (r.interfaces.map (·.network)).Nodup

instance (spec : CloudscaleClusterSpec) : Decidable (UniqueKeys spec) :=
  inferInstanceAs (Decidable (_ ∧ _))

/-- The objects stored under one name, oldest first. -/
inductive AdmittedRun (ri : RegionInfo) : List CloudscaleCluster → Prop where
  | create {c : CloudscaleCluster} : UniqueKeys (clusterDefault ri c).spec →
      (clusterValidateCreate ri (clusterDefault ri c)).Accepted →
      AdmittedRun ri [clusterDefault ri c]
  | update {run : List CloudscaleCluster} {prev c : CloudscaleCluster} :
      AdmittedRun ri (run ++ [prev]) → UniqueKeys (clusterDefault ri c).spec →
      (clusterValidateUpdate prev (clusterDefault ri c)).Accepted →
      AdmittedRun ri (run ++ [prev, clusterDefault ri c])

theorem clusterDefault_enabled (ri : RegionInfo) (c : CloudscaleCluster) :
    (clusterDefault ri c).spec.controlPlaneLoadBalancer.enabled.isSome := by
  show (orDefault none c.spec.controlPlaneLoadBalancer.enabled (some true)).isSome
  unfold orDefault
  split
  · rfl
  · next h => exact Option.isSome_iff_ne_none.mpr h

/-- What holds of a history: each object is defaulted and passes the create rules,
and each extends those before it. -/
structure Coherent (ri : RegionInfo) (run : List CloudscaleCluster) : Prop where
  enabled : ∀ c ∈ run, c.spec.controlPlaneLoadBalancer.enabled.isSome
  keys : ∀ c ∈ run, UniqueKeys c.spec
  valid : ∀ c ∈ run, clusterSpecValidateCreate c.spec ri "spec" = []
  grows : run.Pairwise fun a b => Extends a.spec b.spec

theorem Coherent.update {prev c : CloudscaleCluster} (h : Coherent ri (run ++ [prev]))
    (hkeys : UniqueKeys (clusterDefault ri c).spec)
    (hacc : (clusterValidateUpdate prev (clusterDefault ri c)).Accepted) :
    Coherent ri (run ++ [prev, clusterDefault ri c]) := by
  have hprev : prev ∈ run ++ [prev] := by simp
  have hchecks : UpdateChecks prev.spec (clusterDefault ri c).spec :=
    extends_of_update (h.enabled prev hprev) (clusterDefault_enabled ri c) hacc
  have hlist : run ++ [prev, clusterDefault ri c] = (run ++ [prev]) ++ [clusterDefault ri c] := by
    simp
  rw [hlist]
  refine ⟨?_, ?_, ?_, ?_⟩
  · intro c' hc'
    rcases List.mem_append.mp hc' with hc' | hc'
    · exact h.enabled c' hc'
    · exact List.mem_singleton.mp hc' ▸ clusterDefault_enabled ri c
  · intro c' hc'
    rcases List.mem_append.mp hc' with hc' | hc'
    · exact h.keys c' hc'
    · exact List.mem_singleton.mp hc' ▸ hkeys
  · intro c' hc'
    rcases List.mem_append.mp hc' with hc' | hc'
    · exact h.valid c' hc'
    · exact List.mem_singleton.mp hc' ▸ validateCreate_of_update (h.valid prev hprev) hchecks
  · -- every older object is extended by `prev`, or is `prev`
    refine List.pairwise_append.mpr ⟨h.grows, List.pairwise_singleton _ _, ?_⟩
    intro a ha b hb
    rw [List.mem_singleton.mp hb]
    rcases List.mem_append.mp ha with ha | ha
    · have hold := (List.pairwise_append.mp h.grows).2.2 a ha prev (by simp)
      exact hold.trans hchecks.keeps
    · exact List.mem_singleton.mp ha ▸ hchecks.keeps

theorem AdmittedRun.coherent (h : AdmittedRun ri run) : Coherent ri run := by
  induction h with
  | @create c hkeys hacc =>
      refine ⟨?_, ?_, ?_, List.pairwise_singleton _ _⟩
      · exact fun c' hc' => List.mem_singleton.mp hc' ▸ clusterDefault_enabled ri c
      · exact fun c' hc' => List.mem_singleton.mp hc' ▸ hkeys
      · exact fun c' hc' => List.mem_singleton.mp hc' ▸ hacc
  | update _ hkeys hacc ih => exact ih.update hkeys hacc

/-- The zone of a cluster never changes. -/
theorem AdmittedRun.zone_eq {first : CloudscaleCluster} {rest : List CloudscaleCluster}
    (h : AdmittedRun ri (first :: rest)) {c : CloudscaleCluster} (hc : c ∈ first :: rest) :
    c.spec.zone = first.spec.zone := by
  rcases List.mem_cons.mp hc with rfl | hc
  · rfl
  · exact ((List.pairwise_cons.mp h.coherent.grows).1 c hc).zone

theorem AdmittedRun.ne_nil (h : AdmittedRun ri run) :
    run ≠ [] := by
  cases h <;> simp

/-! ## Names over time -/

theorem networksFrom_nodup (networks : List NetworkSpec) :
    ∀ (i : Nat) (names : List String), validateNetworksFrom p i names networks = [] →
      (networks.map (·.name)).Nodup ∧ ∀ n ∈ networks, n.name ∉ names := by
  induction networks with
  | nil => intro i names _; simp
  | cons n rest ih =>
      intro i names h
      simp only [validateNetworksFrom, List.append_eq_nil_iff, errorIf_eq_nil] at h
      obtain ⟨⟨hnew, -⟩, hrest⟩ := h
      obtain ⟨hnodup, hnames⟩ := ih (i + 1) (n.name :: names) hrest
      refine ⟨List.nodup_cons.mpr ⟨?_, hnodup⟩, ?_⟩
      · intro hmem
        obtain ⟨n', hn', heq⟩ := List.mem_map.mp hmem
        exact hnames n' hn' (heq ▸ List.mem_cons_self)
      · intro n' hn'
        rcases List.mem_cons.mp hn' with rfl | hn'
        · exact hnew
        · exact fun hmem => hnames n' hn' (List.mem_cons_of_mem _ hmem)

/-- The names of the networks of an accepted spec are distinct. -/
theorem networkNames_nodup {spec : CloudscaleClusterSpec}
    (h : clusterSpecValidateCreate spec ri "spec" = []) : (spec.networks.map (·.name)).Nodup := by
  simp only [clusterSpecValidateCreate, List.append_eq_nil_iff] at h
  exact (networksFrom_nodup _ _ _ h.1.1.1.2).1

/-- Two specs agree on which networks and routers are pre-existing, and on the
floating IP. -/
structure Agree (a b : CloudscaleClusterSpec) : Prop where
  networks : ∀ n ∈ a.networks, ∀ n' ∈ b.networks, n.name = n'.name → n.uuid = n'.uuid
  routers : ∀ r ∈ a.routers, ∀ r' ∈ b.routers, r.name = r'.name → r.uuid = r'.uuid
  floatingIP : a.floatingIP = b.floatingIP

theorem Agree.symm (h : Agree a b) : Agree b a where
  networks n hn n' hn' he := (h.networks n' hn' n hn he.symm).symm
  routers r hr r' hr' he := (h.routers r' hr' r hr he.symm).symm
  floatingIP := h.floatingIP.symm

theorem Extends.agree (h : Extends a b) (hnet : (b.networks.map (·.name)).Nodup)
    (hrouter : (b.routers.map (·.name)).Nodup) :
    Agree a b where
  networks n hn n' hn' he := by
    obtain ⟨n'', hn'', hname, huuid, -⟩ := h.networks n hn
    -- the entry of that name is the one that was kept
    have hsame : n'' = n' := List.inj_on_of_nodup_map hnet hn'' hn' (hname.trans he)
    rw [← hsame, huuid]
  routers r hr r' hr' he := by
    obtain ⟨r'', hr'', hext⟩ := h.routers r hr
    have hsame : r'' = r' := List.inj_on_of_nodup_map hrouter hr'' hr' (hext.name.trans he)
    rw [← hsame, hext.uuid]
  floatingIP := h.floatingIP.symm

/-- All specs of a history agree. -/
theorem Coherent.agree (h : Coherent ri run) :
    ∀ a ∈ run, ∀ b ∈ run, Agree a.spec b.spec := by
  have hself : ∀ a ∈ run, Agree a.spec a.spec := by
    intro a ha
    have hnet := networkNames_nodup (h.valid a ha)
    have hrouter := (h.keys a ha).1
    refine ⟨fun n hn n' hn' he => ?_, fun r hr r' hr' he => ?_, rfl⟩
    · rw [List.inj_on_of_nodup_map hnet hn hn' he]
    · rw [List.inj_on_of_nodup_map hrouter hr hr' he]
  have hpair : run.Pairwise fun a b => Agree a.spec b.spec :=
    h.grows.imp_of_mem fun _ hb hext =>
      hext.agree (networkNames_nodup (h.valid _ hb)) (h.keys _ hb).1
  have : Std.Symm fun a b : CloudscaleCluster => Agree a.spec b.spec := ⟨fun _ _ h => h.symm⟩
  intro a ha b hb
  exact hpair.forall_of_forall hself ha hb

/-! ## The invariant -/

/-- Every stored spec passes the create rules, and contains what every earlier one
was admitted with. -/
theorem admission_invariant (h : AdmittedRun ri run) :
    (∀ c ∈ run, clusterSpecValidateCreate c.spec ri "spec" = []) ∧
      run.Pairwise fun a b => Extends a.spec b.spec :=
  ⟨h.coherent.valid, h.coherent.grows⟩

/-- One region with one zone. -/
def oneRegion : RegionInfo := newRegionInfo [{ slug := "rma", zones := ["rma1"] }]

/-- A cluster with one network, which its pool members are on. -/
def smallCluster : CloudscaleCluster :=
  { metadata := { name := "c", ns := "default" }
    spec := { region := "rma", networks := [{ name := "net", cidr := "10.0.0.0/24" }]
              controlPlaneLoadBalancer := { poolMemberNetwork := "net" } } }

/-- The cluster as it is stored. -/
def storedCluster : CloudscaleCluster := clusterDefault oneRegion smallCluster

/-- The same cluster with a router on a second network, listed first. -/
def grownCluster : CloudscaleCluster :=
  { smallCluster with
    spec := { smallCluster.spec with
      networks := [{ name := "dmz", cidr := "10.1.0.0/24", gatewayAddress := "10.1.0.1" },
        { name := "net", cidr := "10.0.0.0/24" }]
      routers := [{ name := "r", internetGateway := true
                    interfaces := [{ network := "dmz", address := "10.1.0.1" }] }] } }

/-- The history of creating the small cluster and growing it. -/
theorem admission_invariant_grown :
    AdmittedRun oneRegion [storedCluster, clusterDefault oneRegion grownCluster] ∧
      Extends storedCluster.spec (clusterDefault oneRegion grownCluster).spec := by
  have hrun : AdmittedRun oneRegion
      ([] ++ [storedCluster, clusterDefault oneRegion grownCluster]) :=
    .update (.create (by decide) (by decide)) (by decide) (by decide)
  exact ⟨hrun, List.rel_of_pairwise_cons (admission_invariant hrun).2 (by simp)⟩

end Capcs.Webhook
