import Capcs.Webhook.Admission

/-!
# Capcs.Webhook.ClusterTemplate — admission of CloudscaleClusterTemplates

`internal/webhook/v1beta2/cloudscaleclustertemplate_webhook.go`. A template shares defaults and
validation with clusters, except for the zone and the network list, which are filled in only for
clusters, since they depend on region and name.

`template_yields_clusters` says that these late defaults do no harm: a cluster made from an
accepted template is accepted.
-/

namespace Capcs.Webhook

open Cloudscale

/-- `CloudscaleClusterTemplate`: the spec it carries. -/
structure CloudscaleClusterTemplate where
  metadata : ObjectMeta
  spec : CloudscaleClusterSpec := {}
  deriving DecidableEq, Repr

/-- `CloudscaleClusterTemplateCustomDefaulter.Default`. -/
def templateDefault (t : CloudscaleClusterTemplate) : CloudscaleClusterTemplate :=
  { t with spec := clusterSpecDefault t.spec }

/-- `CloudscaleClusterTemplateCustomValidator.ValidateCreate`. -/
def templateValidateCreate (ri : RegionInfo) (t : CloudscaleClusterTemplate) : Review :=
  { warnings := checkSNATConfiguration t.spec
    errs := clusterSpecValidateCreate t.spec ri "spec.template.spec" }

/-- `CloudscaleClusterTemplateCustomValidator.ValidateUpdate`. -/
def templateValidateUpdate (oldTemplate newTemplate : CloudscaleClusterTemplate) : Review :=
  { warnings := []
    errs := errorIf (newTemplate.spec ≠ oldTemplate.spec)
      (.forbidden "spec" "CloudscaleClusterTemplate.Spec is immutable") }

/-! ## Paths -/

theorem validateAddressInCIDR_blind (cidr address : String) :
    PathBlind (validateAddressInCIDR cidr address) := by
  unfold validateAddressInCIDR
  cases Net.parsePrefix cidr with
  | none => exact .nil
  | some pfx =>
      cases Net.parseAddr address with
      | none => exact .singleton
      | some ip => exact .errorIf

theorem validateNetwork_blind (netSpec : NetworkSpec) : PathBlind (validateNetwork netSpec) :=
  .append (.append (.append .errorIf .errorIf) .errorIf)
    (.ite ((validateAddressInCIDR_blind _ _).below _) .nil)

theorem validateNetworksFrom_blind (networks : List NetworkSpec) (i : Nat) (names : List String) :
    PathBlind fun p => validateNetworksFrom p i names networks := by
  induction networks generalizing i names with
  | nil => exact .nil
  | cons netSpec rest ih =>
      exact .append (.append .errorIf ((validateNetwork_blind netSpec).below _)) (ih _ _)

theorem validateRouterInterface_blind (ifaceSpec : RouterInterfaceSpec)
    (networks : List NetworkSpec) (routerAdopted : Bool) :
    PathBlind (validateRouterInterface ifaceSpec networks routerAdopted) := by
  unfold validateRouterInterface
  cases lastByKey (·.name) networks ifaceSpec.network with
  | none => exact .singleton
  | some found =>
      exact .ite (.append .errorIf .errorIf)
        (.ite .singleton (.ite .nil ((validateAddressInCIDR_blind _ _).below _)))

theorem validateRouters_blind (routers : List RouterSpec) (networks : List NetworkSpec) :
    PathBlind (validateRouters routers networks) := by
  refine .errorsAt (fun routerSpec => ?_) routers
  have hifaces := PathBlind.errorsAt (fun ifaceSpec =>
    validateRouterInterface_blind ifaceSpec networks (routerSpec.uuid ≠ "")) routerSpec.interfaces
  exact .append .errorIf (hifaces.below fun p => p.child "interfaces")

theorem validateEndpointRules_blind (spec : CloudscaleClusterSpec) :
    PathBlind (validateEndpointRules spec) := by
  refine .append (.append (.append ?_ .errorIf) .errorIf) .errorIf
  cases spec.floatingIP with
  | none => exact .nil
  | some fip => exact .append .errorIf .errorIf

/-- A spec is accepted in a template exactly if it is accepted in a cluster. -/
theorem clusterSpecValidateCreate_blind (spec : CloudscaleClusterSpec) (ri : RegionInfo) :
    PathBlind (clusterSpecValidateCreate spec ri) :=
  .append (.append (.append (.append .errorIf
    ((validateNetworksFrom_blind spec.networks 0 []).below _))
    ((validateRouters_blind spec.routers spec.networks).below _))
    (.append (.ite .errorIf .nil) (.ite .errorIf .nil)))
    (validateEndpointRules_blind spec)

/-! ## Defaults -/

theorem orDefault_twice {α : Type} [DecidableEq α] (zero value default_ : α) :
    orDefault zero (orDefault zero value default_) default_ = orDefault zero value default_ := by
  unfold orDefault
  by_cases hvalue : value = zero
  · rw [if_pos hvalue]
    exact ite_self default_
  · rw [if_neg hvalue, if_neg hvalue]

theorem floatingIPDefault_twice (fip : FloatingIPSpec) :
    floatingIPDefault (floatingIPDefault fip) = floatingIPDefault fip := by
  by_cases hempty : fip.ipFamily = none ∧ fip.address = ""
  · have hset : floatingIPDefault fip = { fip with ipFamily := some .ipv4 } := if_pos hempty
    rw [hset]
    exact if_neg fun h => by simp at h
  · have hkept : floatingIPDefault fip = fip := if_neg hempty
    rw [hkept, hkept]

/-- Defaulting a template's spec again changes nothing. -/
theorem clusterSpecDefault_twice (spec : CloudscaleClusterSpec) :
    clusterSpecDefault (clusterSpecDefault spec) = clusterSpecDefault spec := by
  have hlb (lb : LoadBalancerSpec) :
      loadBalancerDefault (loadBalancerDefault lb) = loadBalancerDefault lb := by
    simp only [loadBalancerDefault, orDefault_twice]
  have hfip (fip : Option FloatingIPSpec) :
      (fip.map floatingIPDefault).map floatingIPDefault = fip.map floatingIPDefault := by
    cases fip with
    | none => rfl
    | some fip => exact congrArg some (floatingIPDefault_twice fip)
  simp only [clusterSpecDefault, hlb, hfip]

/-- What a cluster adds to the spec of its template. -/
def lateDefaults (ri : RegionInfo) (name : String) (spec : CloudscaleClusterSpec) :
    CloudscaleClusterSpec :=
  { spec with
    zone := orDefault "" spec.zone (ri.getDefaultZoneForRegion spec.region)
    networks := orDefault [] spec.networks [{ name, cidr := defaultSubnetCIDR }] }

theorem clusterDefault_spec {ri : RegionInfo} {c : CloudscaleCluster}
    {t : CloudscaleClusterTemplate} (hspec : c.spec = (templateDefault t).spec) :
    (clusterDefault ri c).spec = lateDefaults ri c.metadata.name c.spec := by
  have htwice : clusterSpecDefault c.spec = c.spec := by
    rw [hspec]
    exact clusterSpecDefault_twice t.spec
  have hlb : loadBalancerDefault c.spec.controlPlaneLoadBalancer =
      c.spec.controlPlaneLoadBalancer :=
    congrArg (·.controlPlaneLoadBalancer) htwice
  have hfip : c.spec.floatingIP.map floatingIPDefault = c.spec.floatingIP :=
    congrArg (·.floatingIP) htwice
  simp only [clusterDefault, clusterSpecDefault, lateDefaults, hlb, hfip]

/-! ## The rules after the late defaults -/

/-- The default network passes the network rules, whatever the name of the cluster. -/
theorem validateNetworks_default (name : String) (fldPath : Path) :
    validateNetworks [{ name, cidr := defaultSubnetCIDR }] fldPath = [] := by
  have hparse : (Net.parsePrefix defaultSubnetCIDR).isNone = false := by decide +kernel
  have hcidr : defaultSubnetCIDR ≠ "" := by decide
  simp [validateNetworks, validateNetworksFrom, validateNetwork, hparse, hcidr]

/-- Routers accepted without any networks have no interfaces. -/
theorem validateRouters_of_nil {routers : List RouterSpec} {fldPath : Path}
    (h : validateRouters routers [] fldPath = []) (networks : List NetworkSpec) :
    validateRouters routers networks fldPath = [] := by
  refine List.flatMap_eq_nil_iff.mpr fun e he => ?_
  have hrouter := List.flatMap_eq_nil_iff.mp h e he
  simp only [validateSingleRouter, List.append_eq_nil_iff] at hrouter ⊢
  refine ⟨hrouter.1, ?_⟩
  have hnone : e.1.interfaces = [] := by
    rw [List.eq_nil_iff_forall_not_mem]
    intro iface hiface
    obtain ⟨i, hi⟩ := errorsAt_eq_nil hrouter.2 hiface
    -- the reference to a network is not found
    exact absurd hi (List.cons_ne_nil _ _)
  rw [hnone]
  rfl

/-- References accepted without any networks are empty. -/
theorem validateLBReferences_of_nil {spec : CloudscaleClusterSpec} {fldPath : Path}
    (h : validateLBReferences spec fldPath = []) (hnil : spec.networks = []) :
    spec.controlPlaneLoadBalancer.network = "" ∧
      spec.controlPlaneLoadBalancer.poolMemberNetwork = "" := by
  simp only [validateLBReferences, hnil, List.append_eq_nil_iff] at h
  obtain ⟨hnetwork, hpool⟩ := h
  constructor
  · by_contra hne
    simp [hne, validateNetworkReference] at hnetwork
  · by_contra hne
    simp [hne, validateNetworkReference] at hpool

theorem validateEndpointRules_networks {spec : CloudscaleClusterSpec} {fldPath : Path}
    (h : validateEndpointRules spec fldPath = []) (zone : String) {networks : List NetworkSpec}
    (hlen : networks.length ≤ max 1 spec.networks.length) :
    validateEndpointRules { spec with zone, networks } fldPath = [] := by
  simp only [validateEndpointRules, List.append_eq_nil_iff] at h ⊢
  obtain ⟨⟨⟨hfip, hlb⟩, hpublic⟩, hpool⟩ := h
  refine ⟨⟨⟨hfip, hlb⟩, hpublic⟩, ?_⟩
  simp only [validateLBPoolMemberNetworkResolvable, errorIf_eq_nil] at hpool ⊢
  rintro ⟨henabled, hnetwork, hmember, hmany⟩
  exact hpool ⟨henabled, hnetwork, hmember, by omega⟩

/-- The late defaults keep a spec valid. -/
theorem validateCreate_lateDefaults {regions : List Region} (hzones : ZonesOnce regions)
    {spec : CloudscaleClusterSpec} {fldPath : Path} (name : String)
    (h : clusterSpecValidateCreate spec (newRegionInfo regions) fldPath = []) :
    clusterSpecValidateCreate (lateDefaults (newRegionInfo regions) name spec)
      (newRegionInfo regions) fldPath = [] := by
  simp only [clusterSpecValidateCreate, List.append_eq_nil_iff, errorIf_eq_nil] at h ⊢
  obtain ⟨⟨⟨⟨hzone, hnetworks⟩, hrouters⟩, hrefs⟩, hrules⟩ := h
  refine ⟨⟨⟨⟨?_, ?_⟩, ?_⟩, ?_⟩, ?_⟩
  · rintro ⟨hne, hnot⟩
    by_cases hempty : spec.zone = ""
    · -- the zone is the default one of the region
      simp only [lateDefaults, orDefault, if_pos hempty] at hne hnot
      exact hnot (defaultZone_belongs hzones hne)
    · simp only [lateDefaults, orDefault, if_neg hempty] at hne hnot
      exact hzone ⟨hne, hnot⟩
  all_goals by_cases hnil : spec.networks = []
  · simp only [lateDefaults, orDefault, if_pos hnil]
    exact validateNetworks_default name _
  · simpa only [lateDefaults, orDefault, if_neg hnil] using hnetworks
  · simp only [lateDefaults, orDefault, if_pos hnil]
    exact validateRouters_of_nil (hnil ▸ hrouters) _
  · simpa only [lateDefaults, orDefault, if_neg hnil] using hrouters
  · obtain ⟨hnetwork, hpool⟩ := validateLBReferences_of_nil hrefs hnil
    simp [validateLBReferences, lateDefaults, hnetwork, hpool]
  · simpa only [validateLBReferences, lateDefaults, orDefault, if_neg hnil] using hrefs
  · refine validateEndpointRules_networks hrules _ ?_
    simp [orDefault, hnil]
  · refine validateEndpointRules_networks hrules _ ?_
    simp only [orDefault, if_neg hnil]
    exact Nat.le_max_right _ _

/-- A cluster of any name with the stored spec of an accepted template is accepted, if no zone is
listed under two regions. -/
theorem template_yields_clusters {regions : List Region} (hzones : ZonesOnce regions)
    {t : CloudscaleClusterTemplate}
    (haccepted : (templateValidateCreate (newRegionInfo regions) (templateDefault t)).Accepted)
    {c : CloudscaleCluster} (hspec : c.spec = (templateDefault t).spec) :
    (clusterValidateCreate (newRegionInfo regions)
      (clusterDefault (newRegionInfo regions) c)).Accepted := by
  have htemplate := clusterSpecValidateCreate_blind (templateDefault t).spec (newRegionInfo regions)
    "spec.template.spec" "spec" haccepted
  show clusterSpecValidateCreate (clusterDefault (newRegionInfo regions) c).spec
    (newRegionInfo regions) "spec" = []
  rw [clusterDefault_spec hspec]
  exact validateCreate_lateDefaults hzones _ (hspec ▸ htemplate)

/-- A template that leaves everything to the defaults. -/
def bareTemplate : CloudscaleClusterTemplate :=
  { metadata := { name := "t", ns := "default" }, spec := { region := "rma" } }

/-- A cluster made from it. -/
def stampedCluster : CloudscaleCluster :=
  { metadata := { name := "c", ns := "default" }, spec := (templateDefault bareTemplate).spec }

theorem template_yields_clusters_bare :
    (clusterDefault oneRegion stampedCluster).spec.networks =
        [{ name := "c", cidr := "172.18.0.0/24" }] ∧
      (clusterValidateCreate oneRegion (clusterDefault oneRegion stampedCluster)).Accepted := by
  refine ⟨by decide, ?_⟩
  have hzones : ZonesOnce [{ slug := "rma", zones := ["rma1"] }] := by decide
  have haccepted :
      (templateValidateCreate oneRegion (templateDefault bareTemplate)).Accepted := by decide
  exact template_yields_clusters hzones haccepted rfl

end Capcs.Webhook
