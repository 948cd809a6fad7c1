import Capcs.Mirror.Networks
import Capcs.Readiness.Networks
import Capcs.References.Lookups
import Capcs.Webhook.Admission

/-!
# Capcs.References.Resolve — where the references of an admitted spec lead

The webhook checks references against the names in the spec, the controller looks them up in the
entries of status. The two meet in the invariant that every entry is about a network of the spec:

* after the network step each network of the spec has an entry with both IDs, hence every entry
  has, and all lookups succeed (`resolved_after`);
* the pool members are on one network, whatever the order of the entries (`poolSubnet_recorded`).
-/

namespace Capcs.References

open Cloudscale Controller Webhook
open Readiness (Trace identified NetworkRecorded)
open Mirror (Writes Networked)

variable {spec : CloudscaleClusterSpec} {c c₁ : CloudscaleCluster}

/-! ## What the webhook guarantees -/

/-- The references of a spec are to its own networks. -/
structure Refers (spec : CloudscaleClusterSpec) : Prop where
  interfaces : ∀ r ∈ spec.routers, ∀ i ∈ r.interfaces, ∃ n ∈ spec.networks, n.name = i.network
  network : spec.controlPlaneLoadBalancer.network ≠ "" →
    ∃ n ∈ spec.networks, n.name = spec.controlPlaneLoadBalancer.network
  poolMemberNetwork : spec.controlPlaneLoadBalancer.poolMemberNetwork ≠ "" →
    ∃ n ∈ spec.networks, n.name = spec.controlPlaneLoadBalancer.poolMemberNetwork
  single : spec.controlPlaneLoadBalancer.isEnabled = true →
    spec.controlPlaneLoadBalancer.network = "" →
      spec.controlPlaneLoadBalancer.poolMemberNetwork = "" → spec.networks.length ≤ 1
  cidr : ∀ n ∈ spec.networks, n.uuid = "" → n.cidr ≠ ""

theorem cidr_of_valid {n : NetworkSpec} {p : Path} (h : validateNetwork n p = [])
    (hu : n.uuid = "") :
    n.cidr ≠ "" := by
  simp only [validateNetwork, List.append_eq_nil_iff, errorIf_eq_nil] at h
  have hone := h.1.1.1
  simpa [hu] using hone

theorem network_of_valid {p : Path} (networks : List NetworkSpec) :
    ∀ (i : Nat) (names : List String),
    validateNetworksFrom p i names networks = [] → ∀ n ∈ networks, ∃ q,
      validateNetwork n q = [] := by
  induction networks with
  | nil => simp
  | cons n rest ih =>
      intro i names h m hm
      simp only [validateNetworksFrom, List.append_eq_nil_iff] at h
      rcases List.mem_cons.mp hm with rfl | hm
      · exact ⟨_, h.1.2⟩
      · exact ih _ _ h.2 m hm

theorem named_of_reference {name : String} {networks : List NetworkSpec} {p : Path}
    (h : validateNetworkReference name networks p = []) : ∃ n ∈ networks, n.name = name := by
  rw [validateNetworkReference, errorIf_eq_nil, not_not, List.any_eq_true] at h
  obtain ⟨n, hn, hname⟩ := h
  exact ⟨n, hn, by simpa using hname⟩

theorem named_of_interface {i : RouterInterfaceSpec} {networks : List NetworkSpec} {adopted : Bool}
    {p : Path} (h : validateRouterInterface i networks adopted p = []) :
    ∃ n ∈ networks, n.name = i.network := by
  unfold validateRouterInterface at h
  split at h
  · cases h
  · next n _ hlast =>
      obtain ⟨hmem, hname⟩ := mem_of_lastByKey hlast
      exact ⟨n, hmem, hname⟩

theorem refers_of_valid {ri : RegionInfo} (h : clusterSpecValidateCreate spec ri "spec" = []) :
    Refers spec := by
  simp only [clusterSpecValidateCreate, validateLBReferences, validateEndpointRules,
    List.append_eq_nil_iff] at h
  obtain ⟨⟨⟨⟨-, hnets⟩, hrouters⟩, hnet, hpool⟩, -, hsingle⟩ := h
  refine ⟨fun r hr i hi => ?_, fun hne => ?_, fun hne => ?_, fun he hn hp => ?_, fun n hn hu => ?_⟩
  · obtain ⟨_, hr⟩ := errorsAt_eq_nil hrouters hr
    obtain ⟨_, hi⟩ := errorsAt_eq_nil (List.append_eq_nil_iff.mp hr).2 hi
    exact named_of_interface hi
  · rw [if_pos hne] at hnet
    exact named_of_reference hnet
  · rw [if_pos hne] at hpool
    exact named_of_reference hpool
  · rw [validateLBPoolMemberNetworkResolvable, errorIf_eq_nil] at hsingle
    exact Nat.le_of_not_lt fun hlong => hsingle ⟨he, hn, hp, hlong⟩
  · obtain ⟨_, hvalid⟩ := network_of_valid _ _ _ hnets n hn
    exact cidr_of_valid hvalid hu

/-! ## The network of the pool members -/

/-- `poolMemberNetwork` if set, else `network` if set, else the only network. -/
def poolNetwork (spec : CloudscaleClusterSpec) : String :=
  if spec.controlPlaneLoadBalancer.poolMemberNetwork ≠ "" then
    spec.controlPlaneLoadBalancer.poolMemberNetwork
  else if spec.controlPlaneLoadBalancer.network ≠ "" then spec.controlPlaneLoadBalancer.network
  else (spec.networks.head?.map (·.name)).getD ""

/-- The lookup of the pool members' subnet fails or finds the subnet recorded for a network. -/
def PoolOn (name : String) (c : CloudscaleCluster) : Prop :=
  ∀ id, getPoolMemberSubnetID c = .ok id →
    ∃ e, c.status.getNetworkStatus name = some e ∧ e.subnetID = id

theorem safeUseSubnet_ok {name id : String} (h : safeUseSubnet c name = .ok id) :
    ∃ e, c.status.getNetworkStatus name = some e ∧ e.subnetID = id := by
  unfold safeUseSubnet at h
  split at h
  · next e he =>
      split at h
      · cases h
      · exact ⟨e, he, Except.ok.inj h⟩
  · cases h

/-- An entry is about the network of its name. -/
def Named (n : NetworkSpec) (e : NetworkStatus) : Prop := e.name = n.name

theorem eq_singleton {networks : List NetworkSpec} {n : NetworkSpec} (hlen : networks.length ≤ 1)
    (hn : n ∈ networks) : networks = [n] := by
  have hone : networks.length = 1 := Nat.le_antisymm hlen (List.length_pos_of_mem hn)
  obtain ⟨m, rfl⟩ := List.length_eq_one_iff.mp hone
  rw [List.mem_singleton.mp hn]

theorem poolSubnet_recorded (hrefers : Refers c.spec)
    (henabled : c.spec.controlPlaneLoadBalancer.isEnabled = true)
    (hnets : Keyed.Mirrors (·.name) Named c.spec.networks c.status.networks) :
    PoolOn (poolNetwork c.spec) c := by
  intro id hid
  unfold getPoolMemberSubnetID at hid
  unfold poolNetwork
  by_cases hpool : c.spec.controlPlaneLoadBalancer.poolMemberNetwork = ""
  · by_cases hnet : c.spec.controlPlaneLoadBalancer.network = ""
    · simp only [hpool, hnet, ne_eq, not_true, if_false] at hid ⊢
      have hlen := hrefers.single henabled hnet hpool
      cases hes : c.status.networks with
      | nil => simp [hes] at hid
      | cons first rest =>
          simp only [hes] at hid
          obtain ⟨n, hn, hname⟩ := hnets.each first (by simp [hes])
          -- there is one network only, and the first entry is about it
          have hone : c.spec.networks = [n] := eq_singleton hlen hn
          refine ⟨first, ?_, ?_⟩
          · show List.find? _ c.status.networks = _
            rw [hes, hone]
            exact List.find?_cons_of_pos (decide_eq_true hname)
          · split at hid
            · cases hid
            · exact Except.ok.inj hid
    · simp only [hpool, ne_eq, not_true, if_false, hnet, not_false_eq_true, if_true] at hid ⊢
      exact safeUseSubnet_ok hid
  · simp only [ne_eq, hpool, not_false_eq_true, if_true] at hid ⊢
    exact safeUseSubnet_ok hid

theorem writes_named {good : (op : Op) → op.Reply → Prop} (specs : List NetworkSpec) :
    Writes good specs Named :=
  ⟨fun _ _ _ _ _ _ _ _ hname => hname, fun _ _ _ _ _ _ _ hname _ => hname⟩

/-! ## After the network step -/

/-- An entry about the network of its name, with a CIDR. -/
def CachedFor (n : NetworkSpec) (e : NetworkStatus) : Prop := e.name = n.name ∧ e.cidr ≠ ""

/-- The subnets of a network that is read have CIDRs. -/
def subnetsHaveCIDRs : (op : Op) → op.Reply → Bool
  | .get .network _, .ok network => network.subnets.all (·.cidr ≠ "")
  | _, _ => true

/-- No identifier in a reply is empty, and no CIDR of a subnet. -/
def Filled (op : Op) (r : op.Reply) : Prop := identified op r = true ∧ subnetsHaveCIDRs op r = true

theorem writes_cached (hrefers : Refers spec) : Writes Filled spec.networks CachedFor := by
  refine ⟨fun n hn hu network hgood subnet hsubnet e hname => ⟨hname, ?_⟩,
    fun n hn hu _ _ _ e hname _ => ⟨hname, hrefers.cidr n hn hu⟩⟩
  have hall : network.subnets.all (·.cidr ≠ "") = true := hgood.2
  simpa using List.all_eq_true.mp hall subnet hsubnet

/-- The networks of the spec are recorded, and nothing else is. -/
structure AllResolved (c : CloudscaleCluster) : Prop where
  refers : Refers c.spec
  nonempty : c.spec.networks ≠ []
  recorded : ∀ n ∈ c.spec.networks, NetworkRecorded c n.name
  entries : ∀ e ∈ c.status.networks, e.subnetID ≠ "" ∧ e.cidr ≠ ""

/-- The network step of a pass that goes on. -/
theorem resolved_after {cluster : Cluster} {tr : Trace} {result : Result} (hrefers : Refers c.spec)
    (hnets : Keyed.Mirrors (·.name) CachedFor c.spec.networks c.status.networks)
    (hrun : ((reconcileNetwork cluster).exec c).Runs tr (.ok result, c₁))
    (hgood : ∀ e ∈ tr, Filled e.op e.reply) (hzero : result.isZero = true) : AllResolved c₁ := by
  have hkept : Networked c.spec.networks CachedFor c₁ := by
    refine Interaction.runs_of_wpc (h := []) (Mirror.reconcileNetwork_keeps cluster
      (writes_cached hrefers) c [] (fun _ he => absurd he (by simp)) ⟨rfl, hnets⟩) hrun ?_
    simpa using hgood
  obtain ⟨c₂, rfl, ⟨hgrow, hend⟩, hne⟩ := Interaction.runs_of_wpc (h := [])
    (Readiness.reconcileNetwork_spec (c := c) cluster) hrun
      (by simpa using fun e he => (hgood e he).1)
  have hspec : c₂.spec = c.spec := by rw [hgrow.frame]
  rcases hend with ⟨-, hall, -⟩ | ⟨hnonzero, -⟩
  · refine ⟨hspec ▸ hrefers, hspec ▸ hne result rfl, hspec ▸ hall, fun e he => ?_⟩
    obtain ⟨n, hn, hname, hcidr⟩ := hkept.mirrors.each e he
    obtain ⟨ns, hns, -, hsubnet⟩ := hall n hn
    -- names are distinct, so the entry that was recorded is this one
    have hsame : ns = e := List.inj_on_of_nodup_map hkept.mirrors.nodup
      (List.mem_of_find?_eq_some hns) he ((by simpa using List.find?_some hns :
        ns.name = n.name).trans hname.symm)
    exact ⟨hsame ▸ hsubnet, hcidr⟩
  · rw [hzero] at hnonzero
    cases hnonzero

/-! ## All lookups succeed -/

/-- These lookups differ from those of the source where the latter fail, if at all. -/
structure Recovers (L : Lookups) : Prop where
  network : ∀ c r i ns, Lookups.source.network c r i = .ok ns → L.network c r i = .ok ns
  router : ∀ c r rs, Lookups.source.router c r = .ok rs → L.router c r = .ok rs
  subnet : ∀ c name id, safeUseSubnet c name = .ok id → L.subnet c name = .ok id
  memberSubnet : ∀ c id, getPoolMemberSubnetID c = .ok id → L.memberSubnet c = .ok id
  memberCIDR : ∀ c id cidr, getMemberSubnetCIDR c id = .ok cidr → L.memberCIDR c id = .ok cidr

theorem AllResolved.subnet (hc : AllResolved c) {name : String}
    (hname : ∃ n ∈ c.spec.networks, n.name = name) :
    ∃ e ∈ c.status.networks, safeUseSubnet c name = .ok e.subnetID := by
  obtain ⟨n, hn, rfl⟩ := hname
  obtain ⟨ns, hns, -, hsubnet⟩ := hc.recorded n hn
  refine ⟨ns, List.mem_of_find?_eq_some hns, ?_⟩
  simp only [safeUseSubnet, hns, hsubnet, if_false]

theorem AllResolved.memberSubnet (hc : AllResolved c) :
    ∃ e ∈ c.status.networks, getPoolMemberSubnetID c = .ok e.subnetID := by
  unfold getPoolMemberSubnetID
  by_cases hpool : c.spec.controlPlaneLoadBalancer.poolMemberNetwork = ""
  · by_cases hnet : c.spec.controlPlaneLoadBalancer.network = ""
    · simp only [hpool, hnet, ne_eq, not_true, if_false]
      -- some network is recorded, so there is a first entry
      obtain ⟨n, hn⟩ := List.exists_mem_of_ne_nil _ hc.nonempty
      obtain ⟨ns, hns, -, -⟩ := hc.recorded n hn
      have hmem := List.mem_of_find?_eq_some hns
      cases hes : c.status.networks with
      | nil => simp [hes] at hmem
      | cons first rest =>
          have hfirst := (hc.entries first (by simp [hes])).1
          exact ⟨first, by simp, by simp only [hfirst, if_false]⟩
    · simp only [hpool, ne_eq, not_true, if_false, hnet, not_false_eq_true, if_true]
      exact hc.subnet (hc.refers.network hnet)
  · simp only [ne_eq, hpool, not_false_eq_true, if_true]
    exact hc.subnet (hc.refers.poolMemberNetwork hpool)

theorem AllResolved.memberCIDR (hc : AllResolved c) {e : NetworkStatus}
    (he : e ∈ c.status.networks) :
    ∃ cidr, getMemberSubnetCIDR c e.subnetID = .ok cidr := by
  have hsome :
      (c.status.networks.find? fun ns => ns.subnetID = e.subnetID ∧ ns.cidr ≠ "").isSome := by
    rw [List.find?_isSome]
    exact ⟨e, he, by simpa using (hc.entries e he).2⟩
  obtain ⟨ns, hns⟩ := Option.isSome_iff_exists.mp hsome
  exact ⟨ns.cidr, by rw [getMemberSubnetCIDR, hns]⟩

theorem AllResolved.agrees {L : Lookups} (hL : Recovers L) (hc : AllResolved c) : Agrees L c := by
  refine ⟨fun r hr i hi => ?_, fun r hr => ?_, fun _ hne => ?_, fun _ => ?_, fun _ id hid => ?_⟩
  · obtain ⟨n, hn, hname⟩ := hc.refers.interfaces r hr i hi
    obtain ⟨ns, hns, -⟩ := hc.recorded n hn
    have hok := source_network (r := r) (hname ▸ hns)
    rw [hL.network c r i ns hok, hok]
  · obtain ⟨rs, hrs⟩ := Option.isSome_iff_exists.mp hr
    rw [hL.router c r rs (source_router hrs), source_router hrs]
  · obtain ⟨e, -, he⟩ := hc.subnet (hc.refers.network hne)
    rw [hL.subnet c _ _ he, he]
  · obtain ⟨e, -, he⟩ := hc.memberSubnet
    rw [hL.memberSubnet c _ he, he]
  · obtain ⟨e, hmem, he⟩ := hc.memberSubnet
    obtain ⟨cidr, hcidr⟩ := hc.memberCIDR hmem
    have hsame : id = e.subnetID := Except.ok.inj (hid.symm.trans he)
    rw [hsame, hL.memberCIDR c _ _ hcidr, hcidr]

theorem Recovers.suits {L : Lookups} (hL : Recovers L) : Suits L AllResolved := by
  refine ⟨fun c c' hview hc => ?_, fun c hc => hc.agrees hL⟩
  have hspec : c'.spec = c.spec := congrArg (·.spec) hview
  have hnets : c'.status.networks = c.status.networks := congrArg (·.networks) hview
  refine ⟨hspec ▸ hc.refers, hspec ▸ hc.nonempty, fun n hn => ?_, hnets ▸ hc.entries⟩
  obtain ⟨ns, hns, hids⟩ := hc.recorded n (hspec ▸ hn)
  refine ⟨ns, ?_, hids⟩
  show List.find? _ c'.status.networks = _
  rw [hnets]
  exact hns

end Capcs.References
