import Capcs.Retention.Kept
import Mathlib.Data.List.Nodup

/-!
# Capcs.Retention.Normal — a normal pass loses no ID

A normal pass writes most of the ID fields anew, several of them before a call that can
fail. `RetainsIDs c₀ c h`: a pass that started from `c₀` and has made the calls `h` has lost
no ID on its way to `c`. Every step keeps this, whatever the API answers.
-/

namespace Capcs.Retention

open Cloudscale Controller
open Readiness (Trace)
open Interaction (Proc Frame)
open Interaction.Contract

variable {h h' : Trace}

/-! ## Status and spec -/

/-- Names are unique, as schema and webhook have it. -/
structure DistinctNames (spec : CloudscaleClusterSpec) : Prop where
  networks : (spec.networks.map (·.name)).Nodup
  routers : (spec.routers.map (·.name)).Nodup

/-- Every entry of the status is about something in the spec, and is marked managed if
that is. -/
structure Accounted (spec : CloudscaleClusterSpec) (status : CloudscaleClusterStatus) : Prop where
  networks : ∀ e ∈ status.networks, ∃ n ∈ spec.networks, n.name = e.name ∧
    (e.managed = true ↔ n.uuid = "")
  routers : ∀ e ∈ status.routers, ∃ r ∈ spec.routers, r.name = e.name ∧
    (e.managed = true ↔ r.uuid = "")

/-- The floating IP is managed. -/
def managedFloatingIP (spec : CloudscaleClusterSpec) : Bool :=
  spec.floatingIP.any fun fip => fip.address = ""

/-- No ID of `c₀` is lost in a status. -/
structure KeepsIDs (c₀ : CloudscaleCluster) (status : CloudscaleClusterStatus) (h : Trace) :
    Prop where
  networks : ∀ e ∈ c₀.status.networks, e.managed = true →
    ∃ e' ∈ status.networks, (e'.name = e.name ∧ e'.managed = true) ∧
      Kept .network e.networkID e'.networkID h ∧ Kept .subnet e.subnetID e'.subnetID h
  routers : ∀ e ∈ c₀.status.routers, e.managed = true →
    ∃ e' ∈ status.routers, (e'.name = e.name ∧ e'.managed = true) ∧
      Kept .router e.routerID e'.routerID h
  loadBalancer : Kept .loadBalancer c₀.status.loadBalancerID status.loadBalancerID h
  pool : Kept .pool c₀.status.loadBalancerPoolID status.loadBalancerPoolID h
  listener : Kept .listener c₀.status.loadBalancerListenerID status.loadBalancerListenerID h
  healthMonitor : Kept .healthMonitor c₀.status.loadBalancerHealthMonitorID
    status.loadBalancerHealthMonitorID h
  floatingIP : managedFloatingIP c₀.spec = true →
    Kept .floatingIP c₀.status.floatingIP status.floatingIP h

/-- Where a pass that started from `c₀` stands. -/
structure RetainsIDs (c₀ c : CloudscaleCluster) (h : Trace) : Prop where
  networks : c.spec.networks = c₀.spec.networks
  routers : c.spec.routers = c₀.spec.routers
  floatingIP : c.spec.floatingIP = c₀.spec.floatingIP
  accounted : Accounted c₀.spec c.status
  ids : KeepsIDs c₀ c.status h

variable {c₀ c : CloudscaleCluster} (cluster : Cluster)

theorem RetainsIDs.start (hc : Accounted c.spec c.status) (h : Trace) : RetainsIDs c c h where
  networks := rfl
  routers := rfl
  floatingIP := rfl
  accounted := hc
  ids :=
    { networks := fun e he hm => ⟨e, he, ⟨rfl, hm⟩, .refl _ _ _, .refl _ _ _⟩
      routers := fun e he hm => ⟨e, he, ⟨rfl, hm⟩, .refl _ _ _⟩
      loadBalancer := .refl _ _ _
      pool := .refl _ _ _
      listener := .refl _ _ _
      healthMonitor := .refl _ _ _
      floatingIP := fun _ => .refl _ _ _ }

theorem RetainsIDs.later (hr : RetainsIDs c₀ c h) (hle : h ⊆ h') : RetainsIDs c₀ c h' where
  networks := hr.networks
  routers := hr.routers
  floatingIP := hr.floatingIP
  accounted := hr.accounted
  ids :=
    { networks := fun e he hm => by
        obtain ⟨e', he', hname, hn, hs⟩ := hr.ids.networks e he hm
        exact ⟨e', he', hname, hn.later hle, hs.later hle⟩
      routers := fun e he hm => by
        obtain ⟨e', he', hname, hk⟩ := hr.ids.routers e he hm
        exact ⟨e', he', hname, hk.later hle⟩
      loadBalancer := hr.ids.loadBalancer.later hle
      pool := hr.ids.pool.later hle
      listener := hr.ids.listener.later hle
      healthMonitor := hr.ids.healthMonitor.later hle
      floatingIP := fun hm => (hr.ids.floatingIP hm).later hle }

/-- A step of a pass loses no ID. -/
abbrev Safe {α : Type} (c₀ : CloudscaleCluster) (m : ClusterM α) : Prop :=
  echoCalls.Preserves (RetainsIDs c₀) m

/-- The cluster without what has nothing to do with these IDs. -/
def onlyIDs (c : CloudscaleCluster) : CloudscaleCluster :=
  { c with
    spec := { c.spec with controlPlaneEndpoint := {} }
    status := { c.status with
      loadBalancerMemberIDs := [], initialization := none, conditions := [] } }

theorem RetainsIDs.congr {c' : CloudscaleCluster} (hr : RetainsIDs c₀ c h)
    (hsame : onlyIDs c' = onlyIDs c) :
    RetainsIDs c₀ c' h := by
  have hids : RetainsIDs c₀ (onlyIDs c) h := { hr with
    accounted := { hr.accounted with }
    ids := { hr.ids with } }
  rw [← hsame] at hids
  exact { hids with
    accounted := { hids.accounted with }
    ids := { hids.ids with } }

theorem safe_of_frame {α β : Type} {f : CloudscaleCluster → β} {P : Op → Prop} {m : ClusterM α}
    (hm : Frame f P m) (hf : onlyIDs.FactorsThrough f) : Safe c₀ m := by
  refine hm.preserves (fun _ _ _ hsame hr => hr.congr (hf hsame)) ?_
    fun c h op _ hr _ => ⟨trivial, ?_⟩
  · rintro c h _ hr rfl -
    exact hr
  · rintro r _ rfl -
    exact hr.later (List.subset_append_left _ _)

theorem safe_perform (op : Op) : Safe c₀ (Proc.perform op) :=
  safe_of_frame (f := onlyIDs) (.perform (P := fun _ => True) trivial) fun _ _ => id

theorem RetainsIDs.setCondition (hr : RetainsIDs c₀ c h) (t : ConditionType)
    (status : ConditionStatus) (reason : Reason) (message : String) :
    RetainsIDs c₀ (setCondition t status reason message c) h := hr.congr rfl

/-! ## Networks -/

/-- Writing the entry of a network. -/
theorem RetainsIDs.setNetwork (hr : RetainsIDs c₀ c h) (hd : DistinctNames c₀.spec)
    {n : NetworkSpec} (hn : n ∈ c₀.spec.networks) {networkID subnetID cidr : String}
    {managed : Bool} {mtu : Int} (hm : managed = true ↔ n.uuid = "")
    (hkept : n.uuid = "" → ∀ e, c.status.getNetworkStatus n.name = some e →
      Kept .network e.networkID networkID h ∧ Kept .subnet e.subnetID subnetID h) :
    RetainsIDs c₀ (setNetworkStatus n.name networkID subnetID cidr managed mtu c) h := by
  have haccounted :
    ∀ e ∈ (setNetworkStatus n.name networkID subnetID cidr managed mtu c).status.networks,
      ∃ n' ∈ c₀.spec.networks, n'.name = e.name ∧ (e.managed = true ↔ n'.uuid = "") := by
    intro e he
    rcases Keyed.mem_upsertFirst he with he | rfl | ⟨a, _, hname, rfl⟩
    · exact hr.accounted.networks e he
    · exact ⟨n, hn, rfl, hm⟩
    · exact ⟨n, hn, (by simpa using hname : a.name = n.name).symm, hm⟩
  refine ⟨hr.networks, hr.routers, hr.floatingIP, ⟨haccounted, hr.accounted.routers⟩, ?_⟩
  refine ⟨?_, hr.ids.routers, hr.ids.loadBalancer, hr.ids.pool, hr.ids.listener,
    hr.ids.healthMonitor, hr.ids.floatingIP⟩
  intro e he hmanaged
  refine Keyed.exists_mem_upsertFirst (hr.ids.networks e he hmanaged) ?_
  rintro e' hfirst ⟨⟨hname, hmanaged'⟩, hnet, hsub⟩
  -- the entry that is written is managed, so the network of the spec is
  obtain ⟨n', hn', hname', hiff⟩ := hr.accounted.networks e' (List.mem_of_find?_eq_some hfirst)
  have hfirstName : e'.name = n.name := by simpa using List.find?_some hfirst
  have hsame : n' = n := List.inj_on_of_nodup_map hd.networks hn' hn (hname'.trans hfirstName)
  have huuid : n.uuid = "" := hsame ▸ hiff.mp hmanaged'
  obtain ⟨hknet, hksub⟩ := hkept huuid e' hfirst
  exact ⟨⟨hname, hm.mpr huuid⟩, hnet.trans hknet, hsub.trans hksub⟩

theorem reconcilePreExistingNetwork_safe (hd : DistinctNames c₀.spec) {n : NetworkSpec}
    (hn : n ∈ c₀.spec.networks) (hu : n.uuid ≠ "") : Safe c₀ (reconcilePreExistingNetwork n) := by
  refine .read_any fun c => .ite (fun _ => .pure _) fun _ => ?_
  refine .bind (safe_perform (.get .network n.uuid)) fun r => ?_
  cases r with
  | error err => exact .fail _
  | ok network =>
      refine .ite (fun _ => .fail _) fun _ => ?_
      cases network.subnets with
      | nil => exact .fail _
      | cons subnet _ =>
          exact .update fun c h hr => hr.setNetwork hd hn (by simp [hu]) fun hempty =>
            absurd hempty hu

/-- The network half keeps the recorded network, unless it is missing. -/
theorem resolveNetwork_kept (n : NetworkSpec) (networkID : String) (tags : TagMap) :
    echoCalls.wpc (fun out c' h' => c' = c ∧ h ⊆ h' ∧ ∀ network id, out = .ok (.ok (network, id)) →
        Kept .network networkID id h') (resolveNetwork n networkID tags) c h := by
  rw [resolveNetwork, wpc_read_bind]
  refine wpc_seq ensureResource_resolves ?_
  rintro out c₁ h₁ ⟨rfl, hle, hres⟩
  rcases out with err | ⟨network, id⟩
  · exact ⟨rfl, hle, by simp⟩
  · obtain ⟨hkept, -⟩ := hres network id rfl
    simp only [after_ok]
    split
    · refine ⟨rfl, hle, ?_⟩
      rintro _ _ ⟨⟩
      exact hkept
    · next hempty =>
      obtain rfl : id = "" := by simpa using hempty
      refine wpc_seq createResource_grows ?_
      rintro out c₂ h₂ ⟨rfl, hle₂⟩
      rcases out with err | result | network
      · exact ⟨rfl, List.Subset.trans hle hle₂, by simp⟩
      · exact ⟨rfl, List.Subset.trans hle hle₂, by simp⟩
      · refine ⟨rfl, List.Subset.trans hle hle₂, ?_⟩
        rintro _ _ ⟨⟩
        exact (hkept.later hle₂).fresh _

theorem resolveSubnet_kept (n : NetworkSpec) (subnetID networkID : String) (tags : TagMap) :
    echoCalls.wpc (fun out c' h' => c' = c ∧ h ⊆ h' ∧ ∀ id, out = .ok (.ok id) →
        Kept .subnet subnetID id h') (resolveSubnet n subnetID networkID tags) c h := by
  rw [resolveSubnet]
  refine wpc_seq ensureResource_resolves ?_
  rintro out c₁ h₁ ⟨rfl, hle, hres⟩
  rcases out with err | ⟨subnet, id⟩
  · exact ⟨rfl, hle, by simp⟩
  · obtain ⟨hkept, -⟩ := hres subnet id rfl
    simp only [after_ok]
    split
    · refine ⟨rfl, hle, ?_⟩
      rintro _ ⟨⟩
      exact hkept
    · next hempty =>
      obtain rfl : id = "" := by simpa using hempty
      refine wpc_seq createResource_grows ?_
      rintro out c₂ h₂ ⟨rfl, hle₂⟩
      rcases out with err | result | subnet
      · exact ⟨rfl, List.Subset.trans hle hle₂, by simp⟩
      · exact ⟨rfl, List.Subset.trans hle hle₂, by simp⟩
      · refine ⟨rfl, List.Subset.trans hle hle₂, ?_⟩
        rintro _ ⟨⟩
        exact (hkept.later hle₂).fresh _

theorem reconcileManagedNetwork_safe (hd : DistinctNames c₀.spec) {n : NetworkSpec}
    (hn : n ∈ c₀.spec.networks) (hu : n.uuid = "") :
    Safe c₀ (reconcileManagedNetwork cluster n) := by
  refine .read fun c h _ hr => ?_
  refine wpc_seq (resolveNetwork_kept n _ _) ?_
  rintro out c₁ h₁ ⟨rfl, hle, hnet⟩
  rcases out with err | result | ⟨network, networkID⟩
  · exact hr.later hle
  · exact hr.later hle
  · rw [after_ok]
    refine wpc_seq (resolveSubnet_kept n _ _ _) ?_
    rintro out c₂ h₂ ⟨rfl, hle₂, hsub⟩
    rcases out with err | result | subnetID
    · exact hr.later (List.Subset.trans hle hle₂)
    · exact hr.later (List.Subset.trans hle hle₂)
    · refine (hr.later (List.Subset.trans hle hle₂)).setNetwork hd hn (by simp [hu]) ?_
      intro _ e he
      have hnet := (hnet network networkID rfl).later hle₂
      have hsub := hsub subnetID rfl
      rw [he] at hnet hsub
      exact ⟨hnet, hsub⟩

theorem reconcileNetworks_safe (hd : DistinctNames c₀.spec) (ns : List NetworkSpec)
    (hns : ∀ n ∈ ns, n ∈ c₀.spec.networks) :
    Safe c₀ (reconcileNetworks cluster ns) := by
  induction ns with
  | nil => exact .pure _
  | cons n ns ih =>
      have hn := hns n (by simp)
      have ih := ih fun m hm => hns m (by simp [hm])
      refine .ite (fun hu => ?_) fun hu => ?_
      · exact .bind (.wrapErr (reconcilePreExistingNetwork_safe hd hn hu)) fun _ => ih
      · refine .bind (.wrapErr (reconcileManagedNetwork_safe cluster hd hn (by simpa using hu))) ?_
        exact fun result => .ite (fun _ => ih) fun _ => .pure _

theorem reconcileNetwork_safe (hd : DistinctNames c₀.spec) :
    Safe c₀ (reconcileNetwork cluster) := by
  refine .deferred (.read fun c h hinv hr => ?_) ?_
  · refine Preserves.ite (fun _ => .fail _) (fun _ => ?_) c h hinv hr
    exact reconcileNetworks_safe cluster hd _ fun n hn => hr.networks ▸ hn
  · intro out c h hr
    cases out <;> exact hr.setCondition _ _ _ _

/-! ## Routers -/

/-- Writing the entry of a router. -/
theorem RetainsIDs.setRouter (hr : RetainsIDs c₀ c h) (hd : DistinctNames c₀.spec) {r : RouterSpec}
    (hmem : r ∈ c₀.spec.routers) {routerID : String}
    (hkept : r.uuid = "" → ∀ e, c.status.getRouterStatus r.name = some e →
      Kept .router e.routerID routerID h) :
    RetainsIDs c₀ (setRouterStatus r routerID c) h := by
  have haccounted : ∀ e ∈ (setRouterStatus r routerID c).status.routers,
      ∃ r' ∈ c₀.spec.routers, r'.name = e.name ∧ (e.managed = true ↔ r'.uuid = "") := by
    intro e he
    rcases Keyed.mem_upsertFirst he with he | rfl | ⟨a, _, hname, rfl⟩
    · exact hr.accounted.routers e he
    · exact ⟨r, hmem, rfl, by simp⟩
    · exact ⟨r, hmem, (by simpa using hname : a.name = r.name).symm, by simp⟩
  refine ⟨hr.networks, hr.routers, hr.floatingIP, ⟨hr.accounted.networks, haccounted⟩, ?_⟩
  refine ⟨hr.ids.networks, ?_, hr.ids.loadBalancer, hr.ids.pool, hr.ids.listener,
    hr.ids.healthMonitor, hr.ids.floatingIP⟩
  intro e he hmanaged
  refine Keyed.exists_mem_upsertFirst (hr.ids.routers e he hmanaged) ?_
  rintro e' hfirst ⟨⟨hname, hmanaged'⟩, hk⟩
  obtain ⟨r', hr', hname', hiff⟩ := hr.accounted.routers e' (List.mem_of_find?_eq_some hfirst)
  have hfirstName : e'.name = r.name := by simpa using List.find?_some hfirst
  have hsame : r' = r := List.inj_on_of_nodup_map hd.routers hr' hmem (hname'.trans hfirstName)
  have huuid : r.uuid = "" := hsame ▸ hiff.mp hmanaged'
  exact ⟨⟨hname, by simp [huuid]⟩, hk.trans (hkept huuid e' hfirst)⟩

/-- Writing the entry of an interface leaves what is recorded of the router. -/
theorem RetainsIDs.setInterface (hr : RetainsIDs c₀ c h)
    (routerName networkName interfaceID : String) (managed : Bool) :
    RetainsIDs c₀ (setRouterInterfaceStatus routerName networkName interfaceID managed c) h := by
  refine ⟨hr.networks, hr.routers, hr.floatingIP, ⟨hr.accounted.networks, ?_⟩, ?_⟩
  · intro e he
    rcases Keyed.mem_updateFirst he with he | ⟨a, ha, _, rfl⟩
    · exact hr.accounted.routers e he
    · exact hr.accounted.routers a ha
  · refine ⟨hr.ids.networks, ?_, hr.ids.loadBalancer, hr.ids.pool, hr.ids.listener,
      hr.ids.healthMonitor, hr.ids.floatingIP⟩
    intro e he hmanaged
    obtain ⟨e', he', hQ⟩ := hr.ids.routers e he hmanaged
    rcases Keyed.mem_updateFirst_or
      (p := fun rs : RouterStatus => rs.name = routerName)
      (f := upsertInterface networkName interfaceID managed) he' with hmem | hmem
    · exact ⟨e', hmem, hQ⟩
    · exact ⟨_, hmem.2, hQ⟩

theorem setInterface_safe (routerName networkName interfaceID : String) (managed : Bool) :
    Safe c₀ (Proc.update (setRouterInterfaceStatus routerName networkName interfaceID managed)) :=
  .update fun _ _ hr => hr.setInterface _ _ _ _

theorem reconcileInterfaces_safe (routerSpec : RouterSpec) (router : Router)
    (ifaces : List RouterInterfaceSpec) :
    Safe c₀ (reconcileInterfaces routerSpec router ifaces) := by
  induction ifaces with
  | nil => exact .pure _
  | cons ifaceSpec rest ih =>
      refine .read_any fun c => ?_
      cases c.status.getNetworkStatus ifaceSpec.network with
      | none => exact .fail _
      | some ns =>
          refine .ite (fun _ => .bind ?_ fun _ => ih) fun _ => ?_
          · rw [adoptRouterInterface]
            split
            · exact .fail _
            · exact .ite (fun _ => .fail _) fun _ => setInterface_safe _ _ _ _
          cases liveByNetwork router.interfaces ns.networkID with
          | some live =>
              refine .bind (.read_any fun c => ?_) fun _ => ih
              exact .ite (fun _ => .fail _) fun _ => setInterface_safe _ _ _ _
          | none =>
              refine .bind ?_ fun result => .ite (fun _ => ih) fun _ => .pure _
              refine .bind (setInterface_safe _ _ _ _) fun _ => .bind (safe_perform _) fun r => ?_
              cases r with
              | error err => exact .ite (fun _ => .pure _) fun _ => .fail _
              | ok created => exact .bind (setInterface_safe _ _ _ _) fun _ => .pure _

/-- What happens to a router once its entry is written. -/
theorem reconcileRouterInterfaces_safe (routerSpec : RouterSpec) (router : Router) :
    Safe c₀ (reconcileRouterInterfaces routerSpec router) := by
  refine .read_any fun c => ?_
  cases c.status.getRouterStatus routerSpec.name with
  | none => exact .fail _
  | some _ => exact reconcileInterfaces_safe routerSpec router _

theorem recordRouter_retains (hd : DistinctNames c₀.spec) {r : RouterSpec}
    (hmem : r ∈ c₀.spec.routers) {router : Router} (hinv : echoCalls.inv h)
    (hr : RetainsIDs c₀ c h)
    (hkept : r.uuid = "" → ∀ e, c.status.getRouterStatus r.name = some e →
      Kept .router e.routerID router.uuid h) :
    echoCalls.wpc (fun _ => RetainsIDs c₀) (recordRouter r router) c h := by
  rw [recordRouter, wpc_update_bind]
  refine Preserves.ite (fun _ => .pure _) (fun _ => ?_) _ h hinv (hr.setRouter hd hmem hkept)
  exact reconcileRouterInterfaces_safe r router

/-- The router a pass goes on with is the recorded one, unless that is missing. -/
def KeepsRouter (current : String) (c : CloudscaleCluster) (h : Trace)
    (out : Except GoError (Except Result Router)) (c' : CloudscaleCluster) (h' : Trace) : Prop :=
  c' = c ∧ h ⊆ h' ∧ ∀ router, out = .ok (.ok router) → Kept .router current router.uuid h'

theorem createRouter_kept {current : String} {h₁ : Trace} (r : RouterSpec) (tags : TagMap)
    (hle : h ⊆ h₁) (hkept : Kept .router current "" h₁) :
    echoCalls.wpc (KeepsRouter current c h) (ensureManagedRouter.createRouter r c tags) c h₁ := by
  rw [ensureManagedRouter.createRouter]
  refine wpc_imp (createResource_grows (k := .router)) ?_
  rintro out _ h' ⟨rfl, hle'⟩
  exact ⟨rfl, List.Subset.trans hle hle', fun router _ => (hkept.later hle').fresh _⟩

theorem ensureManagedRouter_kept (r : RouterSpec) :
    echoCalls.wpc (KeepsRouter ((c.status.getRouterStatus r.name).elim "" (·.routerID)) c h)
      (ensureManagedRouter cluster r) c h := by
  rw [ensureManagedRouter, wpc_read_bind]
  refine wpc_seq (wpc_wrapped ensureResource_resolves
    fun _ _ _ hres => ⟨hres.1, hres.2.1, by simp⟩) ?_
  rintro out c₁ h₁ ⟨rfl, hle, hres⟩
  rcases out with err | ⟨_ | router, id⟩
  · exact ⟨rfl, hle, by simp⟩
  · obtain ⟨hkept, rfl⟩ := hres _ _ rfl
    exact createRouter_kept r _ hle hkept
  · obtain ⟨hkept, rfl⟩ := hres _ _ rfl
    simp only [after_ok]
    split
    · refine ⟨rfl, hle, ?_⟩
      rintro _ ⟨⟩
      exact hkept
    · next hempty =>
      refine createRouter_kept r _ hle ?_
      rwa [show Option.elim (some router) "" uuidOf = "" by simpa using hempty] at hkept

theorem reconcileRouter_safe (hd : DistinctNames c₀.spec) {r : RouterSpec}
    (hmem : r ∈ c₀.spec.routers) : Safe c₀ (reconcileRouter cluster r) := by
  refine .ite (fun hu c h hinv hr => ?_) fun hu c h hinv hr => ?_
  · refine wpc_seq_inv hinv ((reads_of_frame (adoptRouter_frame r)).wpc hinv) ?_
    rintro out _ h₁ hinv₁ ⟨rfl, hle⟩
    cases out with
    | error err => exact hr.later hle
    | ok router =>
        exact recordRouter_retains hd hmem hinv₁ (hr.later hle) fun hempty => absurd hempty hu
  · refine wpc_seq_inv hinv (ensureManagedRouter_kept cluster r) ?_
    rintro out _ h₁ hinv₁ ⟨rfl, hle, hkept⟩
    rcases out with err | result | router
    · exact hr.later hle
    · exact hr.later hle
    · refine recordRouter_retains hd hmem hinv₁ (hr.later hle) fun _ e he => ?_
      have hkept := hkept router rfl
      rwa [he] at hkept

theorem reconcileEachRouter_safe (hd : DistinctNames c₀.spec) (routers : List RouterSpec)
    (hmem : ∀ r ∈ routers, r ∈ c₀.spec.routers) :
    ∀ result, Safe c₀ (reconcileEachRouter cluster result routers) := by
  induction routers with
  | nil => exact fun result => .pure _
  | cons r rest ih =>
      intro result
      refine .bind (.wrapErr (reconcileRouter_safe cluster hd (hmem r (by simp)))) fun res => ?_
      exact ih (fun r' hr' => hmem r' (by simp [hr'])) _

theorem reconcileRouters_safe (hd : DistinctNames c₀.spec) :
    Safe c₀ (reconcileRouters cluster) := by
  refine .deferred (.read fun c h hinv hr => ?_) ?_
  · exact reconcileEachRouter_safe cluster hd _ (fun r hmem => hr.routers ▸ hmem) _ c h hinv hr
  · intro out c h hr
    cases out with
    | error err => exact hr.setCondition _ _ _ _
    | ok result =>
        rw [setRouterReady]
        split_ifs <;> exact hr.setCondition _ _ _ _

/-! ## The load balancer and its children -/

/-- A status field that holds the ID of one of the load balancer's resources. -/
structure OwnedField (k : Kind) where
  id : CloudscaleClusterStatus → String
  setID : String → CloudscaleClusterStatus → CloudscaleClusterStatus
  /-- Writing the field loses no other ID. -/
  retains : ∀ {c₀ c : CloudscaleCluster} {h : Trace} {new : String}, RetainsIDs c₀ c h →
    Kept k (id c.status) new h → RetainsIDs c₀ { c with status := setID new c.status } h
  id_setID : ∀ new s, id (setID new s) = new

theorem reconcileOwned_safe {k : Kind} (f : OwnedField k) (what : String)
    (request : CloudscaleCluster → Except GoError k.Request) :
    Safe c₀ (reconcileOwned k what f.id f.setID request) := by
  refine .read fun c h hinv hr => ?_
  refine wpc_seq_inv hinv ensureResource_resolves ?_
  rintro out _ h₁ hinv₁ ⟨rfl, hle, hres⟩
  rcases out with err | ⟨r, found⟩
  · exact hr.later hle
  · obtain ⟨hkept, -⟩ := hres r found rfl
    have hr₁ := f.retains (hr.later hle) hkept
    simp only [after_ok, wpc_bind, wpc_update, wpc_ite]
    split
    · exact hr₁
    · next hempty =>
      -- nothing was found in place of what is recorded
      obtain rfl : found = "" := by simpa using hempty
      simp only [wpc_read, after_ok]
      split
      · exact hr₁
      · refine wpc_seq createResource_grows ?_
        rintro out _ h₂ ⟨rfl, hle₂⟩
        rcases out with err | result | resource
        · exact hr₁.later hle₂
        · exact hr₁.later hle₂
        · refine f.retains (hr₁.later hle₂) (.inl ?_)
          exact f.id_setID _ _

def loadBalancerField : OwnedField .loadBalancer where
  id s := s.loadBalancerID
  setID id s := { s with loadBalancerID := id }
  retains hr hk := { hr with
    accounted := { hr.accounted with }
    ids := { hr.ids with loadBalancer := hr.ids.loadBalancer.trans hk } }
  id_setID _ _ := rfl

def poolField : OwnedField .pool where
  id s := s.loadBalancerPoolID
  setID id s := { s with loadBalancerPoolID := id }
  retains hr hk := { hr with
    accounted := { hr.accounted with }
    ids := { hr.ids with pool := hr.ids.pool.trans hk } }
  id_setID _ _ := rfl

def listenerField : OwnedField .listener where
  id s := s.loadBalancerListenerID
  setID id s := { s with loadBalancerListenerID := id }
  retains hr hk := { hr with
    accounted := { hr.accounted with }
    ids := { hr.ids with listener := hr.ids.listener.trans hk } }
  id_setID _ _ := rfl

def healthMonitorField : OwnedField .healthMonitor where
  id s := s.loadBalancerHealthMonitorID
  setID id s := { s with loadBalancerHealthMonitorID := id }
  retains hr hk := { hr with
    accounted := { hr.accounted with }
    ids := { hr.ids with healthMonitor := hr.ids.healthMonitor.trans hk } }
  id_setID _ _ := rfl

theorem reconcileLBChildren_safe : Safe c₀ (reconcileLBChildren cluster) :=
  reconcileLBChildren_preserves (reconcileOwned_safe poolField _ _)
    (reconcileOwned_safe listenerField _ _) (reconcileOwned_safe healthMonitorField _ _)
    (safe_of_frame (reconcileLBMembers_frame cluster) fun _ _ hsame => (congrArg onlyIDs hsame :))

theorem reconcileLoadBalancer_safe : Safe c₀ (reconcileLoadBalancer cluster) :=
  reconcileLoadBalancer_preserves (fun _ _ _ _ _ hr => hr.setCondition _ _ _ _)
    (reconcileOwned_safe loadBalancerField _ _) (fun _ => safe_perform _)
    (fun lb => safe_of_frame (degradedMessage_frame lb) fun _ _ => id)
      (reconcileLBChildren_safe cluster)

/-! ## The floating IP -/

theorem RetainsIDs.setFloatingIP {new : String} (hr : RetainsIDs c₀ c h)
    (hk : managedFloatingIP c₀.spec = true → Kept .floatingIP c.status.floatingIP new h) :
    RetainsIDs c₀ (setFloatingIP new c) h := { hr with
  accounted := { hr.accounted with }
  ids := { hr.ids with floatingIP := fun hm => (hr.ids.floatingIP hm).trans (hk hm) } }

theorem reconcilePreExistingFloatingIP_safe (ip : String) (hm : managedFloatingIP c₀.spec = false) :
    Safe c₀ (reconcilePreExistingFloatingIP cluster ip) := by
  have hadopt (fip : FloatingIP) : Safe c₀ (reconcilePreExistingFloatingIP.adopt cluster fip) := by
    refine .bind (.update fun c h hr => hr.setFloatingIP ?_) fun _ =>
      safe_of_frame (ensureFloatingIPAssignment_frame cluster fip) fun _ _ => id
    rw [hm]
    exact fun hfalse => absurd hfalse (by decide)
  refine .bind (safe_perform (.get .floatingIP ip)) fun r => ?_
  cases r with
  | error err => exact .fail _
  | ok fip =>
      refine .read_any fun c => ?_
      split
      · exact .ite (fun _ => .fail _) fun _ => hadopt fip
      · exact hadopt fip

/-- Creating a floating IP where none is recorded. -/
theorem createFloatingIP_retains (fipSpec : FloatingIPSpec) (hinv : echoCalls.inv h)
    (hr : RetainsIDs c₀ c h) (hempty : c.status.floatingIP = "") :
    echoCalls.wpc (fun _ => RetainsIDs c₀) (createFloatingIP cluster fipSpec) c h := by
  rw [createFloatingIP, wpc_read_bind]
  refine wpc_seq ((reads_of_frame (getFloatingIPTarget_frame cluster)).wpc hinv) ?_
  rintro out _ h₁ ⟨rfl, hle⟩
  cases out with
  | error err => exact hr.later hle
  | ok target =>
      rw [after_ok]
      refine wpc_seq (createResource_grows (k := .floatingIP)) ?_
      rintro out _ h₂ ⟨rfl, hle₂⟩
      have hr₂ := hr.later (List.Subset.trans hle hle₂)
      rcases out with err | result | fip
      · exact hr₂
      · exact hr₂
      · exact hr₂.setFloatingIP fun _ => .inl hempty

theorem reconcileManagedFloatingIP_safe (fipSpec : FloatingIPSpec) :
    Safe c₀ (reconcileManagedFloatingIP cluster fipSpec) := by
  refine .read fun c h hinv hr => ?_
  refine wpc_seq_inv hinv ensureResource_resolves ?_
  rintro out _ h₁ hinv₁ ⟨rfl, hle, hres⟩
  rcases out with err | ⟨_ | fip, id⟩
  · exact hr.later hle
  · obtain ⟨hkept, rfl⟩ := hres none id rfl
    have hr₁ := (hr.later hle).setFloatingIP fun _ => hkept
    exact createFloatingIP_retains cluster fipSpec hinv₁ hr₁ rfl
  · obtain ⟨hkept, -⟩ := hres (some fip) id rfl
    have hr₁ := (hr.later hle).setFloatingIP fun _ => hkept
    rw [after_ok, wpc_update_bind, wpc_ite]
    split
    · exact Preserves.bind
        (safe_of_frame (ensureFloatingIPAssignment_frame cluster fip) fun _ _ hsame => hsame)
        (fun _ => .pure _) _ h₁ hinv₁ hr₁
    · next hempty =>
      obtain rfl : id = "" := by simpa using hempty
      exact createFloatingIP_retains cluster fipSpec hinv₁ hr₁ rfl

theorem reconcileFloatingIP_safe : Safe c₀ (reconcileFloatingIP cluster) := by
  refine .read fun c h hinv hr => ?_
  cases hfip : c.spec.floatingIP with
  | none => exact hr.setCondition _ _ _ _
  | some fipSpec =>
      refine Preserves.deferred (.ite (fun haddr => ?_) fun _ => ?_) ?_ c h hinv hr
      · have hm : managedFloatingIP c₀.spec = false := by
          rw [managedFloatingIP, ← hr.floatingIP, hfip]
          simpa using haddr
        exact .bind (reconcilePreExistingFloatingIP_safe cluster _ hm) fun _ => .pure _
      · exact reconcileManagedFloatingIP_safe cluster fipSpec
      · intro out c h hr
        cases out <;> exact hr.setCondition _ _ _ _

/-! ## The whole pass -/

/-- A normal pass loses no ID, whatever the API answers. -/
theorem reconcileNormal_safe (hd : DistinctNames c₀.spec) :
    Safe c₀ (reconcileNormal cluster) :=
  reconcileNormal_preserves (reconcileNetwork_safe cluster hd) (reconcileRouters_safe cluster hd)
    (reconcileLoadBalancer_safe cluster) (reconcileFloatingIP_safe cluster)
    (fun lb => safe_of_frame (finishNormal_frame cluster lb) fun _ _ hsame =>
      (congrArg onlyIDs hsame :))
    fun _ _ hr => hr.setCondition _ _ _ _

end Capcs.Retention
