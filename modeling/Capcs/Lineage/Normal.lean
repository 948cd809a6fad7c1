import Capcs.Lineage.Family
import Capcs.Readiness.Networks
import Capcs.Retention.Normal

/-!
# Capcs.Lineage.Normal — what a pass has resolved exists, with its tag

A pass resolves parents before children, each by its recorded ID or by its tag. `Known` is
what the recorded IDs satisfy all along, also if they are stale: what they once named carries
the right tag, if it is still there. A step that is done has placed what it records
(`NetPlaced`, `Placed`), and the steps after it leave that alone.
-/

namespace Capcs.Lineage

open Cloudscale Controller
open Ownership (ownershipTags clusterOwnershipTags_eq)
open Retention (DistinctNames)
open Interaction (Proc Frame)
open Interaction.Contract

variable {ι α : Type} {o : ι} {cluster : Cluster} {c₀ c c' : CloudscaleCluster} {w w' : World ι}
  {n : NetworkSpec} {k : Kind} {β : Type}

/-! ## Recorded IDs -/

/-- The recorded ID of the load balancer and its children. -/
def ownedID (s : CloudscaleClusterStatus) : Kind → String
  | .loadBalancer => s.loadBalancerID
  | .pool => s.loadBalancerPoolID
  | .listener => s.loadBalancerListenerID
  | .healthMonitor => s.loadBalancerHealthMonitorID
  | _ => ""

/-- The load balancer and its children. -/
def ownedKinds : List Kind := [.loadBalancer, .pool, .listener, .healthMonitor]

/-- A network of this name is managed. -/
def ManagedName (spec : CloudscaleClusterSpec) (name : String) : Prop :=
  ∃ n ∈ spec.networks, n.name = name ∧ n.uuid = ""

/-- Both IDs of an entry are of what is tagged with its name. -/
def EntrySlotted (cluster : Cluster) (w : World ι) (e : NetworkStatus) : Prop :=
  Slotted w .network (networkTags cluster e.name) e.networkID ∧
    Slotted w .subnet (networkTags cluster e.name) e.subnetID

/-- What the recorded IDs of a status satisfy. -/
structure StatusSlotted (cluster : Cluster) (name : String) (spec : CloudscaleClusterSpec)
    (status : CloudscaleClusterStatus) (w : World ι) : Prop where
  networks : ∀ e ∈ status.networks, ManagedName spec e.name → EntrySlotted cluster w e
  owned : ∀ k ∈ ownedKinds, Slotted w k (ownershipTags name) (ownedID status k)
  disabled : spec.controlPlaneLoadBalancer.isEnabled = false → ∀ k ∈ ownedKinds,
    ownedID status k = ""

/-- Where a pass over `c₀` stands. -/
structure Known (cluster : Cluster) (c₀ c : CloudscaleCluster) (w : World ι) : Prop where
  name : c.metadata.name = c₀.metadata.name
  networks : c.spec.networks = c₀.spec.networks
  loadBalancer : c.spec.controlPlaneLoadBalancer = c₀.spec.controlPlaneLoadBalancer
  status : StatusSlotted cluster c₀.metadata.name c₀.spec c.status w

theorem tag_owned (cluster : Cluster) (name : String) (hk : k ∈ ownedKinds) :
    Tag cluster name k (ownershipTags name) := by
  simp only [ownedKinds, List.mem_cons, List.not_mem_nil, or_false] at hk
  rcases hk with rfl | rfl | rfl | rfl <;> rfl

theorem StatusSlotted.grown {name : String} {spec : CloudscaleClusterSpec}
    {status : CloudscaleClusterStatus} (h : StatusSlotted cluster name spec status w)
    (hg : Grown w w') : StatusSlotted cluster name spec status w' where
  networks e he hm := by
    obtain ⟨hn, hs⟩ := h.networks e he hm
    exact ⟨hn.grown rfl hg, hs.grown rfl hg⟩
  owned k hk := (h.owned k hk).grown (tag_owned cluster name hk).inFamily hg
  disabled := h.disabled

theorem Known.grown (h : Known cluster c₀ c w) (hg : Grown w w') : Known cluster c₀ c w' :=
  ⟨h.name, h.networks, h.loadBalancer, h.status.grown hg⟩

/-! ## Networks -/

/-- The network and the subnet recorded for a spec entry exist, with its tag. -/
def NetPlaced (cluster : Cluster) (n : NetworkSpec) (c : CloudscaleCluster) (w : World ι) : Prop :=
  ∃ ns, c.status.getNetworkStatus n.name = some ns ∧
    Placed w .network (networkTags cluster n.name) ns.networkID ∧
    Placed w .subnet (networkTags cluster n.name) ns.subnetID

theorem NetPlaced.grown (h : NetPlaced cluster n c w) (hg : Grown w w') :
    NetPlaced cluster n c w' := by
  obtain ⟨ns, hns, hn, hs⟩ := h
  exact ⟨ns, hns, hn.grown rfl hg, hs.grown rfl hg⟩

/-- How the work on one network ends. -/
structure NetStep (cluster : Cluster) (c₀ : CloudscaleCluster) (n : NetworkSpec)
    (c : CloudscaleCluster) (w : World ι) (c' : CloudscaleCluster) (w' : World ι) : Prop where
  known : Known cluster c₀ c' w'
  grown : Grown w w'
  others : ∀ other, other ≠ n.name →
    c'.status.getNetworkStatus other = c.status.getNetworkStatus other

theorem NetStep.unchanged (h : Known cluster c₀ c w) (hg : Grown w w') :
    NetStep cluster c₀ n c w c w' := ⟨h.grown hg, hg, fun _ _ => rfl⟩

/-- Writing the entry of a network. -/
theorem Known.setNetwork (h : Known cluster c₀ c w) {networkID subnetID cidr : String}
    {managed : Bool} {mtu : Int}
    (hids : ManagedName c₀.spec n.name → Slotted w .network (networkTags cluster n.name) networkID
      ∧ Slotted w .subnet (networkTags cluster n.name) subnetID) :
    Known cluster c₀ (setNetworkStatus n.name networkID subnetID cidr managed mtu c) w := by
  refine ⟨h.name, h.networks, h.loadBalancer, ?_, h.status.owned, h.status.disabled⟩
  intro e he hm
  rcases Keyed.mem_upsertFirst he with he | rfl | ⟨e₀, _, hname, rfl⟩
  · exact h.status.networks e he hm
  · exact hids hm
  · have hname : e₀.name = n.name := by simpa using hname
    rw [show ManagedName c₀.spec e₀.name ↔ ManagedName c₀.spec n.name by rw [hname]] at hm
    show Slotted w .network (networkTags cluster e₀.name) networkID ∧
      Slotted w .subnet (networkTags cluster e₀.name) subnetID
    rw [hname]
    exact hids hm

theorem NetStep.setNetwork (h : Known cluster c₀ c w) (hg : Grown w w')
    {networkID subnetID cidr : String} {managed : Bool} {mtu : Int}
    (hids : ManagedName c₀.spec n.name → Slotted w' .network (networkTags cluster n.name) networkID
      ∧ Slotted w' .subnet (networkTags cluster n.name) subnetID) :
    NetStep cluster c₀ n c w (setNetworkStatus n.name networkID subnetID cidr managed mtu c) w' :=
  ⟨(h.grown hg).setNetwork hids, hg, fun _ hne =>
    Readiness.getNetworkStatus_set_of_ne hne _ _ _ _ _ c⟩

theorem not_managedName (hd : DistinctNames c₀.spec) (hn : n ∈ c₀.spec.networks)
    (hu : n.uuid ≠ "") :
    ¬ ManagedName c₀.spec n.name := by
  rintro ⟨n', hn', hname, hu'⟩
  obtain rfl : n' = n := List.inj_on_of_nodup_map hd.networks hn' hn hname
  exact hu hu'

theorem reconcilePreExistingNetwork_step (h : Known cluster c₀ c w) (hd : DistinctNames c₀.spec)
    (hn : n ∈ c₀.spec.networks) (hu : n.uuid ≠ "") :
    (familyCalls cluster c₀.metadata.name o).wpc (fun _ => NetStep cluster c₀ n c w)
      (reconcilePreExistingNetwork n) c w := by
  rw [reconcilePreExistingNetwork, wpc_read_bind, wpc_ite]
  split
  · exact .unchanged h (.refl w)
  · rw [wpc_bind]
    refine wpc_perform.mpr ?_
    rintro w₁ rfl hinv
    refine ⟨trivial, fun r w₂ hans _ => ?_⟩
    obtain rfl := get_same hans
    cases r with
    | error err => exact .unchanged h (.refl _)
    | ok network =>
        simp only [after_ok, wpc_ite]
        split
        · exact .unchanged h (.refl _)
        · cases network.subnets with
          | nil => exact .unchanged h (.refl _)
          | cons subnet _ =>
              exact .setNetwork h (.refl _) fun hm => absurd hm (not_managedName hd hn hu)

/-- What either half of a managed network hands back. -/
structure HalfResolved {β : Type} (w : World ι) (k : Kind) (t : TagMap) (id : β → String)
    (out : Except GoError (Except Result β)) : Prop where
  placed : ∀ x, out = .ok (.ok x) → Placed w k t (id x)
  requeue : ∀ result, out = .ok (.error result) → result.isZero = false

theorem HalfResolved.failed {t : TagMap} {id : β → String} (err : GoError) :
    HalfResolved w k t id (.error err) := ⟨by simp, by simp⟩

theorem HalfResolved.found {t : TagMap} {id : β → String} {x : β} (hp : Placed w k t (id x)) :
    HalfResolved w k t id (.ok (.ok x)) := by
  refine ⟨?_, by simp⟩
  rintro _ ⟨⟩
  exact hp

theorem HalfResolved.wait {t : TagMap} {id : β → String} {result : Result}
    (hr : result = { requeueAfter := createNetworkTimeoutRequeueAfter }) :
    HalfResolved w k t id (.ok (.error result)) := by
  refine ⟨by simp, ?_⟩
  rintro _ ⟨⟩
  rw [hr]
  rfl

theorem resolveNetwork_placed {current : String}
    (hcur : Slotted w .network (networkTags cluster n.name) current) :
    (familyCalls cluster c₀.metadata.name o).wpc (fun out c' w' => c' = c ∧ Grown w w' ∧
      HalfResolved w' .network (networkTags cluster n.name) (fun x => x.2) out)
      (resolveNetwork n current (networkTags cluster n.name)) c w := by
  rw [resolveNetwork, wpc_read_bind]
  refine wpc_seq (ensureResource_placed hcur) ?_
  rintro out _ _ ⟨rfl, rfl, hens⟩
  rcases out with err | ⟨network, id⟩
  · exact ⟨rfl, .refl _, .failed err⟩
  · simp only [after_ok, wpc_ite]
    rcases hens network id rfl with ⟨rfl, hempty⟩ | ⟨hne, hp⟩
    · rw [if_neg (by simp)]
      refine wpc_seq (createResource_placed (t := networkTags cluster n.name) ⟨_, rfl⟩ rfl hempty
        fun pk hpk => by cases hpk) ?_
      rintro out _ w₂ ⟨rfl, hg, hcr⟩
      rcases out with err | result | network
      · exact ⟨rfl, hg, .failed err⟩
      · exact ⟨rfl, hg, .wait (hcr.requeue result rfl)⟩
      · exact ⟨rfl, hg, .found (hcr.placed network rfl)⟩
    · rw [if_pos hne]
      exact ⟨rfl, .refl _, .found hp⟩

theorem resolveSubnet_placed {current networkID : String}
    (hcur : Slotted w .subnet (networkTags cluster n.name) current)
    (hnet : Placed w .network (networkTags cluster n.name) networkID) :
    (familyCalls cluster c₀.metadata.name o).wpc (fun out c' w' => c' = c ∧ Grown w w' ∧
      HalfResolved w' .subnet (networkTags cluster n.name) (fun id => id) out)
      (resolveSubnet n current networkID (networkTags cluster n.name)) c w := by
  rw [resolveSubnet]
  refine wpc_seq (ensureResource_placed hcur) ?_
  rintro out _ _ ⟨rfl, rfl, hens⟩
  rcases out with err | ⟨subnet, id⟩
  · exact ⟨rfl, .refl _, .failed err⟩
  · simp only [after_ok, wpc_ite]
    rcases hens subnet id rfl with ⟨rfl, hempty⟩ | ⟨hne, hp⟩
    · rw [if_neg (by simp)]
      refine wpc_seq (createResource_placed (t := networkTags cluster n.name) ⟨_, rfl⟩ rfl hempty
        fun pk hpk => by cases hpk; exact hnet) ?_
      rintro out _ w₂ ⟨rfl, hg, hcr⟩
      rcases out with err | result | subnet
      · exact ⟨rfl, hg, .failed err⟩
      · exact ⟨rfl, hg, .wait (hcr.requeue result rfl)⟩
      · exact ⟨rfl, hg, .found (hcr.placed subnet rfl)⟩
    · rw [if_pos hne]
      exact ⟨rfl, .refl _, .found hp⟩

theorem Known.entrySlotted (h : Known cluster c₀ c w) (hm : ManagedName c₀.spec n.name) :
    Slotted w .network (networkTags cluster n.name)
        ((c.status.getNetworkStatus n.name).elim "" (·.networkID)) ∧
      Slotted w .subnet (networkTags cluster n.name)
        ((c.status.getNetworkStatus n.name).elim "" (·.subnetID)) := by
  cases hns : c.status.getNetworkStatus n.name with
  | none => exact ⟨.inl rfl, .inl rfl⟩
  | some ns =>
      have hname : ns.name = n.name := by simpa using List.find?_some hns
      have hslot := h.status.networks ns (List.mem_of_find?_eq_some hns) (hname ▸ hm)
      rw [EntrySlotted, hname] at hslot
      exact hslot

theorem reconcileManagedNetwork_step (h : Known cluster c₀ c w) (hm : ManagedName c₀.spec n.name)
    (hinv : Family cluster c₀.metadata.name w) :
    (familyCalls cluster c₀.metadata.name o).wpc (fun out c' w' => NetStep cluster c₀ n c w c' w' ∧
      ∀ result, out = .ok result → result.isZero = true → NetPlaced cluster n c' w')
      (reconcileManagedNetwork cluster n) c w := by
  obtain ⟨hnet, hsub⟩ := h.entrySlotted hm
  rw [reconcileManagedNetwork, wpc_read_bind]
  refine wpc_seq_inv hinv (resolveNetwork_placed hnet) ?_
  rintro out _ w₁ hinv₁ ⟨rfl, hg₁, hres₁⟩
  rcases out with err | result | ⟨network, id⟩
  · exact ⟨.unchanged h hg₁, by simp⟩
  -- a create that timed out asks to come back
  · refine ⟨.unchanged h hg₁, ?_⟩
    rintro _ ⟨⟩ hz
    rw [hres₁.requeue result rfl] at hz
    cases hz
  · have hp₁ := hres₁.placed (network, id) rfl
    rw [after_ok]
    refine wpc_seq_inv hinv₁ (resolveSubnet_placed (hsub.grown rfl hg₁) hp₁) ?_
    rintro out c w₂ hinv₂ ⟨rfl, hg₂, hres₂⟩
    have hg := hg₁.trans hg₂
    rcases out with err | result | subnetID
    · exact ⟨.unchanged h hg, by simp⟩
    · refine ⟨.unchanged h hg, ?_⟩
      rintro _ ⟨⟩ hz
      rw [hres₂.requeue result rfl] at hz
      cases hz
    · have hp₁ := hp₁.grown rfl hg₂
      have hp₂ := hres₂.placed subnetID rfl
      refine ⟨.setNetwork h hg fun _ => ⟨hp₁.slotted hinv₂, hp₂.slotted hinv₂⟩, ?_⟩
      rintro _ - -
      obtain ⟨ns, hns, hnid, hsid, -⟩ := Readiness.getNetworkStatus_set_self n.name id
        subnetID n.cidr true (network.elim 0 (·.mtu)) c
      exact ⟨ns, hns, hnid ▸ hp₁, hsid ▸ hp₂⟩

/-- The networks that are done. -/
structure NetsDone (cluster : Cluster) (c₀ : CloudscaleCluster) (done : List NetworkSpec)
    (c : CloudscaleCluster) (w : World ι) : Prop where
  known : Known cluster c₀ c w
  placed : ∀ n ∈ done, n.uuid = "" → NetPlaced cluster n c w

/-- One more is done, or it was not one to be managed. -/
theorem NetsDone.step {done : List NetworkSpec} (h : NetsDone cluster c₀ done c w)
    (hstep : NetStep cluster c₀ n c w c' w')
    (hplaced : NetPlaced cluster n c' w' ∨ ¬ ManagedName c₀.spec n.name)
    (hdone : ∀ n ∈ done, n ∈ c₀.spec.networks) (hn : n ∈ c₀.spec.networks) :
    NetsDone cluster c₀ (n :: done) c' w' := by
  refine ⟨hstep.known, fun n' hn' hu => ?_⟩
  have hmem : n' ∈ c₀.spec.networks := by
    rcases List.mem_cons.mp hn' with rfl | hn'
    · exact hn
    · exact hdone n' hn'
  by_cases hname : n'.name = n.name
  · rcases hplaced with ⟨ns, hns, hp⟩ | hno
    · exact ⟨ns, hname ▸ hns, by rw [hname]; exact hp⟩
    · exact absurd ⟨n', hmem, hname, hu⟩ hno
  · rcases List.mem_cons.mp hn' with rfl | hn'
    · exact absurd rfl hname
    · obtain ⟨ns, hns, hp⟩ := (h.placed n' hn' hu).grown hstep.grown
      exact ⟨ns, (hstep.others n'.name hname).trans hns, hp⟩

theorem reconcileNetworks_done (hd : DistinctNames c₀.spec) (todo : List NetworkSpec) :
    ∀ {done : List NetworkSpec} {c : CloudscaleCluster} {w : World ι},
      NetsDone cluster c₀ done c w → Family cluster c₀.metadata.name w →
      (∀ n ∈ done, n ∈ c₀.spec.networks) → (∀ n ∈ todo, n ∈ c₀.spec.networks) →
      (familyCalls cluster c₀.metadata.name o).wpc (fun out c' w' => Known cluster c₀ c' w' ∧
        ∀ result, out = .ok result → result.isZero = true →
          NetsDone cluster c₀ (todo.reverse ++ done) c' w')
        (reconcileNetworks cluster todo) c w := by
  induction todo with
  | nil => exact fun h _ _ _ => ⟨h.known, fun _ _ _ => h⟩
  | cons n rest ih =>
      intro done c w h hinv hdone htodo
      have hn := htodo n (by simp)
      have hrest : ∀ n ∈ rest, n ∈ c₀.spec.networks := fun n' hn' => htodo n' (by simp [hn'])
      have hdone' : ∀ n' ∈ n :: done, n' ∈ c₀.spec.networks := by
        intro n' hn'
        rcases List.mem_cons.mp hn' with rfl | hn'
        · exact hn
        · exact hdone n' hn'
      have hlist : (n :: rest).reverse ++ done = rest.reverse ++ n :: done := by simp
      rw [reconcileNetworks, hlist]
      simp only [wpc_ite]
      split
      · next hu =>
        -- pre-existing: there is nothing to place
        refine wpc_seq_inv hinv (wpc_wrapped (reconcilePreExistingNetwork_step h.known hd hn hu)
          fun _ _ _ => id) ?_
        intro out c₁ w₁ hinv₁ hstep
        cases out with
        | error err => exact ⟨hstep.known, by simp⟩
        | ok _ =>
            exact ih (h.step hstep (.inr (not_managedName hd hn hu)) hdone hn) hinv₁ hdone' hrest
      · next hu =>
        -- managed: placed, unless the step asks to come back
        have hu : n.uuid = "" := by simpa using hu
        refine wpc_seq_inv hinv
          (wpc_wrapped (reconcileManagedNetwork_step h.known ⟨n, hn, rfl, hu⟩ hinv)
          fun _ _ _ hstep => ⟨hstep.1, by simp⟩) ?_
        rintro out c₁ w₁ hinv₁ ⟨hstep, hplaced⟩
        cases out with
        | error err => exact ⟨hstep.known, by simp⟩
        | ok result =>
            rw [after_ok, wpc_ite]
            split
            · next hz =>
              exact ih (h.step hstep (.inl (hplaced result rfl hz)) hdone hn) hinv₁ hdone' hrest
            · next hz =>
              refine ⟨hstep.known, ?_⟩
              rintro _ ⟨⟩ hz'
              exact absurd hz' hz

/-- Only part of the cluster counts for what is known. -/
theorem Known.congr (h : Known cluster c₀ c w) (hname : c'.metadata.name = c.metadata.name)
    (hspec : c'.spec.networks = c.spec.networks)
    (hlb : c'.spec.controlPlaneLoadBalancer = c.spec.controlPlaneLoadBalancer)
    (hnet : c'.status.networks = c.status.networks)
    (hids : ∀ k ∈ ownedKinds, ownedID c'.status k = ownedID c.status k) :
    Known cluster c₀ c' w := by
  refine ⟨hname.trans h.name, hspec.trans h.networks, hlb.trans h.loadBalancer,
    hnet ▸ h.status.networks, ?_, ?_⟩
  · intro k hk
    rw [hids k hk]
    exact h.status.owned k hk
  · intro hoff k hk
    rw [hids k hk]
    exact h.status.disabled hoff k hk

end Capcs.Lineage
