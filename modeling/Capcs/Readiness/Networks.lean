import Capcs.Readiness.Calls

/-!
# Capcs.Readiness.Networks — the network step

What `reconcileNetwork` leaves in status. Entries are only ever written with both
IDs, so an entry is missing or complete (`Complete`), and a network that is recorded
stays recorded. If the step is cut short by a timeout, the networks before the one
that timed out are recorded, and the entries of the others are as they were.
-/

namespace Capcs.Readiness

open Cloudscale Controller
open Interaction (Program Proc New history history_perform)
open Interaction.Contract

variable {c c' c'' : CloudscaleCluster} {h : Trace}

/-! ## Entries -/

/-- The network of a name is recorded, with both IDs. -/
def NetworkRecorded (c : CloudscaleCluster) (name : String) : Prop :=
  ∃ ns, c.status.getNetworkStatus name = some ns ∧ ns.networkID ≠ "" ∧ ns.subnetID ≠ ""

/-- Every network entry has both IDs. -/
def Complete (c : CloudscaleCluster) : Prop :=
  ∀ ns ∈ c.status.networks, ns.networkID ≠ "" ∧ ns.subnetID ≠ ""

/-- The entry that `setNetworkStatus` leaves. -/
theorem getNetworkStatus_set_self (name networkID subnetID cidr : String) (managed : Bool)
    (mtu : Int) (c : CloudscaleCluster) :
    ∃ ns, (setNetworkStatus name networkID subnetID cidr managed mtu c).status.getNetworkStatus
        name = some ns ∧ ns.networkID = networkID ∧ ns.subnetID = subnetID ∧ ns.cidr = cidr ∧
      ns.managed = managed ∧ ns.mtu = mtu := by
  have hfind := Keyed.find?_upsertFirst_self
    (p := fun ns : NetworkStatus => decide (ns.name = name))
    (f := fun ns => { ns with networkID, subnetID, cidr, managed, mtu })
    (e := { name, networkID, subnetID, cidr, managed, mtu }) (fun _ hp => hp) (by simp)
    c.status.networks
  refine ⟨_, hfind, ?_⟩
  cases c.status.networks.find? fun ns => decide (ns.name = name) with
  | none => exact ⟨rfl, rfl, rfl, rfl, rfl⟩
  | some ns => exact ⟨rfl, rfl, rfl, rfl, rfl⟩

theorem getNetworkStatus_set_of_ne {name other : String} (hne : other ≠ name)
    (networkID subnetID cidr : String) (managed : Bool) (mtu : Int) (c : CloudscaleCluster) :
    (setNetworkStatus name networkID subnetID cidr managed mtu c).status.getNetworkStatus other =
      c.status.getNetworkStatus other := by
  refine Keyed.find?_upsertFirst_of_disjoint ?_ (by simpa using hne.symm) c.status.networks
  intro ns hns
  have hname : ns.name = name := by simpa using hns
  simp [hname, hne.symm]

/-- What the network step may do to the object: it touches the entries of networks
only, and loses no record. -/
structure NetworksGrow (c c' : CloudscaleCluster) : Prop where
  frame : c' = { c with status := { c.status with networks := c'.status.networks } }
  recorded : ∀ name, NetworkRecorded c name → NetworkRecorded c' name
  complete : Complete c → Complete c'

theorem NetworksGrow.refl (c : CloudscaleCluster) : NetworksGrow c c :=
  ⟨rfl, fun _ => id, id⟩

theorem NetworksGrow.trans (h₁ : NetworksGrow c c') (h₂ : NetworksGrow c' c'') :
    NetworksGrow c c'' := by
  refine ⟨?_, fun name hrec => h₂.recorded name (h₁.recorded name hrec),
    fun hc => h₂.complete (h₁.complete hc)⟩
  rw [h₂.frame, h₁.frame]

theorem networksGrow_set {name networkID subnetID : String} (hid : networkID ≠ "")
    (hsid : subnetID ≠ "") (cidr : String) (managed : Bool) (mtu : Int) (c : CloudscaleCluster) :
    NetworksGrow c (setNetworkStatus name networkID subnetID cidr managed mtu c) := by
  refine ⟨rfl, ?_, ?_⟩
  · rintro other ⟨ns, hns, hrec⟩
    by_cases hne : other = name
    · obtain ⟨ns', hns', hn, hs, -⟩ :=
        getNetworkStatus_set_self name networkID subnetID cidr managed mtu c
      exact ⟨ns', hne ▸ hns', hn ▸ hid, hs ▸ hsid⟩
    · exact ⟨ns, (getNetworkStatus_set_of_ne hne _ _ _ _ _ c).trans hns, hrec⟩
  · intro hc ns hns
    rcases Keyed.mem_upsertFirst hns with hns | rfl | ⟨ns₀, _, _, rfl⟩
    · exact hc ns hns
    · exact ⟨hid, hsid⟩
    · exact ⟨hid, hsid⟩

theorem networkRecorded_set {name networkID subnetID : String} (hid : networkID ≠ "")
    (hsid : subnetID ≠ "") (cidr : String) (managed : Bool) (mtu : Int) (c : CloudscaleCluster) :
    NetworkRecorded (setNetworkStatus name networkID subnetID cidr managed mtu c) name := by
  obtain ⟨ns, hns, hn, hs, -⟩ := getNetworkStatus_set_self name networkID subnetID
    cidr managed mtu c
  exact ⟨ns, hns, hn ▸ hid, hs ▸ hsid⟩

/-! ## One network -/

/-- How the work on one network ends if nothing stops it. -/
structure NetworkDone (c : CloudscaleCluster) (name : String) (h : Trace) (c' : CloudscaleCluster)
    (h' : Trace) : Prop where
  grow : NetworksGrow c c'
  recorded : NetworkRecorded c' name
  others : ∀ other, other ≠ name →
    c'.status.getNetworkStatus other = c.status.getNetworkStatus other
  quiet : Quiet h h'

theorem networkDone_set {name networkID subnetID cidr : String} {managed : Bool} {mtu : Int}
    {h' : Trace} (hid : networkID ≠ "") (hsid : subnetID ≠ "") (hq : Quiet h h') :
    NetworkDone c name h (setNetworkStatus name networkID subnetID cidr managed mtu c) h' :=
  ⟨networksGrow_set hid hsid _ _ _ c, networkRecorded_set hid hsid _ _ _ c,
    fun _ hne => getNetworkStatus_set_of_ne hne _ _ _ _ _ c, hq⟩

theorem reconcilePreExistingNetwork_spec (n : NetworkSpec) :
    calls.wpc (fun out c' h' => match out with
      | .error _ => c' = c ∧ Quiet h h'
      | .ok _ => NetworkDone c n.name h c' h') (reconcilePreExistingNetwork n) c h := by
  rw [reconcilePreExistingNetwork, wpc_read_bind, wpc_ite]
  split
  · next hcached =>
    cases hns : c.status.getNetworkStatus n.name with
    | none => simp [hns] at hcached
    | some ns =>
        have hids : ns.networkID ≠ "" ∧ ns.subnetID ≠ "" ∧ ns.cidr ≠ "" := by
          simpa [hns] using hcached
        exact ⟨.refl c, ⟨ns, hns, hids.1, hids.2.1⟩, fun _ _ => rfl, .refl _ h⟩
  · rw [wpc_bind]
    refine quiet_perform (by simp [PlainOp]) fun r h' hr hq => ?_
    cases r with
    | error err => exact ⟨rfl, hq⟩
    | ok network =>
        have hr : network.uuid ≠ "" ∧ ∀ s ∈ network.subnets, s.uuid ≠ "" := by
          simpa [identified, identifiedResource] using hr
        simp only [after_ok, wpc_ite]
        split
        · exact ⟨rfl, hq⟩
        · cases hs : network.subnets with
          | nil => exact ⟨rfl, hq⟩
          | cons subnet rest =>
              have hsid : subnet.uuid ≠ "" := hr.2 subnet (by simp [hs])
              exact networkDone_set hr.1 hsid hq

/-- How the two halves of `reconcileManagedNetwork` end: with an ID, or cut short. -/
def HalfEnds {α : Type} (id : α → String) (tags : TagMap) (c : CloudscaleCluster) (h : Trace) :
    Except GoError (Except Result α) → CloudscaleCluster → Trace → Prop
  | .error _, c', h' => c' = c ∧ Quiet h h'
  | .ok (.ok a), c', h' => c' = c ∧ id a ≠ "" ∧ Quiet h h'
  | .ok (.error result), c', h' => c' = c ∧ result.isZero = false ∧ Stops (.network tags) h h'

theorem resolveNetwork_spec (n : NetworkSpec) (networkID : String) (tags : TagMap) :
    calls.wpc (HalfEnds (fun a : Option Network × String => a.2) tags c h)
      (resolveNetwork n networkID tags) c h := by
  rw [resolveNetwork, wpc_read_bind]
  refine wpc_seq ensureResource_spec ?_
  rintro out c₁ h₁ ⟨rfl, hens⟩
  rcases out with err | ⟨_ | network, id⟩
  · exact ⟨rfl, hens.2 (by simp)⟩
  · obtain ⟨rfl, hq⟩ := hens
    simp only [after_ok, ne_eq, not_true, if_false]
    refine wpc_seq createResource_spec ?_
    rintro out c₂ h₂ ⟨rfl, hcr⟩
    rcases out with err | result | network
    · exact ⟨rfl, hq.trans hcr⟩
    · obtain ⟨rfl, hstop⟩ := hcr
      exact ⟨rfl, rfl, hstop.after hq⟩
    · exact ⟨rfl, uuidOf_ne_of_identified hcr.1, hq.trans hcr.2⟩
  · obtain ⟨-, hid, -, hq⟩ := hens
    simp only [after_ok, if_pos hid]
    exact ⟨rfl, hid, hq (by simp)⟩

theorem resolveSubnet_spec (n : NetworkSpec) (subnetID networkID : String) (tags : TagMap) :
    calls.wpc (HalfEnds (fun a : String => a) tags c h)
      (resolveSubnet n subnetID networkID tags) c h := by
  rw [resolveSubnet]
  refine wpc_seq ensureResource_spec ?_
  rintro out c₁ h₁ ⟨rfl, hens⟩
  rcases out with err | ⟨_ | subnet, id⟩
  · exact ⟨rfl, hens.2 (by simp)⟩
  · obtain ⟨rfl, hq⟩ := hens
    simp only [after_ok, ne_eq, not_true, if_false]
    refine wpc_seq createResource_spec ?_
    rintro out c₂ h₂ ⟨rfl, hcr⟩
    rcases out with err | result | subnet
    · exact ⟨rfl, hq.trans hcr⟩
    · obtain ⟨rfl, hstop⟩ := hcr
      exact ⟨rfl, rfl, hstop.after hq⟩
    · exact ⟨rfl, uuidOf_ne_of_identified hcr.1, hq.trans hcr.2⟩
  · obtain ⟨-, hid, -, hq⟩ := hens
    simp only [after_ok, if_pos hid]
    exact ⟨rfl, hid, hq (by simp)⟩

theorem reconcileManagedNetwork_spec (cluster : Cluster) (n : NetworkSpec) :
    calls.wpc (fun out c' h' => match out with
      | .error _ => c' = c ∧ Quiet h h'
      | .ok result =>
        (result.isZero = true ∧ NetworkDone c n.name h c' h') ∨
        (result.isZero = false ∧ c' = c ∧ Stops (.network (networkTags cluster n.name)) h h'))
      (reconcileManagedNetwork cluster n) c h := by
  rw [reconcileManagedNetwork, wpc_read_bind]
  refine wpc_seq (resolveNetwork_spec n _ _) ?_
  intro out c₁ h₁ hres
  rcases out with err | result | ⟨network, networkID⟩
  · exact hres
  · obtain ⟨rfl, hzero, hstop⟩ := hres
    exact .inr ⟨hzero, rfl, hstop⟩
  · obtain ⟨rfl, hid, hq⟩ := hres
    simp only [after_ok]
    refine wpc_seq (resolveSubnet_spec n _ _ _) ?_
    intro out c₂ h₂ hres
    rcases out with err | result | subnetID
    · exact ⟨hres.1, hq.trans hres.2⟩
    · obtain ⟨rfl, hzero, hstop⟩ := hres
      exact .inr ⟨hzero, rfl, hstop.after hq⟩
    · obtain ⟨rfl, hsid, hq'⟩ := hres
      exact .inl ⟨rfl, networkDone_set hid hsid (hq.trans hq')⟩

/-! ## All networks -/

/-- The networks before one that timed out are recorded, and the entries of the others
are as they were. -/
def NetworksCut (cluster : Cluster) (ns : List NetworkSpec) (c : CloudscaleCluster) (h : Trace)
    (c' : CloudscaleCluster) (h' : Trace) : Prop :=
  ∃ done n rest, ns = done ++ n :: rest ∧ (∀ d ∈ done, NetworkRecorded c' d.name) ∧
    (∀ name, (∀ d ∈ done, d.name ≠ name) →
      c'.status.getNetworkStatus name = c.status.getNetworkStatus name) ∧
    Stops (.network (networkTags cluster n.name)) h h'

/-- How the network step ends on a list of networks. -/
def NetworksEnd (cluster : Cluster) (ns : List NetworkSpec) (c : CloudscaleCluster) (h : Trace)
    (out : Except GoError Result) (c' : CloudscaleCluster) (h' : Trace) : Prop :=
  NetworksGrow c c' ∧ match out with
    | .error _ => Quiet h h'
    | .ok result =>
      (result.isZero = true ∧ (∀ n ∈ ns, NetworkRecorded c' n.name) ∧ Quiet h h') ∨
      (result.isZero = false ∧ NetworksCut cluster ns c h c' h')

/-- A network that is done, and then the rest of the list. -/
theorem NetworkDone.cons {cluster : Cluster} {n : NetworkSpec} {ns : List NetworkSpec}
    {h₁ h' : Trace} {out : Except GoError Result} (hdone : NetworkDone c n.name h c' h₁)
    (hend : NetworksEnd cluster ns c' h₁ out c'' h') :
    NetworksEnd cluster (n :: ns) c h out c'' h' := by
  obtain ⟨hgrow, hrec, hother, hq⟩ := hdone
  obtain ⟨hgrow', hout⟩ := hend
  refine ⟨hgrow.trans hgrow', ?_⟩
  cases out with
  | error err => exact hq.trans hout
  | ok result =>
      rcases hout with ⟨hzero, hall, hq'⟩ | ⟨hzero, done, m, rest, rfl, hall, hsame, hstop⟩
      · refine .inl ⟨hzero, ?_, hq.trans hq'⟩
        intro d hd
        rcases List.mem_cons.mp hd with rfl | hd
        · exact hgrow'.recorded _ hrec
        · exact hall d hd
      · refine .inr ⟨hzero, n :: done, m, rest, rfl, ?_, ?_, hstop.after hq⟩
        · intro d hd
          rcases List.mem_cons.mp hd with rfl | hd
          · exact hgrow'.recorded _ hrec
          · exact hall d hd
        · intro name hname
          have hne : name ≠ n.name := fun heq => hname n (by simp) heq.symm
          rw [hsame name fun d hd => hname d (by simp [hd]), hother name hne]

theorem reconcileNetworks_spec (cluster : Cluster) (ns : List NetworkSpec) :
    ∀ c h, calls.wpc (NetworksEnd cluster ns c h) (reconcileNetworks cluster ns) c h := by
  induction ns with
  | nil =>
      intro c h
      exact ⟨.refl c, .inl ⟨rfl, by simp, .refl _ h⟩⟩
  | cons n ns ih =>
      intro c h
      rw [reconcileNetworks, wpc_ite]
      split
      · refine wpc_seq (wpc_wrapped (reconcilePreExistingNetwork_spec n) fun _ _ _ => id) ?_
        intro out c₁ h₁ hn
        cases out with
        | error err =>
            obtain ⟨rfl, hq⟩ := hn
            exact ⟨.refl _, hq⟩
        | ok _ => exact wpc_imp (ih c₁ h₁) fun _ _ _ => hn.cons
      · refine wpc_seq (wpc_wrapped (reconcileManagedNetwork_spec cluster n) fun _ _ _ => id) ?_
        intro out c₁ h₁ hn
        cases out with
        | error err =>
            obtain ⟨rfl, hq⟩ := hn
            exact ⟨.refl _, hq⟩
        | ok result =>
            -- a create that timed out ends the loop at this network
            rcases hn with ⟨hzero, hdone⟩ | ⟨hzero, rfl, hstop⟩
            · simp only [after_ok, if_pos hzero]
              exact wpc_imp (ih c₁ h₁) fun _ _ _ => hdone.cons
            · simp only [after_ok, hzero, Bool.false_eq_true, if_false]
              refine ⟨.refl _, .inr ⟨hzero, [], n, ns, rfl, by simp, fun _ _ => rfl, hstop⟩⟩

/-- The network step, with the condition it writes. -/
theorem reconcileNetwork_spec (cluster : Cluster) :
    calls.wpc (fun out c' h' => ∃ c₁, c' = setNetworkReady out c₁ ∧
        NetworksEnd cluster c.spec.networks c h out c₁ h' ∧
        ∀ result, out = .ok result → c.spec.networks ≠ [])
      (reconcileNetwork cluster) c h := by
  rw [reconcileNetwork, wpc_deferred, wpc_read_bind, wpc_ite]
  split
  · exact ⟨c, rfl, ⟨.refl c, .refl _ h⟩, by simp⟩
  · next hne =>
    refine wpc_imp (reconcileNetworks_spec cluster c.spec.networks c h) ?_
    intro out c₁ h₁ hend
    exact ⟨c₁, rfl, hend, fun _ _ => hne⟩

end Capcs.Readiness
