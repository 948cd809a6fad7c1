import Capcs.Controller.Frames
import Capcs.Keyed.Mirror

/-!
# Capcs.Mirror.Networks — what can be said of all network entries

`status.networks` is written in two places, for a pre-existing network with what `Get` has
returned and for a managed one with the IDs found or created. A relation between the networks of
the spec and their entries that both of them establish (`Writes`) is kept by the network step, and
by a whole normal pass.
-/

namespace Capcs.Mirror

open Cloudscale Controller
open Interaction (Proc Frame history history_perform)
open Interaction.Contract

variable {good : (op : Op) → op.Reply → Prop} {specs : List NetworkSpec}
  {R : NetworkSpec → NetworkStatus → Prop} {c c' : CloudscaleCluster}

/-- Where the subnet of a managed network comes from: an entry has it, or a reply to a request
with the tags of the network. -/
def SubnetFor (good : (op : Op) → op.Reply → Prop) (R : NetworkSpec → NetworkStatus → Prop)
    (n : NetworkSpec) (id : String) : Prop :=
  (∃ n' e, R n' e ∧ e.name = n.name ∧ e.subnetID = id) ∨
    ∃ cluster, (∃ s, good (.list .subnet (networkTags cluster n.name)) (.ok [s]) ∧ s.uuid = id) ∨
      ∃ req s, req.tags = networkTags cluster n.name ∧
        good (.create .subnet req) (.ok s) ∧ s.uuid = id

/-- The entries that are written are in the relation. -/
structure Writes (good : (op : Op) → op.Reply → Prop) (specs : List NetworkSpec)
    (R : NetworkSpec → NetworkStatus → Prop) : Prop where
  preExisting : ∀ n ∈ specs, n.uuid ≠ "" → ∀ (network : Network),
    good (.get .network n.uuid) (.ok network) →
    ∀ subnet ∈ network.subnets, ∀ e : NetworkStatus, e.name = n.name →
      R n { e with networkID := network.uuid, subnetID := subnet.uuid, cidr := subnet.cidr
                   managed := false, mtu := network.mtu }
  managed : ∀ n ∈ specs, n.uuid = "" →
    ∀ (networkID subnetID : String) (mtu : Int) (e : NetworkStatus),
    e.name = n.name → SubnetFor good R n subnetID →
      R n { e with networkID, subnetID, cidr := n.cidr, managed := true, mtu }

/-- The networks of the spec, and entries that follow them. -/
structure Networked (specs : List NetworkSpec) (R : NetworkSpec → NetworkStatus → Prop)
    (c : CloudscaleCluster) : Prop where
  networks : c.spec.networks = specs
  mirrors : Keyed.Mirrors (·.name) R specs c.status.networks

theorem Networked.congr (hc : Networked specs R c) (hn : c'.spec.networks = c.spec.networks)
    (hs : c'.status.networks = c.status.networks) : Networked specs R c' :=
  ⟨hn.trans hc.networks, hs ▸ hc.mirrors⟩

/-- A step keeps the entries in line. -/
abbrev KeepsNetworks {α : Type} (good : (op : Op) → op.Reply → Prop) (specs : List NetworkSpec)
    (R : NetworkSpec → NetworkStatus → Prop) (m : ClusterM α) : Prop :=
  (history good).Preserves (fun c _ => Networked specs R c) m

/-- What leaves networks alone. -/
theorem keepsNetworks_of_frame {α β : Type} {f : CloudscaleCluster → β} {P : Op → Prop}
    {m : ClusterM α} (hm : Frame f P m) (hf : ∀ c c', f c' = f c →
      c'.spec.networks = c.spec.networks ∧ c'.status.networks = c.status.networks) :
    KeepsNetworks good specs R m := by
  refine hm.preserves ?_ ?_ ?_
  · intro c c' h hsame hc
    exact hc.congr (hf c c' hsame).1 (hf c c' hsame).2
  · exact fun _ _ _ hc _ _ => hc
  · exact fun _ _ _ _ hc _ => ⟨trivial, fun _ _ _ _ => hc⟩

theorem keepsNetworks_of_reads {α : Type} {P : Op → Prop} {m : ClusterM α} (hm : Frame id P m) :
    KeepsNetworks good specs R m := by
  refine keepsNetworks_of_frame hm ?_
  rintro c _ rfl
  exact ⟨rfl, rfl⟩

/-! ## The network step -/

theorem Networked.set (hc : Networked specs R c) {n : NetworkSpec} (hn : n ∈ specs)
    {networkID subnetID cidr : String} {managed : Bool} {mtu : Int}
    (hR : ∀ e : NetworkStatus, e.name = n.name → R n { e with
      networkID, subnetID, cidr, managed, mtu }) :
    Networked specs R (setNetworkStatus n.name networkID subnetID cidr managed mtu c) := by
  refine ⟨hc.networks, hc.mirrors.upsert (fun _ => rfl) rfl ?_ ?_⟩
  · exact fun e _ hname => ⟨n, hn, hR e hname⟩
  · exact ⟨n, hn, hR { name := n.name, networkID, subnetID, cidr, managed, mtu } rfl⟩

theorem reconcilePreExistingNetwork_keeps (hW : Writes good specs R) {n : NetworkSpec}
    (hn : n ∈ specs) (hu : n.uuid ≠ "") :
    KeepsNetworks good specs R (reconcilePreExistingNetwork n) := by
  refine .read_any fun c => .ite (fun _ => .pure _) fun _ => ?_
  intro c₁ h hinv hc
  rw [wpc_bind]
  refine history_perform fun r hr => ?_
  cases r with
  | error err => exact hc
  | ok network =>
      simp only [after_ok, wpc_ite]
      split
      · exact hc
      · cases hsub : network.subnets with
        | nil => exact hc
        | cons subnet _ =>
            exact hc.set hn (hW.preExisting n hn hu network hr subnet (by simp [hsub]))

theorem resolveSubnet_for (cluster : Cluster) {n : NetworkSpec} {subnetID networkID : String}
    {h : Interaction.History Op Op.Reply} (hcurrent : subnetID ≠ "" → SubnetFor good R n subnetID) :
    (history good).wpc (fun out _ _ => ∀ id, out = .ok (.ok id) → SubnetFor good R n id)
      (resolveSubnet n subnetID networkID (networkTags cluster n.name)) c h := by
  refine wpc_seq ensureResource_found ?_
  rintro (err | ⟨subnet, id⟩) c₁ h₁ hfound
  · exact fun _ hout => by cases hout
  simp only [after_ok, wpc_ite]
  split
  · next hid =>
    rintro _ ⟨⟩
    cases hfound _ _ rfl hid with
    | get hid => exact hcurrent hid
    | list hgood => exact .inr ⟨cluster, .inl ⟨_, hgood, rfl⟩⟩
  · rw [createResource, wpc_bind, wpc_bind]
    refine history_perform fun r hr => ?_
    cases r with
    | ok s =>
        rintro _ ⟨⟩
        exact .inr ⟨cluster, .inr ⟨_, s, rfl, hr, rfl⟩⟩
    | error err =>
        simp only [after_ok, wpc_ite]
        split <;> exact fun _ hout => by cases hout

theorem reconcileManagedNetwork_keeps (cluster : Cluster) (hW : Writes good specs R)
    {n : NetworkSpec} (hn : n ∈ specs) (hu : n.uuid = "") :
    KeepsNetworks good specs R (reconcileManagedNetwork cluster n) := by
  refine .read fun c h hinv hc => ?_
  have hcurrent : (c.status.getNetworkStatus n.name).elim "" (·.subnetID) ≠ "" →
      SubnetFor good R n ((c.status.getNetworkStatus n.name).elim "" (·.subnetID)) := by
    intro hid
    cases hns : c.status.getNetworkStatus n.name with
    | none => simp [hns] at hid
    | some ns =>
        obtain ⟨n', -, hR⟩ := hc.mirrors.each ns (List.mem_of_find?_eq_some hns)
        exact .inl ⟨n', ns, hR, by simpa using List.find?_some hns, rfl⟩
  refine Preserves.bind (keepsNetworks_of_reads (resolveNetwork_frame _ _ _))
    (fun r => ?_) c h hinv hc
  split
  · exact .pure _
  · intro c₁ h₁ hinv₁ hc₁
    refine wpc_seq (wpc_and (keepsNetworks_of_reads (resolveSubnet_frame _ _ _ _) c₁ h₁ hinv₁ hc₁)
      (resolveSubnet_for cluster hcurrent)) ?_
    rintro (err | result | id) c₂ h₂ ⟨hc₂, hid⟩
    · exact hc₂
    · exact hc₂
    · exact hc₂.set hn fun e hname => hW.managed n hn hu _ _ _ e hname (hid id rfl)

theorem reconcileNetworks_keeps (cluster : Cluster) (hW : Writes good specs R)
    (ns : List NetworkSpec) (hns : ∀ n ∈ ns, n ∈ specs) :
    KeepsNetworks good specs R (reconcileNetworks cluster ns) := by
  induction ns with
  | nil => exact .pure _
  | cons n ns ih =>
      have hn := hns n (by simp)
      have ih := ih fun m hm => hns m (by simp [hm])
      refine .ite (fun hu => ?_) fun hu => ?_
      · exact .bind (.wrapErr (reconcilePreExistingNetwork_keeps hW hn hu)) fun _ => ih
      · refine .bind (.wrapErr (reconcileManagedNetwork_keeps cluster hW hn (by simpa using hu))) ?_
        exact fun result => .ite (fun _ => ih) fun _ => .pure _

theorem reconcileNetwork_keeps (cluster : Cluster) (hW : Writes good specs R) :
    KeepsNetworks good specs R (reconcileNetwork cluster) := by
  refine .deferred (.read fun c h hinv hc => ?_) ?_
  · refine Preserves.ite (fun _ => .fail _) (fun _ => ?_) c h hinv hc
    exact reconcileNetworks_keeps cluster hW _ fun n hn => hc.networks ▸ hn
  · intro out c h hc
    cases out <;> exact hc.congr rfl rfl

/-! ## The normal pass -/

theorem reconcileNormal_keeps (cluster : Cluster) (hW : Writes good specs R) :
    KeepsNetworks good specs R (reconcileNormal cluster) := by
  refine reconcileNormal_preserves (reconcileNetwork_keeps cluster hW) ?_ ?_ ?_ (fun lb => ?_)
    fun c _ hc => hc.congr rfl rfl
  -- the other steps write other fields
  · exact keepsNetworks_of_frame (reconcileRouters_frame cluster) fun c c' hsame =>
      ⟨congrArg (·.spec.networks) hsame, congrArg (·.status.networks) hsame⟩
  · exact keepsNetworks_of_frame (reconcileLoadBalancer_frame cluster) fun c c' hsame =>
      ⟨congrArg (·.spec.networks) hsame, congrArg (·.status.networks) hsame⟩
  · exact keepsNetworks_of_frame (reconcileFloatingIP_frame cluster) fun c c' hsame =>
      ⟨congrArg (·.spec.networks) hsame, congrArg (·.status.networks) hsame⟩
  · exact keepsNetworks_of_frame (finishNormal_frame cluster lb) fun c c' hsame =>
      ⟨congrArg (·.spec.networks) hsame, congrArg (·.status.networks) hsame⟩

end Capcs.Mirror
