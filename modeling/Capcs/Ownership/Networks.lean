import Capcs.Ownership.Status
import Mathlib.Data.List.Nodup

/-!
# Capcs.Ownership.Networks — reconciling networks keeps the status in order

`KeepsOrder` is the property every step of a pass has: started from a status in order
it ends in one, whatever the calls return, and never touches the spec except the
endpoint. The rules of `Contract.Preserves` put the steps together without looking
inside them.

The delicate step is `reconcileManagedNetwork`, which records a network only after
its subnet exists: between the two, `NetworkResolved` is what holds.
-/

namespace Capcs.Ownership

open Cloudscale Controller
open Interaction (Contract Proc Frame)
open Interaction.Contract

variable {ι α : Type} {slot : Slots ι} {R : Role ι} {clean : Prop} {A : Admitted}
  {c₀ c : CloudscaleCluster} {w : World ι} {n : NetworkSpec}

/-! ## Keeping the status in order -/

/-- Only the status and the endpoint may differ. -/
structure SameSpec (c c' : CloudscaleCluster) : Prop where
  metadata : c'.metadata = c.metadata
  spec : c'.spec = { c.spec with controlPlaneEndpoint := c'.spec.controlPlaneEndpoint }

theorem SameSpec.refl (c : CloudscaleCluster) : SameSpec c c := ⟨rfl, rfl⟩

theorem SameSpec.loadBalancer {c c' : CloudscaleCluster} (h : SameSpec c c') :
    c'.spec.controlPlaneLoadBalancer = c.spec.controlPlaneLoadBalancer := by rw [h.spec]

theorem SameSpec.floatingIP {c c' : CloudscaleCluster} (h : SameSpec c c') :
    c'.spec.floatingIP = c.spec.floatingIP := by rw [h.spec]

/-- An edit of the status alone. -/
theorem SameSpec.status {c c' : CloudscaleCluster} (h : SameSpec c c')
    (s : CloudscaleClusterStatus) : SameSpec c { c' with status := s } := ⟨h.metadata, h.spec⟩

/-- The state a step of a pass starts from and ends in. -/
structure InOrder (slot : Slots ι) (R : Role ι) (clean : Prop) (A : Admitted)
    (c₀ c : CloudscaleCluster) (w : World ι) : Prop where
  same : SameSpec c₀ c
  ok : ClusterOK slot R clean A none c w

/-- A step of a pass keeps the status in order. -/
abbrev KeepsOrder (slot : Slots ι) (R : Role ι) (clean : Prop) (A : Admitted)
    (c₀ : CloudscaleCluster) (m : ClusterM α) : Prop :=
  (api slot R clean).Preserves (InOrder slot R clean A c₀) m

theorem InOrder.later {w' : World ι} (h : InOrder slot R clean A c₀ c w)
    (hl : Later R clean w w') : InOrder slot R clean A c₀ c w' := ⟨h.same, h.ok.later hl⟩

theorem InOrder.setCondition (h : InOrder slot R clean A c₀ c w) (t : ConditionType)
    (status : ConditionStatus) (reason : Reason) (message : String) :
    InOrder slot R clean A c₀ (setCondition t status reason message c) w :=
  ⟨h.same.status _, h.ok.setCondition t status reason message⟩

/-- A call that is always allowed and leaves the resources as they are. -/
theorem KeepsOrder.perform {op : Op} (hguard : ∀ w : World ι, Guard slot R w op)
    (hsame : ∀ (w' : World ι) r w'', Answers R.owner w' op r w'' →
      w''.cloud = w'.cloud ∧ w''.created = w'.created) :
    KeepsOrder slot R clean A c₀ (Proc.perform op) := by
  intro c w _ h
  refine wpc_perform.mpr fun w₁ hl _ => ⟨hguard w₁, fun r w₂ hans _ => ?_⟩
  obtain ⟨hcloud, hcreated⟩ := hsame _ _ _ hans.1
  exact ⟨h.same, (h.later hl).ok.sameCloud hcloud hcreated⟩

/-- A step of free calls that leaves the object alone keeps everything in order. -/
theorem keepsOrder_of_frame {P : Op → Prop} {m : ClusterM α} (hm : Frame (fun c => c) P m)
    (hP : ∀ op, P op → FreeCall op) : KeepsOrder slot R clean A c₀ m := fun _ _ hinv h =>
  wpc_mono hinv (later_of_frame hm hP hinv) fun _ _ _ _ ⟨hc, hl⟩ => hc ▸ h.later hl

/-! ## Pre-existing networks -/

theorem ClusterOK.networkEntry {ex : Option Kind} (h : ClusterOK slot R clean A ex c w)
    (hn : n ∈ A.networks) {e : NetworkStatus} (he : e ∈ c.status.networks)
    (hname : e.name = n.name) : (e.managed = true ↔ n.uuid = "") ∧
      (n.uuid = "" → Own w R.owner .network e.networkID ∧ Own w R.owner .subnet e.subnetID) := by
  obtain ⟨n', hn', hname', hm, hown⟩ := h.networks e he
  have hiff := h.fits.networkNames n' hn' n hn (hname'.trans hname)
  exact ⟨hm.trans hiff, fun hu => hown (hiff.mpr hu)⟩

/-- Writing the entry of a network of the spec keeps the entries owned. -/
theorem networksOwned_set {specs : List NetworkSpec} {entries : List NetworkStatus}
    (h : NetworksOwned w R.owner specs entries) (hn : n ∈ specs) {id subnetID cidr : String}
    {managed : Bool} {mtu : Int} (hm : managed = true ↔ n.uuid = "")
    (hown : n.uuid = "" → Own w R.owner .network id ∧ Own w R.owner .subnet subnetID) :
    NetworksOwned w R.owner specs (Keyed.upsertFirst (fun ns => ns.name = n.name)
      (fun ns => { ns with networkID := id, subnetID, cidr, managed, mtu })
      { name := n.name, networkID := id, subnetID, cidr, managed, mtu } entries) := by
  intro e he
  rcases Keyed.mem_upsertFirst he with he | rfl | ⟨a, _, hname, rfl⟩
  · exact h e he
  · exact ⟨n, hn, rfl, hm, hown⟩
  · exact ⟨n, hn, (by simpa using hname : a.name = n.name).symm, hm, hown⟩

theorem reconcilePreExistingNetwork_keeps (hn : n ∈ A.networks) (hu : n.uuid ≠ "") :
    KeepsOrder slot R clean A c₀ (reconcilePreExistingNetwork n) := by
  refine .read fun c w hinv h => ?_
  refine Contract.Preserves.ite (fun _ => .pure _) (fun _ => ?_) c w hinv h
  intro c w hinv h
  rw [wpc_bind]
  refine get_spec (fun _ => .inr (h.ok.fits.networkIDs n hn hu)) ?_ ?_
  · intro w' network hl _ _ _
    simp only [after_ok, wpc_ite]
    split
    · exact h.later hl
    · cases network.subnets with
      | nil => exact h.later hl
      | cons subnet _ =>
          have hok := (h.later hl).ok
          refine ⟨h.same.status _, (hok.weaken _).setNetworks ?_ ?_⟩
          · exact networksOwned_set hok.networks hn (by simp [hu]) fun e => absurd e hu
          · -- a managed entry is not the one of a network with a UUID
            intro hc i hi hcr
            obtain ⟨e, he, hm, hid⟩ := hok.recorded hc .network (by simp) i hi hcr
            refine ⟨e, ?_, hm, hid⟩
            rcases Keyed.mem_upsertFirst_or he with he' | hf
            · exact he'
            · have hname : e.name = n.name := by simpa using List.find?_some hf
              exact absurd ((hok.networkEntry hn he hname).1.mp hm) hu
  · intro w' e hl _ _
    exact h.later hl

/-! ## Managed networks -/

/-- What holds between the two halves of `reconcileManagedNetwork`: the network is
resolved, and all networks are recorded unless one is still bare. -/
structure NetworkResolved (R : Role ι) (clean : Prop) (c : CloudscaleCluster)
    (currentID id : String) (w : World ι) :
    Prop extends Resolved R clean .network c currentID id w where
  bare : clean → Recorded R.owner .network c w ∨ w.Bare

/-- A network with a fresh identifier has no subnet yet. -/
theorem bare_create {i : Ident} (hinv : Inv slot w) (hfresh : w.Fresh .network i.uuid) :
    (w.create R.owner .network i).Bare := by
  refine ⟨i, by simp, ⟨R.owner, by simp⟩, fun s hs hp => ?_⟩
  have hs' : s ∈ w.cloud .subnet := by simpa using hs
  exact hfresh.2 (hp ▸ hinv.parent_issued s hs')

theorem resolveNetwork_spec {currentID : String} (hinv : Inv slot w)
    (h : ClusterOK slot R clean A none c w)
    (hmine : Mine slot R .network (networkTags A.cluster n.name))
    (hown : Own w R.owner .network currentID) :
    (api slot R clean).wpc (fun out c' w' => c' = c ∧
        (∀ net id, out = .ok (.ok (net, id)) →
          ClusterOK slot R clean A (some .network) c w' ∧
            NetworkResolved R clean c currentID id w') ∧
        ((∀ p, out ≠ .ok (.ok p)) → ClusterOK slot R clean A none c w'))
      (resolveNetwork n currentID (networkTags A.cluster n.name)) c w := by
  rw [resolveNetwork, wpc_read_bind, wpc_bind]
  refine wpc_mono hinv (ensureResource_spec hmine.isSlot (by simp) hown) ?_
  rintro out c' w' hinv' ⟨rfl, hl, hens⟩
  have h' := h.later hl
  cases hens with
  | error _ => exact ⟨rfl, by simp, fun _ => h'⟩
  | @found r _ hex hc hr =>
      have hne : r.uuid ≠ "" := (hinv'.issued _ _ hex).1
      simp only [after_ok, uuidOf, ne_eq, hne, not_false_eq_true, if_true]
      refine ⟨rfl, ?_, by simp⟩
      rintro net id ⟨⟩
      exact ⟨h'.weaken _, .found h' hinv' hc hr, fun hc => .inl (h'.recorded hc _ (by simp))⟩
  | none hempty hrep =>
      -- no network carries the tags, which is what the create needs
      simp only [after_ok, ne_eq, not_true_eq_false, if_false, wpc_bind]
      refine wpc_mono hinv' (createResource_spec fun w'' hl' _ =>
        hmine.guard rfl hempty (by simp) hl') ?_
      rintro out c'' w'' - ⟨rfl, hcr⟩
      cases hcr with
      | @ok r _ hg hc hw =>
          refine ⟨rfl, ?_, by simp⟩
          rintro net id ⟨⟩
          refine ⟨h'.create hg fun hc => (hw hc).2, ?_, fun hc => .inr ?_⟩
          · exact .created (i := identOf (k := .network) r) h' hinv' hrep hc hw
          · exact (hw hc).2 ▸ bare_create hinv' (hw hc).1
      | failed hg hno hw =>
          have hok := h'.failed hg fun hc => (hw hc).1
          rcases out with e | result | r
          · exact ⟨rfl, by simp, fun _ => hok⟩
          · exact ⟨rfl, by simp, fun _ => hok⟩
          · exact absurd rfl (hno r)

theorem resolveSubnet_spec {currentID subnetID id : String} (hinv : Inv slot w)
    (h : ClusterOK slot R clean A (some .network) c w)
    (hres : NetworkResolved R clean c currentID id w)
    (hmine : Mine slot R .subnet (networkTags A.cluster n.name))
    (hown : Own w R.owner .subnet subnetID) :
    (api slot R clean).wpc (fun out c' w' => c' = c ∧
        (∀ sid, out = .ok (.ok sid) →
          ClusterOK slot R clean A (some .network) c w' ∧ Own w' R.owner .subnet sid ∧
            Resolved R clean .network c currentID id w') ∧
        ((∀ p, out ≠ .ok (.ok p)) → ClusterOK slot R clean A none c w'))
      (resolveSubnet n subnetID id (networkTags A.cluster n.name)) c w := by
  rw [resolveSubnet, wpc_bind]
  refine wpc_mono hinv (ensureResource_spec hmine.isSlot (by simp) hown) ?_
  rintro out c' w' hinv' ⟨rfl, hl, hens⟩
  have h' := h.later hl
  have hres' : NetworkResolved R clean c' currentID id w' :=
    ⟨hres.toResolved.later hl, fun hc => (hl.2 hc) ▸ hres.bare hc⟩
  -- a failing subnet call means that no network is bare, so all of them are recorded
  have hsettle : (clean → ¬ w'.Bare) → ClusterOK slot R clean A none c' w' := fun hb =>
    h'.settle fun hc => (hres'.bare hc).resolve_right (hb hc)
  cases hens with
  | error hb => exact ⟨rfl, by simp, fun _ => hsettle fun hc => hb hc rfl⟩
  | @found r _ hex hc hr =>
      have hne : r.uuid ≠ "" := (hinv'.issued _ _ hex).1
      simp only [after_ok, uuidOf, ne_eq, hne, not_false_eq_true, if_true]
      refine ⟨rfl, ?_, by simp⟩
      rintro sid ⟨⟩
      exact ⟨h', .inr hc, hres'.toResolved⟩
  | none hempty hrep =>
      simp only [after_ok, ne_eq, not_true_eq_false, if_false, wpc_bind]
      refine wpc_mono hinv' (createResource_spec fun w'' hl' _ =>
        hmine.guard rfl hempty (fun _ => hres'.own) hl') ?_
      rintro out c'' w'' - ⟨rfl, hcr⟩
      cases hcr with
      | @ok r _ hg hc hw =>
          refine ⟨rfl, ?_, by simp⟩
          rintro sid ⟨⟩
          exact ⟨h'.createUntracked (ClusterOK.untracked (by simp)) hg fun hc => (hw hc).2,
            .inr hc, hres'.toResolved.createOther (by simp) hg fun hc => (hw hc).2⟩
      | failed hg hno hw =>
          have hok := (hsettle fun hc => (hw hc).2 rfl).failed hg fun hc => (hw hc).1
          rcases out with e | result | r
          · exact ⟨rfl, by simp, fun _ => hok⟩
          · exact ⟨rfl, by simp, fun _ => hok⟩
          · exact absurd rfl (hno r)

/-- The recorded IDs a managed entry is looked up with are the cluster's own. -/
theorem ClusterOK.recordedNetwork (h : ClusterOK slot R clean A none c w) (hn : n ∈ A.networks)
    (hu : n.uuid = "") :
    Own w R.owner .network ((c.status.getNetworkStatus n.name).elim "" (·.networkID)) ∧
      Own w R.owner .subnet ((c.status.getNetworkStatus n.name).elim "" (·.subnetID)) := by
  cases hf : c.status.getNetworkStatus n.name with
  | none => exact ⟨.inl rfl, .inl rfl⟩
  | some e =>
      have hname : e.name = n.name := by simpa using List.find?_some hf
      exact (h.networkEntry hn (List.mem_of_find?_eq_some hf) hname).2 hu

theorem reconcileManagedNetwork_keeps (hn : n ∈ A.networks) (hu : n.uuid = "") :
    KeepsOrder slot R clean A c₀ (reconcileManagedNetwork A.cluster n) := by
  refine .read fun c w hinv h => ?_
  have hown := h.ok.recordedNetwork hn hu
  rw [wpc_bind]
  refine wpc_mono hinv (resolveNetwork_spec hinv h.ok (h.ok.fits.network n hn hu) hown.1) ?_
  rintro out c' w' hinv' ⟨rfl, hok, hfail⟩
  rcases out with e | result | ⟨network, id⟩
  · exact ⟨h.same, hfail (by simp)⟩
  · exact ⟨h.same, hfail (by simp)⟩
  · obtain ⟨h', hres⟩ := hok network id rfl
    have hown' : Own w' R.owner .subnet
        ((c'.status.getNetworkStatus n.name).elim "" (·.subnetID)) := by
      cases hf : c'.status.getNetworkStatus n.name with
      | none => exact .inl rfl
      | some e =>
          have hname : e.name = n.name := by simpa using List.find?_some hf
          exact ((h'.networkEntry hn (List.mem_of_find?_eq_some hf) hname).2 hu).2
    simp only [after_ok, wpc_bind]
    refine wpc_mono hinv'
      (resolveSubnet_spec hinv' h' hres (h.ok.fits.subnet n hn hu) hown') ?_
    rintro out c'' w'' - ⟨rfl, hok, hfail⟩
    rcases out with e | result | sid
    · exact ⟨h.same, hfail (by simp)⟩
    · exact ⟨h.same, hfail (by simp)⟩
    · obtain ⟨h'', hsid, hid, hothers⟩ := hok sid rfl
      refine ⟨h.same.status _, h''.setNetworks ?_ ?_⟩
      · exact networksOwned_set h''.networks hn (by simp [hu]) fun _ => ⟨.inr hid, hsid⟩
      · intro hc i hi hcr
        rcases hothers hc i hi hcr with heq | ⟨hne, e, he, hm, hid⟩
        · -- the network just resolved is in the entry just written
          refine ⟨_, Keyed.mem_upsertFirst_self _ _ _ _, ?_⟩
          cases c''.status.networks.find? fun ns => ns.name = n.name <;> exact ⟨rfl, heq.symm⟩
        · -- any other is in an entry that stays
          rcases Keyed.mem_upsertFirst_or he with he' | hf
          · exact ⟨e, he', hm, hid⟩
          · refine absurd ?_ hne
            rw [← hid, CloudscaleClusterStatus.getNetworkStatus, hf]
            rfl

theorem reconcileNetworks_keeps (ns : List NetworkSpec) (hns : ∀ n ∈ ns, n ∈ A.networks) :
    KeepsOrder slot R clean A c₀ (reconcileNetworks A.cluster ns) := by
  induction ns with
  | nil => exact .pure _
  | cons n rest ih =>
      have hn := hns n List.mem_cons_self
      have hrest := ih fun m hm => hns m (List.mem_cons_of_mem _ hm)
      refine .ite (fun hu => ?_) fun hu => ?_
      · exact .bind (.wrapErr (reconcilePreExistingNetwork_keeps hn hu)) fun _ => hrest
      · refine .bind (.wrapErr (reconcileManagedNetwork_keeps hn (not_not.mp hu))) fun result => ?_
        exact .ite (fun _ => hrest) fun _ => .pure _

theorem reconcileNetwork_keeps : KeepsOrder slot R clean A c₀ (reconcileNetwork A.cluster) := by
  refine .deferred (.read fun c w hinv h => ?_) fun out c w h => ?_
  · refine Contract.Preserves.ite (fun _ => .fail _) (fun _ => ?_) c w hinv h
    exact reconcileNetworks_keeps _ h.ok.covers.networks
  · cases out <;> exact h.setCondition _ _ _ _

end Capcs.Ownership
