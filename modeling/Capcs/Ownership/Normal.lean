import Capcs.Ownership.Routers
import Capcs.Ownership.LoadBalancer

/-!
# Capcs.Ownership.Normal — the floating IP, and a whole normal pass

`reconcileNormal_keeps` puts the four steps of `reconcileNormal` together.
-/

namespace Capcs.Ownership

open Cloudscale Controller
open Interaction (Contract Proc)
open Interaction.Contract

variable {ι : Type} {slot : Slots ι} {R : Role ι} {clean : Prop} {A : Admitted}
  {c₀ c : CloudscaleCluster} {w : World ι}

/-! ## The floating IP -/

theorem floatingIPField : Field slot R clean A .floatingIP
    (fun spec => ManagedFIP spec.floatingIP) (·.floatingIP)
    (fun ip s => { s with floatingIP := ip }) where
  kind := by decide
  get_own hf h := h.floatingIP (h.covers.floatingIP ▸ hf)
  get_set _ _ := rfl
  set_ok {c w u} hf h hown hall := by
    refine h.setFloatingIP (fun _ => hown) fun hc i hi hcr => ⟨hf, ?_⟩
    rcases hall hc i hi hcr with heq | ⟨hne, -, hid⟩
    · exact heq.symm
    · exact absurd hid.symm hne

/-- The recorded address is not looked at while a pre-existing floating IP is
configured. -/
theorem ClusterOK.adoptedFloatingIP (h : ClusterOK slot R clean A none c w)
    (hf : ¬ ManagedFIP c.spec.floatingIP) (ip : String) :
    ClusterOK slot R clean A none (Controller.setFloatingIP ip c) w :=
  (h.weaken _).setFloatingIP (fun hf' => absurd (h.covers.floatingIP ▸ hf') hf) fun hc i hi hcr =>
    absurd (h.recorded hc .floatingIP (by simp) i hi hcr).1 hf

theorem ensureFloatingIPAssignment_keeps (fip : FloatingIP) :
    KeepsOrder slot R clean A c₀ (ensureFloatingIPAssignment A.cluster fip) :=
  keepsOrder_of_frame (ensureFloatingIPAssignment_within A.cluster fip (fun _ _ _ => trivial)
    fun _ _ => trivial) fun _ hop => hop

theorem reconcilePreExistingFloatingIP_keeps (hf : ¬ ManagedFIP c₀.spec.floatingIP) {ip : String}
    (hnamed : R.names .floatingIP ip) :
    KeepsOrder slot R clean A c₀ (reconcilePreExistingFloatingIP A.cluster ip) := by
  have hadopt : ∀ fip, KeepsOrder slot R clean A c₀
      (reconcilePreExistingFloatingIP.adopt A.cluster fip) := by
    refine fun fip => .bind (.update fun c w h => ⟨h.same.status _, ?_⟩)
      fun _ => ensureFloatingIPAssignment_keeps fip
    exact h.ok.adoptedFloatingIP (h.same.floatingIP ▸ hf) _
  intro c w hinv h
  rw [reconcilePreExistingFloatingIP, wpc_bind]
  refine get_spec (fun _ => .inr hnamed) (fun w' fip hl hinv' _ _ => ?_)
    fun w' _ hl _ _ => h.later hl
  refine Contract.Preserves.read_any (fun c => ?_) c w' hinv' (h.later hl)
  split
  · exact .ite (fun _ => .fail _) fun _ => hadopt _
  · exact hadopt _

/-- The create half of `reconcileManagedFloatingIP`, started with the field cleared
and the slot empty. -/
theorem createFloatingIP_spec (hf : ManagedFIP c.spec.floatingIP) {fipSpec : FloatingIPSpec}
    (hinv : Inv slot w) (h : InOrder slot R clean A c₀ c w) (hid : c.status.floatingIP = "")
    (hempty : w.listed .floatingIP (clusterOwnershipTags c) = []) :
    (api slot R clean).wpc (fun _ => InOrder slot R clean A c₀)
      (createFloatingIP A.cluster fipSpec) c w := by
  have hmine := floatingIPField.mine h.ok
  rw [createFloatingIP, wpc_read_bind, wpc_bind]
  refine wpc_mono hinv (later_of_frame (f := fun c => c) (getFloatingIPTarget_within A.cluster
    fun _ _ _ => trivial) (fun _ hop => hop) hinv) ?_
  rintro out c' w' hinv' ⟨rfl, hl⟩
  have h' := h.later hl
  -- nobody else makes one with these tags in the meantime
  have hempty' : w'.listed .floatingIP (clusterOwnershipTags c') = [] := by
    have hsub := hl.1.listed _ _ hmine.turf
    rw [hempty] at hsub
    exact List.sublist_nil.mp hsub
  cases out with
  | error e => exact h'
  | ok target =>
      simp only [after_ok, wpc_bind]
      refine wpc_mono hinv' (createResource_spec (k := .floatingIP) fun w'' hl' _ =>
        hmine.guard rfl hempty' (by simp) hl') ?_
      rintro out c'' w'' - ⟨rfl, hcr⟩
      cases hcr with
      | @ok fip _ hg hown hw =>
          exact ⟨h.same.status _, floatingIPField.created (i := identOf (k := .floatingIP) fip)
            hf h'.ok hinv' hid hg hown hw⟩
      | failed hg hno hw =>
          have hok := h'.ok.failed hg fun hc => (hw hc).1
          rcases out with e | result | r
          · exact ⟨h.same, hok⟩
          · exact ⟨h.same, hok⟩
          · exact absurd rfl (hno r)

theorem reconcileManagedFloatingIP_keeps (hf : ManagedFIP c₀.spec.floatingIP)
    (fipSpec : FloatingIPSpec) :
    KeepsOrder slot R clean A c₀ (reconcileManagedFloatingIP A.cluster fipSpec) := by
  refine .read fun c w hinv h => ?_
  have hf' : ManagedFIP c.spec.floatingIP := h.same.floatingIP ▸ hf
  rw [wpc_bind]
  refine wpc_mono hinv (ensureResource_spec (floatingIPField.mine h.ok).isSlot
    (by simp) (floatingIPField.get_own hf' h.ok)) ?_
  rintro out c' w' hinv' ⟨rfl, hl, hens⟩
  have h' := h.later hl
  cases hens with
  | error _ => exact h'
  | @found fip _ hex hown hr =>
      have hne : fip.ip ≠ "" := (hinv'.issued _ _ hex).1
      simp only [after_ok, wpc_bind, wpc_update, uuidOf, ne_eq, hne, not_false_eq_true, if_true]
      have hset : InOrder slot R clean A c₀ (setFloatingIP fip.ip c') w' :=
        ⟨h'.same.status _, floatingIPField.found hf' h'.ok hinv' hown hr⟩
      refine wpc_mono hinv' (ensureFloatingIPAssignment_keeps fip _ w' hinv' hset) ?_
      intro out c'' w'' _ h''
      cases out <;> exact h''
  | none hempty hrep =>
      simp only [after_ok, wpc_bind, wpc_update]
      exact createFloatingIP_spec (c := setFloatingIP "" c') hf' hinv'
        ⟨h'.same.status _, floatingIPField.cleared hf' h'.ok hinv' hrep⟩ rfl hempty

theorem reconcileFloatingIP_keeps :
    KeepsOrder slot R clean A c₀ (reconcileFloatingIP A.cluster) := by
  refine .read fun c w hinv h => ?_
  cases hs : c.spec.floatingIP with
  | none => exact h.setCondition _ _ _ _
  | some fipSpec =>
      have hs₀ : c₀.spec.floatingIP = some fipSpec := by rw [← h.same.floatingIP, hs]
      refine Contract.Preserves.deferred (.ite (fun ha => ?_) fun ha => ?_)
        (fun out c w h => ?_) c w hinv h
      · have hnamed := h.ok.fits.addresses fipSpec (h.ok.covers.floatingIP ▸ hs) ha
        refine .bind (reconcilePreExistingFloatingIP_keeps ?_ hnamed) fun _ => .pure _
        rintro ⟨f, hf, hempty⟩
        rw [hs₀] at hf
        cases hf
        exact ha hempty
      · exact reconcileManagedFloatingIP_keeps ⟨fipSpec, hs₀, not_not.mp ha⟩ _
      · unfold setFloatingIPReady
        split <;> exact h.setCondition _ _ _ _

/-! ## The whole pass -/

theorem ClusterOK.setEndpoint (h : ClusterOK slot R clean A none c w) (lbIP : String) :
    ClusterOK slot R clean A none (reconcileControlPlaneEndpoint lbIP c) w := by
  rw [reconcileControlPlaneEndpoint]
  split
  · exact h
  · split
    · exact h
    · exact h.edit rfl rfl rfl

theorem SameSpec.setEndpoint (h : SameSpec c₀ c) (lbIP : String) :
    SameSpec c₀ (reconcileControlPlaneEndpoint lbIP c) := by
  rw [reconcileControlPlaneEndpoint]
  split
  · exact h
  · split
    · exact h
    · exact ⟨h.metadata, by rw [h.spec]⟩

theorem ClusterOK.setProvisioned (h : ClusterOK slot R clean A none c w) :
    ClusterOK slot R clean A none (setProvisioned c) w :=
  h.edit rfl rfl rfl

theorem finishNormal_keeps (lb : LbStatus) :
    KeepsOrder slot R clean A c₀ (finishNormal A.cluster lb) := by
  refine .bind (.update fun c w h => ⟨h.same.setEndpoint _, h.ok.setEndpoint _⟩) fun _ => ?_
  refine .bind (.update fun c w h => ⟨h.same.status _, h.ok.setProvisioned⟩) fun _ => ?_
  exact .ite (fun _ => .pure _) fun _ => .pure _

/-- Started from a status in order, a normal pass ends in one, however it ends. -/
theorem reconcileNormal_keeps : KeepsOrder slot R clean A c₀ (reconcileNormal A.cluster) :=
  reconcileNormal_preserves reconcileNetwork_keeps reconcileRouters_keeps
    reconcileLoadBalancer_keeps
    reconcileFloatingIP_keeps finishNormal_keeps fun _ _ h =>
      ⟨h.same.status _, h.ok.setConditions _⟩

end Capcs.Ownership
