import Capcs.Controller.Reconcile
import Capcs.Ownership.Machine
import Capcs.Ownership.Normal
import Capcs.Ownership.Teardown

/-!
# Capcs.Ownership.Passes — whole passes

What a pass over a `CloudscaleCluster` or a `CloudscaleMachine` does to the object it
was started with, whether the object is being deleted or not. This is what every
system of passes builds on.
-/

namespace Capcs.Ownership

open Cloudscale Controller
open Interaction (Contract Proc)
open Interaction.Contract

variable {ι : Type} {slot : Slots ι} {R : Role ι} {clean : Prop} {w : World ι}

/-! ## Clusters -/

/-- How a pass over a cluster ends. -/
structure WorkEnd (slot : Slots ι) (R : Role ι) (clean : Prop) (A : Admitted)
    (c c' : CloudscaleCluster) (w : World ι) : Prop where
  ok : ClusterOK slot R clean A none c' w
  spec : c'.spec = { c.spec with controlPlaneEndpoint := c'.spec.controlPlaneEndpoint }
  /-- The finalizer goes only when nothing is left. -/
  gone : clusterFinalizer ∈ c.metadata.finalizers → clusterFinalizer ∉ c'.metadata.finalizers →
    ∀ k ∈ tornDownKinds, NoneOf R clean k w

theorem mem_addFinalizer (f : String) (obj : ObjectMeta) : f ∈ (addFinalizer f obj).finalizers := by
  unfold addFinalizer
  split
  · assumption
  · simp

theorem addFinalizer_name (f : String) (obj : ObjectMeta) :
    (addFinalizer f obj).name = obj.name := by
  unfold addFinalizer
  split <;> rfl

theorem clusterWork_spec {A : Admitted} {c : CloudscaleCluster} (hinv : Inv slot w)
    (h : ClusterOK slot R clean A none c w) :
    (api slot R clean).wp (fun out w' => WorkEnd slot R clean A c out.2 w')
      (clusterWork A.cluster c) w := by
  unfold clusterWork
  split
  · -- teardown
    refine wp_mono _ _ hinv ?_ (reconcileDelete_spec hinv ⟨.refl c, h⟩)
    rintro ⟨out, c'⟩ w' - (hin | ⟨hnone, c₁, hin, rfl⟩)
    · exact ⟨hin.ok, hin.same.spec, fun hmem hno => absurd (hin.same.metadata ▸ hmem) hno⟩
    · exact ⟨hin.ok.edit rfl rfl rfl, hin.same.spec, fun _ _ => hnone⟩
  · have hstart : InOrder slot R clean A
        { c with metadata := addFinalizer clusterFinalizer c.metadata }
        { c with metadata := addFinalizer clusterFinalizer c.metadata } w :=
      ⟨.refl _, h.edit (addFinalizer_name _ _) rfl rfl⟩
    refine wp_mono _ _ hinv ?_ (reconcileNormal_keeps _ w hinv hstart)
    rintro ⟨out, c'⟩ w' - hin
    refine ⟨hin.ok, hin.same.spec, fun _ hno => absurd ?_ hno⟩
    rw [hin.same.metadata]
    exact mem_addFinalizer _ _

/-! ## Machines -/

/-- How a pass over a machine ends. -/
structure MachineWorkEnd (slot : Slots ι) (R : Role ι) (clean : Prop) (s : MachineScope)
    (m m' : CloudscaleMachine) (w : World ι) : Prop where
  server : Own w R.owner .server m'.status.serverID
  recorded : clean → ServerRecorded R m'.status.serverID w
  name : m'.metadata.name = m.metadata.name
  spec : m'.spec = { m.spec with providerID := m'.spec.providerID }
  /-- The finalizer goes only when no server is left. -/
  gone : machineFinalizer ∈ m.metadata.finalizers → machineFinalizer ∉ m'.metadata.finalizers →
    clean → ∀ i ∈ w.cloud .server, (R.owner, .server, i.uuid) ∉ w.created

theorem machineWork_spec {s : MachineScope} {m : CloudscaleMachine} (hinv : Inv slot w)
    (hfits : MachineFits slot R s m.metadata.name m.spec.tags)
    (hserver : Own w R.owner .server m.status.serverID)
    (hrec : clean → ServerRecorded R m.status.serverID w) :
    (api slot R clean).wp (fun out w' => MachineWorkEnd slot R clean s m out.2 w')
      (machineWork s m) w := by
  unfold machineWork
  split
  · have hstart : MachineOK slot R clean s m m w := ⟨rfl, rfl, hfits, hserver, hrec⟩
    refine wp_mono _ _ hinv ?_ (machineReconcileDelete_spec hinv hstart)
    rintro ⟨out, m'⟩ w' - (h | ⟨hnone, m₁, h, rfl⟩)
    · exact ⟨h.server, h.recorded, by rw [h.metadata], h.spec,
        fun hmem hno => absurd (h.metadata ▸ hmem) hno⟩
    · exact ⟨h.server, h.recorded, by rw [h.metadata], h.spec, fun _ _ => hnone⟩
  · have hstart : MachineOK slot R clean s
        { m with metadata := addFinalizer machineFinalizer m.metadata }
        { m with metadata := addFinalizer machineFinalizer m.metadata } w :=
      ⟨rfl, rfl, by rwa [addFinalizer_name], hserver, hrec⟩
    refine wp_mono _ _ hinv ?_ (machineReconcileNormal_keeps _ w hinv hstart)
    rintro ⟨out, m'⟩ w' - h
    refine ⟨h.server, h.recorded, ?_, h.spec, fun _ hno => absurd ?_ hno⟩
    · rw [h.metadata]
      exact addFinalizer_name _ _
    · rw [h.metadata]
      exact mem_addFinalizer _ _

/-! ## Executions without interference -/

theorem api_executes {α : Type} {Q : α → World ι → Prop}
    {p : Interaction.Program Op Op.Reply α} {w' : World ι} {a : α}
    (hex : p.Executes (api slot R clean).answer w a w') (hinv : Inv slot w)
    (h : (api slot R clean).wp Q p w) : Inv slot w' ∧ Q a w' :=
  executes_of_wp (C := api slot R clean) Later.refl
    (fun _ _ _ _ hinv hguard hans => (inv_answers hinv hguard hans.1).1) hex hinv h

/-! ## The start -/

/-- Nothing was created yet, and nothing carries a tag of ours. -/
structure Pristine (slot : Slots ι) (w : World ι) : Prop where
  created : w.created = []
  untagged : ∀ o k t, slot o k t → w.listed k t = []
  issued : ∀ k, ∀ i ∈ w.cloud k, i.uuid ≠ "" ∧ (k, i.uuid) ∈ w.issued
  parents : ∀ s ∈ w.cloud .subnet, (.network, s.parent) ∈ w.issued
  members : ∀ m ∈ w.members, m.pool ≠ "" ∧ (.pool, m.pool) ∈ w.issued

theorem Pristine.empty (slot : Slots ι) : Pristine slot World.empty := by
  refine ⟨rfl, ?_, ?_, ?_, ?_⟩ <;> simp [World.empty, World.listed]

theorem Pristine.inv (h : Pristine slot w) : Inv slot w := by
  have hnone : ∀ o k u, (o, k, u) ∉ w.created := by simp [h.created]
  refine ⟨?_, ?_, ?_, ?_, h.issued, ?_, ?_, h.parents, h.members, ?_⟩
  · intro o k t ht i hi hm
    have hmem : i ∈ w.listed k t := List.mem_filter.mpr ⟨hi, hm⟩
    rw [h.untagged o k t ht] at hmem
    cases hmem
  · exact fun o k i _ hc => absurd hc (hnone _ _ _)
  · exact fun o k t ht _ => by simp [h.untagged o k t ht]
  · exact fun o p hp => absurd hp (hnone _ _ _)
  · exact fun o k u hu => absurd hu (hnone _ _ _)
  · exact fun o o' k u hu => absurd hu (hnone _ _ _)
  · exact fun o s _ hc => absurd hc (hnone _ _ _)

/-- An empty status is in order. -/
theorem Pristine.clusterOK {A : Admitted} {c : CloudscaleCluster} (h : Pristine slot w)
    (hfits : RoleFits slot R A) (hcovers : A.Covers c.metadata.name c.spec)
    (hstatus : c.status = {}) :
    ClusterOK slot R clean A none c w := by
  have hnone : ∀ o k u, (o, k, u) ∉ w.created := by simp [h.created]
  refine ⟨hfits, hcovers, ?_, ?_, ?_, ?_, ?_, ?_, ?_, fun _ k _ i _ hc => absurd hc (hnone _ _ _)⟩
  · simp [NetworksOwned, hstatus]
  · simp [RoutersOwned, hstatus]
  all_goals simp [Own, hstatus]

end Capcs.Ownership
