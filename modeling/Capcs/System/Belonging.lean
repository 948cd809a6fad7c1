import Capcs.Lineage.Pass
import Capcs.Cloudscale.Simulator
import Capcs.System.Versions

/-!
# Capcs.System.Belonging — recorded resources belong together

Normal passes over a cluster in a project where resources disappear between them, with all
that is below them. A pass may start from any version of the cluster that was ever stored, or
from one that has lost its status; its calls succeed or fail as they like.

`recorded_together` is about the end of a pass that gets past the load balancer step.
-/

namespace Capcs.System

open Cloudscale Controller Webhook Lineage
open Readiness (Trace)
open Retention (Accounted DistinctNames echoes)
open Interaction (Program)

/-! ## Passes and deletions -/

/-- A project where nothing carries the tags of a cluster. -/
structure Unmarked (cluster : Cluster) (name : String) (w : World Unit) : Prop where
  issued : ∀ k, ∀ i ∈ w.cloud k, i.uuid ≠ "" ∧ (k, i.uuid) ∈ w.issued
  ids : ∀ k, ∀ i ∈ w.cloud k, ∀ j ∈ w.cloud k, i.uuid = j.uuid → i = j
  untagged : ∀ k t, Tag cluster name k t → ∀ i ∈ w.cloud k, matchesTags t i.tags = false

/-- A normal pass, from start to end. -/
def NormalPass (cluster : Cluster) (c : CloudscaleCluster) (w : World Unit)
    (after : CloudscaleCluster) (w' : World Unit) : Prop :=
  ∃ out, ((reconcileNormal cluster).exec (startNormal c)).Executes (Answers ()) w (out, after) w'

/-- What others do in the project. -/
inductive Disturbs (cluster : Cluster) (name : String) (w : World Unit) : World Unit → Prop where
  /-- Someone deletes a resource, and what is below it goes as well. -/
  | deletion (k : Kind) (id : String) : Disturbs cluster name w (w.remove k id)
  /-- Someone else creates a resource. -/
  | foreign {k : Kind} {i : Ident} : w.Fresh k i.uuid →
      (∀ t, Tag cluster name k t → matchesTags t i.tags = false) →
      Disturbs cluster name w (w.insert k i)

/-- Normal passes over a cluster in a project that others use as well. -/
def shared (cluster : Cluster) (name : String) : Setting (World Unit) where
  starts w _ := Unmarked cluster name w
  keeps v := v.metadata.name = name
  pass w before after w' :=
    before.metadata.deletionTimestamp = false ∧ NormalPass cluster before w after w'
  env := Disturbs cluster name

/-- The project and the versions of the cluster of a name stored so far, the newest first. -/
abbrev Story (cluster : Cluster) (name : String) (w : World Unit) (vs : List CloudscaleCluster) :
    Prop :=
  Evolution (shared cluster name) w vs

variable {cluster : Cluster} {w w' : World Unit} {vs : List CloudscaleCluster}
  {c before after new : CloudscaleCluster}

theorem NormalPass.passOver (halive : c.metadata.deletionTimestamp = false)
    (h : NormalPass cluster c w after w') : ∃ tr, PassOver c tr after := by
  obtain ⟨out, hex⟩ := h
  obtain ⟨tr, hrun, hall⟩ := hex.runs
  refine ⟨tr, cluster, out, ?_, ?_⟩
  · rw [clusterWork_normal halive]
    exact hrun
  · intro e he
    obtain ⟨w₁, w₂, hans⟩ := hall e he
    obtain ⟨op, r⟩ := e
    cases op with
    | get k id =>
        cases hans with
        | get_ok _ same => exact same
        | _ => trivial
    | _ => trivial

/-! ## What is recorded, over time -/

variable {name : String} {spec spec' : CloudscaleClusterSpec} {status : CloudscaleClusterStatus}

/-- An entry that was there before a network became known is not its entry. -/
theorem statusSlotted_still (h : StatusSlotted cluster name spec status w)
    (ha : Accounted spec status) (hext : Extends spec spec') (hd : DistinctNames spec') :
    StatusSlotted cluster name spec' status w := by
  refine ⟨?_, h.owned, hext.loadBalancer ▸ h.disabled⟩
  rintro e he ⟨n', hn', hname', hu'⟩
  obtain ⟨n, hn, hname, -⟩ := ha.networks e he
  obtain ⟨n₁, hn₁, hname₁, hu₁, -⟩ := hext.networks n hn
  obtain rfl : n₁ = n' := List.inj_on_of_nodup_map hd.networks hn₁ hn'
    (hname₁.trans (hname.trans hname'.symm))
  exact h.networks e he ⟨n, hn, hname, hu₁ ▸ hu'⟩

theorem statusSlotted_empty (cluster : Cluster) (name : String) (spec : CloudscaleClusterSpec)
    (w : World Unit) : StatusSlotted cluster name spec {} w := by
  refine ⟨by simp, fun k _ => .inl ?_, fun _ k _ => ?_⟩ <;> cases k <;> rfl

theorem statusSlotted_remove (h : StatusSlotted cluster name spec status w) (k : Kind)
    (id : String) :
    StatusSlotted cluster name spec status (w.remove k id) where
  networks e he hm := by
    obtain ⟨hn, hs⟩ := h.networks e he hm
    exact ⟨hn.remove k id, hs.remove k id⟩
  owned k' hk' := (h.owned k' hk').remove k id
  disabled := h.disabled

theorem ownedID_patched (hp : ClusterPatched before after c new) (k : Kind) :
    ownedID new.status k = ownedID c.status k ∨ ownedID new.status k = ownedID after.status k := by
  rcases hp.status with hsame | hsame
  · refine .inl ?_
    rw [hsame]
    cases k <;> rfl
  · rw [hsame]
    cases k with
    | loadBalancer | pool | listener | healthMonitor => exact patched_or _ _ _
    | _ => exact .inl rfl

theorem statusSlotted_patched (hp : ClusterPatched before after c new)
    (hs : StatusSlotted cluster name spec c.status w)
    (ha : StatusSlotted cluster name spec after.status w) :
    StatusSlotted cluster name spec new.status w where
  networks := (networks_patched hp).elim (· ▸ hs.networks) (· ▸ ha.networks)
  owned k hk := (ownedID_patched hp k).elim (· ▸ hs.owned k hk) (· ▸ ha.owned k hk)
  disabled hoff k hk := (ownedID_patched hp k).elim (·.trans (hs.disabled hoff k hk))
    (·.trans (ha.disabled hoff k hk))

/-! ## A pass -/

/-- What is known when a pass starts. -/
theorem known_start (h : StatusSlotted cluster c.metadata.name c.spec c.status w) :
    Known cluster c (startNormal c) w := by
  refine ⟨?_, rfl, rfl, h.networks, h.owned, h.disabled⟩
  show (addFinalizer clusterFinalizer c.metadata).name = c.metadata.name
  unfold addFinalizer
  split <;> rfl

theorem calls_executes {α : Type} {Q : α → World Unit → Prop} {p : Program Op Op.Reply α} {a : α}
    (hex : p.Executes (Answers ()) w a w') (hinv : Family cluster name w)
    (h : (familyCalls cluster name ()).wp Q p w) : Family cluster name w' ∧ Q a w' :=
  Interaction.Contract.executes_of_wp (C := familyCalls cluster name ()) (fun _ => rfl)
    (fun _ _ _ _ hinv hguard hans => (hinv.answers hguard hans).1) hex hinv h

/-- A pass does no harm to what other versions have recorded. -/
theorem statusSlotted_executes {α : Type} {p : Program Op Op.Reply α} {a : α}
    (hex : p.Executes (Answers ()) w a w') (h : StatusSlotted cluster name spec status w) :
    StatusSlotted cluster name spec status w' := by
  induction hex with
  | ret => exact h
  | call hans _ ih =>
      refine ih ⟨fun e he hm => ?_, fun k hk => ?_, h.disabled⟩
      · obtain ⟨hn, hs⟩ := h.networks e he hm
        exact ⟨hn.answers rfl hans, hs.answers rfl hans⟩
      · exact (h.owned k hk).answers (tag_owned cluster name hk).inFamily hans

theorem NormalPass.known (h : NormalPass cluster c w after w') (hd : DistinctNames c.spec)
    (hinv : Family cluster c.metadata.name w)
    (hs : StatusSlotted cluster c.metadata.name c.spec c.status w) :
    Family cluster c.metadata.name w' ∧ Known cluster c after w' := by
  obtain ⟨out, hex⟩ := h
  refine calls_executes (Q := fun out w' => Known cluster c out.2 w') hex hinv ?_
  show (familyCalls cluster c.metadata.name ()).wpc (fun _ => Known cluster c)
    (reconcileNormal cluster) _ _
  rw [reconcileNormal_split, Interaction.Contract.wpc_deferred]
  have hready : ∀ c₁ (w₁ : World Unit), Known cluster c c₁ w₁ →
      Known cluster c (setReadyCondition c₁) w₁ :=
    fun _ _ hk => hk.congr rfl rfl rfl rfl fun _ _ => rfl
  refine Interaction.Contract.wpc_imp (Q := fun _ => Known cluster c) ?_ fun _ c₁ w₁ hk =>
    hready c₁ w₁ hk
  refine Interaction.Contract.wpc_seq_inv hinv
    (untilLoadBalancer_stands (known_start hs) hd hinv) ?_
  rintro out c₁ w₁ hinv₁ ⟨hk, hpast⟩
  rcases out with err | result | lb
  · exact hk
  · exact hk
  · exact Interaction.Contract.wpc_imp
      (afterLoadBalancer_stands cluster lb c₁ w₁ hinv₁ (hpast _ rfl ⟨lb, rfl⟩)) fun _ _ _ hs =>
      hs.known

/-! ## Every version -/

/-- What holds of the project and of every version. -/
structure Kin (cluster : Cluster) (name : String) (w : World Unit) (spec : CloudscaleClusterSpec)
    (status : CloudscaleClusterStatus) : Prop where
  family : Family cluster name w
  accounted : Accounted spec status
  slotted : StatusSlotted cluster name spec status w

theorem Unmarked.family (h : Unmarked cluster name w) : Family cluster name w := by
  refine ⟨h.issued, h.ids, fun k t ht => ?_, fun k t ht pk _ i hi hm => ?_⟩
  · have hnone : w.listed k t = [] := by
      refine List.filter_eq_nil_iff.mpr fun i hi hm => ?_
      rw [h.untagged k t ht i hi] at hm
      cases hm
    simp [hnone]
  · rw [h.untagged k t ht i hi] at hm
    cases hm

theorem Kin.disturbed (h : Kin cluster name w spec status) (hd : Disturbs cluster name w w') :
    Kin cluster name w' spec status := by
  cases hd with
  | deletion k id => exact ⟨h.family.remove k id, h.accounted, statusSlotted_remove h.slotted k id⟩
  | @foreign k i hfresh htags =>
      have hfits : Lineage.FitsFamily cluster name w k i.tags i.parent := by
        intro t ht hm
        rw [htags t ht] at hm
        cases hm
      exact ⟨h.family.insert hfresh hfits, h.accounted, h.slotted.grown (grown_insert hfresh)⟩

theorem Story.kin (h : Story cluster name w vs) : ∀ v ∈ vs, Kin cluster name w v.spec v.status := by
  refine h.all {
    create := fun hstarts _ _ => ⟨hstarts.family, accounted_empty _, statusSlotted_empty _ _ _ _⟩
    lost := fun hkin => ⟨hkin.family, accounted_empty _, statusSlotted_empty _ _ _ _⟩
    extend := fun hproper hext hkin => ⟨hkin.family, accounted_extends hkin.accounted hext,
      statusSlotted_still hkin.slotted hkin.accounted hext hproper.distinct⟩
    pass := ?_
    patch := fun hp hs ha => ⟨hs.family, accounted_patched hp hs.accounted ha.accounted,
      statusSlotted_patched hp hs.slotted ha.slotted⟩
    env := fun henv hkin => hkin.disturbed henv }
  rintro w before after w' - hproper rfl ⟨halive, hpass⟩ hkin
  obtain ⟨tr, hover⟩ := hpass.passOver halive
  obtain ⟨hfam, hknown⟩ := hpass.known hproper.distinct hkin.family hkin.slotted
  refine ⟨⟨hfam, hover.accounted hproper.distinct hkin.accounted, hknown.status⟩, fun hother => ?_⟩
  obtain ⟨out, hex⟩ := hpass
  exact ⟨hfam, hother.accounted, statusSlotted_executes hex hother.slotted⟩

/-! ## The result -/

/-- A normal pass that gets past its load balancer step. -/
def PastLoadBalancer (cluster : Cluster) (c : CloudscaleCluster) (w : World Unit)
    (after : CloudscaleCluster) (w' : World Unit) : Prop :=
  ∃ lb c₁ w₁ out, ((untilLoadBalancer cluster).exec (startNormal c)).Executes (Answers ()) w
      (.ok (.ok lb), c₁) w₁ ∧
    (((afterLoadBalancer cluster lb).deferred fun _ => setReadyCondition).exec c₁).Executes
      (Answers ()) w₁ (out, after) w'

/-- A normal pass gets past its load balancer step, or ends before. -/
theorem normalPass_iff : NormalPass cluster c w after w' ↔ PastLoadBalancer cluster c w after w' ∨
    ∃ out c₁, ((untilLoadBalancer cluster).exec (startNormal c)).Executes (Answers ()) w
      (out, c₁) w' ∧ (∀ lb, out ≠ .ok (.ok lb)) ∧ after = setReadyCondition c₁ := by
  rw [NormalPass, reconcileNormal_split]
  simp only [Interaction.Proc.exec_deferred, Interaction.Proc.exec_bind, Program.bind_bind,
    Program.executes_bind (p := (untilLoadBalancer cluster).exec _)]
  constructor
  · rintro ⟨out, ⟨out₁, c₁⟩, w₁, hex₁, hex₂⟩
    rcases out₁ with err | result | lb
    · cases hex₂ with
      | ret => exact .inr ⟨_, c₁, hex₁, by simp, rfl⟩
    · cases hex₂ with
      | ret => exact .inr ⟨_, c₁, hex₁, by simp, rfl⟩
    · exact .inl ⟨lb, c₁, w₁, out, hex₁, hex₂⟩
  · rintro (⟨lb, c₁, w₁, out, hex₁, hex₂⟩ | ⟨out₁, c₁, hex₁, hno, rfl⟩)
    · exact ⟨out, _, w₁, hex₁, hex₂⟩
    · rcases out₁ with err | result | lb
      · exact ⟨_, _, w', hex₁, .ret⟩
      · exact ⟨_, _, w', hex₁, .ret⟩
      · exact absurd rfl (hno lb)

/-- At the end of a pass that gets past the load balancer step, the subnet recorded for each
managed network lies in the network recorded for it, the recorded pool in the recorded load
balancer, and the recorded listener and health monitor in the recorded pool. -/
theorem recorded_together (h : Story cluster name w vs) (hc : c ∈ vs)
    (hpast : PastLoadBalancer cluster c w after w') : Together after w' := by
  obtain ⟨lb, c₁, w₁, out, hex₁, hex₂⟩ := hpast
  have hkin := h.kin c hc
  obtain rfl : c.metadata.name = name := h.ordered.keeps c hc
  have hdistinct := (h.ordered.proper c hc).distinct
  obtain ⟨hinv₁, -, hpast⟩ := calls_executes hex₁ hkin.family
    (untilLoadBalancer_stands (known_start hkin.slotted) hdistinct hkin.family)
  have hrest : (familyCalls cluster c.metadata.name ()).wpc
    (fun _ => Stands cluster c (pastKinds c.spec))
      ((afterLoadBalancer cluster lb).deferred fun _ => setReadyCondition) c₁ w₁ := by
    refine Interaction.Contract.Preserves.deferred (afterLoadBalancer_stands cluster lb) ?_ c₁ w₁
      hinv₁ (hpast _ rfl ⟨lb, rfl⟩)
    intro _ c₂ _ hs
    have hsame : Lineage.SameLineage c₂ (setReadyCondition c₂) :=
      ⟨rfl, rfl, rfl, rfl, fun _ _ => rfl⟩
    exact hs.congr hsame
  obtain ⟨hinv₂, hstands⟩ := calls_executes hex₂ hinv₁ hrest
  exact hstands.together hinv₂

/-! ## A network is deleted -/

/-- The owner of the cluster. -/
def storyOwner : Cluster := { name := "c", ns := "default" }

/-- A cloud without faults. -/
def faultless : Program.Service (World Unit) Op Op.Reply := ({} : Scenario).simulate ()

theorem executes_faultless {α : Type} (p : Program Op Op.Reply α) (w : World Unit) :
    p.Executes (Answers ()) w (p.drive faultless w).1 (p.drive faultless w).2 :=
  Program.executes_drive (fun _ _ _ => true)
    (fun w op _ => ({} : Scenario).simulate_answers () w op)
    p w (Program.served_of_forall (fun _ _ _ => rfl) p w)

/-- A normal pass in that cloud. -/
def faultlessNormal (cluster : Cluster) (c : CloudscaleCluster) (w : World Unit) :
    (Except GoError Result × CloudscaleCluster) × World Unit :=
  ((reconcileNormal cluster).exec (startNormal c)).drive faultless w

theorem normalPass_faultless (cluster : Cluster) (c : CloudscaleCluster) (w : World Unit) :
    NormalPass cluster c w (faultlessNormal cluster c w).1.2 (faultlessNormal cluster c w).2 :=
  ⟨_, executes_faultless _ _⟩

/-- The two halves of a normal pass in that cloud. -/
def faultlessUntil (cluster : Cluster) (c : CloudscaleCluster) (w : World Unit) :
    (Except GoError (Except Result LbStatus) × CloudscaleCluster) × World Unit :=
  ((untilLoadBalancer cluster).exec (startNormal c)).drive faultless w

def faultlessAfter (cluster : Cluster) (lb : LbStatus) (c : CloudscaleCluster) (w : World Unit) :
    (Except GoError Result × CloudscaleCluster) × World Unit :=
  (((afterLoadBalancer cluster lb).deferred fun _ => setReadyCondition).exec c).drive faultless w

/-- Both halves, one after the other. -/
def faultlessPast (cluster : Cluster) (lb : LbStatus) (c : CloudscaleCluster) (w : World Unit) :
    (Except GoError Result × CloudscaleCluster) × World Unit :=
  faultlessAfter cluster lb (faultlessUntil cluster c w).1.2 (faultlessUntil cluster c w).2

theorem pastLoadBalancer_faultless {lb : LbStatus}
    (h : (faultlessUntil cluster c w).1.1 = .ok (.ok lb)) :
    PastLoadBalancer cluster c w (faultlessPast cluster lb c w).1.2
      (faultlessPast cluster lb c w).2 := by
  have hex := executes_faultless ((untilLoadBalancer cluster).exec (startNormal c)) w
  refine ⟨lb, _, _, _, ?_, executes_faultless _ _⟩
  rw [← h]
  exact hex

/-- The version that stores the status of a pass. -/
def withStatusOf (c after : CloudscaleCluster) : CloudscaleCluster :=
  { c with status := patchedStatus (unpausedCluster c).status after.status c.status }

theorem clusterPatched_withStatusOf (c after : CloudscaleCluster) :
    ClusterPatched (unpausedCluster c) after c (withStatusOf c after) := ⟨rfl, .inl rfl, .inr rfl⟩

/-- A first pass over a new cluster, in an empty project. -/
def firstNormal : (Except GoError Result × CloudscaleCluster) × World Unit :=
  faultlessNormal storyOwner storedCluster .empty

/-- The cluster with the status of that pass. -/
def builtVersion : CloudscaleCluster := withStatusOf storedCluster firstNormal.1.2

/-- The project without the network that was created. -/
def withoutNetwork : World Unit :=
  firstNormal.2.remove .network ((builtVersion.status.networks.head?.map (·.networkID)).getD "")

/-- What the next pass finds of its load balancer. -/
def foundLb : LbStatus := { ipAddress := "192.0.2.1", ready := true }

/-- The end of that pass. -/
def secondEnd : (Except GoError Result × CloudscaleCluster) × World Unit :=
  faultlessPast storyOwner foundLb builtVersion withoutNetwork

theorem withoutNetwork_story :
    Story storyOwner "c" withoutNetwork [builtVersion, storedCluster] := by
  have hempty : Unmarked storyOwner "c" .empty := by
    refine ⟨?_, ?_, ?_⟩ <;> simp [World.empty]
  have hcreated : Story storyOwner "c" .empty [storedCluster] :=
    .create (by decide) (by decide) rfl hempty rfl
  have hpass : NormalPass storyOwner storedCluster .empty firstNormal.1.2 firstNormal.2 := by
    unfold firstNormal
    exact normalPass_faultless storyOwner storedCluster .empty
  have hmem : storedCluster ∈ [storedCluster] := List.mem_singleton.mpr rfl
  have hpatched := clusterPatched_withStatusOf storedCluster firstNormal.1.2
  have hbuilt := hcreated.pass hmem ⟨rfl, hpass⟩ hpatched rfl
  unfold withoutNetwork builtVersion
  exact hbuilt.env (.deletion _ _)

/-- The pass after the deletion creates a network and a subnet again, and records them together. -/
theorem recorded_together_recreated :
    secondEnd.1.2.status.networks ≠ builtVersion.status.networks ∧
      Together secondEnd.1.2 secondEnd.2 := by
  refine ⟨by decide +kernel, ?_⟩
  have hpast : (faultlessUntil storyOwner builtVersion withoutNetwork).1.1 = .ok (.ok foundLb) := by
    decide +kernel
  unfold secondEnd
  exact recorded_together withoutNetwork_story (List.mem_cons_self ..)
    (pastLoadBalancer_faultless hpast)

end Capcs.System
