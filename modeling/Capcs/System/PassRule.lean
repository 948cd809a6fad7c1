import Capcs.Controller.Reconcile
import Capcs.Interaction.Contract

/-!
# Capcs.System.PassRule — what has to be shown of a whole pass

One rule for each `Reconcile`, whatever the world beside it is. A fact about the object
that was read is carried along the calls of the pass; what is left to show is that the
patch at the end is in order, given any run of the work on the cloud.
-/

namespace Capcs.System

open Cloudscale Controller
open Interaction (Program Contract)
open Interaction.Contract

/-- A call that writes the object back. -/
def patches : KubeOp → Bool
  | .patchCluster _ _ _ => true
  | .patchMachine _ _ _ => true
  | _ => false

/-- The object without the condition that says it is paused. -/
def unpausedCluster (c : CloudscaleCluster) : CloudscaleCluster :=
  { c with status := { c.status with conditions := Conditions.delete c.status.conditions .paused } }

/-- The same for a machine. -/
def unpausedMachine (m : CloudscaleMachine) : CloudscaleMachine :=
  { m with status := { m.status with conditions := Conditions.delete m.status.conditions .paused } }

variable {W : Type} {C : Contract W PassOp PassOp.Reply} {K : W → Prop}
  {good : (op : Op) → op.Reply → Prop}

/-- The fact `K` survives the others, and all calls that are not patches; these are
allowed, and the replies of the cloud are `good`. -/
structure Carried (C : Contract W PassOp PassOp.Reply) (good : (op : Op) → op.Reply → Prop)
    (K : W → Prop) : Prop where
  rely : ∀ w w', K w → C.rely w w' → C.inv w' → K w'
  kube : ∀ w op, patches op = false → K w → C.inv w → C.guard w (.kube op) ∧
    ∀ r w', C.answer w (.kube op) r w' → K w'
  cloud : ∀ w op, K w → C.inv w → C.guard w (.cloud op) ∧
    ∀ r w', C.answer w (.cloud op) r w' → C.inv w' → K w' ∧ good op r

/-- Work on the cloud: `K` holds again at the end of every run with good replies. -/
theorem Carried.onCloud {α : Type} (hK : Carried C good K) {Q : α → W → Prop}
    (p : Program Op Op.Reply α) : ∀ w, K w →
      (∀ tr a w', p.Runs tr a → (∀ e ∈ tr, good e.op e.reply) → K w' → Q a w') →
      C.wp Q (onCloud p) w := by
  induction p with
  | ret a =>
      intro w hw hQ
      exact hQ [] a w (.ret a) (by simp) hw
  | call op k ih =>
      intro w hw hQ w₁ hrely hinv
      obtain ⟨hguard, hans⟩ := hK.cloud w₁ op (hK.rely w w₁ hw hrely hinv) hinv
      refine ⟨hguard, ?_⟩
      intro r w₂ hanswer hinv₂
      obtain ⟨hw₂, hgood⟩ := hans r w₂ hanswer hinv₂
      refine ih r w₂ hw₂ ?_
      intro tr a w' hrun htr hw'
      refine hQ (⟨op, r⟩ :: tr) a w' (.call hrun) ?_ hw'
      intro e he
      rcases List.mem_cons.mp he with rfl | he
      · exact hgood
      · exact htr e he

/-- A Kubernetes read. -/
theorem Carried.onKube (hK : Carried C good K) {op : KubeOp} (hop : patches op = false)
    {w : W} (hw : K w) : C.wp (fun _ => K) (onKube op) w := by
  intro w₁ hrely hinv
  obtain ⟨hguard, hans⟩ := hK.kube w₁ op hop (hK.rely w w₁ hw hrely hinv) hinv
  exact ⟨hguard, fun r w₂ hanswer _ => hans r w₂ hanswer⟩

/-- The patch at the end. -/
theorem Carried.finish (hK : Carried C good K) {op : KubeOp} {w : W} (hw : K w)
    (hguard : ∀ w, K w → C.inv w → C.guard w (.kube op)) {α : Type} (f : op.Reply → α) :
    C.wp (fun _ _ => True) (Controller.onKube op >>= fun r => .ret (f r)) w := by
  rw [wp_bind]
  intro w₁ hrely hinv
  exact ⟨hguard w₁ (hK.rely w w₁ hw hrely hinv) hinv, fun _ _ _ _ => trivial⟩

/-- The rule for `CloudscaleClusterReconciler.Reconcile`. `K c` is what is known once
`c` was read. -/
theorem clusterReconcile_rule {ns name : String} {K : CloudscaleCluster → W → Prop}
    (hK : ∀ c, Carried C good (K c))
    (hread : ∀ w, C.inv w → C.guard w (.kube (.getCluster ns name)) ∧ ∀ c w',
      C.answer w (.kube (.getCluster ns name)) (.ok c) w' → C.inv w' → K c w')
    (hpatch : ∀ c cluster tr out c' w, K c w → C.inv w →
      (clusterWork cluster (unpausedCluster c)).Runs tr (out, c') →
      (∀ e ∈ tr, good e.op e.reply) →
      C.guard w (.kube (.patchCluster (unpausedCluster c) c' out.isOk)))
    (w : W) : C.wp (fun _ _ => True) (clusterReconcile ns name) w := by
  rw [clusterReconcile, wp_bind]
  intro w₁ _ hinv₁
  obtain ⟨hguard, hfound⟩ := hread w₁ hinv₁
  refine ⟨hguard, ?_⟩
  intro r w₂ hans hinv₂
  match r with
  | .error .notFound => trivial
  | .error (.other _) => trivial
  | .ok c =>
      have hw₂ := hfound c w₂ hans hinv₂
      show C.wp _ (Controller.onKube (.getOwnerCluster c) >>= _) w₂
      rw [wp_bind]
      refine wp_imp ?_ _ _ ((hK c).onKube rfl hw₂)
      intro owner w₃ hw₃
      rcases owner with _ | _ | cluster
      · trivial
      · trivial
      · simp only
        split
        · trivial
        · rw [wp_bind]
          refine wp_imp ?_ _ _ ((hK c).onKube rfl hw₃)
          intro token w₄ hw₄
          cases token with
          | error _ => trivial
          | ok _ =>
              simp only
              rw [wp_bind]
              -- the work on the cluster, and the patch deferred to its end
              refine (hK c).onCloud _ w₄ hw₄ ?_
              rintro tr ⟨out, c'⟩ w₅ hrun hgood hw₅
              exact (hK c).finish hw₅
                (fun w hw hinv => hpatch c cluster tr out c' w hw hinv hrun hgood) _

/-- The rule for `CloudscaleMachineReconciler.Reconcile`. `K m` is what is known once
`m` was read, and `L m c` once its infrastructure was found ready. -/
theorem machineReconcile_rule {ns name : String} {K : CloudscaleMachine → W → Prop}
    {L : CloudscaleMachine → CloudscaleCluster → W → Prop} (hK : ∀ m, Carried C good (K m))
    (hL : ∀ m c, Carried C good (L m c))
    (hread : ∀ w, C.inv w → C.guard w (.kube (.getMachine ns name)) ∧ ∀ m w',
      C.answer w (.kube (.getMachine ns name)) (.ok m) w' → C.inv w' → K m w')
    (hinfra : ∀ m ns' name' c w w', K m w → C.inv w →
      C.answer w (.kube (.getCluster ns' name')) (.ok c) w' → C.inv w' →
      infrastructureReady c = true → L m c w')
    (hpatch : ∀ m c cluster machine tr out m' w, L m c w → C.inv w →
      (machineWork { cluster, machine, cloudscaleCluster := c } (unpausedMachine m)).Runs tr
        (out, m') → (∀ e ∈ tr, good e.op e.reply) →
      C.guard w (.kube (.patchMachine (unpausedMachine m) m' out.isOk)))
    (w : W) : C.wp (fun _ _ => True) (machineReconcile ns name) w := by
  rw [machineReconcile, wp_bind]
  intro w₁ _ hinv₁
  obtain ⟨hguard, hfound⟩ := hread w₁ hinv₁
  refine ⟨hguard, ?_⟩
  intro r w₂ hans hinv₂
  match r with
  | .error .notFound => trivial
  | .error (.other _) => trivial
  | .ok m =>
      have hw₂ := hfound m w₂ hans hinv₂
      show C.wp _ (Controller.onKube (.getOwnerMachine m) >>= _) w₂
      rw [wp_bind]
      refine wp_imp ?_ _ _ ((hK m).onKube rfl hw₂)
      intro owner w₃ hw₃
      -- an error, or no owner yet: the pass ends without a patch
      rcases owner with _ | _ | machine
      · trivial
      · trivial
      · simp only
        rw [wp_bind]
        refine wp_imp ?_ _ _ ((hK m).onKube rfl hw₃)
        intro found w₄ hw₄
        cases found with
        | error _ => trivial
        | ok cluster =>
            simp only
            split
            · trivial
            · rw [wp_bind]
              -- with this read `L` takes the place of `K`
              intro w₅ hrely hinv₅
              have hw₅ := (hK m).rely w₄ w₅ hw₄ hrely hinv₅
              refine ⟨((hK m).kube w₅ _ rfl hw₅ hinv₅).1, ?_⟩
              intro infra w₆ hanswer hinv₆
              cases infra with
              | error _ => trivial
              | ok cloudscaleCluster =>
                  show C.wp _ (if _ then _ else _) w₆
                  split
                  · trivial
                  · next hready =>
                    have hw₆ := hinfra m _ _ cloudscaleCluster w₅ w₆ hw₅ hinv₅ hanswer hinv₆
                      (by simpa using hready)
                    rw [wp_bind]
                    refine wp_imp ?_ _ _ ((hL m cloudscaleCluster).onKube rfl hw₆)
                    intro token w₇ hw₇
                    cases token with
                    | error _ => trivial
                    | ok _ =>
                        simp only
                        rw [wp_bind]
                        refine (hL m cloudscaleCluster).onCloud _ w₇ hw₇ ?_
                        rintro tr ⟨out, m'⟩ w₈ hrun hgood hw₈
                        exact (hL m cloudscaleCluster).finish hw₈ (fun w hw hinv => hpatch m
                          cloudscaleCluster cluster machine tr out m' w hw hinv hrun hgood) _

end Capcs.System
