import Capcs.Readiness.Provisioned
import Capcs.System.Objects

/-!
# Capcs.System.Provisioning — provisioned once, provisioned for good

`provisioned_monotone` follows `status.initialization.provisioned` and the endpoint
through every run of the controllers, with replies that have no empty identifiers and
addresses. The invariant is `ObjectsInv`: a cluster that was provisioned has an endpoint, or
a source for one, so that the next pass past the floating IP step finds it provisioned
again.
-/

namespace Capcs.System

open Cloudscale Controller Readiness Webhook
open Interaction (Program Runtime Contract)
open Interaction.Contract

/-! ## What is kept -/

variable {w w' : Objects} {c c' before after stored new : CloudscaleCluster}

/-- What stays of a spec. -/
structure SpecKept (a b : CloudscaleClusterSpec) : Prop where
  loadBalancer : b.controlPlaneLoadBalancer = a.controlPlaneLoadBalancer
  floatingIP : b.floatingIP = a.floatingIP
  endpoint : a.controlPlaneEndpoint.host ≠ "" → b.controlPlaneEndpoint = a.controlPlaneEndpoint

theorem SpecKept.refl (a : CloudscaleClusterSpec) : SpecKept a a := ⟨rfl, rfl, fun _ => rfl⟩

theorem SpecKept.trans {a b d : CloudscaleClusterSpec} (h₁ : SpecKept a b) (h₂ : SpecKept b d) :
    SpecKept a d := by
  refine ⟨h₂.loadBalancer.trans h₁.loadBalancer, h₂.floatingIP.trans h₁.floatingIP, ?_⟩
  intro hhost
  have hb := h₁.endpoint hhost
  exact (h₂.endpoint (hb ▸ hhost)).trans hb

theorem SpecKept.hasEndpoint {a b : CloudscaleClusterSpec} (h : SpecKept a b) :
    HasEndpoint b ↔ HasEndpoint a := by
  rw [HasEndpoint, HasEndpoint, h.loadBalancer, h.floatingIP]

/-- The endpoint is set, or a pass can set it. -/
def Addressable (spec : CloudscaleClusterSpec) : Prop :=
  spec.controlPlaneEndpoint.host ≠ "" ∨ HasEndpoint spec

theorem SpecKept.addressable {a b : CloudscaleClusterSpec} (h : SpecKept a b) (ha : Addressable a) :
    Addressable b := by
  rcases ha with hhost | hsource
  · exact .inl (by rwa [h.endpoint hhost])
  · exact .inr (h.hasEndpoint.mpr hsource)

theorem AdmittedUpdate.specKept (h : AdmittedUpdate stored new)
    (henabled : stored.spec.controlPlaneLoadBalancer.enabled.isSome = true) :
    SpecKept stored.spec new.spec := by
  have hext := (extends_of_update henabled h.enabled h.accepted).keeps
  exact ⟨hext.loadBalancer, hext.floatingIP, hext.endpoint⟩

/-- The invariant of the objects. -/
structure ObjectsInv (w : Objects) : Prop where
  alive : w.cluster.metadata.deletionTimestamp = false
  enabled : w.cluster.spec.controlPlaneLoadBalancer.enabled.isSome = true
  complete : Complete w.cluster
  endpoint : infrastructureReady w.cluster = true → Addressable w.cluster.spec
  machines : ∀ name m, w.machine name = some m → machineFinalizer ∈ m.metadata.finalizers →
    infrastructureReady w.cluster = true
  held : ∀ name, w.held name = true → infrastructureReady w.cluster = true

theorem NewObjects.settled (h : NewObjects w) : ObjectsInv w where
  alive := h.alive
  enabled := by
    obtain ⟨ri, c, hc, -⟩ := h.admitted
    rw [hc]
    exact clusterDefault_enabled ri c
  complete := by
    rw [Complete, h.status]
    simp
  endpoint hready := by
    rw [infrastructureReady, h.status] at hready
    cases hready
  machines name m hm := absurd hm (by simp [h.machine name])
  held name hheld := absurd hheld (by simp [h.held name])

/-! ## The patch of a cluster -/

/-- The object with the finalizer, which a pass works on. -/
def withFinalizer (c : CloudscaleCluster) : CloudscaleCluster :=
  { c with metadata := addFinalizer clusterFinalizer c.metadata }

/-- A patch comes from a normal pass over what is still stored, as far as it matters. -/
structure FitsStored (stored before after : CloudscaleCluster) : Prop where
  pass : ∃ cluster tr, (∃ out, ((reconcileNormal cluster).exec (withFinalizer before)).Runs tr
      (out, after)) ∧ (∀ e ∈ tr, identified e.op e.reply = true ∧ addressed e = true) ∧
    Report cluster (withFinalizer before) tr after
  complete : Complete (withFinalizer before)
  endpoint : infrastructureReady before = true → Addressable before.spec
  records : SameRecords stored.status before.status
  spec : SpecKept before.spec stored.spec

/-- What was provisioned stays so. -/
theorem FitsStored.stays (h : FitsStored stored before after)
    (hready : infrastructureReady before = true) :
    infrastructureReady after = true := by
  obtain ⟨cluster, tr, -, -, hreport⟩ := h.pass
  by_cases hthrough : ∃ lb c₄, ThroughFloatingIP cluster (withFinalizer before) tr lb c₄
  · obtain ⟨lb, c₄, hthrough⟩ := hthrough
    have hhost : after.spec.controlPlaneEndpoint.host ≠ "" := by
      rcases h.endpoint hready with hset | hsource
      · rwa [hreport.once hset]
      · exact hreport.sets hsource lb c₄ hthrough
    simp [infrastructureReady, hreport.provisioned lb c₄ hthrough, hhost]
  · rw [infrastructureReady, hreport.unfinished fun lb c₄ ht => hthrough ⟨lb, c₄, ht⟩]
    exact hready

/-- Provisioned clusters have an endpoint, or can be given one again. -/
theorem FitsStored.addressable (h : FitsStored stored before after)
    (hready : infrastructureReady after = true) :
    Addressable stored.spec := by
  refine h.spec.addressable ?_
  obtain ⟨cluster, tr, -, -, hreport⟩ := h.pass
  by_cases hthrough : ∃ lb c₄, ThroughFloatingIP cluster (withFinalizer before) tr lb c₄
  · obtain ⟨lb, c₄, hthrough⟩ := hthrough
    have hhost : after.spec.controlPlaneEndpoint.host ≠ "" := by
      simpa [infrastructureReady, hreport.provisioned lb c₄ hthrough] using hready
    by_cases hset : before.spec.controlPlaneEndpoint.host = ""
    · -- the pass has set it
      refine .inr (hreport.source ?_).1
      intro heq
      rw [heq] at hhost
      exact hhost hset
    · exact .inl hset
  · rw [infrastructureReady, hreport.unfinished fun lb c₄ ht => hthrough ⟨lb, c₄, ht⟩] at hready
    exact h.endpoint hready

theorem ready_of_sameRecords {s s' : CloudscaleClusterStatus} (h : SameRecords s s') :
    s'.initialization = s.initialization := by
  rw [h]

/-- What a patch in order does to the cluster. -/
theorem FitsStored.settles (h : FitsStored stored before after)
    (hp : ClusterPatched before after stored new)
    (henabled : stored.spec.controlPlaneLoadBalancer.enabled.isSome = true)
    (hcomplete : Complete stored)
    (haddr : infrastructureReady stored = true → Addressable stored.spec) :
    SpecKept stored.spec new.spec ∧ new.spec.controlPlaneLoadBalancer.enabled.isSome = true ∧
      Complete new ∧ (infrastructureReady stored = true → infrastructureReady new = true) ∧
      (infrastructureReady new = true → Addressable new.spec) := by
  have hspec : SpecKept stored.spec new.spec ∧
      new.spec.controlPlaneLoadBalancer.enabled.isSome = true := by
    rcases hp.spec with hsame | ⟨hadm, -⟩
    · rw [hsame]
      exact ⟨.refl _, henabled⟩
    · exact ⟨hadm.specKept henabled, hadm.enabled⟩
  obtain ⟨cluster, tr, -, -, hreport⟩ := h.pass
  have hnets : Complete new := by
    unfold Complete
    rcases networks_patched hp with hsame | hsame
    · rw [hsame]
      exact hcomplete
    · rw [hsame]
      exact hreport.complete
  refine ⟨hspec.1, hspec.2, hnets, ?_⟩
  rcases hp.status with hsame | hpatched
  · -- the status is as it was
    have hready : infrastructureReady new = infrastructureReady stored := by
      rw [infrastructureReady, ready_of_sameRecords hsame]
      rfl
    constructor
    · rw [hready]
      exact id
    · rw [hready]
      exact fun hr => hspec.1.addressable (haddr hr)
  · have hinit : new.status.initialization = patched before.status.initialization
        after.status.initialization stored.status.initialization := by
      rw [ready_of_sameRecords hpatched]
      rfl
    have hready : infrastructureReady new = infrastructureReady stored ∧
        after.status.initialization = before.status.initialization ∨
        infrastructureReady new = infrastructureReady after := by
      rw [infrastructureReady, hinit, patched]
      split
      · next heq => exact .inl ⟨rfl, heq⟩
      · exact .inr rfl
    have hbefore : infrastructureReady before = infrastructureReady stored := by
      rw [infrastructureReady, ready_of_sameRecords h.records]
      rfl
    constructor
    · intro hr
      rcases hready with ⟨heq, -⟩ | heq
      · rwa [heq]
      · rw [heq]
        exact h.stays (hbefore.trans hr)
    · intro hr
      rcases hready with ⟨heq, -⟩ | heq
      · exact hspec.1.addressable (haddr (heq ▸ hr))
      · exact hspec.1.addressable (h.addressable (heq ▸ hr))

/-! ## The contracts -/

/-- What a pass may rely on. -/
def objectsRely : Reconciler → Objects → Objects → Prop
  | .cluster, w, w' => w'.cluster.status = w.cluster.status ∧
      SpecKept w.cluster.spec w'.cluster.spec
  | .machine _, w, w' => infrastructureReady w.cluster = true →
      infrastructureReady w'.cluster = true

/-- What has to hold when a patch goes out. -/
def objectsGuard (i : Reconciler) (w : Objects) : PassOp → Prop
  | .kube (.patchCluster before after _) => i = .cluster ∧ FitsStored w.cluster before after
  | .kube (.patchMachine _ _ _) => infrastructureReady w.cluster = true
  | _ => True

/-- The replies of the cloud: no identifier and no address is empty. -/
def sane (op : Op) (r : op.Reply) : Prop := identified op r = true ∧ addressed ⟨op, r⟩ = true

/-- The contract of a pass. -/
abbrev objectsContract (i : Reconciler) : Contract Objects PassOp PassOp.Reply :=
  ⟨ObjectsInv, objectsRely i, objectsGuard i, objectsAnswer sane i⟩

/-- What a pass over the cluster knows of the version it has read. -/
structure Current (c : CloudscaleCluster) (w : Objects) : Prop where
  status : w.cluster.status = c.status
  spec : SpecKept c.spec w.cluster.spec
  complete : Complete c
  alive : c.metadata.deletionTimestamp = false
  endpoint : infrastructureReady c = true → Addressable c.spec

theorem ObjectsInv.current (h : ObjectsInv w) : Current w.cluster w :=
  ⟨rfl, .refl _, h.complete, h.alive, h.endpoint⟩

/-- Reads leave the objects alone. -/
theorem read_cluster {op : KubeOp} {r : op.Reply} (hop : patches op = false)
    (hans : objectsAnswer sane .cluster w (.kube op) r w') : w' = w := by
  cases op with
  | patchCluster _ _ _ => cases hop
  | patchMachine _ _ _ => cases hop
  | getCluster _ _ => exact hans.1
  | _ => exact hans

theorem Current.carried (c : CloudscaleCluster) :
    Carried (objectsContract .cluster) sane (Current c) where
  rely w w' hw hrely _ :=
    ⟨hrely.1.trans hw.status, hw.spec.trans hrely.2, hw.complete, hw.alive, hw.endpoint⟩
  kube w op hop hw _ := by
    constructor
    · cases op with
      | patchCluster _ _ _ => cases hop
      | patchMachine _ _ _ => cases hop
      | _ => trivial
    · intro r w' hans
      rwa [read_cluster hop hans]
  cloud w op hw _ := by
    refine ⟨trivial, ?_⟩
    rintro r w' ⟨rfl, hsane⟩ -
    exact ⟨hw, hsane⟩

/-- The patch of a pass that has read `c` is in order. -/
theorem Current.fits {cluster : Cluster} {tr : Trace} {out : Except GoError Result}
    (h : Current c w) (hrun : (clusterWork cluster (unpausedCluster c)).Runs tr (out, c'))
    (hsane : ∀ e ∈ tr, sane e.op e.reply) : FitsStored w.cluster (unpausedCluster c) c' := by
  have hrun : ((reconcileNormal cluster).exec (withFinalizer (unpausedCluster c))).Runs tr
      (out, c') := by
    have hwork : clusterWork cluster (unpausedCluster c) =
        (reconcileNormal cluster).exec (withFinalizer (unpausedCluster c)) := by
      rw [clusterWork, if_neg]
      · rfl
      · show ¬ c.metadata.deletionTimestamp = true
        simp [h.alive]
    rwa [hwork] at hrun
  have hreport : Report cluster (withFinalizer (unpausedCluster c)) tr c' :=
    report_of_runs ⟨out, hrun⟩ (fun e he => (hsane e he).1) (fun e he => (hsane e he).2) h.complete
  exact ⟨⟨cluster, tr, ⟨out, hrun⟩, hsane, hreport⟩, h.complete, h.endpoint, by rw [h.status]; rfl,
    h.spec⟩

theorem clusterReconcile_settles (ns name : String) (w : Objects) :
    (objectsContract .cluster).wp (fun _ _ => True) (clusterReconcile ns name) w := by
  refine clusterReconcile_rule Current.carried ?_ ?_ w
  · intro w hinv
    refine ⟨trivial, ?_⟩
    rintro c w' ⟨rfl, hread⟩ -
    rw [hread c rfl]
    exact hinv.current
  · intro c cluster tr out c' w hw _ hrun hsane
    exact ⟨rfl, hw.fits hrun hsane⟩

/-- A fact that needs no more than a provisioned cluster. -/
theorem ready_carried (name : String) {P : Prop} :
    Carried (objectsContract (.machine name)) sane
      (fun w => P → infrastructureReady w.cluster = true) where
  rely w w' hw hrely _ hP := hrely (hw hP)
  kube w op hop hw _ := by
    constructor
    · cases op with
      | patchCluster _ _ _ => cases hop
      | patchMachine _ _ _ => cases hop
      | _ => trivial
    · intro r w' hans
      have hsame : w'.cluster = w.cluster := by
        cases op with
        | patchCluster _ _ _ => cases hop
        | patchMachine _ _ _ => cases hop
        | getCluster _ _ => rw [hans.1]
        | getMachine _ _ =>
            cases r with
            | ok m => rw [hans.2]
            | error _ => rw [hans]
        | _ => rw [hans]
      rwa [hsame]
  cloud w op hw _ := by
    refine ⟨trivial, ?_⟩
    rintro r w' ⟨rfl, hsane⟩ -
    exact ⟨hw, hsane⟩

theorem machineReconcile_settles (ns name : String) (w : Objects) :
    (objectsContract (.machine name)).wp (fun _ _ => True) (machineReconcile ns name) w := by
  refine machineReconcile_rule
    (K := fun m w => machineFinalizer ∈ m.metadata.finalizers →
      infrastructureReady w.cluster = true)
    (L := fun _ _ w => True → infrastructureReady w.cluster = true)
    (fun _ => ready_carried name) (fun _ _ => ready_carried name) ?_ ?_ ?_ w
  · intro w hinv
    refine ⟨trivial, ?_⟩
    rintro m w' ⟨hm, rfl⟩ - hfin
    exact hinv.machines name m hm hfin
  · rintro m ns' name' c w w' - - ⟨rfl, hread⟩ - hready -
    rwa [← hread c rfl]
  · intro m c cluster machine tr out m' w hw _ _ _
    exact hw trivial

/-! ## Every run -/

theorem objectsRely_refl (i : Reconciler) (w : Objects) : objectsRely i w w := by
  cases i with
  | cluster => exact ⟨rfl, .refl _⟩
  | machine _ => exact id

/-- No step takes back what is provisioned, or an endpoint that is set. -/
structure Advance (w w' : Objects) : Prop where
  spec : SpecKept w.cluster.spec w'.cluster.spec
  stays : infrastructureReady w.cluster = true → infrastructureReady w'.cluster = true

theorem Advance.of_cluster (hsame : w'.cluster = w.cluster) : Advance w w' := by
  rw [show w' = { w' with cluster := w.cluster } from by rw [← hsame]]
  exact ⟨.refl _, id⟩

theorem Advance.rely (h : Advance w w') {j : Reconciler}
    (hstatus : j = .cluster → w'.cluster.status = w.cluster.status) : objectsRely j w w' := by
  cases j with
  | cluster => exact ⟨hstatus rfl, h.spec⟩
  | machine _ => exact h.stays

/-- A new version of the cluster, which stays provisioned. -/
theorem ObjectsInv.setCluster (h : ObjectsInv w) (halive : new.metadata.deletionTimestamp = false)
    (henabled : new.spec.controlPlaneLoadBalancer.enabled.isSome = true) (hcomplete : Complete new)
    (hstays : infrastructureReady w.cluster = true → infrastructureReady new = true)
    (haddr : infrastructureReady new = true → Addressable new.spec) :
    ObjectsInv { w with cluster := new } :=
  ⟨halive, henabled, hcomplete, haddr, fun name m hm hfin => hstays (h.machines name m hm hfin),
    fun name hheld => hstays (h.held name hheld)⟩

/-- A new version of a machine. -/
theorem ObjectsInv.setMachine {name : String} {m : Option CloudscaleMachine} (h : ObjectsInv w)
    (hm : ∀ m', m = some m' → machineFinalizer ∈ m'.metadata.finalizers →
      infrastructureReady w.cluster = true) :
    ObjectsInv { w with machine := Function.update w.machine name m } := by
  refine ⟨h.alive, h.enabled, h.complete, h.endpoint, ?_, h.held⟩
  intro other m' hother
  by_cases heq : other = name
  · subst heq
    exact hm m' (by simpa using hother)
  · exact h.machines other m' (by simpa [heq] using hother)

/-- A pass over a machine reads it. -/
theorem ObjectsInv.read {name : String} {m : CloudscaleMachine} (h : ObjectsInv w)
    (hm : w.machine name = some m) : ObjectsInv { w with
      held := Function.update w.held name
        (decide (machineFinalizer ∈ m.metadata.finalizers)) } := by
  refine ⟨h.alive, h.enabled, h.complete, h.endpoint, h.machines, ?_⟩
  intro other hother
  by_cases heq : other = name
  · subst heq
    exact h.machines other m hm (by simpa using hother)
  · exact h.held other (by simpa [heq] using hother)

/-- A call in order keeps the invariant; only patches of the cluster touch its status. -/
theorem ObjectsInv.answer {i : Reconciler} {op : PassOp} {r : op.Reply} (h : ObjectsInv w)
    (hguard : objectsGuard i w op) (hans : objectsAnswer sane i w op r w') :
    ObjectsInv w' ∧ Advance w w' ∧ (i ≠ .cluster → w'.cluster.status = w.cluster.status) := by
  have hsame : w' = w → ObjectsInv w' ∧ Advance w w' ∧
      (i ≠ .cluster → w'.cluster.status = w.cluster.status) := by
    rintro rfl
    exact ⟨h, .of_cluster rfl, fun _ => rfl⟩
  match op with
  | .cloud op => exact hsame hans.1
  | .kube (.getCluster _ _) => exact hsame hans.1
  | .kube (.getMachine _ _) =>
      match i, r with
      | .machine name, .ok m =>
          obtain ⟨hm, rfl⟩ := hans
          exact ⟨h.read hm, .of_cluster rfl, fun _ => rfl⟩
      | .machine name, .error _ => exact hsame hans
      | .cluster, _ => exact hsame hans
  | .kube (.patchCluster before after _) =>
      -- the only answer after which another version of the cluster is stored
      obtain ⟨rfl, hfits⟩ := hguard
      rcases hans with rfl | ⟨new, hp, rfl⟩
      · exact hsame rfl
      · obtain ⟨hspec, henabled, hcomplete, hstays, haddr⟩ :=
          hfits.settles hp h.enabled h.complete h.endpoint
        exact ⟨h.setCluster (hp.alive.trans h.alive) henabled hcomplete hstays haddr,
          ⟨hspec, hstays⟩, fun hne => absurd rfl hne⟩
  | .kube (.patchMachine before after _) =>
      rcases hans with rfl | ⟨name, stored, new, -, -, -, rfl⟩
      · exact hsame rfl
      · exact ⟨h.setMachine fun _ _ _ => hguard, .of_cluster rfl, fun _ => rfl⟩
  | .kube (.getOwnerCluster _) => exact hsame hans
  | .kube (.getOwnerMachine _) => exact hsame hans
  | .kube (.getClusterFromMetadata _) => exact hsame hans
  | .kube (.getToken _) => exact hsame hans

theorem ObjectsInv.env (h : ObjectsInv w) (henv : ObjectsEnv w w') :
    ObjectsInv w' ∧ Advance w w' ∧ w'.cluster.status = w.cluster.status := by
  cases henv with
  | @update new hadm hstatus =>
      have hkept := hadm.specKept h.enabled
      have hready : infrastructureReady new = infrastructureReady w.cluster := by
        rw [infrastructureReady, hstatus]
        rfl
      refine ⟨h.setCluster (hadm.alive.trans h.alive) hadm.enabled ?_ ?_ ?_, ⟨hkept, ?_⟩, hstatus⟩
      · rw [Complete, hstatus]
        exact h.complete
      · exact fun hr => hready.trans hr
      · exact fun hr => hkept.addressable (h.endpoint (hready ▸ hr))
      · exact fun hr => hready.trans hr
  | @machine name m hm =>
      refine ⟨h.setMachine ?_, .of_cluster rfl, rfl⟩
      intro m' hm' hfin
      obtain ⟨old, hold, hfin'⟩ := hm m' hm' hfin
      exact h.machines name old hold hfin'

/-- The passes keep to their contracts. -/
def provisioningObligations (ns name : String) :
    Runtime.Obligations (controllers sane ns name) where
  inv := ObjectsInv
  rely := objectsRely
  guard := objectsGuard
  post _ _ _ := True
  rely_refl := objectsRely_refl
  rely_trans i a b c h₁ h₂ := by
    cases i with
    | cluster => exact ⟨h₂.1.trans h₁.1, h₁.2.trans h₂.2⟩
    | machine _ => exact fun hready => h₂ (h₁ hready)
  post_rely _ _ _ _ _ _ _ _ := trivial
  start_ok i p w w' hinv hstart := by
    obtain ⟨rfl, hp⟩ := hstart
    refine ⟨hinv, fun j _ => objectsRely_refl j w', ?_⟩
    cases i with
    | cluster =>
        obtain rfl : p = clusterReconcile ns name := hp
        exact clusterReconcile_settles ns name w'
    | machine m =>
        obtain rfl : p = machineReconcile ns m := hp
        exact machineReconcile_settles ns m w'
  answer_ok i _ _ _ _ hinv hguard hans := by
    obtain ⟨hinv', hadv, hstatus⟩ := hinv.answer hguard hans
    refine ⟨hinv', fun j hj => hadv.rely ?_⟩
    rintro rfl
    exact hstatus hj.symm
  finish_ok _ _ w w' hinv _ hfin := by
    obtain rfl : w' = w := hfin
    exact ⟨hinv, fun j _ => objectsRely_refl j w'⟩
  crash_ok _ w w' hinv hcrash := by
    obtain rfl : w' = w := hcrash
    exact ⟨hinv, fun j _ => objectsRely_refl j w'⟩
  env_ok _ _ hinv henv := by
    obtain ⟨hinv', hadv, hstatus⟩ := hinv.env henv
    exact ⟨hinv', fun j => hadv.rely fun _ => hstatus⟩

/-- One step of the runtime. -/
theorem Advance.of_step {ns name : String} {a b : Runtime.Config Objects Reconciler PassOp
      PassOp.Reply (Except GoError Result)} (hholds : (provisioningObligations ns name).Holds a)
    (hstep : (controllers sane ns name).Step a b) : Advance a.world b.world := by
  cases hstep with
  | start _ hstart => exact .of_cluster (congrArg Objects.cluster hstart.1)
  | @call i op k r w hslot hans =>
      have hguard := (provisioningObligations ns name).guarded hholds hslot
      exact (hholds.world.answer hguard hans).2.1
  | finish _ hfin => exact .of_cluster (congrArg Objects.cluster hfin)
  | crash _ hcrash => exact .of_cluster (congrArg Objects.cluster hcrash)
  | env henv => exact (hholds.world.env henv).2.1

/-- A pass over `before` with the calls `tr` has come to `after`. -/
def PassTo (cluster : Cluster) (before : CloudscaleCluster) (tr : Trace)
    (after : CloudscaleCluster) : Prop :=
  (∃ out, ((reconcileNormal cluster).exec (withFinalizer before)).Runs tr (out, after)) ∧
    ∀ e ∈ tr, identified e.op e.reply = true ∧ addressed e = true

/-- What a pass is about to write, in order, whichever pass it is. -/
structure PassReport (before after : CloudscaleCluster) : Prop where
  pass : ∃ cluster tr, PassTo cluster before tr after
  /-- Past the floating IP step, `provisioned` is up to the endpoint. -/
  provisioned : ∀ cluster tr, PassTo cluster before tr after →
    ∀ lb c₄, ThroughFloatingIP cluster (withFinalizer before) tr lb c₄ →
      after.status.initialization =
      some { provisioned := some (decide (after.spec.controlPlaneEndpoint.host ≠ "")) }
  /-- An endpoint the controller sets is the floating IP or the address of the load balancer. -/
  endpoint : ∀ cluster tr, PassTo cluster before tr after →
    after.spec.controlPlaneEndpoint ≠ before.spec.controlPlaneEndpoint →
      after.spec.controlPlaneEndpoint = controllerEndpoint after tr
  once : before.spec.controlPlaneEndpoint.host ≠ "" →
    after.spec.controlPlaneEndpoint = before.spec.controlPlaneEndpoint
  stays : infrastructureReady before = true → infrastructureReady after = true

theorem FitsStored.passReport (h : FitsStored stored before after) : PassReport before after := by
  have hreport (cluster : Cluster) (tr : Trace) (hpass : PassTo cluster before tr after) :
      Report cluster (withFinalizer before) tr after :=
    report_of_runs hpass.1 (fun e he => (hpass.2 e he).1) (fun e he => (hpass.2 e he).2) h.complete
  obtain ⟨cluster, tr, hrun, hsane, hfirst⟩ := h.pass
  exact ⟨⟨cluster, tr, hrun, hsane⟩, fun _ _ hpass => (hreport _ _ hpass).provisioned,
    fun _ _ hpass hne => ((hreport _ _ hpass).source hne).2, hfirst.once, h.stays⟩

/-- In every run from a new cluster, and at every point of it: a pass past the floating
IP step reports the cluster provisioned exactly if the endpoint is set; neither passes
nor users take back what is provisioned, or change an endpoint that is set; and a pass
over a machine with the finalizer finds the infrastructure ready. -/
theorem provisioned_monotone (ns name : String) {w : Objects} (hnew : NewObjects w)
    {a : Runtime.Config Objects Reconciler PassOp PassOp.Reply (Except GoError Result)}
    (hreach : (controllers sane ns name).Reachable (.idle w) a) :
    (∀ before after og next, a.slot .cluster = some
      (.call (.kube (.patchCluster before after og)) next) → PassReport before after) ∧
    (∀ b, (controllers sane ns name).Reachable a b →
      (infrastructureReady a.world.cluster = true → infrastructureReady b.world.cluster = true) ∧
      (a.world.cluster.spec.controlPlaneEndpoint.host ≠ "" →
        b.world.cluster.spec.controlPlaneEndpoint = a.world.cluster.spec.controlPlaneEndpoint)) ∧
    (∀ m ns' name' next, a.slot (.machine m) = some (.call (.kube (.getCluster ns' name')) next) →
      a.world.held m = true → ∀ c w', (controllers sane ns name).answer (.machine m) a.world
        (.kube (.getCluster ns' name')) (.ok c) w' → infrastructureReady c = true) := by
  have hholds := (provisioningObligations ns name).reachable
    ((provisioningObligations ns name).holds_idle hnew.settled) hreach
  refine ⟨?_, ?_, ?_⟩
  · intro before after og next hslot
    exact ((provisioningObligations ns name).guarded hholds hslot).2.passReport
  · intro b hab
    -- by induction over the steps from `a` to `b`, each of which is an advance
    have hadv : Advance a.world b.world := by
      induction hab with
      | refl => exact ⟨.refl _, id⟩
      | @tail b c hab hstep ih =>
          have hnext := Advance.of_step
            ((provisioningObligations ns name).reachable hholds hab) hstep
          exact ⟨ih.spec.trans hnext.spec, fun hready => hnext.stays (ih.stays hready)⟩
    exact ⟨hadv.stays, hadv.spec.endpoint⟩
  · rintro m ns' name' next - hheld c w' ⟨-, hread⟩
    rw [hread c rfl]
    exact hholds.world.held m hheld

/-! ## A run -/

/-- A cluster on a network of the user, who also provides the endpoint. -/
def ownEndpoint : Objects where
  cluster := clusterDefault oneRegion
    { metadata := { name := "c", ns := "default" }
      spec := { region := "rma", networks := [{ name := "net", uuid := "n" }]
                controlPlaneLoadBalancer := { enabled := some false }
                controlPlaneEndpoint := { host := "api", port := 6443 } } }

/-- The network is there, and little else. -/
def oneNetworkReply : (op : Op) → op.Reply
  | .get .network _ =>
      .ok { uuid := "n", zone := "rma1", subnets := [{ uuid := "s", cidr := "10.0.0.0/24" }] }
  | op => emptyReply op

/-- A service for passes over it; patches do not get through. -/
def oneNetworkServe : Program.Service Objects PassOp PassOp.Reply := fun w op =>
  match op with
  | .cloud op => (oneNetworkReply op, w)
  | .kube (.getCluster _ _) => (.ok w.cluster, w)
  | .kube (.getMachine _ _) => (.error .notFound, w)
  | .kube (.getOwnerCluster c) => (.ok (some { name := c.metadata.name, ns := c.metadata.ns }), w)
  | .kube (.getOwnerMachine _) => (.ok none, w)
  | .kube (.getClusterFromMetadata _) => (.error .notFound, w)
  | .kube (.getToken _) => (.ok "", w)
  | .kube (.patchCluster _ _ _) => (.error (.other "unavailable"), w)
  | .kube (.patchMachine _ _ _) => (.error (.other "unavailable"), w)

theorem oneNetworkServe_answers (w : Objects) (op : PassOp) :
    objectsAnswer sane .cluster w op (oneNetworkServe w op).1 (oneNetworkServe w op).2 := by
  match op with
  | .cloud op =>
      cases op with
      | get k _ => cases k <;> exact ⟨rfl, rfl, rfl⟩
      | _ => exact ⟨rfl, rfl, rfl⟩
  | .kube (.getCluster _ _) => exact ⟨rfl, fun c hc => (Except.ok.inj hc).symm⟩
  | .kube (.getMachine _ _) => rfl
  | .kube (.getOwnerCluster _) => rfl
  | .kube (.getOwnerMachine _) => rfl
  | .kube (.getClusterFromMetadata _) => rfl
  | .kube (.getToken _) => rfl
  | .kube (.patchCluster _ _ _) => exact .inl rfl
  | .kube (.patchMachine _ _ _) => exact .inl rfl

/-- A first pass over the cluster after four calls. -/
def firstPass : Pass (Except GoError Result) × Objects :=
  (clusterReconcile "default" "c").advance oneNetworkServe 4 ownEndpoint

/-- The configuration it is in. -/
def firstConfig : Runtime.Config Objects Reconciler PassOp PassOp.Reply (Except GoError Result) :=
  ⟨firstPass.2, Function.update (fun _ => none) .cluster (some firstPass.1)⟩

theorem firstConfig_reachable :
    (controllers sane "default" "c").Reachable (.idle ownEndpoint) firstConfig := by
  have hstart : (controllers sane "default" "c").Step (.idle ownEndpoint)
      ((Runtime.Config.idle ownEndpoint).set .cluster (some (clusterReconcile "default" "c"))
        ownEndpoint) := .start rfl ⟨rfl, rfl⟩
  have hrest := (controllers sane "default" "c").reachable_advance (i := Reconciler.cluster)
    oneNetworkServe_answers (fun _ => none) 4 (clusterReconcile "default" "c") ownEndpoint
  exact .head hstart hrest

theorem firstConfig_slot : firstConfig.slot .cluster = some firstPass.1 := by
  simp [firstConfig]

/-- The patch that is about to go out. -/
def nextPatch : Pass (Except GoError Result) → Option (CloudscaleCluster × CloudscaleCluster)
  | .call (.kube (.patchCluster before after _)) _ => some (before, after)
  | _ => none

theorem call_of_nextPatch {p : Pass (Except GoError Result)} (h : (nextPatch p).isSome = true) :
    ∃ before after og next, p = .call (.kube (.patchCluster before after og)) next ∧
      nextPatch p = some (before, after) := by
  unfold nextPatch at h ⊢
  split at h
  · next before after og next => exact ⟨before, after, og, next, rfl, rfl⟩
  · cases h

/-- The first pass is about to report the cluster provisioned. -/
theorem provisioned_monotone_first : ∃ before after, PassReport before after ∧
    infrastructureReady before = false ∧ infrastructureReady after = true := by
  have hsome : (nextPatch firstPass.1).isSome = true := by decide +kernel
  have hready : (nextPatch firstPass.1).all (fun p => !infrastructureReady p.1 &&
      infrastructureReady p.2) = true := by decide +kernel
  obtain ⟨before, after, og, next, hcall, hnext⟩ := call_of_nextPatch hsome
  rw [hnext] at hready
  have hmono := provisioned_monotone "default" "c" (w := ownEndpoint)
    ⟨⟨oneRegion, _, rfl, by decide, by decide⟩, rfl, rfl, fun _ => rfl, fun _ => rfl⟩
    firstConfig_reachable
  refine ⟨before, after, hmono.1 before after og next ?_, by simpa using hready⟩
  rw [firstConfig_slot, hcall]

end Capcs.System
