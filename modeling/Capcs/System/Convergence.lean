import Capcs.System.Objects
import Capcs.Teardown.Chain

/-!
# Capcs.System.Convergence — teardowns that fail on the way

A cluster is torn down in as many passes as it takes. In each of them every call may succeed, fail
without effect or fail after it has taken effect, and what the pass leaves in the status is stored
or lost.

Nothing of what went wrong shows in the end: once a pass goes well, the finalizer goes, and what
has been deleted over all passes is what one pass without failures would have deleted at the start
(`teardown_converges`); until then no pass with a step that fails has taken the finalizer off
(`teardown_completes`). On the way, nothing is deleted while something that depends on it is left
(`teardown_in_order`). Both hold of every status and every estate.
-/

namespace Capcs.System

open Cloudscale Controller Teardown
open Readiness (Trace)
open Interaction (Cleans Program)
open Interaction.Program (Accepted)

/-! ## Passes in a row -/

/-- What the next pass reads: the stored object has the records of the pass before. -/
structure Persisted (after next : CloudscaleCluster) : Prop where
  name : next.metadata.name = after.metadata.name
  spec : next.spec = after.spec
  status : SameRecords after.status next.status

/-- Passes in a row, from `c₀` and `E₀`, with whatever answers. -/
inductive Torn (c₀ : CloudscaleCluster) (E₀ : Estate) : CloudscaleCluster → Estate → Prop where
  | start : Torn c₀ E₀ c₀ E₀
  | pass {cluster : Cluster} {c after next : CloudscaleCluster} {E E' : Estate} {tr : Trace}
      {result : Except GoError Result} : Torn c₀ E₀ c E →
      ((reconcileDelete cluster).exec c).Runs tr (result, after) → Accepted Serves E tr E' →
      Persisted after next → Torn c₀ E₀ next E'
  /-- The patch is lost: the next pass reads what this one has read. -/
  | lost {cluster : Cluster} {c after : CloudscaleCluster} {E E' : Estate} {tr : Trace}
      {result : Except GoError Result} : Torn c₀ E₀ c E →
      ((reconcileDelete cluster).exec c).Runs tr (result, after) → Accepted Serves E tr E' →
      Torn c₀ E₀ c E'

/-- A pass in which every call succeeds or answers 404, and no machine is in the way. -/
def CleanPass (cluster : Cluster) (c : CloudscaleCluster) (E : Estate) (after : CloudscaleCluster)
    (E' : Estate) : Prop :=
  ∃ tr result, ((reconcileDelete cluster).exec c).Runs tr (result, after) ∧
    Accepted (EstateAnswers (clusterOwnershipTags c) True) E tr E'

variable {c c₀ after next : CloudscaleCluster} {E E₀ E' : Estate} {cluster : Cluster} {tr : Trace}
  {result : Except GoError Result}

/-- Storing the records keeps what is pending. -/
theorem Persisted.pending (h : Persisted after next) : pending next = pending after := by
  have hstatus : next.status = { after.status with
    conditions := next.status.conditions } := h.status
  have htags : clusterOwnershipTags next = clusterOwnershipTags after := by
    rw [clusterOwnershipTags, clusterOwnershipTags, CloudscaleCluster.clusterTagKey,
      CloudscaleCluster.clusterTagKey, h.name]
  have hnets : next.status.networks = after.status.networks := by rw [hstatus]
  ext a
  refine exists_congr fun s => ?_
  cases s with
  | floatingIP =>
      rw [pendingOf, pendingOf, h.spec, hstatus]
  | loadBalancer =>
      rw [pendingOf, pendingOf, h.spec, hstatus]
  | serverGroups =>
      rw [pendingOf, pendingOf, htags]
  | routers =>
      rw [pendingOf, pendingOf, pendingRouter_congr hnets, hstatus]
  | networks =>
      rw [pendingOf, pendingOf, hnets]

theorem answers_of_serves (tags : TagMap) (h : Accepted Serves E tr E') :
    Accepted (EstateAnswers tags False) E tr E' :=
  h.mono fun _ _ _ _ hserves => ⟨hserves, False.elim⟩

/-- What will be left in the end is decided at the start. -/
theorem Torn.rest (h : Torn c₀ E₀ c E) : E.assets \ pending c = E₀.assets \ pending c₀ := by
  induction h with
  | start => rfl
  | pass _ hrun hacc hstored ih =>
      obtain ⟨hcleans, -⟩ := pass_cleans hrun (answers_of_serves _ hacc)
      rw [hstored.pending, hcleans.rest, ih]
  | lost _ hrun hacc ih =>
      obtain ⟨hcleans, -⟩ := pass_cleans hrun (answers_of_serves _ hacc)
      rw [hcleans.kept, ih]

/-- A pass that goes well leaves what is not pending, and takes the finalizer off. -/
theorem CleanPass.left (h : CleanPass cluster c E after E') :
    E'.assets = E.assets \ pending c ∧ clusterFinalizer ∉ after.metadata.finalizers := by
  obtain ⟨tr, result, hrun, hacc⟩ := h
  obtain ⟨hcleans, hclean⟩ := pass_cleans hrun hacc
  obtain ⟨hfinalizer, hnone⟩ := hclean trivial
  refine ⟨?_, hfinalizer⟩
  rw [← hcleans.rest]
  ext a
  exact ⟨fun ha => ⟨ha, hnone a ha⟩, fun ha => ha.1⟩

theorem exists_cleanPass (cluster : Cluster) (c : CloudscaleCluster) (E : Estate) :
    ∃ after E', CleanPass cluster c E after E' := by
  obtain ⟨tr, ⟨result, after⟩, E', hrun, hacc⟩ := Interaction.Program.exists_accepted
    (exists_answer (clusterOwnershipTags c) True) ((reconcileDelete cluster).exec c) E
  exact ⟨after, E', tr, result, hrun, hacc⟩

/-- What is left after a pass that goes well is what a single such pass leaves. -/
theorem Torn.left_once (hruns : Torn c₀ E₀ c E) (hlast : CleanPass cluster c E after E')
    {cluster' : Cluster} {after₁ : CloudscaleCluster} {E₁ : Estate}
    (honce : CleanPass cluster' c₀ E₀ after₁ E₁) : E'.assets = E₁.assets := by
  rw [hlast.left.1, hruns.rest, honce.left.1]

/-- Whatever has failed before, a pass that goes well takes the finalizer off, and what has been
deleted by then is what a single such pass deletes. -/
theorem teardown_converges (hruns : Torn c₀ E₀ c E) (hlast : CleanPass cluster c E after E') :
    clusterFinalizer ∉ after.metadata.finalizers ∧
    (∃ after₁ E₁, CleanPass cluster c₀ E₀ after₁ E₁) ∧
    ∀ cluster' after₁ E₁, CleanPass cluster' c₀ E₀ after₁ E₁ →
      E₀.assets \ E'.assets = E₀.assets \ E₁.assets := by
  refine ⟨hlast.left.2, exists_cleanPass cluster c₀ E₀, fun cluster' after₁ E₁ honce => ?_⟩
  rw [hruns.left_once hlast honce]

/-! ### A detach that is lost -/

/-- The interface of the cluster on somebody else's router. -/
def ownIface : RouterInterface := { uuid := "i", network := "n" }

/-- A cluster with a network of its own, attached to a router that was there before; the UUID of
the interface was never learned. -/
def attachedCluster : CloudscaleCluster where
  metadata := { name := "c", ns := "default", finalizers := [clusterFinalizer] }
  spec := { controlPlaneLoadBalancer := { enabled := some false } }
  status :=
    { networks := [{ name := "net", networkID := "n", managed := true }]
      routers :=
        [{ name := "r", routerID := "r", interfaces := [{ network := "net", managed := true }] }] }

/-- What there is of it. -/
def attachedEstate : Estate where
  assets := {.resource .network "n", .resource .router "r", .iface "r" ownIface}
  finite := Set.toFinite _
  homed := by simp
  named := by simp [ownIface]
  uuid_inj := by simp +contextual
  network_inj := by simp +contextual
  group_inj := by simp

/-- The router is found with the interface, and all goes well. -/
def promptReply : (op : Op) → op.Reply
  | .get .router id => .ok { uuid := id, interfaces := [ownIface] }
  | op => emptyReply op

/-- The same, but the answer to the detach is lost. -/
def lostReply : (op : Op) → op.Reply
  | .deleteInterface _ _ => .error (.timeout "deadline exceeded")
  | op => promptReply op

/-- The cluster after a pass with these answers. -/
def lostDetach : CloudscaleCluster :=
  ((reconcileDelete { name := "c", ns := "default" }).record lostReply attachedCluster).2.2

/-- The estate without the interface. -/
def detachedEstate : Estate := attachedEstate.without (attachedAs "r" "i") (by
  rintro _ _ ⟨_, heq, -⟩
  cases heq)

theorem accepted_lostDetach : Accepted Serves attachedEstate
    ((reconcileDelete { name := "c", ns := "default" }).record lostReply attachedCluster).1
      detachedEstate := by
  refine .cons .machines
    (.cons (.listed ?_) (.cons (.got ?_ ?_) (.cons (.notDetached rfl (.inr rfl)) .nil)))
  · simp [attachedEstate]
  · simp [attachedEstate]
  · simp [attachedEstate]

theorem torn_lostDetach : Torn attachedCluster attachedEstate lostDetach detachedEstate :=
  .pass .start
    ((reconcileDelete { name := "c", ns := "default" }).runs_record lostReply attachedCluster)
    accepted_lostDetach ⟨rfl, rfl, rfl⟩

/-- The detach has taken effect, the pass has failed, and the next one that goes well deletes what
a pass without failures would have deleted. -/
theorem lost_detach_converges : ∃ after E',
    CleanPass { name := "c", ns := "default" } lostDetach detachedEstate after E' ∧
    clusterFinalizer ∉ after.metadata.finalizers ∧
    ∀ cluster' after₁ E₁, CleanPass cluster' attachedCluster attachedEstate after₁ E₁ →
      attachedEstate.assets \ E'.assets = attachedEstate.assets \ E₁.assets := by
  obtain ⟨after, E', hclean⟩ := exists_cleanPass { name := "c", ns := "default" } lostDetach
    detachedEstate
  obtain ⟨hfinalizer, -, hsame⟩ := teardown_converges torn_lostDetach hclean
  exact ⟨after, E', hclean, hfinalizer, hsame⟩

/-! ### The finalizer on the way -/

/-- One pass of a row: what it has read, its calls and what it had in memory at the end. -/
structure TornPass where
  cluster : Cluster
  read : CloudscaleCluster
  trace : Trace
  after : CloudscaleCluster

/-- Passes in a row, each of which reads what the one before has left, the newest first. -/
inductive TornBy (c₀ : CloudscaleCluster) (E₀ : Estate) :
    List TornPass → CloudscaleCluster → Estate → Prop where
  | start : TornBy c₀ E₀ [] c₀ E₀
  | pass {passes : List TornPass} {cluster : Cluster} {c after next : CloudscaleCluster}
      {E E' : Estate}
      {tr : Trace} {result : Except GoError Result} : TornBy c₀ E₀ passes c E →
      ((reconcileDelete cluster).exec c).Runs tr (result, after) → Accepted Serves E tr E' →
      Persisted after next → TornBy c₀ E₀ (⟨cluster, c, tr, after⟩ :: passes) next E'

/-- A deletion step of the pass has failed. -/
def TornPass.Failed (p : TornPass) : Prop :=
  ∃ c', Chain p.cluster deletionSteps (beginDelete p.read) p.trace false c'

variable {passes : List TornPass}

theorem TornBy.torn (h : TornBy c₀ E₀ passes c E) : Torn c₀ E₀ c E := by
  induction h with
  | start => exact .start
  | pass _ hrun hacc hstored ih => exact ih.pass hrun hacc hstored

theorem TornBy.failed (h : TornBy c₀ E₀ passes c E) :
    ∀ p ∈ passes, p.Failed → p.after.metadata.finalizers = p.read.metadata.finalizers := by
  induction h with
  | start => simp
  | pass _ hrun _ _ ih =>
      refine List.forall_mem_cons.mpr ⟨?_, ih⟩
      rintro ⟨c', hfailed⟩
      exact finalizers_of_failed hrun hfailed

/-- Any passes in a row, and then one that goes well: it takes the finalizer off, all passes
together have deleted what a single pass without failures deletes, and no pass with a step that
has failed has touched the finalizers. -/
theorem teardown_completes (hruns : TornBy c₀ E₀ passes c E)
    (hlast : CleanPass cluster c E after E') :
    clusterFinalizer ∉ after.metadata.finalizers ∧
    (∃ after₁ E₁, CleanPass cluster c₀ E₀ after₁ E₁ ∧
      E₀.assets \ E'.assets = E₀.assets \ E₁.assets) ∧
    (∀ cluster' after₁ E₁, CleanPass cluster' c₀ E₀ after₁ E₁ → E'.assets = E₁.assets) ∧
    ∀ p ∈ passes, p.Failed → p.after.metadata.finalizers = p.read.metadata.finalizers := by
  obtain ⟨after₁, E₁, honce⟩ := exists_cleanPass cluster c₀ E₀
  refine ⟨hlast.left.2, ⟨after₁, E₁, honce, ?_⟩, fun _ _ _ =>
    hruns.torn.left_once hlast, hruns.failed⟩
  rw [hruns.torn.left_once hlast honce]

/-- The pass whose detach is lost keeps the finalizer, and the next one takes it off. -/
theorem teardown_completes_lost :
    lostDetach.metadata.finalizers = [clusterFinalizer] ∧ ∃ after E',
      CleanPass { name := "c", ns := "default" } lostDetach detachedEstate after E' ∧
      clusterFinalizer ∉ after.metadata.finalizers ∧
      ∃ after₁ E₁, CleanPass { name := "c", ns := "default" } attachedCluster
        attachedEstate after₁ E₁ ∧
        attachedEstate.assets \ E'.assets = attachedEstate.assets \ E₁.assets := by
  have hrow := TornBy.start.pass ((reconcileDelete { name := "c", ns := "default" }).runs_record
    lostReply attachedCluster) accepted_lostDetach ⟨rfl, rfl, rfl⟩
  obtain ⟨after, E', hclean⟩ := exists_cleanPass { name := "c", ns := "default" } lostDetach
    detachedEstate
  obtain ⟨hfinalizer, honce, -⟩ := teardown_completes hrow hclean
  exact ⟨rfl, after, E', hclean, hfinalizer, honce⟩

/-! ## The order of deletes -/

/-- A delete goes out only when nothing is left of what the steps before have to take away, and the
finalizer goes only when nothing is left at all; a pass with a step that fails keeps it. -/
theorem teardown_in_order (E : Estate)
    (hrun : ((reconcileDelete cluster).exec c).Runs tr (result, after)) :
    (∀ t₁ op r t₂ E₁ s s', tr = t₁ ++ ⟨op, r⟩ :: t₂ → Accepted Serves E t₁ E₁ → slotOf op = some s →
      s'.rank < s.rank → ∀ a ∈ E₁.assets, a ∉ pendingOf s' c) ∧
    (∀ E', Accepted Serves E tr E' → after.metadata.finalizers ≠ c.metadata.finalizers →
      ∀ a ∈ E'.assets, a ∉ pending c) ∧
    ∀ c', Chain cluster deletionSteps (beginDelete c) tr false c' →
      after.metadata.finalizers = c.metadata.finalizers := by
  obtain ⟨b, c', hchain, hafter⟩ := reconcileDelete_chain hrun
  refine ⟨?_, ?_, fun c' hfailed => finalizers_of_failed hrun hfailed⟩
  · intro t₁ op r t₂ E₁ s s' heq hacc hslot hlt
    exact hchain.in_order (.start c E) inOrder_deletionSteps heq
      (answers_of_serves _ hacc) hslot hlt
  · intro E' hacc hremoved
    -- the finalizer is removed only at the end of the whole chain
    have hb : b = true := by
      cases b with
      | true => rfl
      | false => exact absurd (finalizers_of_failed hrun hchain) hremoved
    subst hb
    obtain ⟨hcleans, -, hsettled⟩ := hchain.cleans (.start c E) inOrder_deletionSteps
      (answers_of_serves _ hacc)
    intro a ha hpending
    rw [← pending_beginDelete, hcleans.left a ha] at hpending
    obtain ⟨s, hs⟩ := hpending
    exact hsettled rfl s (.inr (by cases s <;> simp [deletionSteps])) a ha hs

/-- When the network of the cluster is deleted, its interface has gone. -/
theorem teardown_in_order_attached : ∃ t₁ t₂,
    ((reconcileDelete { name := "c", ns := "default" }).record promptReply attachedCluster).1 =
      t₁ ++ ⟨.delete .network "n", .ok ()⟩ :: t₂ ∧
    ∀ E₁, Accepted Serves attachedEstate t₁ E₁ → .iface "r" ownIface ∉ E₁.assets := by
  refine ⟨_, [], (rfl : _ = [_, _, _, _] ++ _), fun E₁ hacc hmem => ?_⟩
  have hpending : .iface "r" ownIface ∈ pendingOf .routers attachedCluster := by
    refine ⟨_, List.mem_singleton.mpr rfl, by decide,
      .inl ⟨_, List.mem_singleton.mpr rfl, rfl, ownIface, rfl, ?_⟩⟩
    exact ⟨_, rfl, rfl⟩
  exact (teardown_in_order attachedEstate
    ((reconcileDelete { name := "c", ns := "default" }).runs_record
    promptReply attachedCluster)).1 _ _ _ _ E₁ .networks .routers rfl hacc rfl
      (by decide) _ hmem hpending

end Capcs.System
