import Capcs.Teardown.Steps

/-!
# Capcs.Teardown.Chain — the steps one after the other

`Chain` is a walk through the steps of a teardown, up to the first that fails; `reconcileDelete` is
such a walk (`reconcileDelete_chain`). `Stage` is what holds between two steps: nothing is pending
for the steps that are done, and what was pending at the start and is still there is still pending.

From one step (`Stage.step`) come the two results about whole passes: what a pass takes away
(`pass_cleans`), and that no step starts before the earlier ones have nothing left to do
(`Chain.in_order`).
-/

namespace Capcs.Teardown

open Cloudscale Controller
open Readiness (Trace)
open Interaction (Cleans Proc Program)
open Interaction.Program (Accepted accepted_append accepted_cons accepted_nil accepted_singleton)

variable {c c₀ c' : CloudscaleCluster} {t tr : Trace} {tags : TagMap} {clean : Prop}
  {E E₁ E' : Estate}
  {cluster : Cluster} {s : Slot} {steps done : List Slot} {b : Bool} {out : Except GoError Unit}

/-! ## Walks -/

/-- A walk through steps; the flag says that all of them have succeeded. -/
inductive Chain (cluster : Cluster) :
    List Slot → CloudscaleCluster → Trace → Bool → CloudscaleCluster → Prop where
  | done {c : CloudscaleCluster} : Chain cluster [] c [] true c
  | failed {s : Slot} {rest : List Slot} {c c' : CloudscaleCluster} {t : Trace} {err : GoError} :
      ((stepOf cluster s).exec c).Runs t (.error err, c') → Chain cluster (s :: rest) c t false c'
  | next {s : Slot} {rest : List Slot} {c c₁ c' : CloudscaleCluster} {t t' : Trace} {b : Bool} :
      ((stepOf cluster s).exec c).Runs t (.ok (), c₁) → Chain cluster rest c₁ t' b c' →
      Chain cluster (s :: rest) c (t ++ t') b c'

/-- The cluster as the first step finds it. -/
def beginDelete (c : CloudscaleCluster) : CloudscaleCluster :=
  setCondition .deleting .isTrue .deleting "Deleting infrastructure resources" c

/-- The cluster after `finishDelete`. -/
def endDelete (c : CloudscaleCluster) : CloudscaleCluster :=
  let c := setCondition .ready .isFalse .deleting "Infrastructure has been deleted" c
  { c with metadata := { c.metadata with
      finalizers := c.metadata.finalizers.filter (· ≠ clusterFinalizer) } }

/-- The replies decide how far a walk gets. -/
theorem Chain.unique {b' : Bool} {c₁ : CloudscaleCluster} {t' rest rest' : Trace}
    (hc : Chain cluster steps c t b c') (hc' : Chain cluster steps c t' b' c₁)
    (heq : t ++ rest = t' ++ rest') : b = b' ∧ c' = c₁ := by
  -- the replies determine each step, so both chains take the same ones
  induction hc generalizing t' rest rest' with
  | done =>
      cases hc'
      exact ⟨rfl, rfl⟩
  | failed hrun =>
      cases hc' with
      | failed hrun' =>
          obtain ⟨-, -, hend⟩ := Program.runs_prefix_unique hrun hrun' heq
          exact ⟨rfl, (Prod.mk.inj hend).2⟩
      | next hrun' _ =>
          rw [List.append_assoc] at heq
          obtain ⟨-, -, hend⟩ := Program.runs_prefix_unique hrun hrun' heq
          cases hend
  | next hrun _ ih =>
      rw [List.append_assoc] at heq
      cases hc' with
      | failed hrun' =>
          obtain ⟨-, -, hend⟩ := Program.runs_prefix_unique hrun hrun' heq
          cases hend
      | next hrun' hrest' =>
          rw [List.append_assoc] at heq
          obtain ⟨-, heq', hend⟩ := Program.runs_prefix_unique hrun hrun' heq
          cases hend
          exact ih hrest' heq'

section Reconcile

variable {rest : List Slot} {k : ClusterM Result} {result : Except GoError Result}

/-- How a pass ends that begins with some steps. -/
def Walks (cluster : Cluster) (steps : List Slot) (k : ClusterM Result) : Prop :=
  ∀ c tr result after, (k.exec c).Runs tr (result, after) →
    ∃ b c', Chain cluster steps c tr b c' ∧ after = if b then endDelete c' else c'

theorem walks_finish : Walks cluster [] finishDelete := by
  intro c tr result after hrun
  have hend : (pure {} : ClusterM Result).exec (endDelete c) = finishDelete.exec c := rfl
  rw [← hend, Interaction.runs_pure] at hrun
  obtain ⟨rfl, -, rfl⟩ := hrun
  exact ⟨true, c, .done, rfl⟩

/-- A step whose error is returned. -/
theorem walks_step (pre : String) (hk : Walks cluster rest k) :
    Walks cluster (s :: rest) ((stepOf cluster s).wrapErr (.wrap pre) >>= fun _ => k) := by
  intro c tr result after hrun
  rcases Interaction.runs_seq.mp hrun with ⟨err, -, hrun⟩ | ⟨_, c₁, t₁, t₂, rfl, hrun₁, hrun₂⟩
  · obtain ⟨out, hout, hrun⟩ := Interaction.runs_wrapErr.mp hrun
    cases out with
    | ok _ => cases hout
    | error err => exact ⟨false, after, .failed hrun, rfl⟩
  · obtain ⟨out, hout, hrun₁⟩ := Interaction.runs_wrapErr.mp hrun₁
    cases out with
    | error err => cases hout
    | ok _ =>
        obtain ⟨b, c', hchain, hafter⟩ := hk c₁ t₂ result after hrun₂
        exact ⟨b, c', .next hrun₁ hchain, hafter⟩

/-- A step one of whose errors asks for another pass. -/
theorem walks_requeueOn (sentinel : Sentinel) (pre : String) (hk : Walks cluster rest k) :
    Walks cluster (s :: rest) (requeueOn sentinel pre (stepOf cluster s) k) := by
  intro c tr result after hrun
  rcases Interaction.runs_seq.mp hrun with ⟨err, -, hrun⟩ | ⟨out, c₁, t₁, t₂, rfl, hrun₁, hrun₂⟩
  · obtain ⟨out, hout, -⟩ := Interaction.runs_attempt.mp hrun
    cases hout
  · obtain ⟨out₁, hout, hrun₁⟩ := Interaction.runs_attempt.mp hrun₁
    cases hout
    cases out with
    | ok _ =>
        obtain ⟨b, c', hchain, hafter⟩ := hk c₁ t₂ result after hrun₂
        exact ⟨b, c', .next hrun₁ hchain, hafter⟩
    | error err =>
        -- the pass ends here, with an error or a requeue
        have hend : t₂ = [] ∧ after = c₁ := by
          dsimp only at hrun₂
          split at hrun₂
          · obtain ⟨rfl, -, rfl⟩ := Interaction.runs_pure.mp hrun₂
            exact ⟨rfl, rfl⟩
          · cases hrun₂
            exact ⟨rfl, rfl⟩
        obtain ⟨rfl, rfl⟩ := hend
        rw [List.append_nil]
        exact ⟨false, after, .failed hrun₁, rfl⟩

/-- `reconcileDelete` walks through the steps, and finishes if all have succeeded. -/
theorem reconcileDelete_chain {after : CloudscaleCluster}
    (hrun : ((reconcileDelete cluster).exec c).Runs tr (result, after)) :
    ∃ b c', Chain cluster deletionSteps (beginDelete c) tr b c' ∧
      after = if b then endDelete c' else c' := by
  rw [reconcileDelete, Proc.exec_update_bind] at hrun
  have hwalks : Walks cluster deletionSteps _ :=
    walks_step (s := .floatingIP) "deleting floating IP: "
    (walks_step (s := .loadBalancer) "deleting load balancer: "
      (walks_requeueOn (s := .serverGroups) .errServerGroupNotEmpty "deleting server groups: "
        (walks_step (s := .routers) "deleting routers: "
          (walks_requeueOn (s := .networks) .errNetworkNotReady "deleting network: "
            walks_finish))))
  exact hwalks _ _ _ _ hrun

end Reconcile

/-! ## From step to step -/

/-- The place of a step in the order. -/
def Slot.rank : Slot → Nat
  | .floatingIP => 0
  | .loadBalancer => 1
  | .serverGroups => 2
  | .routers => 3
  | .networks => 4

/-- With the steps `done`, the next ones are `steps`. -/
def StepsInOrder : List Slot → List Slot → Prop
  | _, [] => True
  | done, s :: rest => s ∉ done ∧ (∀ s' : Slot, s'.rank < s.rank → s' ∈ done) ∧
      StepsInOrder (s :: done) rest

theorem inOrder_deletionSteps : StepsInOrder [] deletionSteps := by
  have hall : ∀ (P : Slot → Prop), P .floatingIP → P .loadBalancer → P .serverGroups → P .routers →
      P .networks → ∀ s, P s := by
    intro P h₁ h₂ h₃ h₄ h₅ s
    cases s <;> assumption
  refine ⟨by simp, ?_, by simp, ?_, by simp, ?_, by simp, ?_, by simp, ?_, trivial⟩ <;>
    exact hall _ (by simp [Slot.rank]) (by simp [Slot.rank]) (by simp [Slot.rank])
      (by simp [Slot.rank]) (by simp [Slot.rank])

/-- What holds between two steps of a teardown that started from `c₀`. -/
structure Stage (tags : TagMap) (c₀ : CloudscaleCluster) (done : List Slot) (c : CloudscaleCluster)
    (E : Estate) : Prop where
  tags : clusterOwnershipTags c = tags
  same : ∀ s, ∀ a ∈ E.assets, a ∈ pendingOf s c₀ ↔ a ∈ pendingOf s c
  settled : ∀ s ∈ done, ∀ a ∈ E.assets, a ∉ pendingOf s c
  cleared : .routers ∈ done → ∀ rs ∈ c.status.routers, Cleared rs

/-- The step a delete belongs to. -/
def slotOf : Op → Option Slot
  | .delete .floatingIP _ => some .floatingIP
  | .delete .loadBalancer _ => some .loadBalancer
  | .delete .serverGroup _ => some .serverGroups
  | .delete .router _ => some .routers
  | .deleteInterface _ _ => some .routers
  | .delete .network _ => some .networks
  | _ => none

/-- The step that makes the calls about a part. -/
def slotOfPart : Part → Option Slot
  | .floatingIP => some .floatingIP
  | .loadBalancer => some .loadBalancer
  | .server => some .serverGroups
  | .router => some .routers
  | .detach => some .routers
  | .network => some .networks
  | .kube => none

theorem slotOfPart_of_slotOf {op : Op} (h : slotOf op = some s) :
    slotOfPart (partOf op) = some s := by
  cases op with
  | delete k id =>
      cases k with
      | network | router | loadBalancer | floatingIP | serverGroup => exact h
      | subnet | pool | listener | healthMonitor | server => cases h
  | deleteInterface => exact h
  | get | list | create | listMembers | createMember | updateMember | deleteMember | createInterface
  | updateFloatingIP | listMachines | getSecret => cases h

/-- What is not a step's: the metadata, the entries of another step, and other deletes. -/
structure StepFrame (s : Slot) (c c' : CloudscaleCluster) (t : Trace) : Prop where
  metadata : c'.metadata = c.metadata
  routers : s ≠ .routers → c'.status.routers = c.status.routers
  networks : s ≠ .networks → c'.status.networks = c.status.networks
  deletes : ∀ e ∈ t, ∀ s', slotOf e.op = some s' → s' = s

theorem step_frame (hrun : ((stepOf cluster s).exec c).Runs t (out, c')) : StepFrame s c c' t := by
  -- a step deletes in its own slot only
  have hown {part : Part} (hs : slotOfPart part = some s) {e : Readiness.CallEvent}
      (habout : About part e.op) (s' : Slot) (hslot : slotOf e.op = some s') : s' = s := by
    have hpart := slotOfPart_of_slotOf hslot
    rcases habout with heq | heq <;> rw [heq] at hpart
    · exact Option.some.inj (hpart.symm.trans hs)
    · cases hpart
  cases s with
  | floatingIP =>
      obtain ⟨hoff, habout⟩ := deleteFloatingIP_frame.runs hrun
      exact ⟨(congrArg (·.metadata) hoff :), fun _ => (congrArg (·.status.routers) hoff :),
        fun _ => (congrArg (·.status.networks) hoff :), fun e he => hown rfl (habout e he)⟩
  | loadBalancer =>
      obtain ⟨hoff, habout⟩ := deleteLoadBalancer_frame.runs hrun
      exact ⟨(congrArg (·.metadata) hoff :), fun _ => (congrArg (·.status.routers) hoff :),
        fun _ => (congrArg (·.status.networks) hoff :), fun e he => hown rfl (habout e he)⟩
  | serverGroups =>
      obtain ⟨rfl, habout⟩ := (deleteServerGroups_frame (f := fun c => c) cluster).runs hrun
      exact ⟨rfl, fun _ => rfl, fun _ => rfl, fun e he => hown rfl (habout e he)⟩
  | routers =>
      obtain ⟨hoff, habout⟩ := deleteRouters_frame.runs hrun
      refine ⟨(congrArg (·.metadata) hoff :), fun h => absurd rfl h,
        fun _ => (congrArg (·.status.networks) hoff :), fun e he s' hslot => ?_⟩
      have hpart := slotOfPart_of_slotOf hslot
      rcases habout e he with heq | heq <;>
      · rw [heq] at hpart
        exact (Option.some.inj hpart).symm
  | networks =>
      obtain ⟨hoff, habout⟩ := deleteNetwork_frame.runs hrun
      exact ⟨(congrArg (·.metadata) hoff :), fun _ => (congrArg (·.status.routers) hoff :),
        fun h => absurd rfl h, fun e he => hown rfl (habout e he)⟩

/-- One step, from one stage to the next. -/
theorem Stage.step {rest : List Slot} (hstage : Stage tags c₀ done c E)
    (horder : StepsInOrder done (s :: rest)) (hrun : ((stepOf cluster s).exec c).Runs t (out, c'))
    (hacc : Accepted (EstateAnswers tags clean) E t E') :
    SlotDone clean s c E out c' E' ∧ (out.isOk = true → Stage tags c₀ (s :: done) c' E') := by
  have hdone : SlotDone clean s c E out c' E' := by
    cases s with
    | floatingIP => exact deleteFloatingIP_done hrun hacc
    | loadBalancer => exact deleteLoadBalancer_done hrun hacc
    | serverGroups => exact deleteServerGroups_done hrun hstage.tags hacc
    | routers => exact deleteRouters_done hrun hacc
    | networks =>
        exact deleteNetwork_done hrun (hstage.cleared (horder.2.1 .routers (by decide))) hacc
  -- a step cleans its own slot and leaves the others as they are
  refine ⟨hdone, fun hok => ⟨?_, ?_, ?_, ?_⟩⟩
  · rw [← hstage.tags, clusterOwnershipTags, clusterOwnershipTags, CloudscaleCluster.clusterTagKey,
      CloudscaleCluster.clusterTagKey, hdone.metadata]
  · intro s' a ha
    rw [hstage.same s' a (hdone.cleans.shrinks ha)]
    by_cases hs' : s' = s
    · rw [hs']
      exact hdone.cleans.left a ha
    · rw [hdone.others s' hs']
  · intro s' hs' a ha
    rcases List.mem_cons.mp hs' with rfl | hbefore
    · exact hdone.settled hok a ha
    · have hne : s' ≠ s := by
        rintro rfl
        exact horder.1 hbefore
      rw [hdone.others s' hne]
      exact hstage.settled s' hbefore a (hdone.cleans.shrinks ha)
  · intro hmem
    by_cases hs : s = .routers
    · subst hs
      exact deleteRouters_cleared hrun hok
    · rw [(step_frame hrun).routers hs]
      exact hstage.cleared ((List.mem_cons.mp hmem).resolve_left (Ne.symm hs))

/-- A walk cleans up; if it gets to its end, nothing is pending for its steps. -/
theorem Chain.cleans (hc : Chain cluster steps c t b c') (hstage : Stage tags c₀ done c E)
    (horder : StepsInOrder done steps) (hacc : Accepted (EstateAnswers tags clean) E t E') :
    Cleans (pending c) (pending c') E.assets E'.assets ∧ (clean → b = true) ∧
      (b = true → ∀ s, s ∈ done ∨ s ∈ steps → ∀ a ∈ E'.assets, a ∉ pendingOf s c') := by
  induction hc generalizing done E with
  | done =>
      rw [accepted_nil.mp hacc]
      refine ⟨.refl _ _, fun _ => rfl, fun _ s hs => ?_⟩
      exact hstage.settled s (hs.resolve_right List.not_mem_nil)
  | failed hrun =>
      obtain ⟨hdone, -⟩ := hstage.step horder hrun hacc
      exact ⟨hdone.cleans.place hdone.others, fun hclean => hdone.succeeds hclean, by simp⟩
  | next hrun _ ih =>
      obtain ⟨E₁, hacc₁, hacc₂⟩ := accepted_append.mp hacc
      obtain ⟨hdone, hnext⟩ := hstage.step horder hrun hacc₁
      obtain ⟨hcleans, hclean, hsettled⟩ := ih (hnext rfl) horder.2.2 hacc₂
      refine ⟨(hdone.cleans.place hdone.others).trans hcleans, hclean,
        fun hb s hs => hsettled hb s ?_⟩
      rcases hs with hs | hs
      · exact .inl (List.mem_cons_of_mem _ hs)
      · rcases List.mem_cons.mp hs with rfl | hs
        · exact .inl List.mem_cons_self
        · exact .inr hs

theorem Stage.start (c : CloudscaleCluster) (E : Estate) :
    Stage (clusterOwnershipTags c) c [] (beginDelete c) E where
  tags := rfl
  same s a _ := by cases s <;> rfl
  settled _ hs := by cases hs
  cleared hs := by cases hs

theorem pending_beginDelete (c : CloudscaleCluster) : pending (beginDelete c) = pending c := by
  ext a
  exact exists_congr fun s => by cases s <;> rfl

theorem pending_endDelete (c : CloudscaleCluster) : pending (endDelete c) = pending c := by
  ext a
  exact exists_congr fun s => by cases s <;> rfl

/-- What a whole pass does: it takes only what is pending and still names what it leaves; if all
goes well, it removes the finalizer and leaves nothing. -/
theorem pass_cleans {result : Except GoError Result} {after : CloudscaleCluster}
    (hrun : ((reconcileDelete cluster).exec c).Runs tr (result, after))
    (hacc : Accepted (EstateAnswers (clusterOwnershipTags c) clean) E tr E') :
    Cleans (pending c) (pending after) E.assets E'.assets ∧
      (clean → clusterFinalizer ∉ after.metadata.finalizers ∧ ∀ a ∈ E'.assets,
        a ∉ pending after) := by
  obtain ⟨b, c', hchain, rfl⟩ := reconcileDelete_chain hrun
  obtain ⟨hcleans, hclean, hsettled⟩ := hchain.cleans (.start c E) inOrder_deletionSteps hacc
  rw [pending_beginDelete] at hcleans
  refine ⟨?_, fun h => ?_⟩
  · split
    · rwa [pending_endDelete]
    · exact hcleans
  · rw [hclean h] at hsettled ⊢
    rw [if_pos rfl, pending_endDelete]
    refine ⟨by simp [endDelete], ?_⟩
    rintro a ha ⟨s, hs⟩
    exact hsettled rfl s (.inr (by cases s <;> simp [deletionSteps])) a ha hs

theorem Chain.metadata (hc : Chain cluster steps c t b c') : c'.metadata = c.metadata := by
  induction hc with
  | done => rfl
  | failed hrun => exact (step_frame hrun).metadata
  | next hrun _ ih => exact ih.trans (step_frame hrun).metadata

/-- A pass in which a step fails leaves the finalizers alone. -/
theorem finalizers_of_failed {result : Except GoError Result} {after : CloudscaleCluster}
    (hrun : ((reconcileDelete cluster).exec c).Runs tr (result, after))
    (hfailed : Chain cluster deletionSteps (beginDelete c) tr false c') :
    after.metadata.finalizers = c.metadata.finalizers := by
  obtain ⟨b, c₁, hchain, rfl⟩ := reconcileDelete_chain hrun
  obtain ⟨rfl, rfl⟩ := hchain.unique hfailed (rfl : tr ++ [] = tr ++ [])
  exact congrArg (·.finalizers) hchain.metadata

/-! ## The order of the calls -/

/-- Nothing comes into being during a teardown. -/
theorem accepted_shrinks (hacc : Accepted (EstateAnswers tags clean) E t E') :
    E'.assets ⊆ E.assets := by
  induction hacc with
  | nil => exact subset_rfl
  | cons hans _ ih =>
      refine ih.trans ?_
      cases hans.1 with
      | got | notGot | listed | notListed | nothing | notAttached | machines | foreign =>
          exact subset_rfl
      | deleted hdiff | detached hdiff => exact (Took.of_diff hdiff).1
      | notDeleted _ hor | notDetached _ hor => exact (Took.of_or hor).1

section Order

variable {t₁ t₂ : Trace} {op : Op} {r : op.Reply} {s' : Slot}

/-- A step starts when nothing is left that an earlier one has to take away. -/
theorem Stage.starts {s₁ : Slot} {rest : List Slot} (hstage : Stage tags c₀ done c E)
    (horder : StepsInOrder done (s₁ :: rest))
    (hrun : ((stepOf cluster s₁).exec c).Runs t (out, c')) (hmem : ⟨op, r⟩ ∈ t)
    (hslot : slotOf op = some s) (hlt : s'.rank < s.rank)
    (hacc : Accepted (EstateAnswers tags clean) E t₁ E₁) :
    ∀ a ∈ E₁.assets, a ∉ pendingOf s' c₀ := by
  intro a ha
  have hsub := accepted_shrinks hacc
  obtain rfl := (step_frame hrun).deletes _ hmem _ hslot
  rw [hstage.same s' a (hsub ha)]
  exact hstage.settled s' (horder.2.1 s' hlt) a (hsub ha)

/-- When a delete goes out, nothing is left that an earlier step has to take away. -/
theorem Chain.in_order (hc : Chain cluster steps c t b c') (hstage : Stage tags c₀ done c E)
    (horder : StepsInOrder done steps) (heq : t = t₁ ++ ⟨op, r⟩ :: t₂)
    (hacc : Accepted (EstateAnswers tags clean) E t₁ E₁) (hslot : slotOf op = some s)
    (hlt : s'.rank < s.rank) : ∀ a ∈ E₁.assets, a ∉ pendingOf s' c₀ := by
  induction hc generalizing done E t₁ with
  | done => simp at heq
  | failed hrun => exact hstage.starts (r := r) horder hrun (by simp [heq]) hslot hlt hacc
  | next hrun _ ih =>
      rcases List.append_eq_append_iff.mp heq with ⟨t₃, rfl, heq'⟩ | ⟨t₃, rfl, heq'⟩
      · obtain ⟨E₂, hacc₁, hacc₂⟩ := accepted_append.mp hacc
        exact ih ((hstage.step horder hrun hacc₁).2 rfl) horder.2.2 heq' hacc₂
      · cases t₃ with
        | nil =>
            rw [List.append_nil] at hrun
            have hnext : _ = ([] : Trace) ++ ⟨op, r⟩ :: t₂ := heq'.symm
            exact ih ((hstage.step horder hrun hacc).2 rfl) horder.2.2 hnext .nil
        | cons e t₃ =>
            obtain ⟨rfl, -⟩ := List.cons.inj heq'
            exact hstage.starts (r := r) horder hrun (by simp) hslot hlt hacc

end Order

end Capcs.Teardown
