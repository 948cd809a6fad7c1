import Capcs.Controller.Frames
import Capcs.Teardown.Pending

/-!
# Capcs.Teardown.Steps — the five steps of a teardown

`reconcileDelete` runs five steps, in the order of what depends on what. `Slot` names them, and
`pendingOf` is what the status of the cluster still names for each.

`SlotDone` is what a step has done, whatever the calls answer: it takes only what is pending for it,
what it leaves is still pending, nothing is pending for it if it succeeds, and it leaves alone what
is pending for the others. It holds of each of the five (`deleteFloatingIP_done` and so on).
-/

namespace Capcs.Teardown

open Cloudscale Controller
open Readiness (Trace)
open Interaction (Cleans Sweep Proc Program history allOf)
open Interaction.Contract
open Interaction.Program (Accepted accepted_append accepted_cons accepted_nil accepted_singleton)

/-- A step of the teardown. -/
inductive Slot where
  | floatingIP
  | loadBalancer
  | serverGroups
  | routers
  | networks
  deriving DecidableEq, Repr

/-- What a step has to take away. -/
def pendingOf : Slot → CloudscaleCluster → Set Asset
  | .floatingIP, c =>
      {a | (c.spec.floatingIP.any (·.address = "")) = true ∧ c.status.floatingIP ≠ "" ∧
      a ∈ belongs .floatingIP c.status.floatingIP}
  | .loadBalancer, c => {a | c.spec.controlPlaneLoadBalancer.isEnabled = true ∧
      c.status.loadBalancerID ≠ "" ∧ a ∈ belongs .loadBalancer c.status.loadBalancerID}
  | .serverGroups, c =>
      {a | ∃ g, a = .group g ∧ matchesTags (clusterOwnershipTags c) g.tags = true ∧
      g.servers = []}
  | .routers, c => allOf (pendingRouter c) c.status.routers
  | .networks, c => allOf pendingNetwork c.status.networks

/-- All that a teardown has to take away. -/
def pending (c : CloudscaleCluster) : Set Asset := {a | ∃ s, a ∈ pendingOf s c}

/-- The program of a step. -/
def stepOf (cluster : Cluster) : Slot → ClusterM Unit
  | .floatingIP => deleteFloatingIP
  | .loadBalancer => deleteLoadBalancer
  | .serverGroups => deleteServerGroups cluster
  | .routers => deleteRouters
  | .networks => deleteNetwork

/-- The steps in the order in which they are run. -/
def deletionSteps : List Slot := [.floatingIP, .loadBalancer, .serverGroups, .routers, .networks]

variable {c c' : CloudscaleCluster} {t : Trace}
  {tags : TagMap} {clean : Prop} {E E' E₀ : Estate} {cluster : Cluster}

/-! ## A teardown as a contract -/

/-- A teardown, while nobody else changes anything. -/
def tears (tags : TagMap) (clean : Prop) : Interaction.Contract Estate Op Op.Reply where
  inv _ := True
  rely E E' := E' = E
  guard _ _ := True
  answer := EstateAnswers tags clean

/-- The rule for a call. -/
theorem tears_call {α : Type} {Q : Except GoError α → CloudscaleCluster → Estate → Prop} {op : Op}
    {f : op.Reply → ClusterM α}
    (hf : ∀ r E', EstateAnswers tags clean E op r E' → (tears tags clean).wpc Q (f r) c E') :
    (tears tags clean).wpc Q (Proc.perform op >>= f) c E := by
  rw [wpc_bind]
  rintro E₁ rfl -
  exact ⟨trivial, fun r E' hans _ => hf r E' hans⟩

/-- What is proved of a step holds of its runs. -/
theorem tears_runs {m : ClusterM Unit}
    {Q : Except GoError Unit → CloudscaleCluster → Estate → Prop} {out : Except GoError Unit}
    (hwp : (tears tags clean).wpc Q m c E) (hrun : (m.exec c).Runs t (out, c'))
    (hacc : Accepted (EstateAnswers tags clean) E t E') : Q out c' E' :=
  (Program.accepted_of_wp (C := tears tags clean) (G := fun _ => True) (fun _ => rfl)
    (fun _ _ _ _ _ _ _ => trivial) (fun _ _ _ => trivial) hrun hacc trivial hwp).1

/-! ## Floating IP and load balancer -/

/-- A step with a single resource has gone from `A` to `A'`, and has succeeded or not. -/
structure Once (clean : Prop) (A A' : Set Asset) (E E' : Estate) (ok : Bool) : Prop where
  cleans : Cleans A A' E.assets E'.assets
  empty : ok = true → A' = ∅
  succeeds : clean → ok = true

section Once

variable {k : Kind} {id : String} {A A' : Set Asset} {reply : Except ApiError Unit}

theorem once_nothing (hA : A = ∅) (hA' : A' = ∅) : Once clean A A' E E true where
  cleans := by
    rw [hA, hA']
    exact .refl _ _
  empty _ := hA'
  succeeds _ := rfl

theorem once_deleted (hans : EstateAnswers tags clean E (.delete k id) reply E')
    (hA : A = belongs k id) (hA' : A' = ∅) (hgone : gone reply = true) :
    Once clean A A' E E' true where
  cleans := by
    obtain ⟨htook, hnone, -⟩ := serves_delete hans.1
    rw [hA, hA']
    exact htook.cleans (fun a _ ha => ha) fun a ha =>
      iff_of_false (hnone hgone a ha) (Set.notMem_empty a)
  empty _ := hA'
  succeeds _ := rfl

theorem once_failed (hans : EstateAnswers tags clean E (.delete k id) reply E')
    (hA : A = belongs k id) (hA' : A' = A) (hgone : gone reply = false) :
    Once clean A A' E E' false where
  cleans := by
    rw [hA', hA]
    exact (serves_delete hans.1).1.cleans (fun a _ ha => ha) fun _ _ => Iff.rfl
  empty h := by cases h
  succeeds hclean := hgone.symm.trans (gone_of_fine (hans.2 hclean))

end Once

theorem deleteFloatingIP_once :
    (tears tags clean).wpc (fun out c' E' => Once clean (pendingOf .floatingIP c)
      (pendingOf .floatingIP c') E E' out.isOk) deleteFloatingIP c E := by
  rw [deleteFloatingIP, wpc_read_bind]
  cases hspec : c.spec.floatingIP with
  | none =>
      have hnone : pendingOf .floatingIP c = ∅ := by simp [pendingOf, hspec]
      exact once_nothing hnone hnone
  | some f =>
      simp only [wpc_ite]
      split
      · next haddr =>
        have hnone : pendingOf .floatingIP c = ∅ := by simp [pendingOf, hspec, haddr]
        exact once_nothing hnone hnone
      · next haddr =>
        have haddr : f.address = "" := by simpa using haddr
        -- a floating IP that is no longer recorded is not pending
        have hcleared : ∀ c' : CloudscaleCluster, c'.status.floatingIP = "" →
            pendingOf .floatingIP c' = ∅ := by
          intro c' hid
          simp [pendingOf, hid]
        rw [deleteManagedFloatingIP, wpc_deferred, wpc_read_bind]
        simp only [wpc_ite]
        split
        · next hid => exact once_nothing (hcleared c hid) (hcleared _ hid)
        · next hid =>
          have hpending : pendingOf .floatingIP c = belongs .floatingIP c.status.floatingIP := by
            simp [pendingOf, hspec, haddr, hid]
          refine tears_call fun reply E' hans => ?_
          cases reply with
          | ok _ => exact once_deleted hans hpending (hcleared _ rfl) rfl
          | error err =>
              simp only [wpc_ite]
              split
              · next hnf => exact once_deleted hans hpending (hcleared _ rfl) hnf
              · next hnf => exact once_failed hans hpending rfl (by simpa [gone] using hnf)

theorem deleteLoadBalancer_once :
    (tears tags clean).wpc (fun out c' E' => Once clean (pendingOf .loadBalancer c)
      (pendingOf .loadBalancer c') E E' out.isOk) deleteLoadBalancer c E := by
  rw [deleteLoadBalancer, wpc_read_bind]
  have hcleared : ∀ c' : CloudscaleCluster, c'.status.loadBalancerID = "" →
      pendingOf .loadBalancer c' = ∅ := by
    intro c' hid
    simp [pendingOf, hid]
  simp only [wpc_ite]
  split
  · next hoff =>
    -- disabled: nothing is pending, whatever is recorded
    have hnone : pendingOf .loadBalancer c = ∅ := by
      have hoff : c.spec.controlPlaneLoadBalancer.isEnabled = false := by simpa using hoff
      simp [pendingOf, hoff]
    exact once_nothing hnone hnone
  · next hon =>
    have hon : c.spec.controlPlaneLoadBalancer.isEnabled = true := by simpa using hon
    rw [wpc_deferred]
    simp only [wpc_ite]
    split
    · next hid => exact once_nothing (hcleared c hid) (hcleared _ rfl)
    · next hid =>
      have hpending : pendingOf .loadBalancer c = belongs .loadBalancer
          c.status.loadBalancerID := by
        simp [pendingOf, hon, hid]
      refine tears_call fun reply E' hans => ?_
      cases reply with
      | ok _ => exact once_deleted hans hpending (hcleared _ rfl) rfl
      | error err =>
          simp only [wpc_ite]
          split
          · next hnf => exact once_deleted hans hpending (hcleared _ rfl) hnf
          · next hnf => exact once_failed hans hpending rfl (by simpa [gone] using hnf)

/-! ## Server groups -/

/-- The delete of an empty group takes this group only. -/
theorem cleans_group {g : ServerGroup} {reply : Except ApiError Unit} (hsub : E.assets ⊆ E₀.assets)
    (hempty : g.servers = []) (hg : .group g ∈ E₀.assets)
    (htags : matchesTags (clusterOwnershipTags c) g.tags = true)
    (hserves : Serves E (.delete .serverGroup g.uuid) reply E') :
    Cleans (pendingOf .serverGroups c) (pendingOf .serverGroups c) E.assets E'.assets := by
  refine (serves_delete hserves).1.cleans ?_ fun _ _ => Iff.rfl
  rintro _ ha ⟨g', rfl, huuid⟩
  rw [E₀.group_inj (hsub ha) hg huuid]
  exact ⟨g, rfl, htags, hempty⟩

/-- What the loop over groups has done, from `E` to `E'`. -/
structure GroupsDone (clean : Prop) (c : CloudscaleCluster) (groups : List ServerGroup) (E : Estate)
    (out : Except GoError Unit) (c' : CloudscaleCluster) (E' : Estate) : Prop where
  same : c' = c
  cleans : Cleans (pendingOf .serverGroups c) (pendingOf .serverGroups c) E.assets E'.assets
  none : out.isOk = true → ∀ g ∈ groups, g.servers = [] → .group g ∉ E'.assets
  succeeds : clean → out.isOk = true

/-- The loop over groups that were listed in an estate. -/
theorem deleteEachServerGroup_done (owned : List String) (groups : List ServerGroup)
    (hsub : E.assets ⊆ E₀.assets)
    (hlisted : ∀ g ∈ groups, .group g ∈ E₀.assets ∧
      matchesTags (clusterOwnershipTags c) g.tags = true)
    (hfree : clean → ∀ g ∈ groups, ∀ s ∈ g.servers, s ∉ owned) :
    (tears tags clean).wpc (GroupsDone clean c groups E)
      (deleteEachServerGroup owned groups) c E := by
  induction groups generalizing E with
  | nil => exact ⟨rfl, .refl _ _, by simp, fun _ => rfl⟩
  | cons g rest ih =>
      obtain ⟨⟨hg, htags⟩, hlisted⟩ := List.forall_mem_cons.mp hlisted
      have hfree' : clean → ∀ g ∈ rest, ∀ s ∈ g.servers, s ∉ owned :=
        fun hclean g hg => hfree hclean g (List.mem_cons_of_mem _ hg)
      rw [deleteEachServerGroup]
      simp only [wpc_ite]
      split
      · next hany =>
        refine ⟨rfl, .refl _ _, (by rintro ⟨⟩), fun hclean => ?_⟩
        simp only [List.any_eq_true, decide_eq_true_eq] at hany
        obtain ⟨s, hs, howned⟩ := hany
        exact absurd howned (hfree hclean g List.mem_cons_self s hs)
      · split
        · next hne =>
          refine wpc_imp (ih hsub hlisted hfree') fun out c' E' h => ?_
          refine ⟨h.same, h.cleans, fun hok => List.forall_mem_cons.mpr
            ⟨fun hempty => ?_, h.none hok⟩, h.succeeds⟩
          exact absurd hempty hne
        · next hne =>
          have hempty : g.servers = [] := by simpa using hne
          refine tears_call fun reply E₁ hans => ?_
          have hhead := cleans_group hsub hempty hg htags hans.1
          -- the group has gone, and the loop goes on
          have hnext (hgone : gone reply = true) : (tears tags clean).wpc
              (GroupsDone clean c (g :: rest) E) (deleteEachServerGroup owned rest) c E₁ := by
            refine wpc_imp (ih (hhead.shrinks.trans hsub) hlisted hfree') fun out c' E' h => ?_
            refine ⟨h.same, hhead.trans h.cleans,
              fun hok => List.forall_mem_cons.mpr ⟨fun _ hmem => ?_, h.none hok⟩, h.succeeds⟩
            exact (serves_delete hans.1).2.1 hgone _ (h.cleans.shrinks hmem) ⟨g, rfl, rfl⟩
          cases reply with
          | ok _ => exact hnext rfl
          | error err =>
              simp only [wpc_ite]
              split
              · next hnf => exact hnext hnf
              · next hnf =>
                exact ⟨rfl, hhead, by rintro ⟨⟩, fun hclean =>
                  absurd (gone_of_fine (hans.2 hclean)) hnf⟩

/-- The whole step: machines and groups are listed, and then deleted. -/
theorem deleteServerGroups_cleans (htags : clusterOwnershipTags c = tags) :
    (tears tags clean).wpc (fun out c' E' => c' = c ∧
      Cleans (pendingOf .serverGroups c) (pendingOf .serverGroups c) E.assets E'.assets ∧
      (out.isOk = true → ∀ a ∈ E'.assets, a ∉ pendingOf .serverGroups c) ∧
        (clean → out.isOk = true))
      (deleteServerGroups cluster) c E := by
  rw [deleteServerGroups, wpc_bind, wpc_wrapErr, getOwnedServerIDs, wpc_read_bind]
  refine tears_call fun reply E₁ hans => ?_
  obtain rfl : E₁ = E := by
    obtain ⟨hserves, -⟩ := hans
    cases hserves with
    | machines => rfl
    | foreign hf => exact hf.elim
  cases reply with
  | error err => exact ⟨rfl, .refl _ _, by rintro ⟨⟩, fun hclean => (hans.2 hclean).elim⟩
  | ok machines =>
      dsimp only
      rw [wpc_pure]
      change (tears tags clean).after _ _ (.ok (ownedServerIDs machines)) c _
      rw [after_ok, wpc_read_bind]
      refine tears_call fun reply E₂ hlist => ?_
      obtain ⟨hserves, hfine⟩ := hlist
      cases hserves with
      | foreign hf => exact absurd rfl hf
      | notListed hnot =>
          refine ⟨rfl, .refl _ _, by rintro ⟨⟩, fun hclean => ?_⟩
          have hfound : isNotFound _ = true := hfine hclean
          rw [hnot] at hfound
          cases hfound
      | listed hexact =>
          -- the list is exact: a group with the tags that is left has been gone through
          refine wpc_imp (deleteEachServerGroup_done (ownedServerIDs machines) _ subset_rfl
            (fun g hg => (hexact g).mp hg) fun hclean g hg => ?_) fun out c' E' h => ?_
          · obtain ⟨hmem, hmatch⟩ := (hexact g).mp hg
            exact hans.2 hclean g hmem (htags ▸ hmatch)
          · refine ⟨h.same, h.cleans, ?_, h.succeeds⟩
            rintro hok _ ha ⟨g, rfl, hmatch, hempty⟩
            exact h.none hok g ((hexact g).mpr ⟨h.cleans.shrinks ha, hmatch⟩) hempty ha

/-! ## Each step -/

/-- What a step has done, from `c` and `E` to `c'` and `E'`. -/
structure SlotDone (clean : Prop) (s : Slot) (c : CloudscaleCluster) (E : Estate)
    (out : Except GoError Unit) (c' : CloudscaleCluster) (E' : Estate) : Prop where
  metadata : c'.metadata = c.metadata
  cleans : Cleans (pendingOf s c) (pendingOf s c') E.assets E'.assets
  others : ∀ s', s' ≠ s → pendingOf s' c' = pendingOf s' c
  settled : out.isOk = true → ∀ a ∈ E'.assets, a ∉ pendingOf s c'
  succeeds : clean → out.isOk = true

theorem pendingRouter_congr (hnets : c'.status.networks = c.status.networks) :
    pendingRouter c' = pendingRouter c := by
  have hiface : pendingIface c' = pendingIface c := by
    funext router i
    simp only [pendingIface, Aims, CloudscaleClusterStatus.getNetworkStatus, hnets]
  funext rs
  simp only [pendingRouter, pendingIfaces, hiface]

/-- Nothing goes for router entries in which nothing is managed. -/
theorem pendingRouters_cleared {routers : List RouterStatus} (hcleared : ∀ rs ∈ routers, Cleared rs)
    (c : CloudscaleCluster) : allOf (pendingRouter c) routers = ∅ := by
  rw [Set.eq_empty_iff_forall_notMem]
  rintro a ⟨rs, hrs, -, ⟨i, hi, hm, -⟩ | ⟨hm, -⟩⟩
  · rw [(hcleared rs hrs).2 i hi] at hm
    cases hm
  · rw [(hcleared rs hrs).1] at hm
    cases hm

section Steps

variable {out : Except GoError Unit}

/-- A step with a single resource, that leaves the other steps' part of the status alone. -/
theorem Once.done {s : Slot} {off : CloudscaleCluster → CloudscaleCluster}
    (honce : Once clean (pendingOf s c) (pendingOf s c') E E' out.isOk) (hoff : off c' = off c)
    (hmeta : ∀ c, (off c).metadata = c.metadata)
    (hother : ∀ s', s' ≠ s → ∀ c, pendingOf s' (off c) = pendingOf s' c) :
    SlotDone clean s c E out c' E' where
  metadata := by rw [← hmeta c', hoff, hmeta c]
  cleans := honce.cleans
  others s' hne := by rw [← hother s' hne c', hoff, hother s' hne c]
  settled hok := by
    rw [honce.empty hok]
    exact fun a _ => Set.notMem_empty a
  succeeds := honce.succeeds

theorem deleteFloatingIP_done (hrun : (deleteFloatingIP.exec c).Runs t (out, c'))
    (hacc : Accepted (EstateAnswers tags clean) E t E') :
    SlotDone clean .floatingIP c E out c' E' := by
  refine (tears_runs deleteFloatingIP_once hrun hacc).done (deleteFloatingIP_frame.runs hrun).1
    (fun _ => rfl) ?_
  intro s' hne c
  cases s' with
  | floatingIP => exact absurd rfl hne
  | loadBalancer | serverGroups | routers | networks => rfl

theorem deleteLoadBalancer_done (hrun : (deleteLoadBalancer.exec c).Runs t (out, c'))
    (hacc : Accepted (EstateAnswers tags clean) E t E') :
    SlotDone clean .loadBalancer c E out c' E' := by
  refine (tears_runs deleteLoadBalancer_once hrun hacc).done (deleteLoadBalancer_frame.runs hrun).1
    (fun _ => rfl) ?_
  intro s' hne c
  cases s' with
  | loadBalancer => exact absurd rfl hne
  | floatingIP | serverGroups | routers | networks => rfl

theorem deleteServerGroups_done (hrun : ((deleteServerGroups cluster).exec c).Runs t (out, c'))
    (htags : clusterOwnershipTags c = tags) (hacc : Accepted (EstateAnswers tags clean) E t E') :
    SlotDone clean .serverGroups c E out c' E' := by
  obtain ⟨rfl, hcleans, hsettled, hok⟩ := tears_runs (deleteServerGroups_cleans htags) hrun hacc
  exact ⟨rfl, hcleans, fun _ _ => rfl, hsettled, hok⟩

/-- The router step is a sweep. -/
theorem deleteRouters_runs (hrun : (deleteRouters.exec c).Runs t (out, c')) :
    c'.status.networks = c.status.networks ∧ ∃ errs, (out = .ok () ↔ errs = []) ∧
      Sweep (RouterFate c) c.status.routers t c'.status.routers errs := by
  have hspec : (history fun _ _ => True).wpc _ deleteRouters c [] := deleteRouters_sweep
  obtain ⟨hnets, t', errs, ht, hout, hs⟩ := Interaction.runs_of_wpc hspec hrun fun _ _ => trivial
  obtain rfl : t = t' := by simpa using ht
  exact ⟨hnets, errs, hout, hs⟩

/-- After the router step no managed entry is left, if it succeeds. -/
theorem deleteRouters_cleared (hrun : (deleteRouters.exec c).Runs t (out, c'))
    (hok : out.isOk = true) :
    ∀ rs ∈ c'.status.routers, Cleared rs := by
  obtain ⟨-, errs, hout, hs⟩ := deleteRouters_runs hrun
  cases out with
  | error err => cases hok
  | ok _ => exact (hs.errs_eq_nil_iff fun _ _ _ _ hf => hf.errs_eq_nil_iff).mp (hout.mp rfl)

theorem deleteRouters_done (hrun : (deleteRouters.exec c).Runs t (out, c'))
    (hacc : Accepted (EstateAnswers tags clean) E t E') :
    SlotDone clean .routers c E out c' E' := by
  obtain ⟨hnets, errs, hout, hs⟩ := deleteRouters_runs hrun
  have hoff := (deleteRouters_frame.runs hrun).1
  obtain ⟨hcleans, hquiet⟩ := hs.cleans (V := Estate.assets) (I := fun _ => True)
    (fun _ _ _ _ => trivial) (fun _ _ _ _ _ _ hf _ hacc => hf.cleans hacc) trivial hacc
  refine ⟨(congrArg CloudscaleCluster.metadata hoff :), ?_, ?_, ?_, ?_⟩
  · rw [pendingOf, pendingOf, pendingRouter_congr hnets]
    exact hcleans
  · intro s' hne
    have hblind : ∀ c, pendingOf s' (offRouters c) = pendingOf s' c := by
      intro c
      cases s' with
      | routers => exact absurd rfl hne
      | floatingIP | loadBalancer | serverGroups | networks => rfl
    rw [← hblind c', hoff, hblind c]
  · intro hok a _
    rw [pendingOf, pendingRouters_cleared (deleteRouters_cleared hrun hok)]
    exact Set.notMem_empty a
  · intro hclean
    rw [hout.mpr (hquiet hclean)]
    rfl

theorem deleteNetwork_done (hrun : (deleteNetwork.exec c).Runs t (out, c'))
    (hcleared : ∀ rs ∈ c.status.routers, Cleared rs)
    (hacc : Accepted (EstateAnswers tags clean) E t E') :
    SlotDone clean .networks c E out c' E' := by
  have hspec : (history fun _ _ => True).wpc _ deleteNetwork c [] := deleteNetwork_spec
  obtain ⟨t', ht, hend⟩ := Interaction.runs_of_wpc hspec hrun fun _ _ => trivial
  obtain rfl : t = t' := by simpa using ht
  have hoff := (deleteNetwork_frame.runs hrun).1
  have hrouters : c'.status.routers = c.status.routers := (congrArg (·.status.routers) hoff :)
  have hothers : ∀ s', s' ≠ .networks → pendingOf s' c' = pendingOf s' c := by
    intro s' hne
    have hblind : s' ≠ .routers → ∀ c, pendingOf s' (offNetworks c) = pendingOf s' c := by
      intro hne' c
      cases s' with
      | networks => exact absurd rfl hne
      | routers => exact absurd rfl hne'
      | floatingIP | loadBalancer | serverGroups => rfl
    by_cases hrouter : s' = .routers
    · -- the entries of networks matter for routers only as long as an interface is managed
      rw [hrouter, pendingOf, pendingOf, hrouters, pendingRouters_cleared hcleared,
        pendingRouters_cleared hcleared]
    · rw [← hblind hrouter c', hoff, hblind hrouter c]
  have hmeta : c'.metadata = c.metadata := (congrArg CloudscaleCluster.metadata hoff :)
  rcases hend with ⟨errs, hout, hs⟩ | ⟨rfl, hsame, hs⟩
  · obtain ⟨hcleans, hquiet⟩ := sweep_networks_cleans hs hacc
    refine ⟨hmeta, hcleans, hothers, ?_, fun hclean => ?_⟩
    · rintro hok a - ⟨ns, hns, hdue, -⟩
      have hnil : errs = [] := by
        cases out with
        | error err => cases hok
        | ok _ => exact hout.mp rfl
      have hforeign := (hs.errs_eq_nil_iff fun _ _ _ _ hf => hf.errs_eq_nil_iff).mp hnil ns hns
      simp [due, hforeign] at hdue
    · rw [hout.mpr (hquiet hclean)]
      rfl
  · obtain ⟨hcleans, hnot⟩ := hs.cleans hacc
    refine ⟨hmeta, ?_, hothers, (fun hok => by cases hok), fun hclean => absurd hclean hnot⟩
    rw [pendingOf, pendingOf, hsame]
    exact hcleans

end Steps

end Capcs.Teardown
