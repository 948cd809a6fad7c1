import Capcs.Retention.Normal
import Capcs.Teardown.Networks

/-!
# Capcs.Retention.Delete — a teardown forgets only what is deleted

Teardown drops IDs as it goes: entries of networks and routers, the load balancer with
all its children, the floating IP. Each one it drops was deleted in that pass, or found to
be gone.
-/

namespace Capcs.Retention

open Cloudscale Controller
open Readiness (CallEvent Trace)
open Teardown (gone RouterFate NetFate)
open Interaction (Proc)
open Interaction.Contract

variable {k : Kind} {id old new : String} {h h' : Trace} {c c₀ : CloudscaleCluster}

/-- The resource was deleted, or there was none. -/
def Removed (k : Kind) (id : String) (h : Trace) : Prop :=
  ∃ r, gone r = true ∧ (⟨.delete k id, r⟩ : CallEvent) ∈ h

theorem Removed.later (hr : Removed k id h) (hle : h ⊆ h') : Removed k id h' := by
  obtain ⟨r, hgone, hmem⟩ := hr
  exact ⟨r, hgone, hle hmem⟩

/-- An ID that was recorded still is, or its resource was deleted. -/
def Held (k : Kind) (old new : String) (h : Trace) : Prop := old = "" ∨ new = old ∨ Removed k old h

theorem Held.refl (k : Kind) (id : String) (h : Trace) : Held k id id h := .inr (.inl rfl)

theorem Held.later (hk : Held k old new h) (hle : h ⊆ h') : Held k old new h' := by
  rcases hk with hempty | hsame | hremoved
  · exact .inl hempty
  · exact .inr (.inl hsame)
  · exact .inr (.inr (hremoved.later hle))

theorem Held.trans {mid : String} (h₁ : Held k old mid h) (h₂ : Held k mid new h) :
    Held k old new h := by
  rcases h₁ with hempty | rfl | hremoved
  · exact .inl hempty
  · exact h₂
  · exact .inr (.inr hremoved)

/-- Deleting a resource, as far as the pass goes on after it. -/
theorem svcDelete_removed {σ : Type} {s : σ} (k : Kind) (id : String) :
    echoCalls.wpc (fun (out : Except GoError (Op.delete k id).Reply) s' h' => s' = s ∧ h ⊆ h' ∧
        ∀ r, out = .ok r → gone r = true → Removed k id h') (svcDelete k id) s h := by
  refine Interaction.history_perform ?_
  rintro r -
  refine ⟨rfl, List.subset_append_left _ _, ?_⟩
  rintro _ ⟨⟩ hgone
  exact ⟨r, hgone, List.mem_append_right _ (List.mem_singleton.mpr rfl)⟩

/-! ## Clusters -/

/-- The same router, up to its interfaces. -/
def SameRouter (e e' : RouterStatus) : Prop :=
  e'.name = e.name ∧ e'.managed = e.managed ∧ e'.routerID = e.routerID

theorem SameRouter.trans {e e' e'' : RouterStatus} (h₁ : SameRouter e e') (h₂ : SameRouter e' e'') :
    SameRouter e e'' :=
  ⟨h₂.1.trans h₁.1, h₂.2.1.trans h₁.2.1, h₂.2.2.trans h₁.2.2⟩

/-- No ID of `c₀` is dropped without a deletion. -/
structure HoldsIDs (c₀ : CloudscaleCluster) (status : CloudscaleClusterStatus) (h : Trace) :
    Prop where
  networks : ∀ e ∈ c₀.status.networks, e ∈ status.networks ∨
    e.networkID = "" ∨ Removed .network e.networkID h
  routers : ∀ e ∈ c₀.status.routers, (∃ e' ∈ status.routers, SameRouter e e') ∨
    e.routerID = "" ∨ Removed .router e.routerID h
  loadBalancer : Held .loadBalancer c₀.status.loadBalancerID status.loadBalancerID h
  floatingIP : managedFloatingIP c₀.spec = true →
    Held .floatingIP c₀.status.floatingIP status.floatingIP h

/-- Where a teardown that started from `c₀` stands. -/
structure Tears (c₀ c : CloudscaleCluster) (h : Trace) : Prop where
  spec : c.spec = c₀.spec
  networks : ∀ e ∈ c.status.networks, e ∈ c₀.status.networks
  routers : ∀ e ∈ c.status.routers, ∃ e₀ ∈ c₀.status.routers, SameRouter e₀ e
  ids : HoldsIDs c₀ c.status h

theorem Tears.start (c : CloudscaleCluster) (h : Trace) : Tears c c h where
  spec := rfl
  networks _ he := he
  routers e he := ⟨e, he, rfl, rfl, rfl⟩
  ids :=
    { networks := fun _ he => .inl he
      routers := fun e he => .inl ⟨e, he, rfl, rfl, rfl⟩
      loadBalancer := .refl _ _ _
      floatingIP := fun _ => .refl _ _ _ }

theorem Tears.later (ht : Tears c₀ c h) (hle : h ⊆ h') : Tears c₀ c h' where
  spec := ht.spec
  networks := ht.networks
  routers := ht.routers
  ids :=
    { networks := fun e he => (ht.ids.networks e he).imp id (.imp id (·.later hle))
      routers := fun e he => (ht.ids.routers e he).imp id (.imp id (·.later hle))
      loadBalancer := ht.ids.loadBalancer.later hle
      floatingIP := fun hm => (ht.ids.floatingIP hm).later hle }

theorem Tears.setCondition (ht : Tears c₀ c h) (t : ConditionType) (status : ConditionStatus)
    (reason : Reason) (message : String) : Tears c₀ (setCondition t status reason message c) h :=
  ⟨ht.spec, ht.networks, ht.routers,
    ⟨ht.ids.networks, ht.ids.routers, ht.ids.loadBalancer, ht.ids.floatingIP⟩⟩

/-- A step of a teardown forgets only what is deleted. -/
abbrev Careful {α : Type} (c₀ : CloudscaleCluster) (m : ClusterM α) : Prop :=
  echoCalls.Preserves (Tears c₀) m

theorem careful_of_reads {α : Type} {m : ClusterM α} (hm : OnlyReads m) : Careful c₀ m := by
  intro c h hinv ht
  refine wpc_imp (hm.wpc hinv) ?_
  rintro out _ h' ⟨rfl, hle⟩
  exact ht.later hle

/-! ### Floating IP and load balancer -/

/-- Deleting a resource whose ID is then cleared, or not. -/
theorem careful_delete {id : String} {clear : CloudscaleCluster → CloudscaleCluster}
    {err : ApiError → GoError} {c : CloudscaleCluster} (ht : Tears c₀ c h)
    (hclear : ∀ h', h ⊆ h' → Removed k id h' → Tears c₀ (clear c) h') :
    echoCalls.wpc (fun _ => Tears c₀) (do
      match ← svcDelete k id with
      | .ok _ => Proc.update clear
      | .error e => if isNotFound e then Proc.update clear else Proc.fail (err e)) c h := by
  refine wpc_seq (svcDelete_removed k id) ?_
  rintro out _ h' ⟨rfl, hle, hremoved⟩
  rcases out with e | e | _
  · exact ht.later hle
  · simp only [after_ok, wpc_ite]
    split
    · next hnf => exact hclear h' hle (hremoved _ rfl hnf)
    · exact ht.later hle
  · exact hclear h' hle (hremoved _ rfl rfl)

theorem deleteFloatingIP_careful : Careful c₀ deleteFloatingIP := by
  refine .read fun c h hinv ht => ?_
  cases hfip : c.spec.floatingIP with
  | none => exact ht
  | some fipSpec =>
      refine Preserves.ite (fun _ => .pure _) (fun _ => .deferred (.read ?_) ?_) c h hinv ht
      · intro c h hinv ht
        rw [wpc_ite]
        split
        · exact ht
        · refine careful_delete ht fun h' hle hremoved => ?_
          have ht' := ht.later hle
          exact ⟨ht'.spec, ht'.networks, ht'.routers, ht'.ids.networks, ht'.ids.routers,
            ht'.ids.loadBalancer, fun hm => (ht'.ids.floatingIP hm).trans (.inr (.inr hremoved))⟩
      · intro out c h ht
        cases out <;> exact ht.setCondition _ _ _ _

theorem Tears.clearLoadBalancer (ht : Tears c₀ c h)
    (hheld : Held .loadBalancer c.status.loadBalancerID "" h) : Tears c₀ (clearLoadBalancer c) h :=
  ⟨ht.spec, ht.networks, ht.routers, ht.ids.networks, ht.ids.routers,
    ht.ids.loadBalancer.trans hheld, ht.ids.floatingIP⟩

theorem deleteLoadBalancer_careful : Careful c₀ deleteLoadBalancer := by
  refine .read fun c h hinv ht => ?_
  rw [wpc_ite]
  split
  · exact ht
  · rw [wpc_deferred]
    have hset : ∀ out c h, Tears c₀ c h → Tears c₀ (setLoadBalancerDeleting out c) h := by
      intro out c h ht
      cases out <;> exact ht.setCondition _ _ _ _
    refine wpc_imp (Q := fun _ => Tears c₀) ?_ hset
    rw [wpc_ite]
    split
    · next hempty => exact ht.clearLoadBalancer (.inl hempty)
    · exact careful_delete ht fun h' hle hremoved =>
        (ht.later hle).clearLoadBalancer (.inr (.inr hremoved))

/-! ### Routers and networks -/

/-- What is left of a router entry is about the same router, and an entry that is dropped had a
router that is gone, or none. -/
theorem fate_of_router {entry : RouterStatus} {t : Trace} {o : Option RouterStatus}
    {errs : List GoError} (hf : RouterFate c entry t o errs) :
    (∃ e ∈ o, SameRouter entry e) ∨ o = none ∧
      (entry.routerID = "" ∨ Removed .router entry.routerID t) := by
  cases o with
  | some e =>
      obtain ⟨_, _, hp⟩ := hf.pruned
      exact .inl ⟨e, rfl, hp.same.1, hp.same.2.2, hp.same.2.1⟩
  | none =>
      cases hf with
      | unrecorded hid => exact .inr ⟨rfl, .inl hid⟩
      | deleted _ _ _ hgone => exact .inr ⟨rfl, .inr ⟨_, hgone, by simp⟩⟩

theorem deleteRouters_careful : Careful c₀ deleteRouters := by
  intro c h _ ht
  refine wpc_imp (wpc_and Teardown.deleteRouters_sweep (deleteRouters_frame.wpc c h)) ?_
  rintro out c' _ ⟨⟨hnets, t, errs, rfl, -, hs⟩, hsame⟩
  have ht := ht.later (List.subset_append_left h t)
  have hspec : c'.spec = c.spec := congrArg (·.spec) hsame
  have hlb : c'.status.loadBalancerID = c.status.loadBalancerID :=
    congrArg (·.status.loadBalancerID) hsame
  have hfip : c'.status.floatingIP = c.status.floatingIP := congrArg (·.status.floatingIP) hsame
  refine ⟨hspec.trans ht.spec, hnets ▸ ht.networks, fun e' he' => ?_, hnets ▸ ht.ids.networks,
    fun e₀ he₀ => ?_, hlb ▸ ht.ids.loadBalancer, hfip ▸ ht.ids.floatingIP⟩
  · obtain ⟨e, he, _, _, hf⟩ := hs.of_mem_left he'
    obtain ⟨e₀, he₀, hs₀⟩ := ht.routers e he
    obtain ⟨_, _, hp⟩ := hf.pruned
    exact ⟨e₀, he₀, hs₀.trans ⟨hp.same.1, hp.same.2.2, hp.same.2.1⟩⟩
  · rcases ht.ids.routers e₀ he₀ with ⟨e, he, hs₀⟩ | hgone
    · obtain ⟨t', o, _, hf, hsub, hleft, -⟩ := hs.of_mem he
      rcases fate_of_router hf with ⟨e', he', hs'⟩ | ⟨-, hgone⟩
      · exact .inl ⟨e', hleft (Option.mem_toList.mpr he'), hs₀.trans hs'⟩
      · rw [hs₀.2.2] at hgone
        exact .inr (hgone.imp_right (·.later (List.subset_append_of_subset_right h hsub)))
    · exact .inr hgone

theorem deleteNetwork_careful : Careful c₀ deleteNetwork := by
  intro c h _ ht
  refine wpc_imp (wpc_and Teardown.deleteNetwork_spec (deleteNetwork_frame.wpc c h)) ?_
  rintro out c' _ ⟨⟨t, rfl, hend⟩, hsame⟩
  have ht := ht.later (List.subset_append_left h t)
  have hspec : c'.spec = c.spec := congrArg (·.spec) hsame
  have hrouters : c'.status.routers = c.status.routers := congrArg (·.status.routers) hsame
  have hlb : c'.status.loadBalancerID = c.status.loadBalancerID :=
    congrArg (·.status.loadBalancerID) hsame
  have hfip : c'.status.floatingIP = c.status.floatingIP := congrArg (·.status.floatingIP) hsame
  rcases hend with ⟨errs, -, hs⟩ | ⟨-, hnets, -⟩
  · refine ⟨hspec.trans ht.spec, fun e' he' => ?_, hrouters ▸ ht.routers, fun e he => ?_,
      hrouters ▸ ht.ids.routers, hlb ▸ ht.ids.loadBalancer, hfip ▸ ht.ids.floatingIP⟩
    · obtain ⟨e, he, _, _, hf⟩ := hs.of_mem_left he'
      exact hf.same ▸ ht.networks e he
    · rcases ht.ids.networks e he with he | hgone
      · obtain ⟨t', o, _, hf, hsub, hleft, -⟩ := hs.of_mem he
        cases hf with
        | foreign => exact .inl (hleft (by simp))
        | unrecorded _ hid => exact .inr (.inl hid)
        | deleted _ _ hgone =>
            have hdel : Removed .network e.networkID t := ⟨_, hgone, hsub (by simp)⟩
            exact .inr (.inr (hdel.later (List.subset_append_right h t)))
        | failed => exact .inl (hleft (by simp))
      · exact .inr hgone
  · -- the step has stopped, and has written nothing
    exact ⟨hspec.trans ht.spec, hnets ▸ ht.networks, hrouters ▸ ht.routers, hnets ▸ ht.ids.networks,
      hrouters ▸ ht.ids.routers, hlb ▸ ht.ids.loadBalancer, hfip ▸ ht.ids.floatingIP⟩

/-! ### The whole pass -/

/-- A teardown forgets only what is deleted, whatever the API answers. -/
theorem reconcileDelete_careful (cluster : Cluster) : Careful c₀ (reconcileDelete cluster) :=
  reconcileDelete_preserves (fun _ _ _ _ _ _ _ ht => ht.setCondition _ _ _ _)
    deleteFloatingIP_careful
    deleteLoadBalancer_careful
      (careful_of_reads (reads_of_frame (deleteServerGroups_frame cluster)))
    deleteRouters_careful deleteNetwork_careful
    fun _ _ _ ht => ⟨ht.spec, ht.networks, ht.routers, ht.ids⟩

end Capcs.Retention
