import Capcs.Readiness.Progress
import Capcs.Controller.Reconcile

/-!
# Capcs.Readiness.Provisioned — the endpoint and `provisioned`

What one normal pass does to `spec.controlPlaneEndpoint` and to
`status.initialization.provisioned`. A pass that comes past the floating IP step has
just recorded everything `isInfrastructureProvisioned` looks at, so its verdict is up
to the endpoint (`ThroughFloatingIP.provisioned`). `Report` is all that the passes
after it have to know.
-/

namespace Capcs.Readiness

open Cloudscale Controller
open Interaction (Program Proc New history runs_of_wpc)

variable {cluster : Cluster} {c c' c₁ c₂ : CloudscaleCluster} {h h' tr : Trace} {lb : LbStatus}

/-! ## The address of the load balancer -/

/-- The address the load balancer was last seen with. -/
def seenVIP (tr : Trace) : String := ((lastLB tr).bind (·.vipAddresses.head?)).getD ""

/-- A load balancer is never shown without an address. -/
def addressed (e : CallEvent) : Bool := (seenLB e).all fun lb => lb.vipAddresses.head?.getD "" ≠ ""

theorem mem_of_lastLB {lb : LoadBalancer} (hlb : lastLB tr = some lb) :
    ∃ e ∈ tr, seenLB e = some lb := by
  obtain ⟨e, he, hseen⟩ := List.exists_of_findSome?_eq_some hlb
  exact ⟨e, List.mem_reverse.mp he, hseen⟩

theorem seenVIP_ne {lb : LoadBalancer} (hlb : lastLB tr = some lb)
    (haddr : ∀ e ∈ tr, addressed e = true) : seenVIP tr ≠ "" := by
  obtain ⟨e, he, hseen⟩ := mem_of_lastLB hlb
  have hvip := haddr e he
  rw [addressed, hseen] at hvip
  rw [seenVIP, hlb]
  simpa using hvip

/-- The address the load balancer step hands on is that of the load balancer. -/
theorem loadBalancer_vip {result : Result} (hen : c.spec.controlPlaneLoadBalancer.isEnabled = true)
    (hrun : ((reconcileLoadBalancer cluster).exec c).Runs tr (.ok (lb, result), c'))
    (hgood : ∀ e ∈ h ++ tr, identified e.op e.reply = true) (hon : result.isZero = true) :
    (∃ seen, lastLB (h ++ tr) = some seen) ∧ lb.ipAddress = seenVIP (h ++ tr) := by
  have hend := runs_of_wpc (reconcileLoadBalancer_spec cluster) hrun hgood
  rw [if_pos hen] at hend
  obtain ⟨c₁, body, -, -, hout, hbody⟩ := hend
  cases body with
  | error err => cases hout
  | ok o =>
      obtain ⟨rfl, rfl⟩ : lb = o.status ∧ result = o.result := by simpa [Except.map] using hout
      obtain ⟨seen, hseen, hvip, -⟩ := hbody.of_isZero hon
      refine ⟨⟨seen, hseen⟩, ?_⟩
      rw [hvip, seenVIP, hseen]
      rfl

theorem ThroughFloatingIP.vip (hthrough : ThroughFloatingIP cluster c tr lb c')
    (hgood : ∀ e ∈ tr, identified e.op e.reply = true)
    (hen : c.spec.controlPlaneLoadBalancer.isEnabled = true) :
    (∃ seen, lastLB tr = some seen) ∧ lb.ipAddress = seenVIP tr := by
  obtain ⟨_, tr₄, c₃, out₄, rfl, hbefore, hfip, hon₄⟩ := hthrough
  obtain ⟨tr₁, tr₃, c₂, result, rfl, hrouters, hlb, hz₃⟩ := hbefore
  have hgood₃ : ∀ e ∈ tr₁ ++ tr₃, identified e.op e.reply = true := fun e he =>
    hgood e (List.mem_append_left _ he)
  obtain ⟨-, hp⟩ := hrouters.passed fun e he => hgood₃ e (List.mem_append_left _ he)
  -- the floating IP step looks at no load balancer
  have hseen := (floatingIP_passed hfip hgood hon₄).seen (by simp)
  rw [seenVIP, hseen]
  exact loadBalancer_vip (hp.spec ▸ hen) hlb hgood₃ hz₃

/-! ## Past the floating IP step -/

/-- The spec names a source for the endpoint. -/
def HasEndpoint (spec : CloudscaleClusterSpec) : Prop :=
  spec.floatingIP.isSome = true ∨ spec.controlPlaneLoadBalancer.isEnabled = true

theorem endpoint_status (ip : String) (c : CloudscaleCluster) :
    (reconcileControlPlaneEndpoint ip c).status = c.status := by
  rw [reconcileControlPlaneEndpoint]
  split
  · rfl
  · split <;> rfl

theorem endpoint_spec (ip : String) (c : CloudscaleCluster) :
    (reconcileControlPlaneEndpoint ip c).spec = { c.spec with
      controlPlaneEndpoint := (reconcileControlPlaneEndpoint ip c).spec.controlPlaneEndpoint } := by
  rw [reconcileControlPlaneEndpoint]
  split
  · rfl
  · split <;> rfl

/-- Everything but the endpoint has just been recorded. -/
theorem ThroughFloatingIP.provisioned (hthrough : ThroughFloatingIP cluster c tr lb c')
    (hgood : ∀ e ∈ tr, identified e.op e.reply = true) (hcomplete : Complete c) :
    isInfrastructureProvisioned (reconcileControlPlaneEndpoint lb.ipAddress c') =
      decide
        ((reconcileControlPlaneEndpoint lb.ipAddress c').spec.controlPlaneEndpoint.host ≠ "") := by
  obtain ⟨hne, hp⟩ := hthrough.passed hgood
  have hstatus := endpoint_status lb.ipAddress c'
  have hspec := endpoint_spec lb.ipAddress c'
  -- every check holds, as its step has passed; the host alone is left open
  have hnetworks : networksProvisioned (reconcileControlPlaneEndpoint lb.ipAddress c') = true := by
    rw [networksProvisioned, hstatus]
    refine decide_eq_true ⟨?_, hp.complete hcomplete⟩
    obtain ⟨n, hn⟩ := List.exists_mem_of_ne_nil _ hne
    obtain ⟨ns, hns, -⟩ := hp.done .networkReady (by simp [subConditions]) n (hp.spec ▸ hn)
    exact List.ne_nil_of_mem (List.mem_of_find?_eq_some hns)
  have hrouters : (reconcileControlPlaneEndpoint lb.ipAddress c').spec.routers.all
      (routerProvisioned (reconcileControlPlaneEndpoint lb.ipAddress c')) = true := by
    rw [List.all_eq_true, hspec]
    intro r hr
    have hdone := hp.done .routerReady (by simp [subConditions]) r hr
    rwa [routerProvisioned, hstatus]
  have hlb : loadBalancerProvisioned (reconcileControlPlaneEndpoint lb.ipAddress c') = true := by
    rw [loadBalancerProvisioned, hstatus, hspec]
    refine decide_eq_true ?_
    intro hen
    obtain ⟨hid, hpool, hlistener, -⟩ := hp.done .loadBalancerReady (by simp [subConditions]) hen
    exact ⟨hid, hpool, hlistener⟩
  have hfip : floatingIPProvisioned (reconcileControlPlaneEndpoint lb.ipAddress c') = true := by
    rw [floatingIPProvisioned, hstatus, hspec]
    exact decide_eq_true (hp.done .floatingIPReady (by simp [subConditions]))
  rw [isInfrastructureProvisioned, hnetworks, hrouters, hlb, hfip]
  simp

/-- With a source in the spec, the endpoint is set past the floating IP step. -/
theorem ThroughFloatingIP.host_ne (hthrough : ThroughFloatingIP cluster c tr lb c')
    (hgood : ∀ e ∈ tr, identified e.op e.reply = true) (haddr : ∀ e ∈ tr, addressed e = true)
    (hsource : HasEndpoint c.spec) :
    (reconcileControlPlaneEndpoint lb.ipAddress c').spec.controlPlaneEndpoint.host ≠ "" := by
  obtain ⟨-, hp⟩ := hthrough.passed hgood
  have hhost : endpointHost c' lb.ipAddress ≠ "" := by
    rw [endpointHost, hp.spec]
    split
    · next hfip => exact hp.done .floatingIPReady (by simp [subConditions]) (hp.spec ▸ hfip)
    · next hfip =>
      have hen := hsource.resolve_left hfip
      obtain ⟨⟨seen, hseen⟩, hvip⟩ := hthrough.vip hgood hen
      rw [if_pos hen, hvip]
      exact seenVIP_ne hseen haddr
  rw [reconcileControlPlaneEndpoint]
  split
  · next hset => exact hset
  · exact hhost

/-! ## The whole pass -/

/-- What every step leaves alone, however it ends. -/
structure Untouched (c c' : CloudscaleCluster) : Prop where
  spec : c'.spec = c.spec
  initialization : c'.status.initialization = c.status.initialization
  complete : Complete c → Complete c'

theorem Untouched.trans (h₁ : Untouched c c₁) (h₂ : Untouched c₁ c₂) : Untouched c c₂ :=
  ⟨h₂.spec.trans h₁.spec, h₂.initialization.trans h₁.initialization,
    fun hc => h₂.complete (h₁.complete hc)⟩

theorem Passed.steady {ts : List ConditionType} (hp : Passed ts c h c' h') : Untouched c c' :=
  ⟨hp.spec, hp.initialization, hp.complete⟩

theorem steady_setCondition (t : ConditionType) (status : ConditionStatus) (reason : Reason)
    (message : String) (c : CloudscaleCluster) :
    Untouched c (setCondition t status reason message c) :=
  ⟨rfl, rfl, id⟩

theorem network_steady {out : Except GoError Result}
    (hrun : ((reconcileNetwork cluster).exec c).Runs tr (out, c'))
    (hgood : ∀ e ∈ h ++ tr, identified e.op e.reply = true) : Untouched c c' := by
  obtain ⟨c₁, rfl, ⟨hgrow, -⟩, -⟩ := runs_of_wpc (reconcileNetwork_spec cluster) hrun hgood
  have hgrow : Untouched c c₁ := ⟨by rw [hgrow.frame], by rw [hgrow.frame], hgrow.complete⟩
  cases out with
  | ok _ => exact hgrow.trans (steady_setCondition _ _ _ _ c₁)
  | error _ => exact hgrow.trans (steady_setCondition _ _ _ _ c₁)

theorem routers_steady {out : Except GoError Result}
    (hrun : ((reconcileRouters cluster).exec c).Runs tr (out, c'))
    (hgood : ∀ e ∈ h ++ tr, identified e.op e.reply = true) : Untouched c c' := by
  obtain ⟨c₁, rfl, honly, -⟩ := runs_of_wpc (reconcileRouters_spec cluster) hrun hgood
  have honly : Untouched c c₁ := by
    rw [honly]
    exact ⟨rfl, rfl, id⟩
  cases out with
  | ok result =>
      rw [setRouterReady]
      split
      · exact honly.trans (steady_setCondition _ _ _ _ c₁)
      · split
        · exact honly.trans (steady_setCondition _ _ _ _ c₁)
        · exact honly.trans (steady_setCondition _ _ _ _ c₁)
  | error _ => exact honly.trans (steady_setCondition _ _ _ _ c₁)

theorem loadBalancer_steady {out : Except GoError (LbStatus × Result)}
    (hrun : ((reconcileLoadBalancer cluster).exec c).Runs tr (out, c'))
    (hgood : ∀ e ∈ h ++ tr, identified e.op e.reply = true) : Untouched c c' := by
  have hend := runs_of_wpc (reconcileLoadBalancer_spec cluster) hrun hgood
  split at hend
  · obtain ⟨c₁, body, rfl, honly, -⟩ := hend
    have honly : Untouched c c₁ := by
      rw [honly]
      exact ⟨rfl, rfl, id⟩
    cases body with
    | ok o =>
        obtain ⟨status, reason, message, -, hset⟩ := setLoadBalancerReady_ok o c₁
        rw [hset]
        exact honly.trans (steady_setCondition _ _ _ _ c₁)
    | error _ => exact honly.trans (steady_setCondition _ _ _ _ c₁)
  · obtain ⟨-, -, rfl⟩ := hend
    exact steady_setCondition _ _ _ _ c

theorem floatingIP_steady {out : Except GoError Result}
    (hrun : ((reconcileFloatingIP cluster).exec c).Runs tr (out, c'))
    (hgood : ∀ e ∈ h ++ tr, identified e.op e.reply = true) : Untouched c c' := by
  have hend := runs_of_wpc (reconcileFloatingIP_spec cluster) hrun hgood
  split at hend
  · obtain ⟨c₁, rfl, ip, rfl, -⟩ := hend
    cases out with
    | ok _ => exact ⟨rfl, rfl, id⟩
    | error _ => exact ⟨rfl, rfl, id⟩
  · obtain ⟨-, -, rfl⟩ := hend
    exact steady_setCondition _ _ _ _ c

theorem steady_setReadyCondition (c : CloudscaleCluster) : Untouched c (setReadyCondition c) :=
  ⟨rfl, rfl, id⟩

/-- A pass either ends before its last part, or comes to it. -/
theorem steady_or_finished (hrun : ∃ out, ((reconcileNormal cluster).exec c).Runs tr (out, c'))
    (hgood : ∀ e ∈ tr, identified e.op e.reply = true) :
    Untouched c c' ∨ ∃ lb c₄, ThroughFloatingIP cluster c tr lb c₄ ∧ c' = setReadyCondition
      (setProvisioned (reconcileControlPlaneEndpoint lb.ipAddress c₄)) := by
  obtain ⟨out, hrun⟩ := hrun
  obtain ⟨written, hpass⟩ := passRun_of_runs hrun
  cases hpass with
  | network hstep _ =>
      exact .inl ((network_steady (h := []) hstep hgood).trans (steady_setReadyCondition _))
  | routers hbefore hstep _ =>
      obtain ⟨-, hp⟩ := hbefore.passed fun e he => hgood e (List.mem_append_left _ he)
      exact .inl ((hp.steady.trans (routers_steady hstep hgood)).trans (steady_setReadyCondition _))
  | loadBalancer hbefore hstep _ =>
      obtain ⟨-, hp⟩ := hbefore.passed fun e he => hgood e (List.mem_append_left _ he)
      exact .inl ((hp.steady.trans (loadBalancer_steady hstep hgood)).trans
        (steady_setReadyCondition _))
  | floatingIP hbefore hstep _ =>
      obtain ⟨-, hp⟩ := hbefore.passed fun e he => hgood e (List.mem_append_left _ he)
      exact .inl ((hp.steady.trans (floatingIP_steady hstep hgood)).trans
        (steady_setReadyCondition _))
  | finished hbefore => exact .inr ⟨_, _, hbefore, rfl⟩

/-- The endpoint the controller sets: the floating IP, or the address of the load
balancer. -/
def controllerEndpoint (c : CloudscaleCluster) (tr : Trace) : APIEndpoint where
  host := if c.spec.floatingIP.isSome then c.status.floatingIP else seenVIP tr
  port := c.spec.controlPlaneLoadBalancer.apiServerPort

/-- Where the endpoint comes from, if a pass sets it. -/
theorem ThroughFloatingIP.source (hthrough : ThroughFloatingIP cluster c tr lb c₁)
    (hgood : ∀ e ∈ tr, identified e.op e.reply = true)
    (hne : (reconcileControlPlaneEndpoint lb.ipAddress c₁).spec.controlPlaneEndpoint ≠
      c.spec.controlPlaneEndpoint) :
    HasEndpoint c.spec ∧ (reconcileControlPlaneEndpoint lb.ipAddress c₁).spec.controlPlaneEndpoint =
      controllerEndpoint (reconcileControlPlaneEndpoint lb.ipAddress c₁) tr := by
  obtain ⟨-, hp⟩ := hthrough.passed hgood
  rw [← hp.spec] at hne ⊢
  unfold reconcileControlPlaneEndpoint at hne ⊢
  split at hne
  · exact absurd rfl hne
  split at hne
  · exact absurd rfl hne
  next hset hhost =>
    rw [if_neg hset, if_neg hhost]
    rw [endpointHost] at hhost
    cases hfip : c₁.spec.floatingIP.isSome with
    | true => exact ⟨.inl hfip, by simp [controllerEndpoint, endpointHost, hfip]⟩
    | false =>
        cases hen : c₁.spec.controlPlaneLoadBalancer.isEnabled with
        | false => simp [hfip, hen] at hhost
        | true =>
            obtain ⟨-, hvip⟩ := hthrough.vip hgood (hp.spec ▸ hen)
            exact ⟨.inr hen, by simp [controllerEndpoint, endpointHost, hfip, hen, hvip]⟩

/-- What a normal pass over `c` with the calls `tr` does to the endpoint and to
`provisioned`. -/
structure Report (cluster : Cluster) (c : CloudscaleCluster) (tr : Trace) (c' : CloudscaleCluster) :
    Prop where
  spec : c'.spec = { c.spec with controlPlaneEndpoint := c'.spec.controlPlaneEndpoint }
  complete : Complete c'
  once : c.spec.controlPlaneEndpoint.host ≠ "" →
    c'.spec.controlPlaneEndpoint = c.spec.controlPlaneEndpoint
  source : c'.spec.controlPlaneEndpoint ≠ c.spec.controlPlaneEndpoint →
    HasEndpoint c.spec ∧ c'.spec.controlPlaneEndpoint = controllerEndpoint c' tr
  provisioned : ∀ lb c₄, ThroughFloatingIP cluster c tr lb c₄ → c'.status.initialization =
    some { provisioned := some (decide (c'.spec.controlPlaneEndpoint.host ≠ "")) }
  unfinished : (∀ lb c₄, ¬ ThroughFloatingIP cluster c tr lb c₄) →
    c'.status.initialization = c.status.initialization
  sets : HasEndpoint c.spec → ∀ lb c₄, ThroughFloatingIP cluster c tr lb c₄ →
    c'.spec.controlPlaneEndpoint.host ≠ ""

theorem report_of_runs (hrun : ∃ out, ((reconcileNormal cluster).exec c).Runs tr (out, c'))
    (hgood : ∀ e ∈ tr, identified e.op e.reply = true) (haddr : ∀ e ∈ tr, addressed e = true)
    (hcomplete : Complete c) : Report cluster c tr c' := by
  -- the replies decide whether the pass comes past the floating IP step
  have hfinish : ∀ lb c₄, ThroughFloatingIP cluster c tr lb c₄ → c' = setReadyCondition
      (setProvisioned (reconcileControlPlaneEndpoint lb.ipAddress c₄)) := by
    intro lb c₄ hthrough
    obtain ⟨out, hrun⟩ := hrun
    obtain ⟨out', hrun'⟩ := runs_of_passRun (.finished hthrough)
    exact (Prod.mk.inj (Program.runs_unique hrun hrun')).2
  have hprov : ∀ lb c₄, ThroughFloatingIP cluster c tr lb c₄ → c'.status.initialization =
      some { provisioned := some (decide (c'.spec.controlPlaneEndpoint.host ≠ "")) } := by
    intro lb c₄ hthrough
    rw [hfinish lb c₄ hthrough]
    show some ({ provisioned := some (isInfrastructureProvisioned
      (reconcileControlPlaneEndpoint lb.ipAddress c₄)) } : InitializationStatus) = _
    rw [hthrough.provisioned hgood hcomplete]
    rfl
  have hsets : HasEndpoint c.spec → ∀ lb c₄, ThroughFloatingIP cluster c tr lb c₄ →
      c'.spec.controlPlaneEndpoint.host ≠ "" := by
    intro hsource lb c₄ hthrough
    rw [hfinish lb c₄ hthrough]
    exact hthrough.host_ne hgood haddr hsource
  rcases steady_or_finished hrun hgood with hsteady | ⟨lb, c₄, hthrough, rfl⟩
  · exact ⟨by rw [hsteady.spec], hsteady.complete hcomplete, fun _ => by rw [hsteady.spec],
      fun hne => absurd (by rw [hsteady.spec]) hne, hprov, fun _ => hsteady.initialization, hsets⟩
  · obtain ⟨-, hp⟩ := hthrough.passed hgood
    refine ⟨?_, ?_, ?_, ?_, hprov, fun hnot => absurd hthrough (hnot lb c₄), hsets⟩
    · show (reconcileControlPlaneEndpoint lb.ipAddress c₄).spec = _
      rw [endpoint_spec, hp.spec]
      rfl
    · show ∀ ns ∈ (reconcileControlPlaneEndpoint lb.ipAddress c₄).status.networks, _
      rw [endpoint_status]
      exact hp.complete hcomplete
    · intro hset
      show (reconcileControlPlaneEndpoint lb.ipAddress c₄).spec.controlPlaneEndpoint = _
      rw [← hp.spec] at hset ⊢
      rw [reconcileControlPlaneEndpoint, if_pos hset]
    · exact hthrough.source hgood

end Capcs.Readiness
