import Capcs.Readiness.Pass

/-!
# Capcs.Readiness.Progress — what the steps of a pass have achieved

`Done c t`: what the sub-condition `t` stands for is recorded in `c`. `Passed` says
where a pass stands after some of its steps, and each step adds its own part to it
(`ThroughNetwork.passed`, `ThroughRouters.passed`, …).
-/

namespace Capcs.Readiness

open Cloudscale Controller
open Interaction (Program Proc New history runs_of_wpc)

variable {cluster : Cluster} {c c' c₁ c₂ : CloudscaleCluster} {h h' h'' tr : Trace}
  {t : ConditionType} {status : ConditionStatus} {reason : Reason} {message : String}
  {out : Except GoError Result} {lb : LbStatus}

/-! ## Conditions -/

theorem isTrue_setCondition (t : ConditionType) (status : ConditionStatus) (reason : Reason)
    (message : String) (c : CloudscaleCluster) (t' : ConditionType) :
    Conditions.IsTrue (setCondition t status reason message c).status.conditions t' ↔
      if t' = t then status = .isTrue else Conditions.IsTrue c.status.conditions t' := by
  have hget := Conditions.get_set_self { type := t, status, reason, message } c.status.conditions
  by_cases ht : t' = t
  · subst ht
    simp [Conditions.IsTrue, setCondition, hget]
  · have hne : Conditions.get (Conditions.set { type := t, status, reason, message }
        c.status.conditions) t' = Conditions.get c.status.conditions t' :=
      Conditions.get_set_of_ne ht c.status.conditions
    simp [Conditions.IsTrue, setCondition, hne, ht]

/-- What a sub-condition stands for is recorded. -/
def Done (c : CloudscaleCluster) : ConditionType → Prop
  | .networkReady => ∀ n ∈ c.spec.networks, NetworkRecorded c n.name
  | .routerReady => ∀ r ∈ c.spec.routers, routerProvisioned c r = true
  | .loadBalancerReady => c.spec.controlPlaneLoadBalancer.isEnabled = true →
      c.status.loadBalancerID ≠ "" ∧ c.status.loadBalancerPoolID ≠ "" ∧
        c.status.loadBalancerListenerID ≠ "" ∧ c.status.loadBalancerHealthMonitorID ≠ ""
  | .floatingIPReady => c.spec.floatingIP.isSome = true → c.status.floatingIP ≠ ""
  | _ => True

/-- The load balancer was seen running the last time it was seen. -/
def SeenRunning (tr : Trace) : Prop :=
  ∃ lb, lastLB tr = some lb ∧ lb.status = loadBalancerRunningStatus

/-- What steps that write the conditions `ts` have achieved, from `c` with the history
`h` to `c'` with the history `h'`. -/
structure Passed (ts : List ConditionType) (c : CloudscaleCluster) (h : Trace)
    (c' : CloudscaleCluster) (h' : Trace) : Prop where
  spec : c'.spec = c.spec
  initialization : c'.status.initialization = c.status.initialization
  complete : Complete c → Complete c'
  done : ∀ t ∈ ts, Done c' t
  -- the load balancer may be reported not ready while the pass goes on
  isTrue : ∀ t ∈ ts, t ≠ .loadBalancerReady → Conditions.IsTrue c'.status.conditions t
  running : .loadBalancerReady ∈ ts → c.spec.controlPlaneLoadBalancer.isEnabled = true →
    Conditions.IsTrue c'.status.conditions .loadBalancerReady → SeenRunning h'
  otherTrue : ∀ t ∉ ts,
    Conditions.IsTrue c'.status.conditions t ↔ Conditions.IsTrue c.status.conditions t
  otherDone : ∀ t ∉ ts, Done c' t ↔ Done c t
  seen : .loadBalancerReady ∉ ts → lastLB h' = lastLB h
  inTime : New InTime h h'

theorem Passed.append {ts : List ConditionType} (h₁ : Passed ts c h c₁ h')
    (h₂ : Passed [t] c₁ h' c₂ h'') (ht : t ∉ ts) :
    Passed (ts ++ [t]) c h c₂ h'' := by
  have hother : ∀ t' ∈ ts, t' ∉ [t] := by
    intro t' ht' hmem
    exact ht (List.mem_singleton.mp hmem ▸ ht')
  refine ⟨h₂.spec.trans h₁.spec, h₂.initialization.trans h₁.initialization,
    fun hc => h₂.complete (h₁.complete hc), ?_, ?_, ?_, ?_, ?_, ?_, h₁.inTime.trans h₂.inTime⟩
  · intro t' ht'
    rcases List.mem_append.mp ht' with ht' | ht'
    · exact (h₂.otherDone t' (hother t' ht')).mpr (h₁.done t' ht')
    · exact h₂.done t' ht'
  · intro t' ht' hlb
    rcases List.mem_append.mp ht' with ht' | ht'
    · exact (h₂.otherTrue t' (hother t' ht')).mpr (h₁.isTrue t' ht' hlb)
    · exact h₂.isTrue t' ht' hlb
  · intro hlb hen hcond
    rcases List.mem_append.mp hlb with hlb | hlb
    · have hrun := h₁.running hlb hen ((h₂.otherTrue _ (hother _ hlb)).mp hcond)
      rwa [SeenRunning, h₂.seen (hother _ hlb)]
    · exact h₂.running hlb (h₁.spec ▸ hen) hcond
  · intro t' ht'
    rw [List.mem_append, not_or] at ht'
    exact (h₂.otherTrue t' ht'.2).trans (h₁.otherTrue t' ht'.1)
  · intro t' ht'
    rw [List.mem_append, not_or] at ht'
    exact (h₂.otherDone t' ht'.2).trans (h₁.otherDone t' ht'.1)
  · intro hlb
    rw [List.mem_append, not_or] at hlb
    exact (h₂.seen hlb.2).trans (h₁.seen hlb.1)

/-! ## The steps -/

/-- What the conditions stand for is recorded elsewhere. -/
theorem done_setCondition {c : CloudscaleCluster} (t' : ConditionType) :
    Done (setCondition t status reason message c) t' ↔ Done c t' := by
  cases t' <;> exact Iff.rfl

theorem isTrue_other {t' : ConditionType} {c : CloudscaleCluster} (ht : t' ≠ t) :
    Conditions.IsTrue (setCondition t status reason message c).status.conditions t' ↔
      Conditions.IsTrue c.status.conditions t' := by
  rw [isTrue_setCondition, if_neg ht]

theorem isTrue_self {c : CloudscaleCluster} :
    Conditions.IsTrue (setCondition t status reason message c).status.conditions t ↔
      status = .isTrue := by
  rw [isTrue_setCondition, if_pos rfl]

theorem NetworksGrow.otherDone (hgrow : NetworksGrow c c') (ht : t ≠ .networkReady) :
    Done c' t ↔ Done c t := by
  rw [hgrow.frame]
  cases t with
  | networkReady => exact absurd rfl ht
  | _ => exact Iff.rfl

theorem RoutersOnly.otherDone (honly : RoutersOnly c c') (ht : t ≠ .routerReady) :
    Done c' t ↔ Done c t := by
  rw [honly]
  cases t with
  | routerReady => exact absurd rfl ht
  | _ => exact Iff.rfl

theorem LbOnly.otherDone (honly : LbOnly c c') (ht : t ≠ .loadBalancerReady) :
    Done c' t ↔ Done c t := by
  rw [honly]
  cases t with
  | loadBalancerReady => exact absurd rfl ht
  | _ => exact Iff.rfl

theorem otherDone_setFloatingIP {ip : String} (ht : t ≠ .floatingIPReady) :
    Done (setFloatingIP ip c) t ↔ Done c t := by
  cases t with
  | floatingIPReady => exact absurd rfl ht
  | _ => exact Iff.rfl

theorem network_passed (hrun : ((reconcileNetwork cluster).exec c).Runs tr (out, c'))
    (hgood : ∀ e ∈ h ++ tr, identified e.op e.reply = true) (hon : goesOn out = true) :
    c.spec.networks ≠ [] ∧ Passed [.networkReady] c h c' (h ++ tr) := by
  obtain ⟨c₁, hc', ⟨hgrow, hout⟩, hne⟩ := runs_of_wpc (reconcileNetwork_spec cluster) hrun hgood
  cases out with
  | error err => cases hon
  | ok result =>
      rcases hout with ⟨-, hall, hq⟩ | ⟨hz, -⟩
      case inr => exact absurd (hon.symm.trans hz) (by simp)
      have hspec : c₁.spec = c.spec := by rw [hgrow.frame]
      refine ⟨hne result rfl, ?_⟩
      rw [show c' = setCondition .networkReady .isTrue .networkProvisioned "" c₁ from hc']
      refine ⟨hspec, by rw [hgrow.frame]; rfl, hgrow.complete, ?_, ?_, by simp, ?_, ?_,
        ?_, hq.inTime⟩
      · intro t ht
        rw [List.mem_singleton.mp ht, done_setCondition]
        rw [← hspec] at hall
        exact hall
      · intro t ht _
        rw [List.mem_singleton.mp ht, isTrue_self]
      · intro t ht
        rw [isTrue_other (by simpa using ht), hgrow.frame]
      · intro t ht
        rw [done_setCondition, hgrow.otherDone (by simpa using ht)]
      · exact fun _ => lastLB_quiet hq

theorem routers_passed (hrun : ((reconcileRouters cluster).exec c).Runs tr (out, c'))
    (hgood : ∀ e ∈ h ++ tr, identified e.op e.reply = true) (hon : goesOn out = true) :
    Passed [.routerReady] c h c' (h ++ tr) := by
  obtain ⟨c₁, hc', honly, hq, hzero⟩ := runs_of_wpc (reconcileRouters_spec cluster) hrun hgood
  cases out with
  | error err => cases hon
  | ok result =>
      obtain ⟨-, hall⟩ := hzero result rfl hon
      have hspec : c₁.spec = c.spec := by rw [honly]
      obtain ⟨reason, hc'⟩ : ∃ reason, c' = setCondition .routerReady .isTrue reason "" c₁ := by
        have hon : result.isZero = true := hon
        rw [hc', setRouterReady]
        simp only [hon, Bool.not_true, Bool.false_eq_true, if_false]
        split
        · exact ⟨_, rfl⟩
        · exact ⟨_, rfl⟩
      rw [hc']
      refine ⟨hspec, by rw [honly]; rfl, ?_, ?_, ?_, by simp, ?_, ?_, ?_, hq.inTime⟩
      · rw [honly]
        exact id
      · intro t ht
        rw [List.mem_singleton.mp ht, done_setCondition]
        rw [← hspec] at hall
        exact hall
      · intro t ht _
        rw [List.mem_singleton.mp ht, isTrue_self]
      · intro t ht
        rw [isTrue_other (by simpa using ht), honly]
      · intro t ht
        rw [done_setCondition, honly.otherDone (by simpa using ht)]
      · exact fun _ => lastLB_quiet hq

theorem done_loadBalancer_iff (hen : c.spec.controlPlaneLoadBalancer.isEnabled = true) :
    Done c .loadBalancerReady ↔ c.status.loadBalancerID ≠ "" ∧ ChildrenRecorded c := by
  constructor
  · intro hdone
    obtain ⟨hid, hpool, hlistener, hmonitor⟩ := hdone hen
    exact ⟨hid, hpool, hlistener, hmonitor⟩
  · rintro ⟨hid, hpool, hlistener, hmonitor⟩ -
    exact ⟨hid, hpool, hlistener, hmonitor⟩

/-- How the load balancer step ends if it does not fail. -/
theorem setLoadBalancerReady_ok (o : LbOutcome) (c : CloudscaleCluster) :
    ∃ status reason message, (status = .isTrue ↔ o.pending = none) ∧
      setLoadBalancerReady (.ok o) c = setCondition .loadBalancerReady status reason message c := by
  obtain ⟨lb, result, pending⟩ := o
  cases pending with
  | none => exact ⟨.isTrue, .loadBalancerRunning, "", by simp, rfl⟩
  | some msg => exact ⟨.isFalse, .loadBalancerNotReady, msg, by simp, rfl⟩

theorem loadBalancer_passed {result : Result}
    (hrun : ((reconcileLoadBalancer cluster).exec c).Runs tr (.ok (lb, result), c'))
    (hgood : ∀ e ∈ h ++ tr, identified e.op e.reply = true) (hon : result.isZero = true) :
    Passed [.loadBalancerReady] c h c' (h ++ tr) := by
  have hend := runs_of_wpc (reconcileLoadBalancer_spec cluster) hrun hgood
  split at hend
  · next hen =>
    -- enabled: the body has run to its end
    obtain ⟨c₁, body, hc', honly, hout, hbody⟩ := hend
    cases body with
    | error err => cases hout
    | ok o =>
        obtain ⟨rfl, rfl⟩ : lb = o.status ∧ result = o.result := by simpa [Except.map] using hout
        obtain ⟨seenLB, hseen, -, hpending, hrec, hin⟩ := hbody.of_isZero hon
        have hspec : c₁.spec = c.spec := by rw [honly]
        obtain ⟨status, reason, message, hstatus, hset⟩ := setLoadBalancerReady_ok o c₁
        rw [hc', hset]
        refine ⟨hspec, by rw [honly]; rfl, ?_, ?_, by simp, ?_, ?_, ?_, by simp, hin⟩
        · rw [honly]
          exact id
        · intro t ht
          rw [List.mem_singleton.mp ht, done_setCondition]
          exact (done_loadBalancer_iff (hspec ▸ hen)).mpr hrec
        · intro _ _ hcond
          rw [isTrue_self, hstatus, hpending] at hcond
          exact ⟨seenLB, hseen, hcond⟩
        · intro t ht
          rw [isTrue_other (by simpa using ht), honly]
        · intro t ht
          rw [done_setCondition, honly.otherDone (by simpa using ht)]
  · next hen =>
    -- disabled: only the condition is written
    obtain ⟨-, hh, hc'⟩ := hend
    rw [hh, hc']
    refine ⟨rfl, rfl, id, ?_, by simp, ?_, ?_, ?_, by simp, .refl _ h⟩
    · intro t ht
      rw [List.mem_singleton.mp ht, done_setCondition]
      exact fun hen' => absurd hen' hen
    · exact fun _ hen' => absurd hen' hen
    · exact fun t ht => isTrue_other (by simpa using ht)
    · exact fun t _ => done_setCondition t

theorem floatingIP_passed (hrun : ((reconcileFloatingIP cluster).exec c).Runs tr (out, c'))
    (hgood : ∀ e ∈ h ++ tr, identified e.op e.reply = true) (hon : goesOn out = true) :
    Passed [.floatingIPReady] c h c' (h ++ tr) := by
  have hend := runs_of_wpc (reconcileFloatingIP_spec cluster) hrun hgood
  split at hend
  · obtain ⟨c₁, hc', ip, rfl, hout⟩ := hend
    cases out with
    | error err => cases hon
    | ok result =>
        -- a result that is not zero would have ended the pass
        rcases hout with ⟨-, hip, hq⟩ | ⟨hz, -⟩
        case inr => exact absurd (hon.symm.trans hz) (by simp)
        rw [show c' = setCondition .floatingIPReady .isTrue .floatingIPProvisioned ""
          (setFloatingIP ip c) from hc']
        refine ⟨rfl, rfl, id, ?_, ?_, by simp, ?_, ?_, ?_, hq.inTime⟩
        · intro t ht
          rw [List.mem_singleton.mp ht, done_setCondition]
          exact fun _ => hip
        · intro t ht _
          rw [List.mem_singleton.mp ht, isTrue_self]
        · exact fun t ht => isTrue_other (by simpa using ht)
        · intro t ht
          rw [done_setCondition, otherDone_setFloatingIP (by simpa using ht)]
        · exact fun _ => lastLB_quiet hq
  · next hnone =>
    obtain ⟨-, hh, hc'⟩ := hend
    rw [hh, hc']
    refine ⟨rfl, rfl, id, ?_, ?_, by simp, ?_, ?_, fun _ => rfl, .refl _ h⟩
    · intro t ht
      rw [List.mem_singleton.mp ht, done_setCondition]
      exact fun hsome => absurd hsome hnone
    · intro t ht _
      rw [List.mem_singleton.mp ht, isTrue_self]
    · exact fun t ht => isTrue_other (by simpa using ht)
    · exact fun t _ => done_setCondition t

/-! ## The steps in sequence -/

theorem ThroughNetwork.passed (hthrough : ThroughNetwork cluster c tr c')
    (hgood : ∀ e ∈ tr, identified e.op e.reply = true) :
    c.spec.networks ≠ [] ∧ Passed [.networkReady] c [] c' tr := by
  obtain ⟨out, hrun, hon⟩ := hthrough
  exact network_passed hrun hgood hon

theorem ThroughRouters.passed (hthrough : ThroughRouters cluster c tr c')
    (hgood : ∀ e ∈ tr, identified e.op e.reply = true) :
    c.spec.networks ≠ [] ∧ Passed [.networkReady, .routerReady] c [] c' tr := by
  obtain ⟨tr₁, tr₂, c₁, out, rfl, hbefore, hrun, hon⟩ := hthrough
  obtain ⟨hne, hpassed⟩ := hbefore.passed fun e he => hgood e (List.mem_append_left _ he)
  exact ⟨hne, hpassed.append (routers_passed hrun hgood hon) (by simp)⟩

theorem ThroughLoadBalancer.passed (hthrough : ThroughLoadBalancer cluster c tr lb c')
    (hgood : ∀ e ∈ tr, identified e.op e.reply = true) :
    c.spec.networks ≠ [] ∧ Passed [.networkReady, .routerReady, .loadBalancerReady] c [] c' tr := by
  obtain ⟨tr₁, tr₂, c₁, result, rfl, hbefore, hrun, hon⟩ := hthrough
  obtain ⟨hne, hpassed⟩ := hbefore.passed fun e he => hgood e (List.mem_append_left _ he)
  exact ⟨hne, hpassed.append (loadBalancer_passed hrun hgood hon) (by simp)⟩

theorem ThroughFloatingIP.passed (hthrough : ThroughFloatingIP cluster c tr lb c')
    (hgood : ∀ e ∈ tr, identified e.op e.reply = true) :
    c.spec.networks ≠ [] ∧ Passed subConditions c [] c' tr := by
  obtain ⟨tr₁, tr₂, c₁, out, rfl, hbefore, hrun, hon⟩ := hthrough
  obtain ⟨hne, hpassed⟩ := hbefore.passed fun e he => hgood e (List.mem_append_left _ he)
  exact ⟨hne, hpassed.append (floatingIP_passed hrun hgood hon) (by simp)⟩

end Capcs.Readiness
