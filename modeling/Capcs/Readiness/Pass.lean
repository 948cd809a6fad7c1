import Capcs.Readiness.Networks
import Capcs.Readiness.Routers
import Capcs.Readiness.LoadBalancer
import Capcs.Readiness.FloatingIP

/-!
# Capcs.Readiness.Pass — a normal pass, step by step

`PassRun` spells out which of its four steps a pass has taken, and so which of the
sub-conditions it has written: a step that fails or asks for a requeue is the last.
`passRun_of_runs` takes every run of `reconcileNormal` apart in this way.
-/

namespace Capcs.Readiness

open Cloudscale Controller
open Interaction
  (Program Proc New history runs_seq runs_deferred runs_wrapErr runs_pure runs_of_wpc)

/-- The pass goes on after a step that ends so. -/
def goesOn : Except GoError Result → Bool
  | .ok result => result.isZero
  | .error _ => false

/-- The network step is done. -/
def ThroughNetwork (cluster : Cluster) (c : CloudscaleCluster) (tr : Trace)
    (c₁ : CloudscaleCluster) : Prop :=
  ∃ out, ((reconcileNetwork cluster).exec c).Runs tr (out, c₁) ∧ goesOn out = true

/-- The router step is done as well. -/
def ThroughRouters (cluster : Cluster) (c : CloudscaleCluster) (tr : Trace)
    (c₂ : CloudscaleCluster) : Prop :=
  ∃ tr₁ tr₂ c₁ out, tr = tr₁ ++ tr₂ ∧ ThroughNetwork cluster c tr₁ c₁ ∧
    ((reconcileRouters cluster).exec c₁).Runs tr₂ (out, c₂) ∧ goesOn out = true

/-- The load balancer step is done as well. -/
def ThroughLoadBalancer (cluster : Cluster) (c : CloudscaleCluster) (tr : Trace) (lb : LbStatus)
    (c₃ : CloudscaleCluster) : Prop :=
  ∃ tr₁ tr₂ c₂ result, tr = tr₁ ++ tr₂ ∧ ThroughRouters cluster c tr₁ c₂ ∧
    ((reconcileLoadBalancer cluster).exec c₂).Runs tr₂ (.ok (lb, result), c₃) ∧
    result.isZero = true

/-- The floating IP step is done as well. -/
def ThroughFloatingIP (cluster : Cluster) (c : CloudscaleCluster) (tr : Trace) (lb : LbStatus)
    (c₄ : CloudscaleCluster) : Prop :=
  ∃ tr₁ tr₂ c₃ out, tr = tr₁ ++ tr₂ ∧ ThroughLoadBalancer cluster c tr₁ lb c₃ ∧
    ((reconcileFloatingIP cluster).exec c₃).Runs tr₂ (out, c₄) ∧ goesOn out = true

/-- `PassRun cluster c tr written c'`: a normal pass over `c` with the calls `tr` writes
the sub-conditions `written` and leaves `c'`. -/
inductive PassRun (cluster : Cluster) (c : CloudscaleCluster) :
    Trace → List ConditionType → CloudscaleCluster → Prop where
  | network {tr out c₁} (run : ((reconcileNetwork cluster).exec c).Runs tr (out, c₁))
      (last : goesOn out = false) :
      PassRun cluster c tr [.networkReady] (setReadyCondition c₁)
  | routers {tr₁ tr₂ out c₁ c₂} (before : ThroughNetwork cluster c tr₁ c₁)
      (run : ((reconcileRouters cluster).exec c₁).Runs tr₂ (out, c₂)) (last : goesOn out = false) :
      PassRun cluster c (tr₁ ++ tr₂) [.networkReady, .routerReady] (setReadyCondition c₂)
  | loadBalancer {tr₁ tr₂ out c₂ c₃} (before : ThroughRouters cluster c tr₁ c₂)
      (run : ((reconcileLoadBalancer cluster).exec c₂).Runs tr₂ (out, c₃))
      (last : goesOn (out.map (·.2)) = false) :
      PassRun cluster c (tr₁ ++ tr₂) [.networkReady, .routerReady, .loadBalancerReady]
        (setReadyCondition c₃)
  | floatingIP {tr₁ tr₂ lb out c₃ c₄} (before : ThroughLoadBalancer cluster c tr₁ lb c₃)
      (run : ((reconcileFloatingIP cluster).exec c₃).Runs tr₂ (out, c₄))
      (last : goesOn out = false) :
      PassRun cluster c (tr₁ ++ tr₂) subConditions (setReadyCondition c₄)
  | finished {tr lb c₄} (before : ThroughFloatingIP cluster c tr lb c₄) :
      PassRun cluster c tr subConditions (setReadyCondition
        (setProvisioned (reconcileControlPlaneEndpoint lb.ipAddress c₄)))

variable {cluster : Cluster} {c c' : CloudscaleCluster} {tr : Trace}

/-- A step of the pass, as every one of them is put into it: the pass ends with it,
or what follows it runs from where it stopped. -/
theorem runs_step {α : Type} {step : ClusterM α} {wrap : GoError → GoError} {result : α → Result}
    {next : α → ClusterM Result} :
    (∃ out, ((do
        let a ← step.wrapErr wrap
        if !(result a).isZero then pure (result a) else next a : ClusterM Result).exec c).Runs
      tr (out, c')) ↔
    (∃ out, (step.exec c).Runs tr (out, c') ∧ goesOn (out.map result) = false) ∨
    ∃ a c₁ tr₁ tr₂, tr = tr₁ ++ tr₂ ∧ (step.exec c).Runs tr₁ (.ok a, c₁) ∧
      (result a).isZero = true ∧ ∃ out, ((next a).exec c₁).Runs tr₂ (out, c') := by
  constructor
  · rintro ⟨out, hrun⟩
    rcases runs_seq.mp hrun with ⟨e, -, hfail⟩ | ⟨a, c₁, tr₁, tr₂, rfl, hok, hnext⟩
    · obtain ⟨out₁, hout, hfail⟩ := runs_wrapErr.mp hfail
      refine .inl ⟨out₁, hfail, ?_⟩
      cases out₁ with
      | ok a => cases hout
      | error e => rfl
    · obtain ⟨out₁, hout, hok⟩ := runs_wrapErr.mp hok
      obtain rfl : out₁ = .ok a := by
        cases out₁ with
        | ok b =>
            cases hout
            rfl
        | error e => cases hout
      -- a result that is not zero is returned at once
      cases hz : (result a).isZero with
      | false =>
          simp only [hz, Bool.not_false, if_true] at hnext
          obtain ⟨rfl, -, rfl⟩ := runs_pure.mp hnext
          rw [List.append_nil]
          exact .inl ⟨_, hok, hz⟩
      | true =>
          simp only [hz, Bool.not_true, Bool.false_eq_true, if_false] at hnext
          exact .inr ⟨a, c₁, tr₁, tr₂, rfl, hok, hz, out, hnext⟩
  · rintro (⟨out, hrun, hlast⟩ | ⟨a, c₁, tr₁, tr₂, rfl, hrun, hz, out, hnext⟩)
    · cases out with
      | error e =>
          exact ⟨_, runs_seq.mpr (.inl ⟨wrap e, rfl, runs_wrapErr.mpr ⟨.error e, rfl, hrun⟩⟩)⟩
      | ok a =>
          have hz : (result a).isZero = false := hlast
          refine ⟨.ok (result a), runs_seq.mpr (.inr ⟨a, c', tr, [], by simp, ?_, ?_⟩)⟩
          · exact runs_wrapErr.mpr ⟨.ok a, rfl, hrun⟩
          · simp only [hz, Bool.not_false, if_true]
            exact runs_pure.mpr ⟨rfl, rfl, rfl⟩
    · refine ⟨out, runs_seq.mpr (.inr ⟨a, c₁, tr₁, tr₂, rfl, ?_, ?_⟩)⟩
      · exact runs_wrapErr.mpr ⟨.ok a, rfl, hrun⟩
      · simpa only [hz, Bool.not_true, Bool.false_eq_true, if_false] using hnext

theorem goesOn_map_id (out : Except GoError Result) : goesOn (out.map fun r => r) = goesOn out := by
  cases out <;> rfl

theorem runs_finishNormal {lb : LbStatus} :
    (∃ out, ((finishNormal cluster lb).exec c).Runs tr (out, c')) ↔
      tr = [] ∧ c' = setProvisioned (reconcileControlPlaneEndpoint lb.ipAddress c) := by
  have hexec : ∃ r, (finishNormal cluster lb).exec c =
      .ret (.ok r, setProvisioned (reconcileControlPlaneEndpoint lb.ipAddress c)) := by
    unfold finishNormal
    split <;> exact ⟨_, rfl⟩
  obtain ⟨r, hr⟩ := hexec
  rw [hr]
  constructor
  · rintro ⟨out, hrun⟩
    cases hrun with
    | ret => exact ⟨rfl, rfl⟩
  · rintro ⟨rfl, rfl⟩
    exact ⟨_, .ret _⟩

/-- Every run of a normal pass is taken apart by `PassRun`. -/
theorem passRun_of_runs {out : Except GoError Result}
    (hrun : ((reconcileNormal cluster).exec c).Runs tr (out, c')) :
    ∃ written, PassRun cluster c tr written c' := by
  obtain ⟨c₅, rfl, hbody⟩ := runs_deferred.mp hrun
  rcases runs_step.mp ⟨_, hbody⟩ with
    ⟨out₁, hnet, hlast⟩ | ⟨r₁, c₁, tr₁, rest, rfl, hnet, hz₁, hbody⟩
  · exact ⟨_, .network hnet (goesOn_map_id out₁ ▸ hlast)⟩
  have before₁ : ThroughNetwork cluster c tr₁ c₁ := ⟨_, hnet, hz₁⟩
  rcases runs_step.mp hbody with ⟨out₂, hrtr, hlast⟩ | ⟨r₂, c₂, tr₂, rest, rfl, hrtr, hz₂, hbody⟩
  · exact ⟨_, .routers before₁ hrtr (goesOn_map_id out₂ ▸ hlast)⟩
  have before₂ : ThroughRouters cluster c (tr₁ ++ tr₂) c₂ :=
    ⟨tr₁, tr₂, c₁, _, rfl, before₁, hrtr, hz₂⟩
  rw [← List.append_assoc]
  rcases runs_step.mp hbody with
    ⟨out₃, hlb, hlast⟩ | ⟨⟨lb, r₃⟩, c₃, tr₃, rest, rfl, hlb, hz₃, hbody⟩
  · exact ⟨_, .loadBalancer before₂ hlb hlast⟩
  have before₃ : ThroughLoadBalancer cluster c (tr₁ ++ tr₂ ++ tr₃) lb c₃ :=
    ⟨_, tr₃, c₂, r₃, rfl, before₂, hlb, hz₃⟩
  rw [← List.append_assoc]
  rcases runs_step.mp hbody with ⟨out₄, hfip, hlast⟩ | ⟨r₄, c₄, tr₄, rest, rfl, hfip, hz₄, hbody⟩
  · exact ⟨_, .floatingIP before₃ hfip (goesOn_map_id out₄ ▸ hlast)⟩
  have before₄ : ThroughFloatingIP cluster c (tr₁ ++ tr₂ ++ tr₃ ++ tr₄) lb c₄ :=
    ⟨_, tr₄, c₃, _, rfl, before₃, hfip, hz₄⟩
  obtain ⟨rfl, rfl⟩ := runs_finishNormal.mp hbody
  rw [← List.append_assoc, List.append_nil]
  exact ⟨_, .finished before₄⟩

theorem ok_of_goesOn {out : Except GoError Result} (h : goesOn out = true) :
    ∃ r, out = .ok r ∧ r.isZero = true := by
  cases out with
  | ok r => exact ⟨r, rfl, h⟩
  | error e => cases h

/-- And `PassRun` describes nothing else. -/
theorem runs_of_passRun {written : List ConditionType} (hpass : PassRun cluster c tr written c') :
    ∃ out, ((reconcileNormal cluster).exec c).Runs tr (out, c') := by
  have hdeferred : ∀ {body : ClusterM Result} {c₅ : CloudscaleCluster} {tr : Trace},
      (∃ out, (body.exec c).Runs tr (out, c₅)) →
      ∃ out, ((body.deferred fun _ => setReadyCondition).exec c).Runs tr
        (out, setReadyCondition c₅) := by
    rintro body c₅ tr ⟨out, hrun⟩
    exact ⟨out, runs_deferred.mpr ⟨c₅, rfl, hrun⟩⟩
  -- every step before the last goes on, and the last one does not
  cases hpass with
  | network hrun hlast =>
      refine hdeferred (runs_step.mpr (.inl ⟨_, hrun, ?_⟩))
      rwa [goesOn_map_id]
  | routers hbefore hrun hlast =>
      obtain ⟨out₁, hnet, hon₁⟩ := hbefore
      obtain ⟨r₁, rfl, hz₁⟩ := ok_of_goesOn hon₁
      refine hdeferred (runs_step.mpr (.inr ⟨_, _, _, _, rfl, hnet, hz₁, ?_⟩))
      refine runs_step.mpr (.inl ⟨_, hrun, ?_⟩)
      rwa [goesOn_map_id]
  | loadBalancer hbefore hrun hlast =>
      obtain ⟨tr₁, tr₂, c₁, out₂, rfl, ⟨out₁, hnet, hon₁⟩, hrtr, hon₂⟩ := hbefore
      obtain ⟨r₁, rfl, hz₁⟩ := ok_of_goesOn hon₁
      obtain ⟨r₂, rfl, hz₂⟩ := ok_of_goesOn hon₂
      rw [List.append_assoc]
      refine hdeferred (runs_step.mpr (.inr ⟨_, _, _, _, rfl, hnet, hz₁, ?_⟩))
      refine runs_step.mpr (.inr ⟨_, _, _, _, rfl, hrtr, hz₂, ?_⟩)
      exact runs_step.mpr (.inl ⟨_, hrun, hlast⟩)
  | floatingIP hbefore hrun hlast =>
      obtain ⟨_, tr₃, c₂, r₃, rfl, ⟨tr₁, tr₂, c₁, out₂, rfl, ⟨out₁, hnet, hon₁⟩, hrtr, hon₂⟩, hlb,
        hz₃⟩ := hbefore
      obtain ⟨r₁, rfl, hz₁⟩ := ok_of_goesOn hon₁
      obtain ⟨r₂, rfl, hz₂⟩ := ok_of_goesOn hon₂
      rw [List.append_assoc, List.append_assoc]
      refine hdeferred (runs_step.mpr (.inr ⟨_, _, _, _, rfl, hnet, hz₁, ?_⟩))
      refine runs_step.mpr (.inr ⟨_, _, _, _, rfl, hrtr, hz₂, ?_⟩)
      refine runs_step.mpr (.inr ⟨_, _, _, _, rfl, hlb, hz₃, ?_⟩)
      refine runs_step.mpr (.inl ⟨_, hrun, ?_⟩)
      rwa [goesOn_map_id]
  | finished hbefore =>
      obtain ⟨_, tr₄, c₃, out₄, rfl, ⟨_, tr₃, c₂, r₃, rfl, ⟨tr₁, tr₂, c₁, out₂, rfl,
        ⟨out₁, hnet, hon₁⟩, hrtr, hon₂⟩, hlb, hz₃⟩, hfip, hon₄⟩ := hbefore
      obtain ⟨r₁, rfl, hz₁⟩ := ok_of_goesOn hon₁
      obtain ⟨r₂, rfl, hz₂⟩ := ok_of_goesOn hon₂
      obtain ⟨r₄, rfl, hz₄⟩ := ok_of_goesOn hon₄
      rw [List.append_assoc, List.append_assoc, ← List.append_nil tr₄]
      refine hdeferred (runs_step.mpr (.inr ⟨_, _, _, _, rfl, hnet, hz₁, ?_⟩))
      refine runs_step.mpr (.inr ⟨_, _, _, _, rfl, hrtr, hz₂, ?_⟩)
      refine runs_step.mpr (.inr ⟨_, _, _, _, rfl, hlb, hz₃, ?_⟩)
      refine runs_step.mpr (.inr ⟨_, _, _, _, rfl, hfip, hz₄, ?_⟩)
      exact runs_finishNormal.mpr ⟨rfl, rfl⟩

end Capcs.Readiness
