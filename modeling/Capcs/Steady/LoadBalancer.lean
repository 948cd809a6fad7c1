import Capcs.Steady.Members

/-!
# Capcs.Steady.LoadBalancer — load balancers that are settled

The load balancer and its pool, listener and health monitor are recorded under their UUIDs, and
the pool has the members it should have (`LoadBalancerSettled`). The load balancer step gets
there if it ends well (`reconcileLoadBalancer_settles`), and from there it only looks
(`reconcileLoadBalancer_looks`), whatever state the load balancer is in.
-/

namespace Capcs.Steady

open Cloudscale Controller
open Interaction (Proc)
open Interaction.Contract

variable {machines : List CloudscaleMachine} {P P' : Project} {c c' : CloudscaleCluster}
  {cluster : Cluster} {k : Kind} {what : String} {id : CloudscaleClusterStatus → String}
  {setID : String → CloudscaleClusterStatus → CloudscaleClusterStatus}
  {request : CloudscaleCluster → Except GoError k.Request}

/-- The recorded ID of an owned resource, and how it is written. -/
structure IsField (id : CloudscaleClusterStatus → String)
    (setID : String → CloudscaleClusterStatus → CloudscaleClusterStatus) : Prop where
  get_set : ∀ v s, id (setID v s) = v
  set_get : ∀ s, setID (id s) s = s
  set_set : ∀ v v' s, setID v' (setID v s) = setID v' s
  conditions : ∀ s conditions, id { s with conditions } = id s

/-- One step after the other. -/
theorem works_then {m next : ClusterM Result} {g : GoError → GoError}
    {A Q : CloudscaleCluster → Project → Prop} (hm : (works machines).returns (Ends A) m c P)
    (hnext : ∀ c' P', A c' P' → (works machines).returns (Ends Q) next c' P') :
    (works machines).returns (Ends Q)
      (do
        let result ← m.wrapErr g
        if !result.isZero then pure result else next) c P := by
  refine returns_seq (returns_wrapErr.mpr hm) fun result c' P' hA => ?_
  refine returns_ite (fun hzero => (returns_pure _).mpr fun hz => ?_) fun hzero => ?_
  · simp [hz] at hzero
  · exact hnext c' P' (hA (by simpa using hzero))

/-! ## Owned resources -/

/-- An owned resource that is done with is there, under its recorded ID. -/
theorem reconcileOwned_settles (hfield : IsField id setID) :
    (works machines).returns (Ends fun c' P' => Builds P P' ∧ ∃ v x,
      c' = { c with status := setID v c.status } ∧ P'.found k v = some x)
      (reconcileOwned k what id setID request) c P := by
  rw [reconcileOwned, returns_read]
  refine works_ensure (fun x hx hne => ?_) ?_
  · dsimp only
    rw [returns_bind, returns_update, if_pos hne, returns_pure]
    exact fun _ => ⟨.refl P, uuidOf x, x, rfl, hx⟩
  · dsimp only
    rw [returns_bind, returns_update, if_neg (not_not.mpr rfl), returns_read]
    cases request { c with status := setID "" c.status } with
    | error e => exact returns_fail e
    | ok req =>
        refine works_create (fun x P' hmade => ?_) fun P' => ends_late rfl
        dsimp only
        rw [returns_bind, returns_update, returns_pure]
        refine fun _ => ⟨hmade.builds, uuidOf x, x, ?_, hmade.there⟩
        dsimp only
        rw [hfield.set_set]

/-- An owned resource that is there is only looked up. -/
theorem reconcileOwned_looks (hfield : IsField id setID) {x : k.Resource}
    (hx : P.found k (id c.status) = some x) :
    (looks machines).Preserves (Rests c P) (reconcileOwned k what id setID request) := by
  refine looks_read fun conditions => ?_
  rw [hfield.conditions]
  refine looks_ensure hx (.bind (looks_same fun conditions => ?_) fun _ => ?_)
  · dsimp only
    rw [← hfield.conditions c.status conditions, hfield.set_get]
  · rw [if_pos (P.ne_empty hx)]
    exact .pure _

/-! ## The load balancer and its children -/

/-- The load balancer is recorded as it is, with all that hangs on it. -/
structure LoadBalancerSettled (c : CloudscaleCluster) (machines : List CloudscaleMachine)
    (P : Project) : Prop where
  loadBalancer : ∃ x, P.found .loadBalancer c.status.loadBalancerID = some x
  pool : ∃ x, P.found .pool c.status.loadBalancerPoolID = some x
  listener : ∃ x, P.found .listener c.status.loadBalancerListenerID = some x
  healthMonitor : ∃ x, P.found .healthMonitor c.status.loadBalancerHealthMonitorID = some x
  members : MembersSettled c machines (P.members c.status.loadBalancerPoolID)

/-- The first address of the load balancer. -/
def lbAddress (c : CloudscaleCluster) (P : Project) : String :=
  if c.spec.controlPlaneLoadBalancer.isEnabled then
    ((P.found .loadBalancer c.status.loadBalancerID).bind (·.vipAddresses.head?)).getD ""
  else ""

theorem isField_pool :
    IsField (·.loadBalancerPoolID) fun id s => { s with loadBalancerPoolID := id } :=
  ⟨fun _ _ => rfl, fun _ => rfl, fun _ _ _ => rfl, fun _ _ => rfl⟩

theorem isField_listener :
    IsField (·.loadBalancerListenerID) fun id s => { s with loadBalancerListenerID := id } :=
  ⟨fun _ _ => rfl, fun _ => rfl, fun _ _ _ => rfl, fun _ _ => rfl⟩

theorem isField_healthMonitor :
    IsField (·.loadBalancerHealthMonitorID) fun id s => { s with
      loadBalancerHealthMonitorID := id } :=
  ⟨fun _ _ => rfl, fun _ => rfl, fun _ _ _ => rfl, fun _ _ => rfl⟩

theorem isField_loadBalancer :
    IsField (·.loadBalancerID) fun id s => { s with loadBalancerID := id } :=
  ⟨fun _ _ => rfl, fun _ => rfl, fun _ _ _ => rfl, fun _ _ => rfl⟩

/-- What hangs on the load balancer does not change once it is there. -/
theorem Grows.same {k : Kind} {id : String} {x : k.Resource} (h : Grows P P')
    (hk : ∀ y z : k.Resource, GrowsInto y z → z = y) (hx : P.found k id = some x) :
    P'.found k id = some x := by
  obtain ⟨x', hx', hext⟩ := h _ _ _ hx
  rw [hx', hk _ _ hext]

theorem eq_of_offMembers (h : offMembers c' = offMembers c) :
    ∃ ids, c' = Members.withMemberIDs ids c :=
  ⟨c'.status.loadBalancerMemberIDs,
    (congrArg (Members.withMemberIDs c'.status.loadBalancerMemberIDs) h :)⟩

theorem reconcileLBChildren_settles {lb : LoadBalancer}
    (hlb : P.found .loadBalancer c.status.loadBalancerID = some lb)
    (hnames : ∀ p, ((P.members p).map (·.name)).Nodup)
    (hmachines : (machines.map (·.metadata.name)).Nodup) :
    (works machines).returns (Ends fun c' P' => Grows P P' ∧ exceptChildren c' = exceptChildren c ∧
      LoadBalancerSettled c' machines P') (reconcileLBChildren cluster) c P := by
  refine works_then (reconcileOwned_settles isField_pool) ?_
  rintro _ P₁ ⟨hbuilds₁, pool, x₁, rfl, hx₁⟩
  refine works_then (reconcileOwned_settles isField_listener) ?_
  rintro _ P₂ ⟨hbuilds₂, listener, x₂, rfl, hx₂⟩
  refine works_then (reconcileOwned_settles isField_healthMonitor) ?_
  rintro _ P₃ ⟨hbuilds₃, monitor, x₃, rfl, hx₃⟩
  -- the steps before leave the members alone
  have hmembers : P₃.members = P.members :=
    hbuilds₃.members.trans (hbuilds₂.members.trans hbuilds₁.members)
  refine returns_wrapErr.mpr (returns_imp
    (reconcileLBMembers_settles (by rw [hmembers]; exact hnames _) hmachines) ?_)
  intro result c' P' hend hzero
  obtain ⟨hframe, hfound, hsettled⟩ := hend hzero
  obtain ⟨ids, rfl⟩ := eq_of_offMembers hframe
  have hgrows : Grows P P' :=
    (hbuilds₁.trans (hbuilds₂.trans hbuilds₃)).grows.trans (.of_found hfound)
  obtain ⟨lb', hlb', -⟩ := hgrows _ _ _ hlb
  refine ⟨hgrows, rfl, ⟨lb', hlb'⟩, ⟨x₁, ?_⟩, ⟨x₂, ?_⟩, ⟨x₃, ?_⟩, hsettled⟩
  · rw [hfound]
    exact (hbuilds₂.trans hbuilds₃).grows.same (fun _ _ h => h) hx₁
  · rw [hfound]
    exact hbuilds₃.grows.same (fun _ _ h => h) hx₂
  · rw [hfound]
    exact hx₃

theorem LoadBalancerSettled.still (h : LoadBalancerSettled c machines P) (hstill : Still c c') :
    LoadBalancerSettled c' machines P := by
  obtain ⟨conditions, rfl⟩ := hstill
  exact ⟨h.loadBalancer, h.pool, h.listener, h.healthMonitor, h.members⟩

theorem setLoadBalancerReady_still (out : Except GoError LbOutcome) (c : CloudscaleCluster) :
    Still c (setLoadBalancerReady out c) := by
  unfold setLoadBalancerReady
  split <;> exact ⟨_, rfl⟩

/-- What the load balancer step promises when it ends well. -/
def LbSettles (c : CloudscaleCluster) (machines : List CloudscaleMachine) (P : Project)
    (o : LbOutcome) (c' : CloudscaleCluster) (P' : Project) : Prop :=
  o.result.isZero = true → Grows P P' ∧ c'.spec = c.spec ∧ LoadBalancerSettled c' machines P' ∧
    ∃ lb, P'.found .loadBalancer c'.status.loadBalancerID = some lb ∧
      o.status.ipAddress = lb.vipAddresses.head?.getD ""

theorem finishLoadBalancer_settles {P₀ : Project} {lb : LoadBalancer} {pending : Option String}
    (hgrows : Grows P₀ P) (hlb : P.found .loadBalancer c.status.loadBalancerID = some lb)
    (hnames : ∀ p, ((P.members p).map (·.name)).Nodup)
    (hmachines : (machines.map (·.metadata.name)).Nodup) :
    (works machines).returns (LbSettles c machines P₀)
      (finishLoadBalancer cluster lb pending) c P := by
  refine returns_seq (reconcileLBChildren_settles hlb hnames hmachines) fun result c' P' hend => ?_
  refine returns_ite (fun hzero => (returns_pure _).mpr fun hz => ?_)
    fun hzero => (returns_pure _).mpr fun _ => ?_
  · simp [hz] at hzero
  · obtain ⟨hgrows', hexcept, hsettled⟩ := hend (by simpa using hzero)
    have hspec : c'.spec = c.spec := (congrArg (·.spec) hexcept :)
    have hid : c'.status.loadBalancerID = c.status.loadBalancerID :=
      (congrArg (·.status.loadBalancerID) hexcept :)
    obtain ⟨lb', hlb', status, rfl⟩ := hgrows' _ _ _ hlb
    exact ⟨hgrows.trans hgrows', hspec, hsettled, { lb with status }, hid ▸ hlb', rfl⟩

theorem degradedMessage_works {lb : LoadBalancer} :
    (works machines).returns (fun _ c' P' => c' = c ∧ P' = P) (degradedMessage lb) c P := by
  rw [degradedMessage, returns_read]
  refine returns_ite (fun _ => (returns_pure _).mpr ⟨rfl, rfl⟩)
    fun _ => works_read trivial fun r _ _ => ?_
  cases r with
  | error e => exact (returns_pure _).mpr ⟨rfl, rfl⟩
  | ok ms =>
      dsimp only
      cases downMembers ms <;> exact (returns_pure _).mpr ⟨rfl, rfl⟩

theorem loadBalancerBody_settles (hnames : ∀ p, ((P.members p).map (·.name)).Nodup)
    (hmachines : (machines.map (·.metadata.name)).Nodup) :
    (works machines).returns (LbSettles c machines P) (loadBalancerBody cluster) c P := by
  refine returns_seq (returns_wrapErr.mpr (reconcileOwned_settles isField_loadBalancer)) ?_
  intro result c₁ P₁ hend
  refine returns_ite (fun hzero => (returns_pure _).mpr fun hz => ?_) fun hzero => ?_
  · simp [hz] at hzero
  · obtain ⟨hbuilds, v, x, rfl, hx⟩ := hend (by simpa using hzero)
    have hnames₁ : ∀ p, ((P₁.members p).map (·.name)).Nodup := by
      rw [hbuilds.members]
      exact hnames
    rw [returns_read, if_neg (P₁.ne_empty hx)]
    refine works_read trivial fun r hans _ => ?_
    cases r with
    | error e => exact returns_fail _
    | ok lb =>
        refine returns_ite
          (fun _ => finishLoadBalancer_settles hbuilds.grows hans.2 hnames₁ hmachines)
          fun _ => returns_ite (fun _ => (returns_pure _).mpr (by rintro ⟨⟩)) fun _ => ?_
        -- degraded: the message costs a list of the members
        refine returns_seq degradedMessage_works ?_
        rintro msg _ _ ⟨rfl, rfl⟩
        exact finishLoadBalancer_settles hbuilds.grows hans.2 hnames₁ hmachines

/-- A load balancer step that ends well has settled the load balancer, if there is to be one. -/
theorem reconcileLoadBalancer_settles (hnames : ∀ p, ((P.members p).map (·.name)).Nodup)
    (hmachines : (machines.map (·.metadata.name)).Nodup) :
    (works machines).returns (fun o c' P' => o.2.isZero = true →
      Grows P P' ∧ c'.spec = c.spec ∧ o.1.ipAddress = lbAddress c' P' ∧
      (c.spec.controlPlaneLoadBalancer.isEnabled = true → LoadBalancerSettled c' machines P'))
      (reconcileLoadBalancer cluster) c P := by
  rw [reconcileLoadBalancer, returns_read]
  refine returns_ite (fun henabled => ?_) fun henabled => ?_
  · have hdisabled : c.spec.controlPlaneLoadBalancer.isEnabled = false := by simpa using henabled
    rw [returns_bind, returns_update, returns_pure]
    refine fun _ => ⟨.refl P, rfl, ?_, fun h => absurd h (by simp [hdisabled])⟩
    exact (if_neg (by simp [setCondition, hdisabled])).symm
  · have henabled' : c.spec.controlPlaneLoadBalancer.isEnabled = true := by simpa using henabled
    refine returns_bind.mpr
      (returns_deferred (returns_imp (loadBalancerBody_settles hnames hmachines) ?_))
    intro o c' P' hend
    refine (returns_pure _).mpr fun hzero => ?_
    obtain ⟨hgrows, hspec, hsettled, lb, hlb, hip⟩ := hend hzero
    obtain ⟨conditions, hready⟩ := setLoadBalancerReady_still (.ok o) c'
    rw [hready]
    refine ⟨hgrows, hspec, ?_, fun _ => hsettled.still ⟨conditions, rfl⟩⟩
    dsimp only
    rw [hip, lbAddress]
    dsimp only
    rw [hspec, if_pos henabled', hlb]
    rfl

/-! ## A step that looks -/

theorem reconcileLBChildren_looks (h : LoadBalancerSettled c machines P)
    (hmachines : (machines.map (·.metadata.name)).Nodup) :
    (looks machines).Preserves (Rests c P) (reconcileLBChildren cluster) := by
  obtain ⟨pool, hpool⟩ := h.pool
  obtain ⟨listener, hlistener⟩ := h.listener
  obtain ⟨monitor, hmonitor⟩ := h.healthMonitor
  refine .bind (.wrapErr (reconcileOwned_looks isField_pool hpool)) fun _ =>
    .ite (fun _ => .pure _) fun _ => ?_
  refine .bind (.wrapErr (reconcileOwned_looks isField_listener hlistener)) fun _ =>
    .ite (fun _ => .pure _) fun _ => ?_
  refine .bind (.wrapErr (reconcileOwned_looks isField_healthMonitor hmonitor)) fun _ =>
    .ite (fun _ => .pure _) fun _ => ?_
  exact .wrapErr (reconcileLBMembers_looks h.members hmachines)

theorem degradedMessage_looks (lb : LoadBalancer) :
    (looks machines).Preserves (Rests c P) (degradedMessage lb) := by
  refine looks_read fun _ => .ite (fun _ => .pure _) fun _ => looks_call trivial fun r _ => ?_
  cases r with
  | error e => exact .pure _
  | ok ms =>
      dsimp only
      cases downMembers ms <;> exact .pure _

/-- Nothing has happened, and the address is the one there was. -/
def LbRests (c : CloudscaleCluster) (P : Project) (out : Except GoError LbOutcome)
    (c' : CloudscaleCluster) (P' : Project) : Prop :=
  Rests c P c' P' ∧ ∀ o, out = .ok o → o.result.isZero = true →
    ∃ lb, P.found .loadBalancer c.status.loadBalancerID = some lb ∧
      o.status.ipAddress = lb.vipAddresses.head?.getD ""

theorem finishLoadBalancer_looks (h : LoadBalancerSettled c machines P)
    (hmachines : (machines.map (·.metadata.name)).Nodup) {lb : LoadBalancer}
    (pending : Option String) (hlb : P.found .loadBalancer c.status.loadBalancerID = some lb)
    (hrests : Rests c P c' P') :
    (looks machines).wpc (LbRests c P) (finishLoadBalancer cluster lb pending) c' P' := by
  refine wpc_seq (reconcileLBChildren_looks h hmachines c' P' trivial hrests) ?_
  intro out c₁ P₁ hrests₁
  cases out with
  | error e => exact ⟨hrests₁, by rintro _ ⟨⟩⟩
  | ok result =>
      rw [after_ok, wpc_ite]
      split
      case isTrue hzero =>
          refine ⟨hrests₁, ?_⟩
          rintro _ ⟨⟩ hz
          simp [hz] at hzero
      case isFalse =>
          refine ⟨hrests₁, ?_⟩
          rintro _ ⟨⟩ -
          exact ⟨lb, hlb, rfl⟩

theorem loadBalancerBody_looks (h : LoadBalancerSettled c machines P)
    (hmachines : (machines.map (·.metadata.name)).Nodup) (hrests : Rests c P c' P') :
    (looks machines).wpc (LbRests c P) (loadBalancerBody cluster) c' P' := by
  obtain ⟨lb₀, hlb₀⟩ := h.loadBalancer
  refine wpc_seq (Preserves.wrapErr (reconcileOwned_looks isField_loadBalancer hlb₀) c' P' trivial
    hrests) ?_
  intro out c₁ P₁ hrests₁
  cases out with
  | error e => exact ⟨hrests₁, by rintro _ ⟨⟩⟩
  | ok result =>
      rw [after_ok, wpc_ite]
      split
      case isTrue hzero =>
          refine ⟨hrests₁, ?_⟩
          rintro _ ⟨⟩ hz
          simp [hz] at hzero
      case isFalse =>
          -- so far only conditions may differ from the settled object
          obtain ⟨⟨conditions, rfl⟩, rfl⟩ := hrests₁
          have hrests₂ : Rests c P₁ { c with status := { c.status with conditions } } P₁ :=
            ⟨⟨conditions, rfl⟩, rfl⟩
          rw [wpc_read_bind, wpc_ite, if_neg (P₁.ne_empty hlb₀), wpc_bind]
          refine looks_perform trivial fun r hans => ?_
          rw [after_ok]
          cases r with
          | error e => exact ⟨hrests₂, by rintro _ ⟨⟩⟩
          | ok lb =>
              dsimp only
              rw [wpc_ite]
              split
              · exact finishLoadBalancer_looks h hmachines none hans.2 hrests₂
              · rw [wpc_ite]
                split
                · refine ⟨hrests₂, ?_⟩
                  rintro _ ⟨⟩ hz
                  cases hz
                · refine wpc_seq (degradedMessage_looks lb _ _ trivial hrests₂) ?_
                  intro out c₂ P₂ hrests₃
                  cases out with
                  | error e => exact ⟨hrests₃, by rintro _ ⟨⟩⟩
                  | ok msg => exact finishLoadBalancer_looks h hmachines (some msg) hans.2 hrests₃

/-- Over a settled load balancer the load balancer step only looks, and finds the address it has
found before. -/
theorem reconcileLoadBalancer_looks
    (h : c.spec.controlPlaneLoadBalancer.isEnabled = true → LoadBalancerSettled c machines P)
    (hmachines : (machines.map (·.metadata.name)).Nodup) (hrests : Rests c P c' P') :
    (looks machines).wpc (fun out c'' P'' => Rests c P c'' P'' ∧ ∀ lb result,
      out = .ok (lb, result) → result.isZero = true → lb.ipAddress = lbAddress c P)
      (reconcileLoadBalancer cluster) c' P' := by
  obtain ⟨⟨conditions, rfl⟩, rfl⟩ := hrests
  rw [reconcileLoadBalancer, wpc_read_bind, wpc_ite]
  split
  case isTrue henabled =>
      have hdisabled : c.spec.controlPlaneLoadBalancer.isEnabled = false := by simpa using henabled
      rw [wpc_update_bind]
      refine ⟨⟨Still.setCondition ⟨conditions, rfl⟩ _ _ _ _, rfl⟩, ?_⟩
      rintro _ _ ⟨⟩ -
      exact (if_neg (by simp [hdisabled])).symm
  case isFalse henabled =>
      have henabled' : c.spec.controlPlaneLoadBalancer.isEnabled = true := by simpa using henabled
      rw [wpc_bind, wpc_deferred]
      refine wpc_imp (loadBalancerBody_looks (h henabled') hmachines ⟨⟨conditions, rfl⟩, rfl⟩) ?_
      rintro out c'' P'' ⟨⟨hstill, rfl⟩, hend⟩
      have hrests' : Rests c P'' (setLoadBalancerReady out c'') P'' :=
        ⟨hstill.trans (setLoadBalancerReady_still out c''), rfl⟩
      cases out with
      | error e => exact ⟨hrests', by rintro _ _ ⟨⟩⟩
      | ok o =>
          refine ⟨hrests', ?_⟩
          rintro _ _ ⟨⟩ hzero
          obtain ⟨lb, hlb, hip⟩ := hend o rfl hzero
          rw [hip, lbAddress, if_pos henabled', hlb]
          rfl

end Capcs.Steady
