import Capcs.Steady.Routers
import Capcs.Steady.FloatingIP
import Capcs.Readiness.Pass
import Capcs.Webhook.Admission
import Capcs.Cloudscale.Simulator

/-!
# Capcs.Steady.Pass — a pass that has nothing left to do

`Settled c machines P`: the object, the control plane machines and the project agree. A pass of
`reconcileNormal` that gets through its four steps leaves a settled object (`settled_of_through`),
from any status and any project, and a pass over a settled object only looks
(`reconcileNormal_looks`), with whatever replies.

So the controller comes to rest. After a pass that got through, no later pass issues a write or
changes a record, as long as the machines stay the same and others leave alone what the cluster
has (`rests_after_pass`). Calls may fail, and the state of routers, load balancers and members
may change meanwhile.
-/

namespace Capcs.Steady

open Cloudscale Controller Webhook
open Readiness (Trace ThroughFloatingIP ThroughLoadBalancer ThroughRouters ThroughNetwork
  ok_of_goesOn runs_of_passRun)
open Interaction (Proc)
open Interaction.Contract
open Interaction.Program (Accepted accepted_append accepted_cons)

variable {machines : List CloudscaleMachine} {P P' : Project} {c c' : CloudscaleCluster}
  {cluster : Cluster} {tr : Trace} {lb : LbStatus}

/-! ## Settled objects -/

/-- The status records everything as it is, and so does the endpoint. -/
structure Settled (c : CloudscaleCluster) (machines : List CloudscaleMachine) (P : Project) :
    Prop where
  networks : ∀ n ∈ c.spec.networks, NetworkSettled c P n
  routers : ∀ r ∈ c.spec.routers, RouterSettled c P r
  loadBalancer : c.spec.controlPlaneLoadBalancer.isEnabled = true → LoadBalancerSettled c machines P
  floatingIP : FloatingIPSettled c machines P
  endpoint : c.spec.controlPlaneEndpoint.host ≠ "" ∨ endpointHost c (lbAddress c P) = ""
  provisioned : c.status.initialization =
    some { provisioned := some (isInfrastructureProvisioned c) }

/-- The name and the address of each member. -/
def memberPairs (P : Project) (p : String) : List (String × String) :=
  (P.members p).map fun m => (m.name, m.address)

/-- What others may do to the project: they add to it, and states change. The floating IPs stay
where they are, and so do the members. -/
structure Drift (P P' : Project) : Prop where
  grows : Grows P P'
  floatingIP : ∀ ip f, P.found .floatingIP ip = some f → P'.found .floatingIP ip = some f
  members : ∀ p, (memberPairs P' p).Perm (memberPairs P p)

theorem Drift.refl (P : Project) : Drift P P := ⟨.refl P, fun _ _ h => h, fun _ => .refl _⟩

theorem LoadBalancerSettled.grows (h : LoadBalancerSettled c machines P) (hgrows : Grows P P')
    (hmembers : ∀ p, (memberPairs P' p).Perm (memberPairs P p)) :
    LoadBalancerSettled c machines P' where
  loadBalancer := by
    obtain ⟨x, hx⟩ := h.loadBalancer
    obtain ⟨x', hx', -⟩ := hgrows _ _ _ hx
    exact ⟨x', hx'⟩
  pool := by
    obtain ⟨x, hx⟩ := h.pool
    exact ⟨x, hgrows.same (fun _ _ h => h) hx⟩
  listener := by
    obtain ⟨x, hx⟩ := h.listener
    exact ⟨x, hgrows.same (fun _ _ h => h) hx⟩
  healthMonitor := by
    obtain ⟨x, hx⟩ := h.healthMonitor
    exact ⟨x, hgrows.same (fun _ _ h => h) hx⟩
  members := by
    obtain ⟨net, hnet, hpairs⟩ := h.members
    exact ⟨net, hnet, (hmembers _).trans hpairs⟩

/-- The addresses of a load balancer stay. -/
theorem lbAddress_grows (hgrows : Grows P P')
    (h : c.spec.controlPlaneLoadBalancer.isEnabled = true → LoadBalancerSettled c machines P) :
    lbAddress c P' = lbAddress c P := by
  unfold lbAddress
  split
  case isTrue henabled =>
      obtain ⟨x, hx⟩ := (h henabled).loadBalancer
      obtain ⟨x', hx', status, rfl⟩ := hgrows _ _ _ hx
      rw [hx, hx']
      rfl
  case isFalse => rfl

theorem Settled.drift (h : Settled c machines P) (hdrift : Drift P P') : Settled c machines P' where
  networks n hn := (h.networks n hn).grows hdrift.grows
  routers r hr := (h.routers r hr).congr rfl rfl rfl hdrift.grows
  loadBalancer henabled := (h.loadBalancer henabled).grows hdrift.grows hdrift.members
  floatingIP fipSpec hspec := by
    obtain ⟨fip, hfip, hrest⟩ := h.floatingIP fipSpec hspec
    exact ⟨fip, hdrift.floatingIP _ _ hfip, hrest⟩
  endpoint := by
    rw [lbAddress_grows hdrift.grows h.loadBalancer]
    exact h.endpoint
  provisioned := h.provisioned

theorem Settled.still (h : Settled c machines P) (hstill : Still c c') : Settled c' machines P := by
  obtain ⟨conditions, rfl⟩ := hstill
  exact ⟨h.networks, fun r hr => (h.routers r hr).congr rfl rfl rfl (.refl P),
    fun henabled => (h.loadBalancer henabled).still ⟨conditions, rfl⟩, h.floatingIP, h.endpoint,
    h.provisioned⟩

/-! ## A pass over a settled object -/

theorem setProvisioned_same (h : c.status.initialization =
    some { provisioned := some (isInfrastructureProvisioned c) }) : setProvisioned c = c := by
  unfold setProvisioned
  rw [← h]

/-- An endpoint that is settled is not set again. -/
theorem finishNormal_looks (h : Settled c machines P) (hip : lb.ipAddress = lbAddress c P) :
    (looks machines).Preserves (Rests c P) (finishNormal cluster lb) := by
  refine .bind (looks_same fun conditions => ?_) fun _ =>
    .bind (looks_same fun conditions => setProvisioned_same h.provisioned) fun _ =>
      .ite (fun _ => .pure _) fun _ => .pure _
  · unfold reconcileControlPlaneEndpoint
    split
    · rfl
    · next hhost =>
      have hempty := h.endpoint.resolve_left hhost
      rw [← hip] at hempty
      exact if_pos hempty

/-- Over a settled object a pass only looks, and changes conditions at most. -/
theorem reconcileNormal_looks (h : Settled c machines P)
    (hmachines : (machines.map (·.metadata.name)).Nodup) :
    (looks machines).Preserves (Rests c P) (reconcileNormal cluster) := by
  refine .deferred ?_ fun out c' P' hrests => ⟨hrests.1.trans ⟨_, rfl⟩, hrests.2⟩
  refine .bind (.wrapErr (reconcileNetwork_looks h.networks)) fun _ =>
    .ite (fun _ => .pure _) fun _ => ?_
  refine .bind (.wrapErr (reconcileRouters_looks h.routers)) fun _ =>
    .ite (fun _ => .pure _) fun _ => ?_
  -- the address that the load balancer step returns is needed at the end
  intro c₁ P₁ _ hrests₁
  refine wpc_seq (wpc_wrapped (reconcileLoadBalancer_looks h.loadBalancer hmachines hrests₁) ?_) ?_
  · exact fun e c' P' hout => ⟨hout.1, by rintro _ _ ⟨⟩⟩
  rintro out c₂ P₂ ⟨hrests₂, hip⟩
  cases out with
  | error e => exact hrests₂
  | ok res =>
      obtain ⟨lb, result⟩ := res
      rw [after_ok]
      dsimp only
      rw [wpc_ite]
      split
      case isTrue => exact hrests₂
      case isFalse hzero =>
          have hfinish : (looks machines).Preserves (Rests c P) (finishNormal cluster lb) :=
            finishNormal_looks h (hip lb result rfl (by simpa using hzero))
          exact Preserves.bind (.wrapErr (reconcileFloatingIP_looks h.floatingIP))
            (fun _ => .ite (fun _ => .pure _) fun _ => hfinish) c₂ P₂ trivial hrests₂

/-! ## A pass that settles the object -/

/-- The object at the end of a pass that got through its four steps. -/
def passEnd (lb : LbStatus) (c : CloudscaleCluster) : CloudscaleCluster :=
  setReadyCondition (setProvisioned (reconcileControlPlaneEndpoint lb.ipAddress c))

/-- Setting the endpoint settles it, and touches nothing else. -/
theorem settled_passEnd (hnets : ∀ n ∈ c.spec.networks, NetworkSettled c P n)
    (hrouters : ∀ r ∈ c.spec.routers, RouterSettled c P r)
    (hlb : c.spec.controlPlaneLoadBalancer.isEnabled = true → LoadBalancerSettled c machines P)
    (hfip : FloatingIPSettled c machines P) (hip : lb.ipAddress = lbAddress c P) :
    Settled (passEnd lb c) machines P := by
  -- the cluster with some endpoint that is set, or that cannot be
  have hend : ∀ endpoint : APIEndpoint, endpoint.host ≠ "" ∨ endpointHost c lb.ipAddress = "" →
      Settled (setReadyCondition (setProvisioned
        { c with spec := { c.spec with controlPlaneEndpoint := endpoint } })) machines P := by
    intro endpoint hhost
    refine ⟨hnets, fun r hr => ?_, fun henabled => ?_, hfip, ?_, rfl⟩
    · obtain ⟨rs, x, hrs, hx, hman, hadopted, hifaces⟩ := hrouters r hr
      refine ⟨rs, x, hrs, hx, hman, hadopted, fun i hi => ?_⟩
      obtain ⟨ns, live, hi⟩ := hifaces i hi
      exact ⟨ns, live, hi.network, hi.picks, hi.entry⟩
    · have h := hlb henabled
      exact ⟨h.loadBalancer, h.pool, h.listener, h.healthMonitor, h.members⟩
    · rw [hip] at hhost
      exact hhost
  unfold passEnd reconcileControlPlaneEndpoint
  split
  case isTrue hhost => exact hend c.spec.controlPlaneEndpoint (.inl hhost)
  case isFalse hhost =>
      split
      case isTrue hempty => exact hend c.spec.controlPlaneEndpoint (.inr hempty)
      case isFalse hne => exact hend _ (.inl hne)

/-- A pass that gets through its four steps leaves a settled object. -/
theorem settled_of_through {c₄ : CloudscaleCluster} (hkeys : UniqueKeys c.spec)
    (hnames : (c.spec.networks.map (·.name)).Nodup)
    (hmembers : ∀ p, ((P.members p).map (·.name)).Nodup)
    (hmachines : (machines.map (·.metadata.name)).Nodup)
    (hpass : ThroughFloatingIP cluster c tr lb c₄)
    (hacc : Accepted (ProjectAnswers machines) P tr P') (hheard : ∀ e ∈ tr, Heard e.op e.reply) :
    Settled (passEnd lb c₄) machines P' := by
  obtain ⟨_, tr₄, c₃, out₄, rfl, ⟨_, tr₃, c₂, result₃, rfl, ⟨tr₁, tr₂, c₁, out₂, rfl, hnet, hrtr,
    hgo₂⟩, hlb, hzero₃⟩, hfip, hgo₄⟩ := hpass
  obtain ⟨out₁, hnet, hgo₁⟩ := hnet
  obtain ⟨P₃, hacc, hacc₄⟩ := accepted_append.mp hacc
  obtain ⟨P₂, hacc, hacc₃⟩ := accepted_append.mp hacc
  obtain ⟨P₁, hacc₁, hacc₂⟩ := accepted_append.mp hacc
  simp only [List.mem_append, or_imp, forall_and] at hheard
  obtain ⟨⟨⟨hheard₁, hheard₂⟩, hheard₃⟩, hheard₄⟩ := hheard
  obtain ⟨result₁, rfl, hzero₁⟩ := ok_of_goesOn hgo₁
  obtain ⟨result₂, rfl, hzero₂⟩ := ok_of_goesOn hgo₂
  obtain ⟨result₄, rfl, hzero₄⟩ := ok_of_goesOn hgo₄
  -- one step after the other
  obtain ⟨hbuilds₁, hspec₁, hnets₁⟩ :=
    works_runs (reconcileNetwork_settles hnames) hnet hacc₁ hheard₁ hzero₁
  have hkeys₁ : UniqueKeys c₁.spec := hspec₁ ▸ hkeys
  obtain ⟨hspec₂, hsame₂, hbuilds₂, hrouters₂⟩ :=
    works_runs (reconcileRouters_settles hkeys₁.1 hkeys₁.2) hrtr hacc₂ hheard₂ hzero₂
  have hmembers₂ : ∀ p, ((P₂.members p).map (·.name)).Nodup := by
    rw [hbuilds₂.members, hbuilds₁.members]
    exact hmembers
  obtain ⟨hgrows₃, hspec₃, hip₃, hlb₃⟩ :=
    works_runs (reconcileLoadBalancer_settles hmembers₂ hmachines) hlb hacc₃ hheard₃ hzero₃
  obtain ⟨hbuilds₄, ⟨ip, conditions, rfl⟩, hfip₄⟩ :=
    works_runs reconcileFloatingIP_settles hfip hacc₄ hheard₄ hzero₄
  have hoff := ((reconcileLoadBalancer_frame cluster).runs hlb).1
  have hnets₃ : c₃.status.networks = c₂.status.networks := (congrArg (·.status.networks) hoff :)
  have hrouters₃ : c₃.status.routers = c₂.status.routers := (congrArg (·.status.routers) hoff :)
  have hgrows₄ : Grows P₂ P' := hgrows₃.trans hbuilds₄.grows
  rw [← hspec₃] at hlb₃
  -- and all that the earlier ones have settled is still so at the end
  refine settled_passEnd (fun n hn => ?_) (fun r hr => ?_) (fun henabled => ?_) hfip₄ ?_
  · have hn' : n ∈ c.spec.networks := by
      rw [← hspec₁, ← hspec₂, ← hspec₃]
      exact hn
    exact (hnets₁ n hn').routers (hspec₃.trans hspec₂) (hnets₃.trans hsame₂)
      (hbuilds₂.grows.trans hgrows₄)
  · have hr' : r ∈ c₁.spec.routers := by
      rw [← hspec₂, ← hspec₃]
      exact hr
    refine (hrouters₂ r hr').congr ?_ hspec₃ hnets₃ hgrows₄
    rw [CloudscaleClusterStatus.getRouterStatus,
      CloudscaleClusterStatus.getRouterStatus, ← hrouters₃]
    rfl
  · have h := (hlb₃ henabled).grows hbuilds₄.grows fun p => by
      rw [memberPairs, memberPairs, hbuilds₄.members]
    exact ⟨h.loadBalancer, h.pool, h.listener, h.healthMonitor, h.members⟩
  · exact hip₃.trans (lbAddress_grows hbuilds₄.grows hlb₃).symm

/-! ## Later passes -/

/-- Passes after `c` was stored and the project was `P`. Each may be cut short by calls that fail;
what it stores, if the patch is not lost, is what the next one reads. In between, conditions are
written by others and the project drifts. `trs` are the calls of the passes. -/
inductive Afterwards (machines : List CloudscaleMachine) (c : CloudscaleCluster) (P : Project) :
    List Trace → CloudscaleCluster → Project → Prop where
  | start {c' : CloudscaleCluster} {P' : Project} : Still c c' → Drift P P' →
      Afterwards machines c P [] c' P'
  | pass {cluster : Cluster} {trs : List Trace} {tr : Trace} {out : Except GoError Result}
      {c₁ c₂ c₃ : CloudscaleCluster} {P₁ P₂ P₃ : Project} : Afterwards machines c P trs c₁ P₁ →
      ((reconcileNormal cluster).exec c₁).Runs tr (out, c₂) →
        Accepted (ProjectAnswers machines) P₁ tr P₂ →
      Still c₁ c₃ ∨ Still c₂ c₃ → Drift P₂ P₃ → Afterwards machines c P (trs ++ [tr]) c₃ P₃

/-- From a settled object on, all passes rest. -/
theorem Settled.afterwards {trs : List Trace} (h : Settled c machines P)
    (hmachines : (machines.map (·.metadata.name)).Nodup)
    (hlater : Afterwards machines c P trs c' P') :
    (∀ t ∈ trs, ∀ e ∈ t, Reads e.op) ∧ Still c c' ∧ Settled c' machines P' := by
  induction hlater with
  | start hstill hdrift => exact ⟨by simp, hstill, (h.still hstill).drift hdrift⟩
  | pass _ hrun hacc hstored hdrift ih =>
      obtain ⟨hreads, hstill, hsettled⟩ := ih
      obtain ⟨⟨hstill₂, rfl⟩, hreads'⟩ := Interaction.Program.accepted_of_wp (C := looks machines)
        (fun _ => rfl) (fun _ _ _ _ _ _ _ => trivial) (fun _ _ hguard => hguard) hrun hacc trivial
        (reconcileNormal_looks hsettled hmachines _ _ trivial ⟨.refl _, rfl⟩)
      have hstill₃ : Still _ _ := hstored.elim id hstill₂.trans
      refine ⟨fun t ht => ?_, hstill.trans hstill₃, (hsettled.still hstill₃).drift hdrift⟩
      rcases List.mem_append.mp ht with ht | ht
      · exact hreads t ht
      · rw [List.mem_singleton.mp ht]
        exact hreads'

/-- After a pass that got through its four steps, no pass writes anything, to the cloud or to the
records, until a machine or something that belongs to the cluster changes. -/
theorem rests_after_pass {out : Except GoError Result} {done c₄ : CloudscaleCluster}
    {P₁ : Project} {trs : List Trace} (hkeys : UniqueKeys c.spec)
    (hnames : (c.spec.networks.map (·.name)).Nodup)
    (hmembers : ∀ p, ((P.members p).map (·.name)).Nodup)
    (hmachines : (machines.map (·.metadata.name)).Nodup)
    (hrun : ((reconcileNormal cluster).exec c).Runs tr (out, done))
    (hthrough : ThroughFloatingIP cluster c tr lb c₄)
    (hacc : Accepted (ProjectAnswers machines) P tr P₁) (hheard : ∀ e ∈ tr, Heard e.op e.reply)
    (hlater : Afterwards machines done P₁ trs c' P') :
    (∀ t ∈ trs, ∀ e ∈ t, Reads e.op) ∧ Still done c' := by
  obtain ⟨out', hrun'⟩ := runs_of_passRun (.finished hthrough)
  obtain ⟨-, rfl⟩ := Prod.mk.inj (Interaction.Program.runs_unique hrun hrun')
  have hsettled := settled_of_through hkeys hnames hmembers hmachines hthrough hacc hheard
  obtain ⟨hreads, hstill, -⟩ := Settled.afterwards hsettled hmachines hlater
  exact ⟨hreads, hstill⟩

/-! ### A network on a router that was there before -/

def wiredNetwork : Network :=
  { uuid := "n", zone := "rma1", subnets := [{ uuid := "s", cidr := "10.0.0.0/24" }] }

def wiredRouter (interfaces : List RouterInterface) : Router :=
  { uuid := "r", zone := "rma1", status := routerActive, interfaces }

def wiredIface : RouterInterface := { uuid := "i", network := "n" }

/-- The network and the router, with these interfaces. -/
def wiredProject (interfaces : List RouterInterface) : Project where
  found
    | .network, id => if id = "n" then some wiredNetwork else none
    | .router, id => if id = "r" then some (wiredRouter interfaces) else none
    | _, _ => none
  members _ := []
  keyed := by
    intro k id x hx
    cases k with
    | network =>
        obtain ⟨rfl, ⟨⟩⟩ := Option.ite_none_right_eq_some.mp hx
        rfl
    | router =>
        obtain ⟨rfl, ⟨⟩⟩ := Option.ite_none_right_eq_some.mp hx
        rfl
    | _ => cases hx
  named k := by cases k <;> rfl
  distinct _ := .nil

/-- A cluster that attaches the network to the router. -/
def wiredCluster : CloudscaleCluster where
  metadata := { name := "c", ns := "default" }
  spec :=
    { zone := "rma1"
      networks := [{ name := "net", uuid := "n" }]
      routers := [{ name := "r", uuid := "r", interfaces := [{ network := "net" }] }]
      controlPlaneLoadBalancer := { enabled := some false }
      controlPlaneEndpoint := { host := "10.0.0.9", port := 6443 } }

def wiredOwner : Cluster := { name := "c", ns := "default" }

/-- The replies of the project with these interfaces. -/
def wiredReply (interfaces : List RouterInterface) : (op : Op) → op.Reply
  | .get .network _ => .ok wiredNetwork
  | .get .router _ => .ok (wiredRouter interfaces)
  | .createInterface _ _ => .ok wiredIface
  | op => emptyReply op

/-- The calls of a pass, and what it leaves. -/
def wiredPass (interfaces : List RouterInterface) (c : CloudscaleCluster) :
    Trace × (Except GoError Result × CloudscaleCluster) :=
  (reconcileNormal wiredOwner).record (wiredReply interfaces) c

/-- The first pass attaches the network. -/
theorem wired_first : Accepted (ProjectAnswers []) (wiredProject [])
    (wiredPass [] wiredCluster).1 (wiredProject [wiredIface]) := by
  refine accepted_cons.mpr ⟨wiredProject [], ⟨rfl, rfl⟩, accepted_cons.mpr
    ⟨wiredProject [], ⟨rfl, rfl⟩, accepted_cons.mpr ⟨wiredProject [wiredIface], ?_, .nil⟩⟩⟩
  refine ⟨rfl, ⟨wiredRouter [], rfl, by simp [wiredRouter], rfl⟩, fun k id hne => ?_, rfl⟩
  cases k with
  | router =>
      have hid : id ≠ "r" := hne rfl
      change (if id = "r" then _ else none) = (if id = "r" then _ else none)
      rw [if_neg hid, if_neg hid]
  | _ => rfl

/-- The second one reads the router, and that is all. -/
theorem wired_second : Accepted (ProjectAnswers []) (wiredProject [wiredIface])
    (wiredPass [wiredIface] (wiredPass [] wiredCluster).2.2).1 (wiredProject [wiredIface]) :=
  accepted_cons.mpr ⟨wiredProject [wiredIface], ⟨rfl, rfl⟩, .nil⟩

theorem wired_through : ∃ lb c₄,
    ThroughFloatingIP wiredOwner wiredCluster (wiredPass [] wiredCluster).1 lb c₄ := by
  -- Each step is run on what the one before it has left.
  have hnetwork := (reconcileNetwork wiredOwner).runs_record (wiredReply []) wiredCluster
  have hrouters := (reconcileRouters wiredOwner).runs_record (wiredReply [])
    ((reconcileNetwork wiredOwner).record (wiredReply []) wiredCluster).2.2
  have hlb := (reconcileLoadBalancer wiredOwner).runs_record (wiredReply [])
    ((reconcileRouters wiredOwner).record (wiredReply [])
      ((reconcileNetwork wiredOwner).record (wiredReply []) wiredCluster).2.2).2.2
  have hfip := (reconcileFloatingIP wiredOwner).runs_record (wiredReply [])
    ((reconcileLoadBalancer wiredOwner).record (wiredReply [])
      ((reconcileRouters wiredOwner).record (wiredReply [])
        ((reconcileNetwork wiredOwner).record (wiredReply []) wiredCluster).2.2).2.2).2.2
  exact ⟨_, _, _, _, _, _, rfl, ⟨_, _, _, _, rfl, ⟨_, _, _, _, rfl, ⟨_, hnetwork, rfl⟩,
    hrouters, rfl⟩, hlb, rfl⟩, hfip, rfl⟩

/-- The pass after the one that has attached the network makes one call, which reads the router. -/
theorem rests_after_attach :
    (wiredPass [] wiredCluster).1.map (·.op) =
      [.get .network "n", .get .router "r",
        .createInterface "r" { network := "n", addresses := [{ subnet := "s", address := "" }] }] ∧
    (∀ e ∈ (wiredPass [wiredIface] (wiredPass [] wiredCluster).2.2).1, Reads e.op) ∧
    Still (wiredPass [] wiredCluster).2.2
      (wiredPass [wiredIface] (wiredPass [] wiredCluster).2.2).2.2 := by
  obtain ⟨lb, c₄, hthrough⟩ := wired_through
  have hlater : Afterwards [] (wiredPass [] wiredCluster).2.2 (wiredProject [wiredIface])
      [(wiredPass [wiredIface] (wiredPass [] wiredCluster).2.2).1]
      (wiredPass [wiredIface] (wiredPass [] wiredCluster).2.2).2.2 (wiredProject [wiredIface]) :=
    .pass (.start (.refl _) (.refl _)) ((reconcileNormal wiredOwner).runs_record
      (wiredReply [wiredIface]) _) wired_second (.inr (.refl _)) (.refl _)
  have hheard : ∀ e ∈ (wiredPass [] wiredCluster).1, Heard e.op e.reply :=
    List.forall_mem_cons.mpr ⟨trivial, List.forall_mem_cons.mpr ⟨trivial,
      List.forall_mem_cons.mpr ⟨trivial, by rintro _ ⟨⟩⟩⟩⟩
  have hnames : ∀ pool, (((wiredProject []).members pool).map (·.name)).Nodup := fun _ => .nil
  obtain ⟨hreads, hstill⟩ := rests_after_pass (by decide) (by decide) hnames (by decide)
    ((reconcileNormal wiredOwner).runs_record (wiredReply []) wiredCluster) hthrough wired_first
    hheard hlater
  exact ⟨rfl, hreads _ List.mem_cons_self, hstill⟩

end Capcs.Steady
