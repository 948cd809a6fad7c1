import Capcs.Cloudscale.Simulator
import Capcs.Records.Networks
import Capcs.Records.Routers

/-!
# Capcs.Records.Pass — a confirmed create is recorded

However a pass over a cluster or a machine ends, its status refers to all that its create calls
have returned, with one exception: a network whose subnet is not there yet. A network that was
created is not recorded before its subnet is, so a failure or a timeout in between leaves it
without a reference.

* `created_recorded_iff` — everything is referred to exactly if every network that was created is
  followed by a subnet.
* `network_unrecorded` — a network is created, and the create of its subnet fails.
-/

namespace Capcs.Records

open Cloudscale Controller Webhook
open Readiness (Trace CallEvent)
open Interaction (Proc Frame New history history_perform Noted Logs Retains)
open Interaction.Contract

variable {known : Made → Prop} {c c' : CloudscaleCluster} {h : Trace} (cluster : Cluster)

/-! ## The parts of a status -/

/-- The part of the API that something belongs to. -/
def Made.part : Made → Part
  | .resource k _ => partOfKind k
  | .interface _ => .router
  | .member _ => .loadBalancer

theorem part_of_madeBy {op : Op} {r : op.Reply} {x : Made} (hx : x ∈ madeBy op r) :
    x.part = partOf op := by
  cases op with
  | create k req =>
      cases r with
      | ok r => cases hx; rfl
      | error err => cases hx
  | createMember pool req =>
      cases r with
      | ok m => cases hx; rfl
      | error err => cases hx
  | createInterface router req =>
      cases r with
      | ok i => cases hx; rfl
      | error err => cases hx
  | _ => cases hx

/-- What the status has about a part. -/
def slice : Part → CloudscaleClusterStatus → CloudscaleClusterStatus
  | .network, s => { networks := s.networks }
  | .router, s => { routers := s.routers }
  | .loadBalancer, s =>
    { loadBalancerID := s.loadBalancerID, loadBalancerPoolID := s.loadBalancerPoolID
      loadBalancerListenerID := s.loadBalancerListenerID
      loadBalancerHealthMonitorID := s.loadBalancerHealthMonitorID
      loadBalancerMemberIDs := s.loadBalancerMemberIDs }
  | .floatingIP, s => { floatingIP := s.floatingIP }
  | _, _ => {}

/-- The references to a part are in its slice. -/
theorem Referenced.of_slice {x : Made} (hx : Referenced c x)
    (hsame : slice x.part c'.status = slice x.part c.status) : Referenced c' x := by
  cases x with
  | resource k id =>
      cases k with
      | network | subnet =>
          have hnets := (congrArg (·.networks) hsame :)
          obtain ⟨ns, hns, hid⟩ := hx
          exact ⟨ns, (hnets ▸ hns :), hid⟩
      | router =>
          have hrouters := (congrArg (·.routers) hsame :)
          obtain ⟨rs, hrs, hid⟩ := hx
          exact ⟨rs, (hrouters ▸ hrs :), hid⟩
      | loadBalancer => exact (congrArg (·.loadBalancerID) hsame :).trans hx
      | pool => exact (congrArg (·.loadBalancerPoolID) hsame :).trans hx
      | listener => exact (congrArg (·.loadBalancerListenerID) hsame :).trans hx
      | healthMonitor => exact (congrArg (·.loadBalancerHealthMonitorID) hsame :).trans hx
      | floatingIP => exact (congrArg (·.floatingIP) hsame :).trans hx
      | server | serverGroup => exact hx
  | interface id =>
      have hrouters := (congrArg (·.routers) hsame :)
      obtain ⟨rs, hrs, hi⟩ := hx
      exact ⟨rs, (hrouters ▸ hrs :), hi⟩
  | member id =>
      have hmembers : c'.status.loadBalancerMemberIDs = c.status.loadBalancerMemberIDs :=
        (congrArg (·.loadBalancerMemberIDs) hsame :)
      show id ∈ c'.status.loadBalancerMemberIDs
      rw [hmembers]
      exact hx

/-- What the status refers to of a part. -/
def PartRef (part : Part) (c : CloudscaleCluster) (x : Made) : Prop :=
  x.part = part ∧ Referenced c x

theorem PartRef.referenced (part : Part) (c : CloudscaleCluster) (x : Made)
    (hx : PartRef part c x) :
    Referenced c x := hx.2

variable {α β : Type} {part : Part}

/-- What is made by requests about a part belongs to it. -/
theorem partRef_of_about {own : Made → Prop} {h h' : Trace} (hlog : New (Noted madeBy own) h h')
    (habout : New (fun e => About part e.op) h h') :
    New (Noted madeBy fun x => x.part = part ∧ own x) h h' := by
  obtain ⟨t, rfl, ht⟩ := hlog
  obtain ⟨t', heq, ht'⟩ := habout
  obtain rfl := List.append_cancel_left heq
  refine ⟨t, rfl, fun e he x hx => ⟨?_, ht e he x hx⟩⟩
  have hpart := part_of_madeBy hx
  rcases ht' e he with habout | hkube
  · exact hpart.trans habout
  · -- requests to Kubernetes make nothing
    rw [hkube] at hpart
    cases x with
    | resource k id => cases k <;> cases hpart
    | interface | member => cases hpart

theorem Accounts.ofPart {m : ClusterM α} {f : CloudscaleCluster → β}
    (hm : Accounts known Referenced m) (hframe : Frame f (About part) m) :
    Accounts known (PartRef part) m := by
  intro c h
  refine wpc_imp (wpc_and (hm c h) (hframe.wpc_new c h)) ?_
  rintro _ c' h' ⟨hlog, -, habout⟩ hfresh
  exact partRef_of_about (hlog hfresh) habout

theorem retains_part {m : ClusterM α} {P : Op → Prop}
    (hm : Frame (fun c => slice part c.status) P m) :
    Retains (PartRef part) m := by
  refine .of_frame hm fun c c' hsame x hx => ?_
  obtain ⟨rfl, hx⟩ := hx
  exact ⟨rfl, hx.of_slice hsame⟩

/-! ## The steps after the routers -/

theorem finishNormal_makesNothing (lb : LbStatus) {own : CloudscaleCluster → Made → Prop} :
    Accounts known own (finishNormal cluster lb) :=
  .of_frame (finishNormal_blind cluster lb) fun _ => False.elim

/-- Without the fields of another part, a slice is the same. -/
theorem slice_factors {view : CloudscaleCluster → CloudscaleCluster}
    (hview : ∀ c, slice part (view c).status = slice part c.status) :
    (fun c : CloudscaleCluster => slice part c.status).FactorsThrough view :=
  fun c c' hsame => (hview c).symm.trans
    ((congrArg (fun c => slice part c.status) hsame).trans (hview c'))

theorem slice_setCondition (t : ConditionType) (status : ConditionStatus) (reason : Reason)
    (message : String) (c : CloudscaleCluster) :
    slice part (setCondition t status reason message c).status = slice part c.status := by
  cases part <;> rfl

theorem reconcileLoadBalancer_slice (hpart : part ≠ .loadBalancer) :
    Frame (fun c => slice part c.status) (About .loadBalancer) (reconcileLoadBalancer cluster) := by
  refine reconcileLoadBalancer_blind cluster (slice_factors fun c => ?_) (slice_setCondition _)
  cases part <;> first | rfl | contradiction

theorem reconcileFloatingIP_slice (hpart : part ≠ .floatingIP) :
    Frame (fun c => slice part c.status) (About .floatingIP) (reconcileFloatingIP cluster) := by
  refine reconcileFloatingIP_blind cluster (slice_factors fun c => ?_) (slice_setCondition _)
  cases part <;> first | rfl | contradiction

theorem finishNormal_slice (lb : LbStatus) {P : Op → Prop} :
    Frame (fun c => slice part c.status) P (finishNormal cluster lb) := by
  refine (finishNormal_blind cluster lb).mono (fun c c' hsame => slice_factors (fun c => ?_) hsame)
    fun _ => False.elim
  cases part <;> rfl

theorem afterRouters_records :
    Accounts known Referenced (afterRouters cluster) := by
  refine .bind FreshUUIDs.initial
    (.wrapErr ((reconcileLoadBalancer_records cluster).ofPart
      (reconcileLoadBalancer_frame cluster)))
    (fun out => ?_) (fun out => ?_) (PartRef.referenced _) fun _ _ => id
  · refine retains_part (P := About .floatingIP) (.ite (fun _ => .pure _) fun _ => ?_)
    refine .bind (.wrapErr (reconcileFloatingIP_slice cluster (by decide))) fun _ => ?_
    exact .ite (fun _ => .pure _) fun _ => finishNormal_slice cluster _
  · refine .ite (fun _ => .pure _) fun _ => .bind FreshUUIDs.initial
      (.wrapErr ((reconcileFloatingIP_records cluster).ofPart (reconcileFloatingIP_frame cluster)))
      (fun _ => ?_) (fun _ => .ite (fun _ => .pure _) fun _ => finishNormal_makesNothing cluster _)
      (PartRef.referenced _) fun _ _ => id
    exact retains_part (P := fun _ => True)
      (.ite (fun _ => .pure _) fun _ => finishNormal_slice cluster _)

/-- Networks and routers are done with. -/
theorem afterRouters_slice (hlb : part ≠ .loadBalancer) (hfip : part ≠ .floatingIP) :
    Frame (fun c => slice part c.status) (fun op => partOf op ≠ .network)
      (afterRouters cluster) := by
  refine .bind (.wrapErr ((reconcileLoadBalancer_slice cluster hlb).mono (fun _ _ => id) ?_))
    fun _ => .ite (fun _ => .pure _) fun _ => ?_
  · rintro op (hop | hop) <;> rw [hop] <;> decide
  refine .bind (.wrapErr ((reconcileFloatingIP_slice cluster hfip).mono (fun _ _ => id) ?_))
    fun _ => .ite (fun _ => .pure _) fun _ => finishNormal_slice cluster _
  rintro op (hop | hop) <;> rw [hop] <;> decide

/-! ## The pass -/

theorem reconcileRouters_slice :
    Frame (fun c => slice .network c.status) (fun op => partOf op ≠ .network)
      (reconcileRouters cluster) := by
  refine (reconcileRouters_blind (f := fun c => slice .network c.status) cluster
    (fun _ => ⟨fun _ _ => rfl, fun _ _ _ _ => rfl⟩) fun _ _ _ _ => rfl).mono (fun _ _ => id) ?_
  rintro op (hop | hop) <;> rw [hop] <;> decide

/-- Past the networks everything is accounted for, and the networks are left alone. -/
theorem afterNetworks_records (known : Made → Prop) (cluster : Cluster)
    (hkeys : UniqueKeys c.spec) :
    (history fun _ _ => True).wpc
      (fun _ c' h' => slice .network c'.status = slice .network c.status ∧
        New (fun e => partOf e.op ≠ .network) h h' ∧
        (FreshUUIDs known h' → New (Noted madeBy (Referenced c')) h h'))
          (afterNetwork cluster) c h := by
  refine wpc_seq (wpc_and (wpc_wrapped (reconcileRouters_records cluster hkeys) fun _ _ _ => id)
    (wpc_and ((reconcileRouters_frame cluster).wrapErr.wpc_new c h)
      ((reconcileRouters_slice cluster).wrapErr.wpc_new c h))) ?_
  rintro out c₁ h₁ ⟨hlog, ⟨-, habout⟩, hslice, hops⟩
  have hlog := partRef_of_about hlog habout
  have hend : slice .network c₁.status = slice .network c.status ∧
      New (fun e => partOf e.op ≠ .network) h h₁ ∧
        (FreshUUIDs known h₁ → New (Noted madeBy (Referenced c₁)) h h₁) :=
    ⟨hslice, hops, fun _ => hlog.mono (Noted.mono fun _ hx => hx.2)⟩
  cases out with
  | error err => exact hend
  | ok result =>
      rw [after_ok, wpc_ite]
      split
      · exact hend
      -- later steps account for what they make and keep the entries of networks and routers
      have hrecords : Accounts known Referenced (afterRouters cluster) :=
        afterRouters_records cluster
      have hrouters : Retains (PartRef .router) (afterRouters cluster) :=
        retains_part (afterRouters_slice cluster (by decide) (by decide))
      have hnetworks : Frame (fun c => slice .network c.status) (fun op => partOf op ≠ .network)
          (afterRouters cluster) := afterRouters_slice cluster (by decide) (by decide)
      refine wpc_imp
        (wpc_and (hrecords c₁ h₁) (wpc_and (hrouters c₁ h₁) (hnetworks.wpc_new c₁ h₁))) ?_
      rintro _ c' h' ⟨hlater, hkeep, hslice', hops'⟩
      refine ⟨hslice'.trans hslice, hops.trans hops', fun hfresh => ?_⟩
      exact New.trans (hlog.mono (Noted.mono fun x hx => (hkeep x hx).2)) (hlater hfresh)

/-- How a pass may end: in the gap between a network and its subnet, or with everything accounted
for. -/
def PassEnds (known : Made → Prop) (c₀ c : CloudscaleCluster) (tr : Trace) : Prop :=
  Cut c₀ c tr ∨ (SubnetsFollow tr ∧ (FreshUUIDs known tr → ∀ e ∈ tr, Noted madeBy (Referenced c) e))

theorem PassEnds.setReadyCondition {c₀ : CloudscaleCluster} {tr : Trace}
    (hend : PassEnds known c₀ c tr) :
    PassEnds known c₀ (setReadyCondition c) tr := by
  rcases hend with hcut | ⟨hfollow, hnoted⟩
  · exact .inl hcut
  · refine .inr ⟨hfollow, fun hfresh e he => Noted.mono (fun x hx => ?_) e (hnoted hfresh e he)⟩
    exact hx.of_slice (by cases x.part <;> rfl)

/-- The whole pass: cut short at a network, or all it has made is referred to. -/
theorem reconcileNormal_records (hnames : (c.spec.networks.map (·.name)).Nodup)
    (hkeys : UniqueKeys c.spec) :
    (history fun _ _ => True).wpc (fun _ => PassEnds known c) (reconcileNormal cluster) c [] := by
  rw [reconcileNormal, wpc_deferred]
  refine wpc_imp (Q := fun _ => PassEnds known c) ?_ fun _ _ _ => PassEnds.setReadyCondition
  refine wpc_seq (wpc_and (wpc_wrapped (reconcileNetwork_step cluster hnames) fun _ _ _ => id)
    ((reconcileNetwork_frame cluster).wrapErr.wpc_new c [])) ?_
  rintro out c₁ h₁ ⟨hstep, hsame, habout⟩
  have hend : PassEnds known c c₁ h₁ := by
    rcases hstep with ⟨-, hcut⟩ | ⟨-, t, rfl, hfollow, hnoted⟩
    · exact .inl hcut
    · exact .inr ⟨hfollow, fun _ => hnoted⟩
  cases out with
  | error err => exact hend
  | ok result =>
      rw [after_ok, wpc_ite]
      split
      · exact hend
      next hzero =>
      rcases hstep with ⟨hstop, -⟩ | ⟨-, _, rfl, hfollow, hnoted⟩
      · rw [Stopped] at hstop
        simp [hstop] at hzero
      have hspec : c₁.spec = c.spec := (congrArg (·.spec) hsame :)
      -- what the first step made are networks, and later steps keep their entries
      have hnets := partRef_of_about
        (⟨h₁, rfl, hnoted⟩ : New (Noted madeBy (Referenced c₁)) [] h₁) habout
      refine wpc_imp (afterNetworks_records known cluster (hspec ▸ hkeys)) ?_
      rintro _ c' _ ⟨hslice, ⟨t', rfl, hops⟩, hlater⟩
      refine .inr ⟨hfollow.append (.of_none fun e he id hmade => ?_), fun hfresh => ?_⟩
      · exact hops e he (part_of_madeBy hmade).symm
      · have hall : New (Noted madeBy (Referenced c')) [] (h₁ ++ t') := by
          refine New.trans (hnets.mono (Noted.mono ?_)) (hlater hfresh)
          rintro x ⟨hpart, hx⟩
          exact hx.of_slice (by rw [hpart]; exact hslice)
        obtain ⟨t'', heq, hnoted'⟩ := hall
        rw [heq]
        exact hnoted'

/-! ## The result -/

/-- A network that was created in the gap is not referred to. -/
theorem Cut.unrecorded {c₀ : CloudscaleCluster} {tr : Trace} (hcut : Cut c₀ c tr)
    (hfresh : FreshUUIDs (Referenced c₀) tr) :
    ¬ SubnetsFollow tr ∧ ¬ ∀ e ∈ tr, Noted madeBy (Referenced c) e := by
  obtain ⟨pre, req, network, post, rfl, hpost, hsrc⟩ := hcut
  refine ⟨fun hfollow => ?_, fun hnoted => ?_⟩
  · obtain ⟨e, he, hfound⟩ := hfollow pre req network post rfl
    rw [hpost e he] at hfound
    cases hfound
  · obtain ⟨hknown, hseen⟩ := hfresh pre _ post _ rfl rfl (fun _ heq => by cases heq)
    obtain ⟨ns, hns, hid⟩ := hnoted _ (List.mem_append_right _ List.mem_cons_self) _ rfl
    rcases hsrc ns hns with hold | ⟨e, he, hmem⟩
    · exact hknown (hid ▸ hold)
    · exact hseen e he (hid ▸ hmem)

/-- The status of a cluster refers to all that a pass has created exactly if each network that was
created is followed by its subnet. -/
theorem reconcileNormal_refers_iff {cluster : Cluster} {c c' : CloudscaleCluster} {tr : Trace}
    {out : Except GoError Result} (hnames : (c.spec.networks.map (·.name)).Nodup)
    (hkeys : UniqueKeys c.spec) (hfresh : FreshUUIDs (Referenced c) tr)
    (hrun : ((reconcileNormal cluster).exec c).Runs tr (out, c')) :
    (∀ e ∈ tr, Noted madeBy (Referenced c') e) ↔ SubnetsFollow tr := by
  have hend : PassEnds (Referenced c) c c' tr := Interaction.runs_of_wpc
    (reconcileNormal_records cluster hnames hkeys) hrun fun _ _ => trivial
  rcases hend with hcut | ⟨hfollow, hnoted⟩
  · obtain ⟨hnot, hlost⟩ := hcut.unrecorded hfresh
    exact iff_of_false hlost hnot
  · exact iff_of_true (hnoted hfresh) hfollow

/-- That of a machine always does. -/
theorem machineReconcileNormal_refers {s : MachineScope} {m m' : CloudscaleMachine} {tr : Trace}
    {out : Except GoError Result} (hrun : ((machineReconcileNormal s).exec m).Runs tr (out, m')) :
    ∀ e ∈ tr, Noted madeBy (MachineReferenced m') e := by
  obtain ⟨t, heq, hnoted⟩ := Interaction.runs_of_wpc (machineReconcileNormal_records s m [])
    hrun (fun _ _ => trivial) trivial
  obtain rfl : tr = t := heq
  exact hnoted

/-- For every cluster whose networks, routers and interfaces have different names, every machine,
and every way in which calls are answered with new UUIDs: the status that a machine's pass leaves
behind refers to all that the pass has created, and so does a cluster's status exactly if each
network that was created is followed by its subnet. -/
theorem created_recorded_iff {cluster : Cluster} {c c' : CloudscaleCluster} {tr : Trace}
    {out : Except GoError Result} {s : MachineScope} {m m' : CloudscaleMachine} {machineTr : Trace}
    {machineOut : Except GoError Result}
    (hnames : (c.spec.networks.map (·.name)).Nodup) (hkeys : UniqueKeys c.spec)
    (hfresh : FreshUUIDs (Referenced c) tr)
    (hrun : ((reconcileNormal cluster).exec c).Runs tr (out, c'))
    (hmachineRun : ((machineReconcileNormal s).exec m).Runs machineTr (machineOut, m')) :
    ((∀ e ∈ tr, Noted madeBy (Referenced c') e) ↔ SubnetsFollow tr) ∧
      ∀ e ∈ machineTr, Noted madeBy (MachineReferenced m') e :=
  ⟨reconcileNormal_refers_iff hnames hkeys hfresh hrun, machineReconcileNormal_refers hmachineRun⟩

/-- No identifier is handed out that is among those seen so far. -/
def freshFrom (seen : List String) : Trace → Bool
  | [] => true
  | e :: tr => (madeBy e.op e.reply).all (·.id ∉ seen) && freshFrom
      (mentions e.op e.reply ++ seen) tr

theorem fresh_of_freshFrom (tr : Trace) : ∀ {known : Made → Prop} (seen : List String),
    (∀ x, known x → x.id ∈ seen) → freshFrom seen tr = true → FreshUUIDs known tr := by
  induction tr with
  | nil => exact fun _ _ _ pre e post x heq => by simp at heq
  | cons e tr ih =>
      intro known seen hknown hcheck pre e' post x heq hx hip
      obtain ⟨hnew, hrest⟩ := Bool.and_eq_true_iff.mp hcheck
      cases pre with
      | nil =>
          obtain ⟨rfl, rfl⟩ := List.cons.inj heq
          refine ⟨fun hk => ?_, by simp⟩
          rw [hx] at hnew
          exact absurd (hknown x hk) (by simpa using hnew)
      | cons e₀ pre =>
          obtain ⟨rfl, rfl⟩ := List.cons.inj heq
          -- from here on, what the first event mentions is known as well
          have hfresh : FreshUUIDs (fun x => known x ∨ x.id ∈ mentions e.op e.reply)
              (pre ++ e' :: post) := by
            refine ih _ ?_ hrest
            rintro x (hk | hmem)
            · exact List.mem_append_right _ (hknown x hk)
            · exact List.mem_append_left _ hmem
          obtain ⟨hnot, hseen⟩ := hfresh pre e' post x rfl hx hip
          refine ⟨fun hk => hnot (.inl hk), fun e₁ he₁ => ?_⟩
          rcases List.mem_cons.mp he₁ with rfl | he₁
          · exact fun hmem => hnot (.inr hmem)
          · exact hseen e₁ he₁

/-- Nothing is known of a cluster that has just been created. -/
theorem storedCluster_refers {x : Made} (hx : Referenced storedCluster x) : x.id ∈ [""] := by
  cases x with
  | resource k id =>
      cases k with
      | network | subnet | router =>
          obtain ⟨e, he, -⟩ := hx
          cases he
      | server | serverGroup => exact hx.elim
      | _ => exact List.mem_singleton.mpr (Eq.symm hx)
  | interface id =>
      obtain ⟨e, he, -⟩ := hx
      cases he
  | member id => cases hx

/-- Networks, subnets and servers can be created. -/
def creating (subnets : Bool) : (op : Op) → op.Reply
  | .create .network _ => .ok { uuid := "n", zone := "rma1" }
  | .create .subnet req => if subnets then .ok { uuid := "s", network := "n" } else emptyReply
      (.create .subnet req)
  | .create .server _ => .ok { uuid := "srv" }
  | .getSecret _ _ => .ok [("value", "")]
  | op => emptyReply op

/-- A first pass over it. -/
def creatingPass (subnets : Bool) : Trace × (Except GoError Result × CloudscaleCluster) :=
  (reconcileNormal { name := "c", ns := "default" }).record (creating subnets) storedCluster

/-- What the calls of a trace have made. -/
def allMade (tr : Trace) : List Made := tr.filterMap fun e => madeBy e.op e.reply

/-- A first pass over a machine of the cluster. -/
def serverPass : Trace × (Except GoError Result × CloudscaleMachine) :=
  (machineReconcileNormal
    { cluster := { name := "c", ns := "default" }
      machine := { ns := "default", dataSecretName := some "data" }
      cloudscaleCluster := (creatingPass true).2.2 }).record (creating true)
    { metadata := { name := "m", ns := "default" } }

/-- The passes create a network with its subnet, and a server. -/
theorem created_recorded_iff_created :
    allMade (creatingPass true).1 = [.resource .network "n", .resource .subnet "s"] ∧
    allMade serverPass.1 = [.resource .server "srv"] ∧
    ((∀ e ∈ (creatingPass true).1, Noted madeBy (Referenced (creatingPass true).2.2) e) ↔
      SubnetsFollow (creatingPass true).1) ∧
    ∀ e ∈ serverPass.1, Noted madeBy (MachineReferenced serverPass.2.2) e := by
  refine ⟨by decide +kernel, by decide +kernel, ?_⟩
  exact created_recorded_iff (c := storedCluster) (by decide) (by decide)
    (fresh_of_freshFrom _ [""] (fun _ => storedCluster_refers) (by decide +kernel))
    ((reconcileNormal _).runs_record _ _) ((machineReconcileNormal _).runs_record _ _)

/-- `Networks.Create` returns a network, and the create of its subnet times out: the pass ends with
a requeue and a status without networks. -/
theorem network_unrecorded :
    (clusterValidateCreate oneRegion storedCluster).Accepted ∧ UniqueKeys storedCluster.spec ∧
    ((reconcileNormal { name := "c", ns := "default" }).exec storedCluster).Runs
      (creatingPass false).1 ((creatingPass false).2.1, (creatingPass false).2.2) ∧
    FreshUUIDs (Referenced storedCluster) (creatingPass false).1 ∧
    allMade (creatingPass false).1 = [.resource .network "n"] ∧
    (creatingPass false).2.2.status.networks = [] ∧
    ¬ ∀ e ∈ (creatingPass false).1, Noted madeBy (Referenced (creatingPass false).2.2) e := by
  have hmade : allMade (creatingPass false).1 = [.resource .network "n"] := by decide +kernel
  have hnone : (creatingPass false).2.2.status.networks = [] := by decide +kernel
  refine ⟨by decide, by decide, (reconcileNormal _).runs_record _ _,
    fresh_of_freshFrom _ [""] (fun _ => storedCluster_refers) (by decide +kernel), hmade, hnone,
    fun hall => ?_⟩
  have hmem : .resource .network "n" ∈ allMade (creatingPass false).1 :=
    hmade ▸ List.mem_singleton.mpr rfl
  obtain ⟨e, he, hx⟩ := List.mem_filterMap.mp hmem
  obtain ⟨ns, hns, -⟩ := hall e he _ hx
  rw [hnone] at hns
  cases hns

end Capcs.Records
