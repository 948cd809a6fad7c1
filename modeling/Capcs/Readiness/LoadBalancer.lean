import Capcs.Readiness.Calls

/-!
# Capcs.Readiness.LoadBalancer — the load balancer step

What `reconcileLoadBalancer` leaves in status. `LbEnds` lists how its body can end
without an error: with everything recorded, waiting for a load balancer that is not
running, or cut short by a create that timed out. In the last case the ID of what was
to be created is empty, unless it was a pool member.
-/

namespace Capcs.Readiness

open Cloudscale Controller
open Interaction (Program Proc Frame New history history_perform)
open Interaction.Contract

variable {c c' c'' : CloudscaleCluster} {h h' : Trace}

/-! ## Entries -/

/-- The pool, the listener and the health monitor are recorded. -/
structure ChildrenRecorded (c : CloudscaleCluster) : Prop where
  pool : c.status.loadBalancerPoolID ≠ ""
  listener : c.status.loadBalancerListenerID ≠ ""
  healthMonitor : c.status.loadBalancerHealthMonitorID ≠ ""

/-- The load balancer step touches its own fields only. -/
def LbOnly (c c' : CloudscaleCluster) : Prop :=
  c' = { c with status := { c.status with
    loadBalancerID := c'.status.loadBalancerID
    loadBalancerPoolID := c'.status.loadBalancerPoolID
    loadBalancerListenerID := c'.status.loadBalancerListenerID
    loadBalancerHealthMonitorID := c'.status.loadBalancerHealthMonitorID
    loadBalancerMemberIDs := c'.status.loadBalancerMemberIDs } }

theorem LbOnly.trans (h₁ : LbOnly c c') (h₂ : LbOnly c' c'') : LbOnly c c'' := by
  unfold LbOnly at *
  rw [h₂, h₁]

/-! ## The owned resources -/

/-- How `reconcileOwned` ends: the field holds the ID, or is empty after a timeout. -/
def OwnedEnds (k : Kind) (x : TimedOut)
    (setID : String → CloudscaleClusterStatus → CloudscaleClusterStatus) (c : CloudscaleCluster)
    (h : Trace) (out : Except GoError Result) (c' : CloudscaleCluster) (h' : Trace) : Prop :=
  ∃ v, c' = { c with status := setID v c.status } ∧ match out with
    | .error _ => New InTime h h'
    | .ok result =>
      (result.isZero = true ∧ v ≠ "" ∧ New InTime h h' ∧ (k ≠ .loadBalancer → Quiet h h')) ∨
      (result.isZero = false ∧ v = "" ∧ Stops x h h')

theorem reconcileOwned_spec {k : Kind} {x : TimedOut} {what : String}
    {id : CloudscaleClusterStatus → String}
    {setID : String → CloudscaleClusterStatus → CloudscaleClusterStatus}
    {request : CloudscaleCluster → Except GoError k.Request}
    (hx : ∀ req, createPurpose k req = some x) (hself : ∀ s, setID (id s) s = s)
    (hset : ∀ u v s, setID v (setID u s) = setID v s) :
    calls.wpc (OwnedEnds k x setID c h) (reconcileOwned k what id setID request) c h := by
  rw [reconcileOwned, wpc_read_bind]
  refine wpc_seq ensureResource_spec ?_
  rintro out c₁ h₁ ⟨rfl, hens⟩
  rcases out with err | ⟨_ | resource, found⟩
  · exact ⟨id c₁.status, by rw [hself], hens.1⟩
  · obtain ⟨rfl, hq⟩ := hens
    simp only [after_ok, wpc_bind, wpc_update, wpc_read, ne_eq, not_true, if_false]
    split
    · exact ⟨"", rfl, hq.inTime⟩
    · refine wpc_seq createResource_spec ?_
      rintro out c₂ h₂ ⟨rfl, hcr⟩
      rcases out with err | result | resource
      · exact ⟨"", rfl, hq.inTime.trans (Quiet.inTime hcr)⟩
      · obtain ⟨rfl, hstop⟩ := hcr
        rw [hx] at hstop
        exact ⟨"", rfl, .inr ⟨rfl, rfl, hstop.after hq⟩⟩
      · refine ⟨uuidOf resource, ?_, .inl ⟨rfl, uuidOf_ne_of_identified hcr.1, ?_, ?_⟩⟩
        · simp only [hset]
        · exact hq.inTime.trans (Quiet.inTime hcr.2)
        · exact fun _ => hq.trans hcr.2
  · obtain ⟨-, hid, hin, hq⟩ := hens
    simp only [after_ok, wpc_bind, wpc_update, if_pos hid]
    exact ⟨found, rfl, .inl ⟨rfl, hid, hin, hq⟩⟩

theorem reconcileLB_spec :
    calls.wpc (OwnedEnds .loadBalancer .loadBalancer (fun id s => { s with
      loadBalancerID := id }) c h) reconcileLB c h :=
  reconcileOwned_spec (fun _ => rfl) (fun _ => rfl) fun _ _ _ => rfl

theorem reconcileLBPool_spec :
    calls.wpc (OwnedEnds .pool .child (fun id s => { s with loadBalancerPoolID := id }) c h)
      reconcileLBPool c h :=
  reconcileOwned_spec (fun _ => rfl) (fun _ => rfl) fun _ _ _ => rfl

theorem reconcileLBListener_spec :
    calls.wpc (OwnedEnds .listener .child (fun id s => { s with loadBalancerListenerID := id }) c h)
      reconcileLBListener c h :=
  reconcileOwned_spec (fun _ => rfl) (fun _ => rfl) fun _ _ _ => rfl

theorem reconcileLBHealthMonitor_spec :
    calls.wpc (OwnedEnds .healthMonitor .child
        (fun id s => { s with loadBalancerHealthMonitorID := id }) c h)
      reconcileLBHealthMonitor c h :=
  reconcileOwned_spec (fun _ => rfl) (fun _ => rfl) fun _ _ _ => rfl

/-! ## Members -/

/-- Working on members touches their IDs only. -/
def MembersOnly (c c' : CloudscaleCluster) : Prop :=
  c' = { c with status := { c.status with
    loadBalancerMemberIDs := c'.status.loadBalancerMemberIDs } }

theorem MembersOnly.trans (h₁ : MembersOnly c c') (h₂ : MembersOnly c' c'') :
    MembersOnly c c'' := by
  unfold MembersOnly at *
  rw [h₂, h₁]

/-- How a part of the work on members ends. -/
def MembersEnd (c : CloudscaleCluster) (h : Trace) (out : Except GoError Result)
    (c' : CloudscaleCluster) (h' : Trace) : Prop :=
  MembersOnly c c' ∧ match out with
    | .error _ => Quiet h h'
    | .ok result => (result.isZero = true ∧ Quiet h h') ∨
        (result.isZero = false ∧ Stops .member h h')

/-- A part that ends quietly whatever it returns. -/
def QuietEnd {α : Type} (c : CloudscaleCluster) (h : Trace) (_out : Except GoError α)
    (c' : CloudscaleCluster) (h' : Trace) : Prop := MembersOnly c c' ∧ Quiet h h'

theorem QuietEnd.trans {α β : Type} {h'' : Trace} {out : Except GoError α} {out' : Except GoError β}
    (h₁ : QuietEnd c h out c' h') (h₂ : QuietEnd c' h' out' c'' h'') : QuietEnd c h out' c'' h'' :=
  ⟨h₁.1.trans h₂.1, h₁.2.trans h₂.2⟩

theorem quietEnd_of_frame {α : Type} {P : Op → Prop} {m : ClusterM α} (hm : Frame offMembers P m)
    (hP : ∀ op, P op → PlainOp op) : calls.wpc (QuietEnd c h) m c h := by
  refine wpc_imp (quiet_of_frame hm hP) fun _ c' _ hend => ⟨?_, hend.2⟩
  exact (congrArg (fun x : CloudscaleCluster => { x with status := { x.status with
    loadBalancerMemberIDs := c'.status.loadBalancerMemberIDs } }) hend.1 :)

theorem ReadsMembers.plain {op : Op} (hop : ReadsMembers op) : PlainOp op := by
  cases op with
  | listMembers | listMachines => trivial
  | _ => exact hop.elim

theorem createLoadBalancerMember_spec (member : LoadBalancerPoolMemberRequest) :
    calls.wpc (MembersEnd c h) (createLoadBalancerMember member) c h := by
  rw [createLoadBalancerMember, wpc_read_bind, wpc_bind]
  refine history_perform ?_
  intro r _
  cases r with
  | ok member => exact ⟨rfl, .inl ⟨rfl, .snoc ⟨rfl, rfl⟩ h⟩⟩
  | error err =>
      simp only [after_ok]
      split
      · next ht => exact ⟨rfl, .inr ⟨rfl, h, _, .refl _ h, rfl, by simp [timedOut, ht]⟩⟩
      · next ht => exact ⟨rfl, .snoc ⟨by simp [timedOut, ht], rfl⟩ h⟩

theorem updateMoved_spec (member : LoadBalancerPoolMember)
    (desired : LoadBalancerPoolMemberRequest) :
    calls.wpc (QuietEnd c h) (updateMoved member desired) c h := by
  refine quietEnd_of_frame (P := PlainOp) (.ite (fun _ => ?_) fun _ => .pure _) fun _ => id
  refine .wrapErr (.read fun c => .bind (.perform trivial) fun r => ?_)
  split
  · exact .fail _
  · exact .pure _

theorem removeMembers_spec (desired : List LoadBalancerPoolMemberRequest)
    (members : List LoadBalancerPoolMember) :
    calls.wpc (QuietEnd c h) (removeMembers desired members) c h := by
  have hdelete (m : LoadBalancerPoolMember) : Frame offMembers PlainOp
      (deleteLoadBalancerMember m) := by
    refine .read fun c => .bind (.perform trivial) fun r => ?_
    split
    · exact .fail _
    · exact .update fun _ => rfl
  exact quietEnd_of_frame (fun x => removeMembers_preserves fun m _ => hdelete m x) fun _ => id

theorem addMembers_spec (current : List LoadBalancerPoolMember)
    (desired : List LoadBalancerPoolMemberRequest) :
    ∀ c h, calls.wpc (MembersEnd c h) (addMembers current desired) c h := by
  induction desired with
  | nil => exact fun c h => ⟨rfl, .inl ⟨rfl, .refl _ h⟩⟩
  | cons d rest ih =>
      intro c h
      -- the rest of the loop, after a quiet start
      have hrest : ∀ c₁ h₁, MembersOnly c c₁ → Quiet h h₁ →
          calls.wpc (MembersEnd c h) (addMembers current rest) c₁ h₁ := by
        intro c₁ h₁ honly hq
        refine wpc_imp (ih c₁ h₁) ?_
        rintro out c₂ h₂ ⟨honly', hout⟩
        refine ⟨honly.trans honly', ?_⟩
        cases out with
        | error err => exact hq.trans hout
        | ok result =>
            rcases hout with ⟨hz, hq'⟩ | ⟨hz, hstop⟩
            · exact .inl ⟨hz, hq.trans hq'⟩
            · exact .inr ⟨hz, hstop.after hq⟩
      rw [addMembers]
      split
      · refine wpc_seq (wpc_wrapped (createLoadBalancerMember_spec d) fun _ _ _ => id) ?_
        intro out c₁ h₁ hend
        cases out with
        | error err => exact hend
        | ok result =>
            obtain ⟨honly, hend⟩ := hend
            rcases hend with ⟨hz, hq⟩ | ⟨hz, hstop⟩
            · simp only [after_ok, if_pos hz]
              exact hrest c₁ h₁ honly hq
            · simp only [after_ok, hz, Bool.false_eq_true, if_false]
              exact ⟨honly, .inr ⟨hz, hstop⟩⟩
      · refine wpc_seq (updateMoved_spec _ d) ?_
        rintro out c₁ h₁ ⟨honly, hq⟩
        cases out with
        | error err => exact ⟨honly, hq⟩
        | ok _ => exact hrest c₁ h₁ honly hq

/-- The step ends quietly, or at a create that timed out. -/
theorem reconcileLBMembers_spec (cluster : Cluster) :
    calls.wpc (MembersEnd c h) (reconcileLBMembers cluster) c h := by
  rw [reconcileLBMembers, wpc_read_bind, wpc_bind]
  refine quiet_perform trivial fun r h₀ _ hq => ?_
  cases r with
  | error err => exact ⟨rfl, hq⟩
  | ok currentMembers =>
      simp only [after_ok]
      refine wpc_seq (wpc_wrapped (quietEnd_of_frame (getDesiredLoadBalancerMembers_frame cluster)
        fun _ => ReadsMembers.plain) fun _ _ _ => id) ?_
      rintro out c₁ h₁ ⟨honly, hq₁⟩
      cases out with
      | error err => exact ⟨honly, hq.trans hq₁⟩
      | ok desired =>
          rw [after_ok]
          refine wpc_seq (addMembers_spec currentMembers desired c₁ h₁) ?_
          rintro out c₂ h₂ ⟨honly₂, hout⟩
          cases out with
          | error err => exact ⟨honly.trans honly₂, (hq.trans hq₁).trans hout⟩
          | ok result =>
              -- a create that timed out ends the step before anything is removed
              rcases hout with ⟨hz, hq₂⟩ | ⟨hz, hstop⟩
              · simp only [after_ok, if_pos hz]
                refine wpc_seq (removeMembers_spec desired currentMembers) ?_
                rintro out c₃ h₃ ⟨honly₃, hq₃⟩
                have hall := ((hq.trans hq₁).trans hq₂).trans hq₃
                cases out with
                | error err => exact ⟨(honly.trans honly₂).trans honly₃, hall⟩
                | ok _ => exact ⟨(honly.trans honly₂).trans honly₃, .inl ⟨rfl, hall⟩⟩
              · simp only [after_ok, hz, Bool.false_eq_true, if_false]
                exact ⟨honly.trans honly₂, .inr ⟨hz, hstop.after (hq.trans hq₁)⟩⟩

/-! ## Below the load balancer -/

/-- How `reconcileLBChildren` ends. -/
def ChildrenEnd (c : CloudscaleCluster) (h : Trace) (out : Except GoError Result)
    (c' : CloudscaleCluster) (h' : Trace) : Prop :=
  LbOnly c c' ∧ c'.status.loadBalancerID = c.status.loadBalancerID ∧ match out with
    | .error _ => New InTime h h'
    | .ok result =>
      (result.isZero = true ∧ ChildrenRecorded c' ∧ Quiet h h') ∨
      (result.isZero = false ∧ ¬ ChildrenRecorded c' ∧ Stops .child h h') ∨
      (result.isZero = false ∧ ChildrenRecorded c' ∧ Stops .member h h')

theorem reconcileLBChildren_spec (cluster : Cluster) :
    calls.wpc (ChildrenEnd c h) (reconcileLBChildren cluster) c h := by
  rw [reconcileLBChildren]
  refine wpc_seq (wpc_wrapped reconcileLBPool_spec fun _ _ _ => id) ?_
  rintro out c₁ h₁ ⟨pool, rfl, hpool⟩
  cases out with
  | error err => exact ⟨rfl, rfl, hpool⟩
  | ok result =>
    rcases hpool with ⟨hz, hpid, -, hq₁⟩ | ⟨hz, hpid, hstop⟩
    case inr =>
      simp only [after_ok, hz, Bool.not_false, if_true]
      exact ⟨rfl, rfl, .inr (.inl ⟨hz, fun hrec => hrec.pool hpid, hstop⟩)⟩
    replace hq₁ := hq₁ (by simp)
    simp only [after_ok, hz, Bool.not_true, Bool.false_eq_true, if_false]
    refine wpc_seq (wpc_wrapped reconcileLBListener_spec fun _ _ _ => id) ?_
    rintro out c₂ h₂ ⟨listener, rfl, hlistener⟩
    cases out with
    | error err => exact ⟨rfl, rfl, hq₁.inTime.trans hlistener⟩
    | ok result =>
      rcases hlistener with ⟨hz, hlid, -, hq₂⟩ | ⟨hz, hlid, hstop⟩
      case inr =>
        simp only [after_ok, hz, Bool.not_false, if_true]
        exact ⟨rfl, rfl, .inr (.inl ⟨hz, fun hrec => hrec.listener hlid, hstop.after hq₁⟩)⟩
      replace hq₂ := hq₁.trans (hq₂ (by simp))
      simp only [after_ok, hz, Bool.not_true, Bool.false_eq_true, if_false]
      refine wpc_seq (wpc_wrapped reconcileLBHealthMonitor_spec fun _ _ _ => id) ?_
      rintro out c₃ h₃ ⟨monitor, rfl, hmonitor⟩
      cases out with
      | error err => exact ⟨rfl, rfl, (Quiet.inTime hq₂).trans hmonitor⟩
      | ok result =>
        rcases hmonitor with ⟨hz, hmid, -, hq₃⟩ | ⟨hz, hmid, hstop⟩
        case inr =>
          simp only [after_ok, hz, Bool.not_false, if_true]
          exact ⟨rfl, rfl, .inr (.inl ⟨hz, fun hrec => hrec.healthMonitor hmid, hstop.after hq₂⟩)⟩
        replace hq₃ := hq₂.trans (hq₃ (by simp))
        simp only [after_ok, hz, Bool.not_true, Bool.false_eq_true, if_false]
        -- the members leave all four IDs alone
        refine wpc_wrapped (wpc_imp (reconcileLBMembers_spec cluster) ?_) fun _ _ _ => id
        rintro out c₄ h₄ ⟨honly, hout⟩
        have hrec : ChildrenRecorded c₄ := by
          rw [honly]
          exact ⟨hpid, hlid, hmid⟩
        refine ⟨by rw [honly]; rfl, by rw [honly], ?_⟩
        cases out with
        | error err => exact (Quiet.inTime hq₃).trans (Quiet.inTime hout)
        | ok result =>
            rcases hout with ⟨hz, hq₄⟩ | ⟨hz, hstop⟩
            · exact .inl ⟨hz, hrec, hq₃.trans hq₄⟩
            · exact .inr (.inr ⟨hz, hrec, hstop.after hq₃⟩)

/-! ## The whole step -/

/-- How the body of `reconcileLoadBalancer` can end without an error. -/
inductive LbEnds (h : Trace) (c' : CloudscaleCluster) (h' : Trace) (o : LbOutcome) : Prop where
  | complete {lb : LoadBalancer} (zero : o.result.isZero = true) (seen : lastLB h' = some lb)
      (vip : o.status.ipAddress = lb.vipAddresses.head?.getD "")
      (pending : o.pending = none ↔ lb.status = loadBalancerRunningStatus)
      (recorded : c'.status.loadBalancerID ≠ "" ∧ ChildrenRecorded c') (inTime : New InTime h h')
  | waiting (wait : o.result.isZero = false) (pending : o.pending ≠ none) (inTime : New InTime h h')
  | timedOut (wait : o.result.isZero = false) (pending : o.pending = none)
      (empty : c'.status.loadBalancerID = "") (ends : EndsBy .loadBalancer h h')
  | childTimedOut {lb : LoadBalancer} (wait : o.result.isZero = false) (seen : lastLB h' = some lb)
      (pending : o.pending = none ↔ lb.status = loadBalancerRunningStatus)
      (missing : ¬ ChildrenRecorded c') (ends : EndsBy .child h h')
  | memberTimedOut {lb : LoadBalancer} (wait : o.result.isZero = false) (seen : lastLB h' = some lb)
      (pending : o.pending = none ↔ lb.status = loadBalancerRunningStatus)
      (recorded : c'.status.loadBalancerID ≠ "" ∧ ChildrenRecorded c') (ends : EndsBy .member h h')

/-- A step without a requeue has gone through. -/
theorem LbEnds.of_isZero {h' : Trace} {o : LbOutcome} (hend : LbEnds h c h' o)
    (hzero : o.result.isZero = true) : ∃ lb, lastLB h' = some lb ∧
      o.status.ipAddress = lb.vipAddresses.head?.getD "" ∧
      (o.pending = none ↔ lb.status = loadBalancerRunningStatus) ∧
      (c.status.loadBalancerID ≠ "" ∧ ChildrenRecorded c) ∧ New InTime h h' := by
  cases hend with
  | complete _ hseen hvip hpending hrec hin => exact ⟨_, hseen, hvip, hpending, hrec, hin⟩
  | waiting hwait | timedOut hwait | childTimedOut hwait | memberTimedOut hwait =>
      exact absurd (hzero.symm.trans hwait) (by simp)

theorem finishLoadBalancer_spec (cluster : Cluster) {lb : LoadBalancer} {pending : Option String}
    {h₀ : Trace} (hpending : pending = none ↔ lb.status = loadBalancerRunningStatus)
    (hid : c.status.loadBalancerID ≠ "") (hin : New InTime h₀ h) (hseen : lastLB h = some lb) :
    calls.wpc (fun out c' h' => LbOnly c c' ∧ match out with
        | .error _ => New InTime h₀ h'
        | .ok o => LbEnds h₀ c' h' o) (finishLoadBalancer cluster lb pending) c h := by
  rw [finishLoadBalancer]
  refine wpc_seq (reconcileLBChildren_spec cluster) ?_
  rintro out c₁ h₁ ⟨honly, hlb, hout⟩
  cases out with
  | error err => exact ⟨honly, hin.trans hout⟩
  | ok result =>
      rcases hout with ⟨hz, hrec, hq⟩ | ⟨hz, hmiss, hstop⟩ | ⟨hz, hrec, hstop⟩
      · simp only [after_ok, hz, Bool.not_true, Bool.false_eq_true, if_false]
        refine ⟨honly, .complete rfl ((lastLB_quiet hq).trans hseen) rfl hpending ?_ ?_⟩
        · exact ⟨hlb ▸ hid, hrec⟩
        · exact hin.trans (Quiet.inTime hq)
      · simp only [after_ok, hz, Bool.not_false, if_true]
        exact ⟨honly, .childTimedOut hz ((lastLB_stops hstop).trans hseen) hpending hmiss
          (hstop.ends hin)⟩
      · simp only [after_ok, hz, Bool.not_false, if_true]
        exact ⟨honly, .memberTimedOut hz ((lastLB_stops hstop).trans hseen) hpending
          ⟨hlb ▸ hid, hrec⟩ (hstop.ends hin)⟩

theorem loadBalancerBody_spec (cluster : Cluster) :
    calls.wpc (fun out c' h' => LbOnly c c' ∧ match out with
        | .error _ => New InTime h h'
        | .ok o => LbEnds h c' h' o) (loadBalancerBody cluster) c h := by
  rw [loadBalancerBody]
  refine wpc_seq (wpc_wrapped reconcileLB_spec fun _ _ _ => id) ?_
  rintro out c₁ h₁ ⟨id, rfl, hlb⟩
  cases out with
  | error err => exact ⟨rfl, hlb⟩
  | ok result =>
    rcases hlb with ⟨hz, hid, hin, -⟩ | ⟨hz, rfl, hstop⟩
    case inr =>
      simp only [after_ok, hz, Bool.not_false, if_true]
      exact ⟨rfl, .timedOut hz rfl rfl (hstop.ends (.refl _ h))⟩
    simp only [after_ok, hz, Bool.not_true, Bool.false_eq_true, if_false, wpc_bind, wpc_read,
      if_neg hid]
    refine history_perform ?_
    intro r _
    have hin' : New InTime h (h₁ ++ [⟨.get .loadBalancer id, r⟩]) := hin.trans (.snoc (by rfl) h₁)
    have honly : LbOnly c { c with status := { c.status with loadBalancerID := id } } := rfl
    cases r with
    | error err => exact ⟨rfl, hin'⟩
    | ok lb =>
        -- the load balancer just read is the last one seen
        have hseen : lastLB (h₁ ++ [⟨.get .loadBalancer id, .ok lb⟩]) = some lb := by
          rw [lastLB_snoc]
          rfl
        simp only [after_ok]
        split
        · next hrun =>
          exact wpc_imp (finishLoadBalancer_spec cluster (by simp [hrun]) hid hin' hseen)
            fun out c₂ h₂ hend => ⟨honly.trans hend.1, hend.2⟩
        · next hrun =>
          split
          · exact ⟨rfl, .waiting rfl (by simp) hin'⟩
          · refine wpc_seq (quiet_of_frame (degradedMessage_frame (f := fun c => c) lb)
              fun _ => ReadsMembers.plain) ?_
            rintro out c₂ h₂ ⟨rfl, hq⟩
            have hin₂ := hin'.trans (Quiet.inTime hq)
            cases out with
            | error err => exact ⟨rfl, hin₂⟩
            | ok msg =>
                rw [after_ok]
                exact wpc_imp (finishLoadBalancer_spec cluster (by simp [hrun]) hid hin₂
                  ((lastLB_quiet hq).trans hseen))
                  fun out c₃ h₃ hend => ⟨honly.trans hend.1, hend.2⟩

/-- The load balancer step, with the condition it writes. -/
theorem reconcileLoadBalancer_spec (cluster : Cluster) :
    calls.wpc (fun out c' h' =>
        if c.spec.controlPlaneLoadBalancer.isEnabled then
          ∃ c₁ body, c' = setLoadBalancerReady body c₁ ∧ LbOnly c c₁ ∧
            out = body.map (fun o => (o.status, o.result)) ∧ match body with
              | .error _ => New InTime h h'
              | .ok o => LbEnds h c₁ h' o
        else out = .ok ({ ready := true }, {}) ∧ h' = h ∧
          c' = setCondition .loadBalancerReady .isTrue .loadBalancerDisabled "" c)
      (reconcileLoadBalancer cluster) c h := by
  rw [reconcileLoadBalancer, wpc_read_bind, wpc_ite]
  cases hen : c.spec.controlPlaneLoadBalancer.isEnabled with
  | false => exact ⟨rfl, rfl, rfl⟩
  | true =>
      simp only [Bool.not_true, Bool.false_eq_true, if_false, if_true, wpc_bind, wpc_deferred]
      refine wpc_imp (loadBalancerBody_spec cluster) ?_
      rintro out c₁ h₁ ⟨honly, hout⟩
      cases out with
      | error err => exact ⟨c₁, .error err, rfl, honly, rfl, hout⟩
      | ok o => exact ⟨c₁, .ok o, rfl, honly, rfl, hout⟩

end Capcs.Readiness
