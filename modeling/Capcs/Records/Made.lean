import Capcs.Controller.Frames
import Capcs.Interaction.Ledger
import Capcs.Readiness.Calls

/-!
# Capcs.Records.Made — what a pass creates and what its status refers to

A create call that returns a resource has made something the controller is responsible for, and
the reference in status is the only thing it will remember of it. This module says what is made
and what is referred to, and follows the steps whose references are single fields: the load
balancer with its children and members, the floating IP, and the server and server group of a
machine. Each of them writes the identifier right after the call has returned it.
-/

namespace Capcs.Records

open Cloudscale Controller
open Readiness (Trace CallEvent)
open Interaction (Proc Frame New history history_perform Noted Logs Retains perform_preserves)
open Interaction.Contract

/-! ## What is made -/

/-- What a create call makes. -/
inductive Made where
  | resource (k : Kind) (id : String)
  | interface (id : String)
  | member (id : String)
  deriving DecidableEq, Repr

/-- The identifier it is referred to by: a UUID, or the address of a floating IP. -/
def Made.id : Made → String
  | .resource _ id => id
  | .interface id => id
  | .member id => id

/-- What a reply says has been made. -/
def madeBy : (op : Op) → op.Reply → Option Made
  | .create k _, .ok r => some (.resource k (uuidOf r))
  | .createMember _ _, .ok m => some (.member m.uuid)
  | .createInterface _ _, .ok i => some (.interface i.uuid)
  | _, _ => none

/-- The identifiers of what a reply is about. -/
def mentions : (op : Op) → op.Reply → List String
  | .get _ _, .ok r => [uuidOf r]
  | .list _ _, .ok rs => rs.map uuidOf
  | .create _ _, .ok r => [uuidOf r]
  | .listMembers _, .ok ms => ms.map (·.uuid)
  | .createMember _ _, .ok m => [m.uuid]
  | .createInterface _ _, .ok i => [i.uuid]
  | _, _ => []

/-- UUIDs are handed out once: what is made has none that is known or was seen before. The
address of a floating IP may come back. -/
def FreshUUIDs (known : Made → Prop) (tr : Trace) : Prop :=
  ∀ pre e post x, tr = pre ++ e :: post → x ∈ madeBy e.op e.reply →
    (∀ ip, x ≠ .resource .floatingIP ip) →
    ¬ known x ∧ ∀ e' ∈ pre, x.id ∉ mentions e'.op e'.reply

theorem FreshUUIDs.initial {known : Made → Prop} (h t : Trace)
    (hfresh : FreshUUIDs known (h ++ t)) :
    FreshUUIDs known h := by
  rintro pre e post x rfl
  exact hfresh pre e (post ++ t) x (by simp)

/-! ## What is referred to -/

/-- What the status of a cluster refers to. -/
def Referenced (c : CloudscaleCluster) : Made → Prop
  | .resource .network id => ∃ ns ∈ c.status.networks, ns.networkID = id
  | .resource .subnet id => ∃ ns ∈ c.status.networks, ns.subnetID = id
  | .resource .router id => ∃ rs ∈ c.status.routers, rs.routerID = id
  | .resource .loadBalancer id => c.status.loadBalancerID = id
  | .resource .pool id => c.status.loadBalancerPoolID = id
  | .resource .listener id => c.status.loadBalancerListenerID = id
  | .resource .healthMonitor id => c.status.loadBalancerHealthMonitorID = id
  | .resource .floatingIP id => c.status.floatingIP = id
  | .resource .server _ => False
  | .resource .serverGroup _ => False
  | .interface id => ∃ rs ∈ c.status.routers, ∃ i ∈ rs.interfaces, i.interfaceID = id
  | .member id => id ∈ c.status.loadBalancerMemberIDs

/-- What the status of a machine refers to. -/
def MachineReferenced (m : CloudscaleMachine) : Made → Prop
  | .resource .server id => m.status.serverID = id
  | .resource .serverGroup id => m.status.serverGroupID = id
  | _ => False

/-- The procedure accounts for all that it makes. -/
abbrev Accounts {σ α : Type} (known : Made → Prop) (own : σ → Made → Prop) (m : Recon σ α) : Prop :=
  Logs madeBy (FreshUUIDs known) own m

variable {σ α : Type} {known : Made → Prop} {own : σ → Made → Prop} {k : Kind} (cluster : Cluster)

theorem madeBy_lookup {op : Op} (hop : IsLookup op) (r : op.Reply) : madeBy op r = none := by
  cases op with
  | get | list => rfl
  | _ => exact hop.elim

theorem noted_of_lookups {h h' : Trace} (hnew : New (fun e => IsLookup e.op) h h')
    (own : Made → Prop) :
    New (Noted madeBy own) h h' := by
  refine hnew.mono fun e he x hx => ?_
  rw [madeBy_lookup he] at hx
  cases hx

/-- How a create site goes on after the reply. -/
def CreateEnds (seconds : Nat) (out : Except GoError (Except Result k.Resource)) :
    Except ApiError k.Resource → Prop
  | .ok r => out = .ok (.ok r)
  | .error _ => out = .ok (.error { requeueAfter := seconds }) ∨ ∃ err, out = .error err

theorem createResource_ends {good : (op : Op) → op.Reply → Prop} {req : k.Request} {what : String}
    {seconds : Nat} {s : σ} {h : Trace} :
    (history good).wpc (fun out s' h' => s' = s ∧ ∃ reply, good (.create k req) reply ∧
        h' = h ++ [⟨.create k req, reply⟩] ∧ CreateEnds seconds out reply)
      (createResource k req what seconds) s h := by
  rw [createResource, wpc_bind]
  refine history_perform fun reply hgood => ?_
  cases reply with
  | ok r => exact ⟨rfl, .ok r, hgood, rfl, rfl⟩
  | error err =>
      rw [after_ok, wpc_ite]
      split
      · exact ⟨rfl, .error err, hgood, rfl, .inl rfl⟩
      · exact ⟨rfl, .error err, hgood, rfl, .inr ⟨_, rfl⟩⟩

/-- A create site: the branch of the created resource has to end with a reference to it. -/
theorem records_create {I : Trace → Prop} {req : k.Request} {what : String} {seconds : Nat}
    {f : Except Result k.Resource → Recon σ α}
    (herr : ∀ result, Logs madeBy I own (f (.error result)))
    (hok : ∀ r s h, (history fun _ _ => True).wpc (fun _ s' h' => I h' →
      own s' (.resource k (uuidOf r)) ∧ New (Noted madeBy (own s')) h h') (f (.ok r)) s h) :
    Logs madeBy I own (createResource k req what seconds >>= f) := by
  intro s h
  refine wpc_seq createResource_ends ?_
  rintro out _ _ ⟨rfl, reply, -, rfl, hends⟩
  cases reply with
  | ok r =>
      obtain rfl := hends
      rw [after_ok]
      refine wpc_imp (hok r _ _) ?_
      intro _ s' h' hend hfresh
      obtain ⟨hown, hnew⟩ := hend hfresh
      refine New.trans (.snoc ?_ h) hnew
      rintro x hx
      cases hx
      exact hown
  | error err =>
      have hfail (s' : σ) : New (Noted madeBy (own s')) h (h ++ [⟨.create k req, .error err⟩]) :=
        .snoc (fun x hx => by cases hx) h
      rcases hends with rfl | ⟨e, rfl⟩
      · rw [after_ok]
        refine wpc_imp (herr _ _ _) ?_
        exact fun _ s' h' hlog hfresh => (hfail s').trans (hlog hfresh)
      · exact fun _ => hfail _

/-! ## The load balancer and its children -/

/-- A resource that a field of the status refers to. -/
def FieldRef (k : Kind) (id : CloudscaleClusterStatus → String) (c : CloudscaleCluster) (x : Made) :
    Prop := x = .resource k (id c.status)

theorem reconcileOwned_records {what : String} {getID : CloudscaleClusterStatus → String}
    {setID : String → CloudscaleClusterStatus → CloudscaleClusterStatus}
    {request : CloudscaleCluster → Except GoError k.Request}
    (hset : ∀ id s, getID (setID id s) = id) :
    Accounts known (FieldRef k getID)
      (reconcileOwned k what getID setID request) := by
  refine .read fun c => .after FreshUUIDs.initial
    (.of_frame (ensureResource_lookups (f := id) _ _ _) fun _ => madeBy_lookup) fun r => ?_
  refine .after FreshUUIDs.initial (.update _) fun _ => .ite (fun _ => .pure _) fun _ =>
    .read fun c => ?_
  split
  · exact .fail _
  · refine records_create (fun _ => .pure _) fun r c h => ?_
    exact fun _ => ⟨congrArg _ (hset _ _).symm, .refl _ _⟩

/-! ## Pool members -/

/-- The members recorded in status. -/
def MemberRef (c : CloudscaleCluster) (x : Made) : Prop :=
  ∃ id ∈ c.status.loadBalancerMemberIDs, x = .member id

theorem createLoadBalancerMember_records (member : LoadBalancerPoolMemberRequest) :
    Accounts known MemberRef (createLoadBalancerMember member) := by
  refine .read fun c => .perform fun r c h => ?_
  cases r with
  | error err =>
      simp only [wpc_ite]
      split <;> exact fun _ => ⟨fun _ hx => (by cases hx), .refl _ h⟩
  | ok cm =>
      refine fun _ => ⟨?_, .refl _ h⟩
      rintro x hx
      cases hx
      exact ⟨cm.uuid, by simp, rfl⟩

/-- Members are only added here. -/
theorem addMembers_retains (current : List LoadBalancerPoolMember)
    (desired : List LoadBalancerPoolMemberRequest) :
    Retains MemberRef (addMembers current desired) := by
  refine .of_preserves fun x => addMembers_preserves (fun d _ => ?_) fun id address => ?_
  · refine .read_any fun c => .bind (perform_preserves _) fun r => ?_
    split
    · exact .ite (fun _ => .pure _) fun _ => .fail _
    · refine .bind (.update ?_) fun _ => .pure _
      rintro c h ⟨id, hid, rfl⟩
      exact ⟨id, List.mem_append_left _ hid, rfl⟩
  · refine .read_any fun c => .bind (perform_preserves _) fun r => ?_
    split
    · exact .fail _
    · exact .pure _

theorem addMembers_records (current : List LoadBalancerPoolMember)
    (desired : List LoadBalancerPoolMemberRequest) :
    Accounts known MemberRef (addMembers current desired) := by
  induction desired with
  | nil => exact .pure _
  | cons d rest ih =>
      have hrest := addMembers_retains current rest
      rw [addMembers]
      split
      · refine .bind FreshUUIDs.initial (.wrapErr (createLoadBalancerMember_records d))
          (fun result => ?_) (fun result => .ite (fun _ => ih) fun _ => .pure _)
          (fun _ _ => id) fun _ _ => id
        split
        · exact hrest
        · exact fun _ _ _ => id
      · refine .after FreshUUIDs.initial
          (.ite (fun _ => .wrapErr (.read fun c => .perform fun r c h => ?_))
          fun _ => .pure _) fun _ => ih
        split
        · exact fun _ => ⟨fun _ hx => (by cases hx), .refl _ h⟩
        · exact fun _ => ⟨fun _ hx => (by cases hx), .refl _ h⟩

/-- Only members that were listed are dropped. -/
theorem removeMembers_retains (desired : List LoadBalancerPoolMemberRequest)
    (current : List LoadBalancerPoolMember) :
    Retains (fun c x => MemberRef c x ∧ ∀ m ∈ current, x.id ≠ m.uuid)
      (removeMembers desired current) := by
  refine .of_preserves fun x => removeMembers_preserves fun member hmember => .read_any fun c => ?_
  refine .bind (perform_preserves (J := fun c => MemberRef c x ∧ ∀ m ∈ current, x.id ≠ m.uuid) _)
    fun r => ?_
  split
  · exact .fail _
  · refine .update ?_
    rintro c h ⟨⟨id, hid, rfl⟩, hne⟩
    have hother : id ≠ member.uuid := hne member hmember
    exact ⟨⟨id, List.mem_filter.mpr ⟨hid, by simpa using hother⟩, rfl⟩, hne⟩

theorem removeMembers_makesNothing (desired : List LoadBalancerPoolMemberRequest)
    (current : List LoadBalancerPoolMember) {own : CloudscaleCluster → Made → Prop} :
    Accounts known own (removeMembers desired current) := by
  induction current with
  | nil => exact .pure _
  | cons member rest ih =>
      refine .after FreshUUIDs.initial
        (.ite (fun _ => .wrapErr (.read fun c => .perform fun r c h => ?_))
        fun _ => .pure _) fun _ => ih
      split
      · exact fun _ => ⟨fun _ hx => (by cases hx), .refl _ h⟩
      · exact fun _ => ⟨fun _ hx => (by cases hx), .refl _ h⟩

/-- A member that is created after the listing is none of the listed ones. -/
theorem fresh_of_listed {h t : Trace} {pool : String} {current : List LoadBalancerPoolMember}
    {e : CallEvent} {x : Made}
    (hfresh : FreshUUIDs known (h ++ [⟨.listMembers pool, .ok current⟩] ++ t)) (he : e ∈ t)
    (hx : x ∈ madeBy e.op e.reply) (hmember : ∃ id, x = .member id) :
    ∀ m ∈ current, x.id ≠ m.uuid := by
  intro m hm heq
  obtain ⟨pre, post, rfl⟩ := List.append_of_mem he
  obtain ⟨id, rfl⟩ := hmember
  obtain ⟨-, hseen⟩ := hfresh (h ++ [⟨.listMembers pool, .ok current⟩] ++ pre) e post _ (by simp) hx
    (fun _ heq => by cases heq)
  refine hseen ⟨.listMembers pool, .ok current⟩ (by simp) ?_
  rw [heq]
  exact List.mem_map_of_mem hm

theorem getDesiredLoadBalancerMembers_makesNothing {own : CloudscaleCluster → Made → Prop} :
    Accounts known own (getDesiredLoadBalancerMembers cluster) := by
  refine .of_frame (getDesiredLoadBalancerMembers_frame (f := id) cluster) fun op hop r => ?_
  cases op with
  | listMembers | listMachines => rfl
  | _ => exact hop.elim

theorem reconcileLBMembers_records :
    Accounts known MemberRef (reconcileLBMembers cluster) := by
  intro c h
  rw [reconcileLBMembers, wpc_read_bind, wpc_bind]
  refine history_perform fun r _ => ?_
  cases r with
  | error err => exact fun _ => .snoc (fun _ hx => by cases hx) h
  | ok current =>
      let listed : CallEvent := ⟨.listMembers c.status.loadBalancerPoolID, .ok current⟩
      have hlist (c' : CloudscaleCluster) : New (Noted madeBy (MemberRef c')) h (h ++ [listed]) :=
        .snoc (fun _ hx => by cases hx) h
      have hdesired : Accounts known (fun _ _ => False) (getDesiredLoadBalancerMembers cluster) :=
        getDesiredLoadBalancerMembers_makesNothing cluster
      rw [after_ok]
      refine wpc_seq (hdesired.wrapErr c _) ?_
      rintro (err | desired) c₁ h₁ hquiet
      · exact fun hfresh => (hlist c₁).trans
          ((hquiet hfresh).mono (Noted.mono fun _ => False.elim))
      rw [after_ok]
      have hadd : Accounts known MemberRef (addMembers current desired) :=
        addMembers_records current desired
      have hremove : Accounts known (fun _ _ => False) (removeMembers desired current) :=
        removeMembers_makesNothing desired current
      refine wpc_seq (hadd c₁ h₁) ?_
      intro out c₂ h₂ hadded
      -- what is added is none of the listed members, so the removals do not touch it
      have hnew (hfresh : FreshUUIDs known h₂) :
          New (Noted madeBy fun x => MemberRef c₂ x ∧ ∀ m ∈ current, x.id ≠ m.uuid)
            (h ++ [listed]) h₂ := by
        obtain ⟨t₂, rfl, ht₂⟩ := hadded hfresh
        obtain ⟨t₁, rfl, ht₁⟩ := hquiet (hfresh.initial h₁ t₂)
        refine ⟨t₁ ++ t₂, List.append_assoc _ t₁ t₂, fun e he x hx => ?_⟩
        rcases List.mem_append.mp he with he | he
        · exact (ht₁ e he x hx).elim
        · obtain ⟨id, hid, rfl⟩ := ht₂ e he x hx
          rw [List.append_assoc] at hfresh
          exact ⟨⟨id, hid, rfl⟩, fresh_of_listed hfresh (List.mem_append_right _ he) hx ⟨id, rfl⟩⟩
      have hkept (c' : CloudscaleCluster) (h' : Trace)
          (hret : ∀ x, (MemberRef c₂ x ∧ ∀ m ∈ current, x.id ≠ m.uuid) → MemberRef c' x)
          (hnone : FreshUUIDs known h' → New (Noted madeBy fun _ => False) h₂ h')
            (hfresh : FreshUUIDs known h') :
          New (Noted madeBy (MemberRef c')) h h' := by
        obtain ⟨t, rfl, ht⟩ := hnone hfresh
        refine (hlist c').trans
          (((hnew (hfresh.initial h₂ t)).mono (Noted.mono hret)).trans ⟨t, rfl, ?_⟩)
        exact fun e he => Noted.mono (fun _ => False.elim) e (ht e he)
      have hsame := hkept c₂ h₂ (fun _ => And.left) fun _ => .refl _ h₂
      cases out with
      | error err => exact hsame
      | ok result =>
          rw [after_ok, wpc_ite]
          split
          · refine wpc_seq
              (wpc_and (removeMembers_retains desired current c₂ h₂) (hremove c₂ h₂)) ?_
            rintro out c₃ h₃ ⟨hret, hnone⟩
            have hend := hkept c₃ h₃ (fun x hx => (hret x hx).1) hnone
            cases out <;> exact hend
          · exact hsame

/-! ## The load balancer step -/

theorem retains_field {id : CloudscaleClusterStatus → String} {m : ClusterM α}
    (hm : Frame (fun c => id c.status) (About .loadBalancer) m) : Retains (FieldRef k id) m :=
  .of_frame hm fun _ _ hsame _ hx => Eq.trans hx (congrArg _ hsame.symm)

theorem MemberRef.referenced (c : CloudscaleCluster) (x : Made) (hx : MemberRef c x) :
    Referenced c x := by
  obtain ⟨id, hid, rfl⟩ := hx
  exact hid

/-- Each child has a field of its own, so the steps after it leave its reference alone. -/
theorem reconcileLBChildren_records :
    Accounts known Referenced (reconcileLBChildren cluster) := by
  have hmembers {id : CloudscaleClusterStatus → String}
      (hid : ∀ s ids, id { s with loadBalancerMemberIDs := ids } = id s) :
      Frame (fun c => id c.status) (About .loadBalancer) (reconcileLBMembers cluster) := by
    refine (reconcileLBMembers_frame cluster).mono (fun c c' hsame => ?_) fun _ =>
      AboutMembers.about
    have hoff : id (offMembers c').status = id (offMembers c).status := by rw [hsame]
    exact (hid _ _).symm.trans (hoff.trans (hid _ _))
  refine .bind FreshUUIDs.initial (.wrapErr (reconcileOwned_records fun _ _ => rfl))
    (fun _ => ?_) (fun _ => ?_) (fun _ _ hx => hx ▸ rfl) fun _ _ => id
  · refine retains_field (.ite (fun _ => .pure _) fun _ => ?_)
    refine .bind (.wrapErr (reconcileOwned_frame rfl _ _ (fun _ _ => rfl) _)) fun _ => ?_
    refine .ite (fun _ => .pure _) fun _ => ?_
    refine .bind (.wrapErr (reconcileOwned_frame rfl _ _ (fun _ _ => rfl) _)) fun _ => ?_
    exact .ite (fun _ => .pure _) fun _ => .wrapErr (hmembers fun _ _ => rfl)
  refine .ite (fun _ => .pure _) fun _ => ?_
  refine .bind FreshUUIDs.initial (.wrapErr (reconcileOwned_records fun _ _ => rfl))
    (fun _ => ?_) (fun _ => ?_) (fun _ _ hx => hx ▸ rfl) fun _ _ => id
  · refine retains_field (.ite (fun _ => .pure _) fun _ => ?_)
    refine .bind (.wrapErr (reconcileOwned_frame rfl _ _ (fun _ _ => rfl) _)) fun _ => ?_
    exact .ite (fun _ => .pure _) fun _ => .wrapErr (hmembers fun _ _ => rfl)
  refine .ite (fun _ => .pure _) fun _ => ?_
  refine .bind FreshUUIDs.initial (.wrapErr (reconcileOwned_records fun _ _ => rfl))
    (fun _ => ?_) (fun _ => ?_) (fun _ _ hx => hx ▸ rfl) fun _ _ => id
  · exact retains_field (.ite (fun _ => .pure _) fun _ => .wrapErr (hmembers fun _ _ => rfl))
  exact .ite (fun _ => .pure _) fun _ =>
    .wrapErr ((reconcileLBMembers_records cluster).mono MemberRef.referenced)

theorem finishLoadBalancer_records (lb : LoadBalancer) (pending : Option String) :
    Accounts known Referenced (finishLoadBalancer cluster lb pending) := by
  refine .before FreshUUIDs.initial (reconcileLBChildren_records cluster) (fun _ => ?_)
    fun _ => .ite (fun _ => .pure _) fun _ => .pure _
  split <;> exact fun _ _ _ => id

theorem degradedMessage_makesNothing (lb : LoadBalancer) {own : CloudscaleCluster → Made → Prop} :
    Accounts known own (degradedMessage lb) := by
  refine .of_frame (degradedMessage_frame (f := id) lb) fun op hop r => ?_
  cases op with
  | listMembers | listMachines => rfl
  | _ => exact hop.elim

theorem loadBalancerBody_records :
    Accounts known Referenced (loadBalancerBody cluster) := by
  have hfinish := finishLoadBalancer_blind cluster (f := fun c => c.status.loadBalancerID)
    fun c c' hsame => (congrArg (·.status.loadBalancerID) hsame :)
  refine .bind FreshUUIDs.initial (.wrapErr (reconcileOwned_records fun _ _ => rfl))
    (fun _ => ?_) (fun _ => ?_) (fun _ _ hx => hx ▸ rfl) fun _ _ => id
  · refine retains_field
      (.ite (fun _ => .pure _) fun _ => .read fun c => .ite (fun _ => .pure _) fun _ => ?_)
    refine .bind (.perform (.inl rfl)) fun r => ?_
    split
    · exact .fail _
    · refine .ite (fun _ => hfinish _ _) fun _ => .ite (fun _ => .pure _) fun _ =>
        .bind ?_ fun _ => hfinish _ _
      exact (degradedMessage_frame _).mono (fun _ _ hsame => hsame) fun _ hop => hop.about.about
  refine .ite (fun _ => .pure _) fun _ => .read fun c => .ite (fun _ => .pure _) fun _ => ?_
  refine .after FreshUUIDs.initial (.of_frame (P := IsLookup) (v := id) (.perform trivial)
    fun _ => madeBy_lookup) fun r => ?_
  split
  · exact .fail _
  · refine .ite (fun _ => finishLoadBalancer_records cluster _ _) fun _ =>
      .ite (fun _ => .pure _) fun _ => ?_
    exact .after FreshUUIDs.initial (degradedMessage_makesNothing _) fun _ =>
      finishLoadBalancer_records cluster _ _

/-- A condition is no reference. -/
theorem Referenced.setCondition {c : CloudscaleCluster} {x : Made} (hx : Referenced c x)
    (t : ConditionType) (status : ConditionStatus) (reason : Reason) (message : String) :
    Referenced (setCondition t status reason message c) x := by
  cases x with
  | resource k id => cases k <;> exact hx
  | interface | member => exact hx

theorem reconcileLoadBalancer_records :
    Accounts known Referenced (reconcileLoadBalancer cluster) := by
  refine .read fun c => .ite
    (fun _ => .after FreshUUIDs.initial (.update _) fun _ => .pure _) fun _ => ?_
  refine .before FreshUUIDs.initial (.deferred (loadBalancerBody_records cluster) ?_)
    (fun _ _ _ _ => id) fun _ => .pure _
  intro out c x hx
  unfold setLoadBalancerReady
  split <;> exact hx.setCondition _ _ _ _

/-! ## The floating IP -/

theorem createFloatingIP_records (fipSpec : FloatingIPSpec) :
    Accounts known Referenced (createFloatingIP cluster fipSpec) := by
  refine .read fun c => .after FreshUUIDs.initial (.of_frame (v := id)
    (getFloatingIPTarget_within (P := fun op => ∀ r, madeBy op r = none) cluster fun _ _ _ _ => rfl)
    fun _ => id) fun target => ?_
  exact records_create (fun _ => .pure _) fun r c h _ => ⟨rfl, .refl _ h⟩

theorem ensureFloatingIPAssignment_makesNothing (fip : FloatingIP)
    {own : CloudscaleCluster → Made → Prop} :
    Accounts known own (ensureFloatingIPAssignment cluster fip) :=
  .of_frame (v := id) (ensureFloatingIPAssignment_within (P := fun op => ∀ r, madeBy op r = none)
    cluster fip (fun _ _ _ _ => rfl) fun _ _ _ => rfl) fun _ => id

theorem reconcilePreExistingFloatingIP_makesNothing (ip : String)
    {own : CloudscaleCluster → Made → Prop} :
    Accounts known own (reconcilePreExistingFloatingIP cluster ip) := by
  have hadopt (fip : FloatingIP) : Accounts known own
      (reconcilePreExistingFloatingIP.adopt cluster fip) :=
    .after FreshUUIDs.initial (.update _) fun _ =>
      ensureFloatingIPAssignment_makesNothing cluster fip
  refine .after FreshUUIDs.initial (.of_frame (P := IsLookup) (v := id) (.perform trivial)
    fun _ => madeBy_lookup) fun r => ?_
  split
  · exact .fail _
  · refine .read fun c => ?_
    split
    · exact .ite (fun _ => .fail _) fun _ => hadopt _
    · exact hadopt _

theorem reconcileManagedFloatingIP_records (fipSpec : FloatingIPSpec) :
    Accounts known Referenced (reconcileManagedFloatingIP cluster fipSpec) := by
  refine .read fun c => .after FreshUUIDs.initial
    (.of_frame (ensureResource_lookups (f := id) _ _ _)
    fun _ => madeBy_lookup) fun r => .after FreshUUIDs.initial (.update _) fun _ => ?_
  split
  · refine .ite (fun _ => ?_) fun _ => createFloatingIP_records cluster fipSpec
    exact .after FreshUUIDs.initial (ensureFloatingIPAssignment_makesNothing cluster _)
      fun _ => .pure _
  · exact createFloatingIP_records cluster fipSpec

theorem reconcileFloatingIP_records :
    Accounts known Referenced (reconcileFloatingIP cluster) := by
  refine .read fun c => ?_
  split
  · exact .after FreshUUIDs.initial (.update _) fun _ => .pure _
  · refine .deferred (.ite (fun _ => ?_) fun _ => reconcileManagedFloatingIP_records cluster _) ?_
    · exact .after FreshUUIDs.initial (reconcilePreExistingFloatingIP_makesNothing cluster _)
        fun _ => .pure _
    · intro out c x hx
      cases out <;> exact hx.setCondition _ _ _ _

/-! ## Machines -/

/-- The procedure accounts for all that it makes, whatever the replies. -/
abbrev AccountsAlways {σ α : Type} (own : σ → Made → Prop) (m : Recon σ α) : Prop :=
  Logs madeBy (fun _ => True) own m

/-- The server group a machine refers to. -/
def GroupRef (m : CloudscaleMachine) (x : Made) : Prop :=
  x = .resource .serverGroup m.status.serverGroupID

theorem findOrCreateServerGroup_records (cluster : CloudscaleCluster) (groupName : String) :
    AccountsAlways GroupRef (findOrCreateServerGroup cluster groupName) := by
  refine .after (fun _ _ => id) (.of_frame (P := IsLookup) (v := id) (.perform trivial)
    fun _ => madeBy_lookup) fun r => ?_
  split
  · exact .fail _
  · split
    · exact .after (fun _ _ => id) (.update _) fun _ => .pure _
    · exact records_create (fun _ => .pure _) fun r m h _ => ⟨rfl, .refl _ h⟩

theorem reconcileServerGroup_records (cluster : CloudscaleCluster) :
    AccountsAlways GroupRef (reconcileServerGroup cluster) := by
  refine .deferred (.read fun m => ?_) ?_
  · split
    · exact .pure _
    · refine .ite (fun _ => findOrCreateServerGroup_records cluster _) fun _ => ?_
      refine .after (fun _ _ => id) (.of_frame (P := IsLookup) (v := id) (.perform trivial)
        fun _ => madeBy_lookup) fun r => ?_
      split
      · exact .pure _
      · refine .ite (fun _ => ?_) fun _ => .fail _
        exact .after (fun _ _ => id) (.update _) fun _ => findOrCreateServerGroup_records cluster _
  · intro out m x hx
    cases out <;> exact hx

/-- The server a machine refers to. -/
def ServerRef (m : CloudscaleMachine) (x : Made) : Prop := x = .resource .server m.status.serverID

theorem createServer_records (s : MachineScope) : AccountsAlways ServerRef (createServer s) := by
  refine .after (fun _ _ => id) (.wrapErr (.of_frame (v := id)
    (getBootstrapData_frame (P := fun op => ∀ r, madeBy op r = none) s fun _ _ _ => rfl)
    fun _ => id)) fun data => .read fun m => ?_
  split
  · exact .fail _
  · exact records_create (fun _ => .pure _) fun r m h _ => ⟨rfl, .refl _ h⟩

theorem serverBody_records (s : MachineScope) : AccountsAlways ServerRef (serverBody s) := by
  have hlookup {op : Op} (hop : IsLookup op) :
      AccountsAlways (fun _ _ => False) (Proc.perform op : MachineM op.Reply) :=
    .of_frame (v := id) (.perform hop) fun _ => madeBy_lookup
  refine .read fun m => .ite (fun _ => .read fun m => ?_) fun _ => ?_
  · refine .after (fun _ _ => id) (hlookup trivial) fun r => ?_
    split
    · exact .fail _
    · exact createServer_records s
    · exact .after (fun _ _ => id) (.update _) fun _ =>
        .after (fun _ _ => id) (.update _) fun _ => .pure _
    · exact .fail _
  · refine .after (fun _ _ => id) (hlookup trivial) fun r => ?_
    split
    · exact .after (fun _ _ => id) (.update _) fun _ => .pure _
    · exact .ite (fun _ => .after (fun _ _ => id) (.update _) fun _ => .pure _) fun _ => .fail _

theorem blind_serverID (x : String) : MachineBlind fun m (_ : Unit) => m.status.serverID = x :=
  ⟨fun _ _ _ _ _ _ _ => id, fun _ _ _ => id⟩

theorem blind_serverGroupID (x : String) :
    MachineBlind fun m (_ : Unit) => m.status.serverGroupID = x :=
  ⟨fun _ _ _ _ _ _ _ => id, fun _ _ _ => id⟩

theorem machineServerStep_records (s : MachineScope) :
    AccountsAlways ServerRef (machineServerStep s) := by
  have hserver : AccountsAlways ServerRef (reconcileServer s) := by
    refine .before (fun _ _ => id) (.deferred (serverBody_records s) ?_) (fun _ _ _ _ => id)
      fun _ => .pure _
    intro out m x hx
    exact hx.trans (congrArg _ ((blind_serverID _).serverReady out m () rfl).symm)
  refine .before (fun _ _ => id) (.wrapErr hserver) (fun result => ?_)
    fun _ => .after (fun _ _ => id) (.update _) fun _ => .pure _
  exact fun m _ x hx => Eq.trans hx (congrArg _ ((blind_serverID _).provisioned m () rfl).symm)

theorem MachineReferenced.congr {m m' : CloudscaleMachine} {x : Made} (hx : MachineReferenced m x)
    (hserver : m'.status.serverID = m.status.serverID)
    (hgroup : m'.status.serverGroupID = m.status.serverGroupID) : MachineReferenced m' x := by
  cases x with
  | resource k id =>
      cases k with
      | server => exact hserver.trans hx
      | serverGroup => exact hgroup.trans hx
      | _ => exact hx
  | interface | member => exact hx

/-- Everything a pass over a machine creates is referred to by its status, however the pass ends. -/
theorem machineReconcileNormal_records (s : MachineScope) :
    AccountsAlways MachineReferenced (machineReconcileNormal s) := by
  have hserver : AccountsAlways MachineReferenced (machineServerStep s) :=
    (machineServerStep_records s).mono fun m x hx => hx ▸ rfl
  refine .deferred
    (.ite (fun _ => .after (fun _ _ => id) (.update _) fun _ => .pure _) fun _ => ?_) ?_
  · refine .read fun m => .ite (fun _ => hserver) fun _ => ?_
    refine .bind (fun _ _ => id) (reconcileServerGroup_records _) (fun result => ?_)
      (fun _ => .ite (fun _ => .pure _) fun _ => hserver) (fun m x hx => hx ▸ rfl) fun _ _ => id
    -- the server step leaves the server group alone
    refine .of_frame (v := fun m : CloudscaleMachine => m.status.serverGroupID)
      (.ite (fun _ => .pure _) fun _ => machineServerStep_frame s ⟨fun _ _ => rfl, fun _ _ => rfl,
        blind_serverGroupID⟩) ?_
    exact fun _ _ hsame _ hx => Eq.trans hx (congrArg _ hsame.symm)
  · intro out m x hx
    exact hx.congr ((blind_serverID _).ready m () rfl) ((blind_serverGroupID _).ready m () rfl)

end Capcs.Records
