import Capcs.Controller.Cluster
import Capcs.Controller.MachineServer
import Capcs.Interaction.Frame

/-!
# Capcs.Controller.Rules — assertions that a pass keeps

One rule for each composed step: an assertion is kept by the step, under any contract, if it is
kept by its parts. The case distinctions of the steps are made here once.
-/

namespace Capcs.Controller

open Cloudscale
open Interaction (Proc Contract History history history_perform)
open Interaction.Contract (wpc_bind wpc_imp wpc_ite after_ok)

/-! ## Looking a resource up -/

section Lookup

variable {σ : Type} {good : (op : Op) → op.Reply → Prop} {k : Kind} {name currentID : String}
  {tags : TagMap} {st : σ} {h : History Op Op.Reply}

/-- How the reply to a list by tags is read: two resources with the tags are an error. -/
inductive ListRead (good : (op : Op) → op.Reply → Prop) (k : Kind) (tags : TagMap) :
    (Op.list k tags).Reply → Except GoError (Option k.Resource × String) → Prop where
  | failed {err : ApiError} {e : GoError} : ListRead good k tags (.error err) (.error e)
  | none : ListRead good k tags (.ok []) (.ok (none, ""))
  | one {item : k.Resource} : good (.list k tags) (.ok [item]) →
      ListRead good k tags (.ok [item]) (.ok (some item, uuidOf item))
  | many {r r' : k.Resource} {rs : List k.Resource} {e : GoError} :
      ListRead good k tags (.ok (r :: r' :: rs)) (.error e)

/-- The calls of a lookup and how it ends: the resource is listed only where no ID is recorded or
the recorded one is gone. -/
inductive LooksUp (good : (op : Op) → op.Reply → Prop) (k : Kind) (currentID : String)
    (tags : TagMap) :
    History Op Op.Reply → Except GoError (Option k.Resource × String) → Prop where
  | found {item : k.Resource} : currentID ≠ "" → good (.get k currentID) (.ok item) →
      LooksUp good k currentID tags [⟨.get k currentID, .ok item⟩] (.ok (some item, currentID))
  | failed {err : ApiError} {e : GoError} :
      LooksUp good k currentID tags [⟨.get k currentID, .error err⟩] (.error e)
  | gone {err : ApiError} {r : (Op.list k tags).Reply}
      {out : Except GoError (Option k.Resource × String)} :
      isNotFound err = true → ListRead good k tags r out →
      LooksUp good k currentID tags [⟨.get k currentID, .error err⟩, ⟨.list k tags, r⟩] out
  | listed {r : (Op.list k tags).Reply} {out : Except GoError (Option k.Resource × String)} :
      currentID = "" → ListRead good k tags r out →
      LooksUp good k currentID tags [⟨.list k tags, r⟩] out

theorem adoptByTags_reads : (history good).wpc
    (fun out s' h' => s' = st ∧ ∃ r, h' = h ++ [⟨.list k tags, r⟩] ∧ ListRead good k tags r out)
    (adoptByTags k name tags) st h := by
  rw [adoptByTags, svcList, wpc_bind]
  refine history_perform fun reply hgood => ?_
  rcases reply with err | _ | ⟨item, _ | ⟨other, rest⟩⟩
  · exact ⟨rfl, _, rfl, .failed⟩
  · exact ⟨rfl, _, rfl, .none⟩
  · exact ⟨rfl, _, rfl, .one hgood⟩
  · exact ⟨rfl, _, rfl, .many⟩

/-- The calls of `ensureResource` are those of a lookup. -/
theorem ensureResource_looksUp : (history good).wpc
    (fun out s' h' => s' = st ∧ ∃ t, h' = h ++ t ∧ LooksUp good k currentID tags t out)
    (ensureResource k currentID name tags) st h := by
  rw [ensureResource, wpc_ite]
  split
  · next hid =>
    rw [svcGet, wpc_bind]
    refine history_perform fun reply hgood => ?_
    cases reply with
    | ok item => exact ⟨rfl, _, rfl, .found hid hgood⟩
    | error err =>
        rw [after_ok, wpc_ite]
        split
        · next hnf =>
          refine wpc_imp adoptByTags_reads ?_
          rintro out s' h' ⟨hs, r, rfl, hread⟩
          exact ⟨hs, _, List.append_assoc _ _ _, .gone hnf hread⟩
        · exact ⟨rfl, _, rfl, .failed⟩
  · next hempty =>
    refine wpc_imp adoptByTags_reads ?_
    rintro out s' h' ⟨hs, r, rfl, hread⟩
    exact ⟨hs, _, rfl, .listed (by simpa using hempty) hread⟩

/-- What a lookup has found, and in which reply. -/
inductive Found (good : (op : Op) → op.Reply → Prop) (k : Kind) (currentID : String)
    (tags : TagMap) :
    Option k.Resource → String → History Op Op.Reply → Prop where
  | get {item : k.Resource} {h : History Op Op.Reply} : currentID ≠ "" →
      good (.get k currentID) (.ok item) →
      Found good k currentID tags (some item) currentID (h ++ [⟨.get k currentID, .ok item⟩])
  | list {item : k.Resource} {h : History Op Op.Reply} : good (.list k tags) (.ok [item]) →
      Found good k currentID tags (some item) (uuidOf item) (h ++ [⟨.list k tags, .ok [item]⟩])

/-- What it hands back with an ID is in the last reply. -/
theorem ensureResource_found : (history good).wpc
    (fun out _ h' => ∀ item id, out = .ok (item, id) → id ≠ "" →
      Found good k currentID tags item id h')
    (ensureResource k currentID name tags) st h := by
  refine wpc_imp ensureResource_looksUp ?_
  rintro _ _ _ ⟨-, _, rfl, hlooks⟩ item id rfl hid
  cases hlooks with
  | found hne hgood => exact .get hne hgood
  | gone _ hread =>
      rw [List.append_cons]
      cases hread with
      | none => exact absurd rfl hid
      | one hgood => exact .list hgood
  | listed _ hread =>
      cases hread with
      | none => exact absurd rfl hid
      | one hgood => exact .list hgood

end Lookup

/-! ## Clusters -/

section Cluster

variable {W : Type} {C : Contract W Op Op.Reply} {J : CloudscaleCluster → W → Prop}
  {cluster : Cluster}

/-- A normal pass past its routers. -/
def afterRouters (cluster : Cluster) : ClusterM Result := do
  let (lb, result) ← (reconcileLoadBalancer cluster).wrapErr (.wrap "reconciling load balancer: ")
  if !result.isZero then pure result
  else
    let result ← (reconcileFloatingIP cluster).wrapErr (.wrap "reconciling floating IP: ")
    if !result.isZero then pure result
    else finishNormal cluster lb

/-- A normal pass past its network step. -/
def afterNetwork (cluster : Cluster) : ClusterM Result := do
  let result ← (reconcileRouters cluster).wrapErr (.wrap "reconciling routers: ")
  if !result.isZero then pure result else afterRouters cluster

theorem reconcileNormal_eq (cluster : Cluster) : reconcileNormal cluster = Proc.deferred (do
    let result ← (reconcileNetwork cluster).wrapErr (.wrap "reconciling network: ")
    if !result.isZero then pure result else afterNetwork cluster) fun _ => setReadyCondition := rfl

/-- The first step that asks for a requeue ends a normal pass. -/
theorem afterRouters_preserves (hlb : C.Preserves J (reconcileLoadBalancer cluster))
    (hfip : C.Preserves J (reconcileFloatingIP cluster))
    (hfinish : ∀ lb, C.Preserves J (finishNormal cluster lb)) :
    C.Preserves J (afterRouters cluster) := by
  refine .bind (.wrapErr hlb) fun _ => .ite (fun _ => .pure _) fun _ => ?_
  exact .bind (.wrapErr hfip) fun _ => .ite (fun _ => .pure _) fun _ => hfinish _

theorem afterNetwork_preserves (hrouters : C.Preserves J (reconcileRouters cluster))
    (hlb : C.Preserves J (reconcileLoadBalancer cluster))
    (hfip : C.Preserves J (reconcileFloatingIP cluster))
    (hfinish : ∀ lb, C.Preserves J (finishNormal cluster lb)) :
    C.Preserves J (afterNetwork cluster) :=
  .bind (.wrapErr hrouters) fun _ => .ite (fun _ => .pure _) fun _ =>
    afterRouters_preserves hlb hfip hfinish

/-- A normal pass whose network step establishes what the other steps keep. -/
theorem reconcileNormal_wpc {c : CloudscaleCluster} {w : W} (hinv : C.inv w)
    (hnetwork : C.wpc (fun _ => J) (reconcileNetwork cluster) c w)
    (hafter : C.Preserves J (afterNetwork cluster))
    (hready : ∀ c w, J c w → J (setReadyCondition c) w) :
    C.wpc (fun _ => J) (reconcileNormal cluster) c w := by
  rw [reconcileNormal_eq, Contract.wpc_deferred]
  refine Contract.wpc_imp (Q := fun _ => J) ?_ fun _ => hready
  refine Contract.wpc_seq_inv hinv (Contract.wpc_wrapped hnetwork fun _ _ _ => id) ?_
  intro out c₁ w₁ hinv₁ hJ
  cases out with
  | error err => exact hJ
  | ok result =>
      rw [Contract.after_ok, Contract.wpc_ite]
      split
      · exact hJ
      · exact hafter c₁ w₁ hinv₁ hJ

theorem reconcileNormal_preserves (hnetwork : C.Preserves J (reconcileNetwork cluster))
    (hrouters : C.Preserves J (reconcileRouters cluster))
    (hlb : C.Preserves J (reconcileLoadBalancer cluster))
    (hfip : C.Preserves J (reconcileFloatingIP cluster))
    (hfinish : ∀ lb, C.Preserves J (finishNormal cluster lb))
    (hready : ∀ c w, J c w → J (setReadyCondition c) w) : C.Preserves J (reconcileNormal cluster) :=
  fun c w hinv hJ => reconcileNormal_wpc hinv (hnetwork c w hinv hJ)
    (afterNetwork_preserves hrouters hlb hfip hfinish) hready

theorem requeueOn_preserves {sentinel : Sentinel} {pre : String} {step : ClusterM Unit}
    {next : ClusterM Result} (hstep : C.Preserves J step) (hnext : C.Preserves J next) :
    C.Preserves J (requeueOn sentinel pre step next) := by
  refine .bind (.attempt hstep) fun out => ?_
  cases out with
  | ok _ => exact hnext
  | error err => exact .ite (fun _ => .pure _) fun _ => .fail _

/-- A teardown goes on as long as nothing fails and nothing is waited for. -/
theorem reconcileDelete_preserves
    (hset : ∀ t, .paused ≠ t → ∀ status reason message c w, J c w →
      J (setCondition t status reason message c) w)
    (hfip : C.Preserves J deleteFloatingIP) (hlb : C.Preserves J deleteLoadBalancer)
    (hgroups : C.Preserves J (deleteServerGroups cluster))
    (hrouters : C.Preserves J deleteRouters) (hnetwork : C.Preserves J deleteNetwork)
    (hfinalizers : ∀ c w finalizers, J c w →
      J { c with metadata := { c.metadata with finalizers } } w) :
    C.Preserves J (reconcileDelete cluster) := by
  refine .bind (.update (hset _ (by decide) _ _ _)) fun _ => .bind (.wrapErr hfip) fun _ => ?_
  refine .bind (.wrapErr hlb) fun _ => requeueOn_preserves hgroups ?_
  refine .bind (.wrapErr hrouters) fun _ => requeueOn_preserves hnetwork ?_
  refine .bind (.update (hset _ (by decide) _ _ _)) fun _ => ?_
  exact .bind (.update fun c w => hfinalizers c w _) fun _ => .pure _

/-- The load balancer comes before what hangs on it. -/
theorem reconcileLoadBalancer_preserves
    (hready : ∀ status reason message c w, J c w →
      J (setCondition .loadBalancerReady status reason message c) w)
    (hlb : C.Preserves J reconcileLB)
    (hget : ∀ id, C.Preserves J (Proc.perform (Op.get .loadBalancer id) : ClusterM _))
    (hmessage : ∀ lb, C.Preserves J (degradedMessage lb))
    (hchildren : C.Preserves J (reconcileLBChildren cluster)) :
    C.Preserves J (reconcileLoadBalancer cluster) := by
  have hfinish (lb : LoadBalancer) (pending : Option String) :
      C.Preserves J (finishLoadBalancer cluster lb pending) :=
    .bind hchildren fun _ => .ite (fun _ => .pure _) fun _ => .pure _
  refine .read_any fun c => .ite (fun _ => ?_) fun _ => ?_
  · exact .bind (.update (hready _ _ _)) fun _ => .pure _
  refine .bind (.deferred ?_ fun out c w hc => ?_) fun _ => .pure _
  · refine .bind (.wrapErr hlb) fun _ => .ite (fun _ => .pure _) fun _ => ?_
    refine .read_any fun c => .ite (fun _ => .pure _) fun _ => .bind (hget _) fun r => ?_
    split
    · exact .fail _
    · refine .ite (fun _ => hfinish _ _) fun _ => .ite (fun _ => .pure _) fun _ => ?_
      exact .bind (hmessage _) fun _ => hfinish _ _
  · unfold setLoadBalancerReady
    split <;> exact hready _ _ _ c w hc

/-- However a step ends `J` holds, and `P` if the pass goes on after it. -/
def EndsIn {α : Type} (goesOn : α → Prop) (J P : CloudscaleCluster → W → Prop)
    (out : Except GoError α) (c : CloudscaleCluster) (w : W) : Prop :=
  J c w ∧ ∀ a, out = .ok a → goesOn a → P c w

section Sequence

variable {α : Type} {goesOn : α → Prop} {P P' : CloudscaleCluster → W → Prop}
  {c : CloudscaleCluster} {w : W}

theorem endsIn_wrapErr {m : ClusterM α} {f : GoError → GoError}
    (hm : C.wpc (EndsIn goesOn J P) m c w) :
    C.wpc (EndsIn goesOn J P) (m.wrapErr f) c w :=
  Contract.wpc_wrapped hm fun _ _ _ hs => ⟨hs.1, by simp⟩

/-- A step that asks for a requeue ends what it is a part of. -/
theorem endsIn_seq {step : ClusterM Result} {early : Result → α} {next : ClusterM α}
    (hinv : C.inv w) (hstep : C.wpc (EndsIn (·.isZero = true) J P) step c w)
    (hearly : ∀ result, goesOn (early result) → result.isZero = true)
    (hnext : ∀ c w, C.inv w → J c w → P c w → C.wpc (EndsIn goesOn J P') next c w) :
    C.wpc (EndsIn goesOn J P') (do
      let result ← step
      if !result.isZero then pure (early result) else next) c w := by
  refine Contract.wpc_seq_inv hinv hstep ?_
  rintro out c₁ w₁ hinv₁ ⟨hJ, hgoes⟩
  cases out with
  | error err => exact ⟨hJ, by simp⟩
  | ok result =>
      rw [after_ok, wpc_ite]
      split
      · next hzero =>
        refine ⟨hJ, ?_⟩
        rintro _ ⟨⟩ hgo
        simp [hearly result hgo] at hzero
      · next hzero => exact hnext c₁ w₁ hinv₁ hJ (hgoes result rfl (by simpa using hzero))

end Sequence

/-- Each child is there when the next one is reached. -/
theorem reconcileLBChildren_endsIn {lb done : CloudscaleCluster → W → Prop}
    (pool listener monitor : CloudscaleCluster → W → Prop)
    (hpool : ∀ c w, C.inv w → lb c w → C.wpc (EndsIn (·.isZero = true) J pool) reconcileLBPool c w)
    (hlistener : ∀ c w, C.inv w → pool c w →
      C.wpc (EndsIn (·.isZero = true) J listener) reconcileLBListener c w)
    (hmonitor : ∀ c w, C.inv w → listener c w →
      C.wpc (EndsIn (·.isZero = true) J monitor) reconcileLBHealthMonitor c w)
    (hmembers : ∀ c w, C.inv w → monitor c w →
      C.wpc (EndsIn (·.isZero = true) J done) (reconcileLBMembers cluster) c w)
    (c : CloudscaleCluster) (w : W) (hinv : C.inv w) (hlb : lb c w) :
    C.wpc (EndsIn (·.isZero = true) J done) (reconcileLBChildren cluster) c w := by
  refine endsIn_seq hinv (endsIn_wrapErr (hpool c w hinv hlb)) (fun _ => id) fun c w hinv _ h => ?_
  refine endsIn_seq hinv (endsIn_wrapErr (hlistener c w hinv h)) (fun _ => id)
    fun c w hinv _ h => ?_
  refine endsIn_seq hinv (endsIn_wrapErr (hmonitor c w hinv h)) (fun _ => id) fun c w hinv _ h => ?_
  exact endsIn_wrapErr (hmembers c w hinv h)

/-- The load balancer is there when its children are reached. -/
theorem loadBalancerBody_endsIn {lb done : CloudscaleCluster → W → Prop} {c : CloudscaleCluster}
    {w : W} (hinv : C.inv w) (hlb : C.wpc (EndsIn (·.isZero = true) J lb) reconcileLB c w)
    (hget : ∀ id, C.Preserves lb (Proc.perform (Op.get .loadBalancer id) : ClusterM _))
    (hmessage : ∀ x, C.Preserves lb (degradedMessage x)) (hJ : ∀ c w, lb c w → J c w)
    (hchildren : ∀ c w, C.inv w → lb c w → C.wpc (EndsIn (·.isZero = true) J done)
      (reconcileLBChildren cluster) c w) :
    C.wpc (EndsIn (·.result.isZero = true) J done) (loadBalancerBody cluster) c w := by
  have hfinish (x : LoadBalancer) (pending : Option String) (c : CloudscaleCluster) (w : W)
      (hinv : C.inv w) (h : lb c w) :
      C.wpc (EndsIn (·.result.isZero = true) J done) (finishLoadBalancer cluster x pending) c w :=
    endsIn_seq hinv (hchildren c w hinv h) (fun _ => id) fun _ _ _ hJ h => ⟨hJ, fun _ _ _ => h⟩
  -- an early return carries a result that is not zero
  have hstop {out : LbOutcome} {c : CloudscaleCluster} {w : W} (hout : out.result.isZero = false)
      (h : lb c w) : C.wpc (EndsIn (·.result.isZero = true) J done)
        (pure out : ClusterM _) c w := by
    refine ⟨hJ c w h, ?_⟩
    rintro _ ⟨⟩ hzero
    rw [hout] at hzero
    cases hzero
  refine endsIn_seq hinv (endsIn_wrapErr hlb) (fun _ => id) fun c w hinv _ h => ?_
  rw [wpc_bind, Contract.wpc_read, after_ok, wpc_ite]
  split
  · exact hstop rfl h
  refine Contract.wpc_seq_inv hinv (hget c.status.loadBalancerID c w hinv h) ?_
  intro out c₁ w₁ hinv₁ h₁
  rcases out with err | err | x
  · exact ⟨hJ c₁ w₁ h₁, by simp⟩
  · exact ⟨hJ c₁ w₁ h₁, by simp⟩
  simp only [after_ok, wpc_ite]
  split
  · exact hfinish x none c₁ w₁ hinv₁ h₁
  split
  · exact hstop rfl h₁
  refine Contract.wpc_seq_inv hinv₁ (hmessage x c₁ w₁ hinv₁ h₁) ?_
  intro out c₂ w₂ hinv₂ h₂
  cases out with
  | error err => exact ⟨hJ c₂ w₂ h₂, by simp⟩
  | ok msg => exact hfinish x (some msg) c₂ w₂ hinv₂ h₂

theorem reconcileLBChildren_preserves (hpool : C.Preserves J reconcileLBPool)
    (hlistener : C.Preserves J reconcileLBListener)
    (hmonitor : C.Preserves J reconcileLBHealthMonitor)
    (hmembers : C.Preserves J (reconcileLBMembers cluster)) :
    C.Preserves J (reconcileLBChildren cluster) := by
  refine .bind (.wrapErr hpool) fun _ => .ite (fun _ => .pure _) fun _ => ?_
  refine .bind (.wrapErr hlistener) fun _ => .ite (fun _ => .pure _) fun _ => ?_
  exact .bind (.wrapErr hmonitor) fun _ => .ite (fun _ => .pure _) fun _ => .wrapErr hmembers

/-- The desired members come from one list of the machines, where the subnet is known. -/
theorem getDesiredLoadBalancerMembers_wpc
    {Q : Except GoError (List LoadBalancerPoolMemberRequest) → CloudscaleCluster → W → Prop}
    {c : CloudscaleCluster} {w : W}
    (hlist : C.wpc (fun out c' w' => (∀ err, Q (.error err) c' w') ∧
        ∀ machines id cidr net, out = .ok (.ok machines) → getPoolMemberSubnetID c = .ok id →
          getMemberSubnetCIDR c id = .ok cidr → Net.parseCIDR cidr = some net →
          Q (.ok (desiredMembers c id net machines)) c' w')
      (Proc.perform (Op.listMachines c.metadata.ns cluster.name true) : ClusterM _) c w) :
    C.wpc Q (getDesiredLoadBalancerMembers cluster) c w := by
  rw [getDesiredLoadBalancerMembers, wpc_bind, Contract.wpc_read, after_ok]
  refine Contract.wpc_seq hlist ?_
  rintro out c' w' ⟨herr, hok⟩
  rcases out with err | err | machines
  · exact herr _
  · exact herr _
  · simp only [after_ok]
    split
    · exact herr _
    · next id hid =>
      split
      · exact herr _
      · next cidr hcidr =>
        split
        · exact herr _
        · next net hnet => exact hok machines id cidr net rfl hid hcidr hnet

/-- Members are created and updated in the first loop. -/
theorem addMembers_preserves {current : List LoadBalancerPoolMember}
    {desired : List LoadBalancerPoolMemberRequest}
    (hcreate : ∀ d ∈ desired, C.Preserves J (createLoadBalancerMember d))
    (hupdate : ∀ id address, C.Preserves J (updateLoadBalancerMember id address)) :
    C.Preserves J (addMembers current desired) := by
  induction desired with
  | nil => exact .pure _
  | cons d rest ih =>
      have ih := ih fun d' hd' => hcreate d' (List.mem_cons_of_mem _ hd')
      rw [addMembers]
      split
      · refine .bind (.wrapErr (hcreate d List.mem_cons_self)) fun result => ?_
        exact .ite (fun _ => ih) fun _ => .pure _
      · exact .bind (.ite (fun _ => .wrapErr (hupdate _ _)) fun _ => .pure _) fun _ => ih

/-- Members are deleted in the second loop. -/
theorem removeMembers_preserves {desired : List LoadBalancerPoolMemberRequest}
    {current : List LoadBalancerPoolMember}
    (hdelete : ∀ m ∈ current, C.Preserves J (deleteLoadBalancerMember m)) :
    C.Preserves J (removeMembers desired current) := by
  induction current with
  | nil => exact .pure _
  | cons m rest ih =>
      have hm := hdelete m List.mem_cons_self
      refine .bind (.ite (fun _ => .wrapErr hm) fun _ => .pure _) fun _ => ?_
      exact ih fun m' hm' => hdelete m' (List.mem_cons_of_mem _ hm')

theorem reconcileLBMembers_preserves
    (hlist : ∀ pool, C.Preserves J (Proc.perform (Op.listMembers pool) : ClusterM _))
    (hdesired : C.Preserves J (getDesiredLoadBalancerMembers cluster))
    (hcreate : ∀ d, C.Preserves J (createLoadBalancerMember d))
    (hupdate : ∀ id address, C.Preserves J (updateLoadBalancerMember id address))
    (hdelete : ∀ m, C.Preserves J (deleteLoadBalancerMember m)) :
    C.Preserves J (reconcileLBMembers cluster) := by
  refine .read_any fun c => .bind (hlist _) fun r => ?_
  split
  · exact .fail _
  · refine .bind (.wrapErr hdesired) fun desired => ?_
    refine .bind (addMembers_preserves (fun d _ => hcreate d) hupdate) fun result =>
      .ite (fun _ => ?_) fun _ => .pure _
    exact .bind (removeMembers_preserves fun m _ => hdelete m) fun _ => .pure _

end Cluster

/-! ## Machines -/

section Machine

variable {W : Type} {C : Contract W Op Op.Reply} {J : CloudscaleMachine → W → Prop}
  {s : MachineScope}

/-- What is in the conditions, `Paused` apart, and in the initialization does not matter. -/
structure MachineBlind (J : CloudscaleMachine → W → Prop) : Prop where
  condition : ∀ t, .paused ≠ t → ∀ status reason message m w, J m w →
    J (setMachineCondition t status reason message m) w
  initialization : ∀ initialization m w, J m w → J { m with
    status := { m.status with initialization } } w

theorem MachineBlind.provisioned (hJ : MachineBlind J) (m : CloudscaleMachine) (w : W)
    (hm : J m w) :
    J (setMachineProvisioned m) w := by
  rw [setMachineProvisioned]
  split
  · exact hJ.initialization _ m w hm
  · exact hm

theorem MachineBlind.serverReady (hJ : MachineBlind J) (out : Except GoError ServerOutcome)
    (m : CloudscaleMachine) (w : W) (hm : J m w) : J (setServerReady out m) w := by
  rcases out with err | ⟨result, _ | server⟩
  · exact hJ.condition _ (by decide) _ _ _ m w hm
  · exact hm
  · show J (setServerStatusCondition server m) w
    rw [setServerStatusCondition]
    split
    case h_2 => split_ifs <;> exact hJ.condition _ (by decide) _ _ _ m w hm
    all_goals exact hJ.condition _ (by decide) _ _ _ m w hm

theorem MachineBlind.ready (hJ : MachineBlind J) (m : CloudscaleMachine) (w : W) (hm : J m w) :
    J (setMachineReadyCondition m) w := by
  rw [setMachineReadyCondition]
  split
  · exact hJ.condition _ (by decide) _ _ _ m w hm
  · split <;> exact hJ.condition _ (by decide) _ _ _ m w hm

theorem machineServerStep_wpc {m : CloudscaleMachine} {w : W} (hJ : MachineBlind J)
    (hbody : C.wpc (fun _ => J) (serverBody s) m w) :
    C.wpc (fun _ => J) (machineServerStep s) m w := by
  have hserver : C.wpc (fun _ => J) (reconcileServer s) m w := by
    refine Contract.wpc_seq
      ((Contract.wpc_deferred _ _).mpr (Contract.wpc_imp hbody hJ.serverReady)) ?_
    intro out m w hm
    cases out <;> exact hm
  refine Contract.wpc_seq (Contract.wpc_wrapped hserver fun _ _ _ => id) fun out m w hm => ?_
  cases out with
  | error err => exact hm
  | ok result => exact hJ.provisioned m w hm

/-- The server group comes before the server. -/
theorem machineReconcileNormal_preserves (hJ : MachineBlind J)
    (hgroup : C.Preserves J (reconcileServerGroup s.cloudscaleCluster))
    (hbody : C.Preserves J (serverBody s)) : C.Preserves J (machineReconcileNormal s) := by
  have hstep : C.Preserves J (machineServerStep s) := fun m w hinv hm =>
    machineServerStep_wpc hJ (hbody m w hinv hm)
  refine .deferred (.ite (fun _ => ?_) fun _ => .read_any fun m => ?_) fun _ => hJ.ready
  · exact .bind (.update (hJ.condition _ (by decide) _ _ _)) fun _ => .pure _
  · refine .ite (fun _ => hstep) fun _ => .bind hgroup fun _ => ?_
    exact .ite (fun _ => .pure _) fun _ => hstep

/-- A server group is looked up, and created if there is none. -/
theorem reconcileServerGroup_preserves {cluster : CloudscaleCluster} (hJ : MachineBlind J)
    (hid : ∀ id m w, J m w → J (setServerGroupID id m) w)
    (hget : ∀ id, C.Preserves J (Proc.perform (Op.get .serverGroup id) : MachineM _))
    (hlist : ∀ tags, C.Preserves J (Proc.perform (Op.list .serverGroup tags) : MachineM _))
    (hcreate : ∀ req, C.Preserves J (Proc.perform (Op.create .serverGroup req) : MachineM _)) :
    C.Preserves J (reconcileServerGroup cluster) := by
  have hfind (name : String) : C.Preserves J (findOrCreateServerGroup cluster name) := by
    refine .bind (hlist _) fun r => ?_
    split
    · exact .fail _
    · split
      · exact .bind (.update (hid _)) fun _ => .pure _
      · refine .bind (.bind (hcreate _) fun r => ?_) fun r => ?_
        · split
          · exact .pure _
          · exact .ite (fun _ => .pure _) fun _ => .fail _
        · split
          · exact .pure _
          · exact .bind (.update (hid _)) fun _ => .pure _
  refine .deferred (.read_any fun m => ?_) fun out m w hm => ?_
  · split
    · exact .pure _
    · refine .ite (fun _ => hfind _) fun _ => .bind (hget _) fun r => ?_
      split
      · exact .pure _
      · exact .ite (fun _ => .bind (.update (hid _)) fun _ => hfind _) fun _ => .fail _
  · cases out <;> exact hJ.condition _ (by decide) _ _ _ m w hm

/-- A recorded server is read, and one that is not recorded is looked up and created if there is
none. -/
theorem serverBody_preserves (hJ : MachineBlind J)
    (hget : ∀ id, C.Preserves J (Proc.perform (Op.get .server id) : MachineM _))
    (hread : ∀ server m w, J m w → J (updateMachineFromServer server m) w)
    (hfind : C.Preserves J (findServer s)) : C.Preserves J (serverBody s) := by
  refine .read_any fun m => .ite (fun _ => hfind) fun _ => .bind (hget _) fun r => ?_
  split
  · exact .bind (.update (hread _)) fun _ => .pure _
  · refine .ite (fun _ => ?_) fun _ => .fail _
    exact .bind (.update (hJ.condition _ (by decide) _ _ _)) fun _ => .pure _

theorem findServer_preserves
    (hlist : ∀ tags, C.Preserves J (Proc.perform (Op.list .server tags) : MachineM _))
    (hadopt : ∀ server, C.Preserves J (adoptServer server))
    (hcreate : C.Preserves J (createServer s)) :
    C.Preserves J (findServer s) := by
  refine .read_any fun m => .bind (hlist _) fun r => ?_
  split
  · exact .fail _
  · exact hcreate
  · exact hadopt _
  · exact .fail _

end Machine

end Capcs.Controller
