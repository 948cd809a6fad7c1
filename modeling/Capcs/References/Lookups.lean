import Capcs.Controller.Frames
import Capcs.Interaction.Same

/-!
# Capcs.References.Lookups — a normal pass with its lookups as a parameter

A normal pass looks up the names that the spec refers to in the status: the network of a router
interface, the entry of a router, the subnet of a network that the load balancer refers to, the
subnet of the pool members and its CIDR. Each of these lookups can fail, and then ends the pass.

`afterNetworkWith L` is a normal pass past its network step that makes the lookups of `L`. Where
they agree with those of the source, it does the same (`afterNetwork_same`). So to say that an
error branch of a lookup is never taken is to say that the pass does the same with any lookups
that differ from the source's in that branch only.
-/

namespace Capcs.References

open Cloudscale Controller
open Interaction (Proc Frame SameFrom Keeps)

/-! ## Lookups -/

structure Lookups where
  /-- The entry of the network of a router interface. -/
  network : CloudscaleCluster → RouterSpec → RouterInterfaceSpec → Except GoError NetworkStatus
  /-- The entry of a router. -/
  router : CloudscaleCluster → RouterSpec → Except GoError RouterStatus
  /-- The subnet of a network, for the address of the load balancer. -/
  subnet : CloudscaleCluster → String → Except GoError String
  /-- The subnet of the pool members. -/
  memberSubnet : CloudscaleCluster → Except GoError String
  /-- The CIDR of that subnet. -/
  memberCIDR : CloudscaleCluster → String → Except GoError String

/-- The lookups the source makes, with their errors. -/
def Lookups.source : Lookups where
  network c routerSpec ifaceSpec :=
    match c.status.getNetworkStatus ifaceSpec.network with
    | none => .error (errorf ("network " ++ quote ifaceSpec.network ++
        " not found in status for router " ++ quote routerSpec.name ++ " interface"))
    | some ns => .ok ns
  router c routerSpec :=
    match c.status.getRouterStatus routerSpec.name with
    | none => .error (errorf ("router " ++ quote routerSpec.name ++ " not found in status"))
    | some rs => .ok rs
  subnet := safeUseSubnet
  memberSubnet := getPoolMemberSubnetID
  memberCIDR := getMemberSubnetCIDR

variable (L : Lookups)

/-! ## Routers -/

def reconcileInterfacesWith (routerSpec : RouterSpec) (router : Router) :
    List RouterInterfaceSpec → ClusterM Result
  | [] => pure {}
  | ifaceSpec :: rest => do
    let c ← Proc.read
    match L.network c routerSpec ifaceSpec with
    | .error err => Proc.fail err
    | .ok ns =>
      if ifaceSpec.uuid ≠ "" then
        adoptRouterInterface routerSpec ifaceSpec ns router
        reconcileInterfacesWith routerSpec router rest
      else
        match liveByNetwork router.interfaces ns.networkID with
        | some live =>
          claimRouterInterface routerSpec ifaceSpec ns live
          reconcileInterfacesWith routerSpec router rest
        | none =>
          let result ← createRouterInterface routerSpec router ifaceSpec ns
          if result.isZero then reconcileInterfacesWith routerSpec router rest else pure result

def recordRouterWith (routerSpec : RouterSpec) (router : Router) : ClusterM Result := do
  Proc.update (setRouterStatus routerSpec router.uuid)
  if router.status ≠ routerActive then pure { requeueAfter := routerRequeueAfter }
  else
    let c ← Proc.read
    match L.router c routerSpec with
    | .error err => Proc.fail err
    | .ok _ => reconcileInterfacesWith L routerSpec router routerSpec.interfaces

def reconcileRouterWith (cluster : Cluster) (routerSpec : RouterSpec) : ClusterM Result := do
  if routerSpec.uuid ≠ "" then
    let router ← adoptRouter routerSpec
    recordRouterWith L routerSpec router
  else
    match ← ensureManagedRouter cluster routerSpec with
    | .error result => pure result
    | .ok router => recordRouterWith L routerSpec router

def reconcileEachRouterWith (cluster : Cluster) : Result → List RouterSpec → ClusterM Result
  | result, [] => pure result
  | result, routerSpec :: rest => do
    let res ← (reconcileRouterWith L cluster routerSpec).wrapErr
      (.wrap ("reconciling router " ++ quote routerSpec.name ++ ": "))
    reconcileEachRouterWith cluster (lowerResult result res) rest

def reconcileRoutersWith (cluster : Cluster) : ClusterM Result :=
  Proc.deferred (do
    let c ← Proc.read
    reconcileEachRouterWith L cluster {} c.spec.routers) setRouterReady

/-! ## Load balancer -/

def loadBalancerRequestWith (c : CloudscaleCluster) : Except GoError LoadBalancerRequest := do
  let lbSpec := c.spec.controlPlaneLoadBalancer
  let req : LoadBalancerRequest :=
    { name := c.metadata.name ++ "-cp-lb", flavor := lbSpec.flavor, zone := c.spec.zone,
      tags := clusterOwnershipTags c }
  if lbSpec.network ≠ "" then
    let subnetID ← L.subnet c lbSpec.network
    pure { req with vipAddresses := some [subnetID] }
  else pure req

def getDesiredLoadBalancerMembersWith (cluster : Cluster) :
    ClusterM (List LoadBalancerPoolMemberRequest) := do
  let c ← Proc.read
  match ← listControlPlaneMachines cluster c with
  | .error err => Proc.fail (wrapKube "listing CloudscaleMachines: " err)
  | .ok machines =>
    match L.memberSubnet c with
    | .error err => Proc.fail err
    | .ok memberSubnetID =>
      match L.memberCIDR c memberSubnetID with
      | .error err => Proc.fail (err.wrap "resolving pool member subnet CIDR: ")
      | .ok memberSubnetCIDR =>
        match Net.parseCIDR memberSubnetCIDR with
        | none => Proc.fail (errorf ("parsing pool member subnet CIDR " ++
            quote memberSubnetCIDR ++ ": invalid CIDR address: " ++ memberSubnetCIDR))
        | some memberIPNet => pure (desiredMembers c memberSubnetID memberIPNet machines)

def reconcileLBMembersWith (cluster : Cluster) : ClusterM Result := do
  let c ← Proc.read
  let reply : Except ApiError (List LoadBalancerPoolMember) ←
    Proc.perform (Op.listMembers c.status.loadBalancerPoolID)
  match reply with
  | .error err => Proc.fail (wrapApi "failed to get current load balancer members: " err)
  | .ok currentMembers =>
    let desired ← (getDesiredLoadBalancerMembersWith L cluster).wrapErr
      (.wrap "failed to get desired load balancer members: ")
    let result ← addMembers currentMembers desired
    if result.isZero then
      removeMembers desired currentMembers
      pure {}
    else pure result

def reconcileLBChildrenWith (cluster : Cluster) : ClusterM Result := do
  let result ← reconcileLBPool.wrapErr (.wrap "reconciling load balancer pool: ")
  if !result.isZero then pure result
  else
    let result ← reconcileLBListener.wrapErr (.wrap "reconciling load balancer listener: ")
    if !result.isZero then pure result
    else
      let result ← reconcileLBHealthMonitor.wrapErr
        (.wrap "reconciling load balancer health monitor: ")
      if !result.isZero then pure result
      else (reconcileLBMembersWith L cluster).wrapErr (.wrap "reconciling load balancer members: ")

def finishLoadBalancerWith (cluster : Cluster) (lb : LoadBalancer) (pending : Option String) :
    ClusterM LbOutcome := do
  let result ← reconcileLBChildrenWith L cluster
  if !result.isZero then pure { result, pending }
  else pure { status := { ipAddress := lb.vipAddresses.head?.getD "", ready := pending.isNone }
              pending }

def reconcileLBWith : ClusterM Result :=
  reconcileOwned .loadBalancer "load balancer" (·.loadBalancerID)
    (fun id s => { s with loadBalancerID := id }) (loadBalancerRequestWith L)

def loadBalancerBodyWith (cluster : Cluster) : ClusterM LbOutcome := do
  let result ← (reconcileLBWith L).wrapErr (.wrap "reconciling load balancer: ")
  if !result.isZero then pure { result }
  else
    let c ← Proc.read
    if c.status.loadBalancerID = "" then
      pure { result := { requeueAfter := 5 }, pending := some "Load balancer is not yet running" }
    else
      match ← svcGet .loadBalancer c.status.loadBalancerID with
      | .error err => Proc.fail (wrapApi "getting load balancer status: " err)
      | .ok lb =>
        if lb.status = loadBalancerRunningStatus then finishLoadBalancerWith L cluster lb none
        else if lb.status = loadBalancerChangingStatus then
          pure { result := { requeueAfter := 10 },
                 pending := some "Load balancer is not yet running" }
        else
          let msg ← degradedMessage lb
          finishLoadBalancerWith L cluster lb (some msg)

def reconcileLoadBalancerWith (cluster : Cluster) : ClusterM (LbStatus × Result) := do
  let c ← Proc.read
  if !c.spec.controlPlaneLoadBalancer.isEnabled then
    Proc.update (setCondition .loadBalancerReady .isTrue .loadBalancerDisabled "")
    pure ({ ready := true }, {})
  else
    let out ← (loadBalancerBodyWith L cluster).deferred setLoadBalancerReady
    pure (out.status, out.result)

/-! ## The pass -/

/-- A normal pass past its network step, with other lookups. -/
def afterNetworkWith (cluster : Cluster) : ClusterM Result := do
  let result ← (reconcileRoutersWith L cluster).wrapErr (.wrap "reconciling routers: ")
  if !result.isZero then pure result
  else
    let (lb, result) ← (reconcileLoadBalancerWith L cluster).wrapErr
      (.wrap "reconciling load balancer: ")
    if !result.isZero then pure result
    else
      let result ← (reconcileFloatingIP cluster).wrapErr (.wrap "reconciling floating IP: ")
      if !result.isZero then pure result
      else finishNormal cluster lb

/-- A normal pass. -/
def reconcileNormalWith (cluster : Cluster) : ClusterM Result :=
  Proc.deferred (do
    let result ← (reconcileNetwork cluster).wrapErr (.wrap "reconciling network: ")
    if !result.isZero then pure result
    else afterNetworkWith L cluster) fun _ => setReadyCondition

/-! ## Lookups that agree with those of the source -/

/-- What the lookups depend on, apart from the entries of routers. -/
structure View where
  spec : CloudscaleClusterSpec
  networks : List NetworkStatus

def view (c : CloudscaleCluster) : View := ⟨c.spec, c.status.networks⟩

/-- In this state, the lookups give what the source's do. -/
structure Agrees (L : Lookups) (c : CloudscaleCluster) : Prop where
  network : ∀ r ∈ c.spec.routers, ∀ i ∈ r.interfaces, L.network c r i = Lookups.source.network c r i
  router : ∀ r, (c.status.getRouterStatus r.name).isSome → L.router c r = Lookups.source.router c r
  subnet : c.spec.controlPlaneLoadBalancer.isEnabled = true →
    c.spec.controlPlaneLoadBalancer.network ≠ "" →
      L.subnet c c.spec.controlPlaneLoadBalancer.network =
        safeUseSubnet c c.spec.controlPlaneLoadBalancer.network
  memberSubnet : c.spec.controlPlaneLoadBalancer.isEnabled = true →
    L.memberSubnet c = getPoolMemberSubnetID c
  memberCIDR : c.spec.controlPlaneLoadBalancer.isEnabled = true → ∀ id,
    getPoolMemberSubnetID c = .ok id → L.memberCIDR c id = getMemberSubnetCIDR c id

/-- A set of states that depends on the view only, and in all of which the lookups agree. -/
structure Suits (L : Lookups) (J : CloudscaleCluster → Prop) : Prop where
  closed : ∀ c c', view c' = view c → J c → J c'
  agrees : ∀ c, J c → Agrees L c

variable {L} {J : CloudscaleCluster → Prop}

/-- The steps past the network step leave the view alone. -/
theorem Suits.keeps (hJ : Suits L J) {α β : Type} {f : CloudscaleCluster → β} {P : Op → Prop}
    {m : ClusterM α} (hm : Frame f P m) (hf : ∀ c c', f c' = f c → view c' = view c) : Keeps J m :=
  .of_frame hm fun c c' hsame => hJ.closed c c' (hf c c' hsame)

/-! ### Routers -/

theorem blind_view (r : RouterSpec) : Blind r view := ⟨fun _ _ => rfl, fun _ _ _ _ => rfl⟩

theorem view_of_offRouters (c c' : CloudscaleCluster) (hsame : offRouters c' = offRouters c) :
    view c' = view c :=
  show view (offRouters c') = view (offRouters c) from congrArg view hsame

theorem view_of_offLoadBalancer (c c' : CloudscaleCluster)
    (hsame : offLoadBalancer c' = offLoadBalancer c) : view c' = view c :=
  show view (offLoadBalancer c') = view (offLoadBalancer c) from congrArg view hsame

theorem view_of_exceptLoadBalancer (c c' : CloudscaleCluster)
    (hsame : exceptLoadBalancer c' = exceptLoadBalancer c) : view c' = view c :=
  view_of_offLoadBalancer c c' (offLoadBalancer_factors hsame)

theorem source_network {c : CloudscaleCluster} {r : RouterSpec} {i : RouterInterfaceSpec}
    {ns : NetworkStatus} (hns : c.status.getNetworkStatus i.network = some ns) :
    Lookups.source.network c r i = .ok ns := by
  simp only [Lookups.source, hns]

theorem source_network_none {c : CloudscaleCluster} {r : RouterSpec} {i : RouterInterfaceSpec}
    (hns : c.status.getNetworkStatus i.network = none) :
    Lookups.source.network c r i = .error (errorf ("network " ++ quote i.network ++
      " not found in status for router " ++ quote r.name ++ " interface")) := by
  simp only [Lookups.source, hns]

theorem source_router {c : CloudscaleCluster} {r : RouterSpec} {rs : RouterStatus}
    (hrs : c.status.getRouterStatus r.name = some rs) : Lookups.source.router c r = .ok rs := by
  simp only [Lookups.source, hrs]

theorem reconcileInterfaces_same (hJ : Suits L J) {r : RouterSpec}
    (hr : ∀ c, J c → r ∈ c.spec.routers) (router : Router) (ifaces : List RouterInterfaceSpec)
    (hall : ∀ i ∈ ifaces, i ∈ r.interfaces) :
    SameFrom J (reconcileInterfaces r router ifaces)
      (reconcileInterfacesWith L r router ifaces) := by
  induction ifaces with
  | nil => exact .refl _ _
  | cons i rest ih =>
      have ih := ih fun i' hi' => hall i' (by simp [hi'])
      refine .read fun c hc => ?_
      rw [(hJ.agrees c hc).network r (hr c hc) i (hall i (by simp))]
      cases hns : c.status.getNetworkStatus i.network with
      | none =>
          rw [source_network_none hns]
      | some ns =>
          rw [source_network hns]
          -- the lookup has succeeded in both
          refine SameFrom.ite (J := J) (fun _ => ?_) (fun _ => ?_) c hc
          · exact .bind_left (hJ.keeps (adoptRouterInterface_frame (P := About .router)
              ((blind_view r).interface _) _ _) fun _ _ hsame => hsame) fun _ => ih
          cases liveByNetwork router.interfaces ns.networkID with
          | some live =>
              exact .bind_left (hJ.keeps (claimRouterInterface_frame (P := About .router)
                ((blind_view r).interface _) _ _) fun _ _ hsame => hsame) fun _ => ih
          | none =>
              refine .bind_left (hJ.keeps (createRouterInterface_frame
                ((blind_view r).interface _) _ _) fun _ _ hsame => hsame) fun result => ?_
              exact .ite (fun _ => ih) fun _ => .refl _ _

theorem getRouterStatus_set (r : RouterSpec) (routerID : String) (c : CloudscaleCluster) :
    ((setRouterStatus r routerID c).status.getRouterStatus r.name).isSome = true := by
  have hfind := Keyed.find?_upsertFirst_self
    (p := fun rs : RouterStatus => decide (rs.name = r.name))
    (f := fun rs => { rs with routerID, managed := decide (r.uuid = "") })
    (e := { name := r.name, routerID, managed := decide (r.uuid = "") }) (fun _ hp => hp) (by simp)
    c.status.routers
  exact Option.isSome_iff_exists.mpr ⟨_, hfind⟩

/-- The entry of a router is written right before it is looked up. -/
theorem recordRouter_same (hJ : Suits L J) {r : RouterSpec} (hr : ∀ c, J c → r ∈ c.spec.routers)
    (router : Router) : SameFrom J (recordRouter r router) (recordRouterWith L r router) := by
  intro c hc
  have hc₁ : J (setRouterStatus r router.uuid c) := hJ.closed c _ rfl hc
  have hthere := getRouterStatus_set r router.uuid c
  obtain ⟨rs, hrs⟩ := Option.isSome_iff_exists.mp hthere
  refine SameFrom.ite (J := (· = setRouterStatus r router.uuid c))
    (fun _ => .refl _ _) (fun _ => ?_) _ rfl
  refine .read ?_
  rintro _ rfl
  rw [(hJ.agrees _ hc₁).router r hthere, hrs, source_router hrs]
  exact reconcileInterfaces_same hJ hr router r.interfaces (fun _ hi => hi) _ hc₁

theorem reconcileRouter_same (hJ : Suits L J) (cluster : Cluster) {r : RouterSpec}
    (hr : ∀ c, J c → r ∈ c.spec.routers) :
    SameFrom J (reconcileRouter cluster r) (reconcileRouterWith L cluster r) := by
  refine .ite (fun _ => ?_) fun _ => ?_
  · refine .bind_left (hJ.keeps (adoptRouter_frame (f := id) r) ?_) fun router =>
      recordRouter_same hJ hr router
    exact fun _ _ hsame => congrArg view hsame
  · refine .bind_left (hJ.keeps (ensureManagedRouter_frame (f := id) cluster r) ?_) fun out => ?_
    · exact fun _ _ hsame => congrArg view hsame
    · split
      · exact .refl _ _
      · exact recordRouter_same hJ hr _

theorem reconcileEachRouter_same (hJ : Suits L J) (cluster : Cluster) (routers : List RouterSpec)
    (hall : ∀ r ∈ routers, ∀ c, J c → r ∈ c.spec.routers) :
    ∀ result, SameFrom J (reconcileEachRouter cluster result routers)
      (reconcileEachRouterWith L cluster result routers) := by
  induction routers with
  | nil => exact fun _ => .refl _ _
  | cons r rest ih =>
      intro result
      refine .bind ((reconcileRouter_same hJ cluster (hall r (by simp))).wrapErr _)
        (hJ.keeps (.wrapErr (reconcileRouter_frame cluster (blind_view r)))
          fun _ _ hsame => hsame) ?_
      exact fun res => ih (fun r' hr' => hall r' (by simp [hr'])) _

theorem reconcileRouters_same (hJ : Suits L J) (cluster : Cluster) :
    SameFrom J (reconcileRouters cluster) (reconcileRoutersWith L cluster) := by
  refine .deferred (.read fun c hc => ?_) _
  -- the routers are those of the spec at the start
  have hK : Suits L fun c' => J c' ∧ c'.spec.routers = c.spec.routers :=
    ⟨fun a b hview h => ⟨hJ.closed a b hview h.1, (congrArg (·.spec.routers) hview).trans h.2⟩,
      fun a h => hJ.agrees a h.1⟩
  refine reconcileEachRouter_same hK cluster _ (fun r hr c' h => ?_) _ c ⟨hc, rfl⟩
  rw [h.2]
  exact hr

/-! ### Load balancer -/

theorem loadBalancerRequest_same {c : CloudscaleCluster} (hc : Agrees L c)
    (henabled : c.spec.controlPlaneLoadBalancer.isEnabled = true) :
    loadBalancerRequest c = loadBalancerRequestWith L c := by
  rw [loadBalancerRequest, loadBalancerRequestWith]
  by_cases hnet : c.spec.controlPlaneLoadBalancer.network = ""
  · simp [hnet]
  · rw [if_pos hnet, if_pos hnet, hc.subnet henabled hnet]

/-- States with the load balancer enabled. -/
def Enabled (J : CloudscaleCluster → Prop) (c : CloudscaleCluster) : Prop :=
  J c ∧ c.spec.controlPlaneLoadBalancer.isEnabled = true

theorem Suits.enabled (hJ : Suits L J) : Suits L (Enabled J) :=
  ⟨fun a b hview h => ⟨hJ.closed a b hview h.1,
    (congrArg (·.spec.controlPlaneLoadBalancer.isEnabled) hview).trans h.2⟩,
      fun a h => hJ.agrees a h.1⟩

theorem reconcileLB_same (hJ : Suits L J) :
    SameFrom (Enabled J) reconcileLB (reconcileLBWith L) := by
  refine .read fun c hc => ?_
  have hE := hJ.enabled
  refine SameFrom.bind_left (hE.keeps (ensureResource_lookups (f := id) _ _ _)
    fun _ _ hsame => congrArg view hsame) (fun r => ?_) c hc
  refine .bind_left (hE.keeps (.update (f := view) (P := fun _ => True) fun _ => rfl)
    fun _ _ hsame => hsame) fun _ => ?_
  refine .ite (fun _ => .refl _ _) fun _ => .read fun c hc => ?_
  rw [loadBalancerRequest_same (hJ.agrees c hc.1) hc.2]

theorem getDesiredLoadBalancerMembers_same (hJ : Suits L J) (cluster : Cluster) :
    SameFrom (Enabled J) (getDesiredLoadBalancerMembers cluster)
      (getDesiredLoadBalancerMembersWith L cluster) := by
  refine .read fun c hc => ?_
  have hagrees := hJ.agrees c hc.1
  refine SameFrom.bind_left (J := (· = c)) ?_ (fun r => ?_) c rfl
  · refine .of_frame (Frame.perform (f := id) (P := fun _ => True) trivial) ?_
    exact fun _ _ hsame h => hsame.trans h
  · intro c' hc'
    subst hc'
    cases r with
    | error err => rfl
    | ok machines =>
        simp only [hagrees.memberSubnet hc.2]
        cases hid : getPoolMemberSubnetID c' with
        | error err => rfl
        | ok id =>
            have hsame := hagrees.memberCIDR hc.2 id hid
            cases hcidr : getMemberSubnetCIDR c' id with
            | error err => simp only [hsame, hcidr]
            | ok cidr => cases hnet : Net.parseCIDR cidr <;> simp only [hsame, hcidr, hnet]

theorem reconcileLBMembers_same (hJ : Suits L J) (cluster : Cluster) :
    SameFrom (Enabled J) (reconcileLBMembers cluster) (reconcileLBMembersWith L cluster) := by
  have hE := hJ.enabled
  refine .read fun c hc => ?_
  refine SameFrom.bind_left (hE.keeps (Frame.perform (f := id) (P := fun _ => True) trivial)
    fun _ _ hsame => congrArg view hsame) (fun r => ?_) c hc
  cases r with
  | error err => exact .refl _ _
  | ok current =>
      refine .bind ((getDesiredLoadBalancerMembers_same hJ cluster).wrapErr _) ?_
        fun desired => .refl _ _
      exact hE.keeps (.wrapErr (getDesiredLoadBalancerMembers_frame (f := id) cluster))
        fun _ _ hsame => congrArg view hsame

theorem reconcileLBChildren_same (hJ : Suits L J) (cluster : Cluster) :
    SameFrom (Enabled J) (reconcileLBChildren cluster) (reconcileLBChildrenWith L cluster) := by
  have hE := hJ.enabled
  refine .bind_left (hE.keeps (.wrapErr (reconcileOwned_frame rfl _ _ (fun _ _ => rfl) _))
    view_of_exceptLoadBalancer)
    fun _ => .ite (fun _ => .refl _ _) fun _ => ?_
  refine .bind_left (hE.keeps (.wrapErr (reconcileOwned_frame rfl _ _ (fun _ _ => rfl) _))
    view_of_exceptLoadBalancer)
    fun _ => .ite (fun _ => .refl _ _) fun _ => ?_
  refine .bind_left (hE.keeps (.wrapErr (reconcileOwned_frame rfl _ _ (fun _ _ => rfl) _))
    view_of_exceptLoadBalancer)
    fun _ => .ite (fun _ => .refl _ _) fun _ => ?_
  exact (reconcileLBMembers_same hJ cluster).wrapErr _

theorem loadBalancerBody_same (hJ : Suits L J) (cluster : Cluster) :
    SameFrom (Enabled J) (loadBalancerBody cluster) (loadBalancerBodyWith L cluster) := by
  have hE := hJ.enabled
  have hfinish (lb : LoadBalancer) (pending : Option String) : SameFrom (Enabled J)
      (finishLoadBalancer cluster lb pending) (finishLoadBalancerWith L cluster lb pending) :=
    .bind (reconcileLBChildren_same hJ cluster) (hE.keeps (reconcileLBChildren_frame cluster)
      view_of_exceptLoadBalancer)
      fun _ => .refl _ _
  refine .bind ((reconcileLB_same hJ).wrapErr _)
    (hE.keeps (.wrapErr (reconcileOwned_frame rfl _ _ (fun _ _ => rfl) _))
    view_of_exceptLoadBalancer) fun _ => ?_
  refine .ite (fun _ => .refl _ _) fun _ => .read fun c hc => ?_
  refine SameFrom.ite (J := Enabled J) (fun _ => .refl _ _) (fun _ => ?_) c hc
  refine .bind_left (hE.keeps (Frame.perform (f := id) (P := fun _ => True) trivial)
    fun _ _ hsame => congrArg view hsame) fun r => ?_
  cases r with
  | error err => exact .refl _ _
  | ok lb =>
      refine .ite (fun _ => hfinish _ _) fun _ => .ite (fun _ => .refl _ _) fun _ => ?_
      refine .bind_left (hE.keeps (degradedMessage_frame (f := id) _) fun _ _ hsame => ?_)
        fun _ => hfinish _ _
      exact congrArg view hsame

theorem reconcileLoadBalancer_same (hJ : Suits L J) (cluster : Cluster) :
    SameFrom J (reconcileLoadBalancer cluster) (reconcileLoadBalancerWith L cluster) := by
  refine .read fun c hc => ?_
  by_cases henabled : c.spec.controlPlaneLoadBalancer.isEnabled = true
  · rw [if_neg (by simp [henabled]), if_neg (by simp [henabled])]
    refine SameFrom.bind (J := Enabled J) ((loadBalancerBody_same hJ cluster).deferred _)
      (hJ.enabled.keeps (f := offLoadBalancer) (.deferred ((loadBalancerBody_frame cluster).mono
        (fun _ _ hsame => offLoadBalancer_factors hsame) fun _ hop => hop) ?_)
        view_of_offLoadBalancer) (fun _ => .refl _ _) c ⟨hc, henabled⟩
    intro out c
    unfold setLoadBalancerReady
    split <;> rfl
  · rw [if_pos (by simpa using henabled), if_pos (by simpa using henabled)]

/-! ### The pass -/

theorem afterNetwork_same (hJ : Suits L J) (cluster : Cluster) :
    SameFrom J (afterNetwork cluster) (afterNetworkWith L cluster) := by
  refine .bind ((reconcileRouters_same hJ cluster).wrapErr _)
    (hJ.keeps (.wrapErr (reconcileRouters_frame cluster)) view_of_offRouters) fun _ => ?_
  refine .ite (fun _ => .refl _ _) fun _ => ?_
  refine .bind ((reconcileLoadBalancer_same hJ cluster).wrapErr _)
    (hJ.keeps (.wrapErr (reconcileLoadBalancer_frame cluster)) view_of_offLoadBalancer) fun _ => ?_
  exact .refl _ _

theorem reconcileNormal_same (hJ : Suits L J) (cluster : Cluster)
    (hnet : Keeps J (reconcileNetwork cluster)) :
    SameFrom J (reconcileNormal cluster) (reconcileNormalWith L cluster) := by
  refine .deferred (.bind_left hnet.wrapErr fun _ => .ite (fun _ => .refl _ _) fun _ => ?_) _
  exact afterNetwork_same hJ cluster

/-- With the lookups of the source it is the pass of the source. -/
theorem reconcileNormal_source (cluster : Cluster) (c : CloudscaleCluster) :
    (reconcileNormal cluster).exec c = (reconcileNormalWith .source cluster).exec c := by
  have hJ : Suits .source fun _ => True :=
    ⟨fun _ _ _ _ => trivial, fun _ _ =>
      ⟨fun _ _ _ _ => rfl, fun _ _ => rfl, fun _ _ => rfl, fun _ => rfl, fun _ _ _ => rfl⟩⟩
  exact reconcileNormal_same hJ cluster (.of_frame (reconcileNetwork_frame cluster)
    fun _ _ _ _ => trivial) c trivial

end Capcs.References
