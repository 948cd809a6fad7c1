import Capcs.Controller.Rules

/-!
# Capcs.Controller.Frames — what each step of a pass leaves alone

Every step works on its own fields of the object and on its own part of the API. The
frames below say so for each step of `reconcileNormal` and `reconcileDelete`; the fields a
step may write, the conditions included, are blanked out.

Only the deferred write of a step touches the conditions. What comes before it is framed by
an `except` view, which keeps them, so that a step also has a frame for any `f` that does not
look at the fields of the step and at its own condition (`reconcileNetwork_blind` and so on).
-/

namespace Capcs.Controller

open Cloudscale
open Interaction (Proc Frame)

variable {β : Type} {f : CloudscaleCluster → β} {P : Op → Prop} (cluster : Cluster)

/-! ## Parts of the API -/

/-- The parts a request can be about. -/
inductive Part where
  | network
  | router
  /-- Taking an interface off a router. -/
  | detach
  | loadBalancer
  | floatingIP
  | server
  | kube
  deriving DecidableEq

/-- The part a kind of resource belongs to. -/
def partOfKind : Kind → Part
  | .network => .network
  | .subnet => .network
  | .router => .router
  | .loadBalancer => .loadBalancer
  | .pool => .loadBalancer
  | .listener => .loadBalancer
  | .healthMonitor => .loadBalancer
  | .floatingIP => .floatingIP
  | .server => .server
  | .serverGroup => .server

/-- The part a request is about. -/
def partOf : Op → Part
  | .get k _ => partOfKind k
  | .list k _ => partOfKind k
  | .create k _ => partOfKind k
  | .delete k _ => partOfKind k
  | .listMembers _ => .loadBalancer
  | .createMember _ _ => .loadBalancer
  | .updateMember _ _ _ => .loadBalancer
  | .deleteMember _ _ => .loadBalancer
  | .createInterface _ _ => .router
  | .deleteInterface _ _ => .detach
  | .updateFloatingIP _ _ => .floatingIP
  | .listMachines _ _ _ => .kube
  | .getSecret _ _ => .kube

/-- Requests about one part, or to Kubernetes. -/
def About (part : Part) (op : Op) : Prop := partOf op = part ∨ partOf op = .kube

/-- Requests about routers, detaches included. -/
def AboutRouters (op : Op) : Prop := partOf op = .router ∨ partOf op = .detach

/-- Requests about pool members and the machines they stand for. -/
def AboutMembers : Op → Prop
  | .listMembers _ => True
  | .createMember _ _ => True
  | .updateMember _ _ _ => True
  | .deleteMember _ _ => True
  | .listMachines _ _ _ => True
  | _ => False

theorem AboutMembers.about {op : Op} (h : AboutMembers op) : About .loadBalancer op := by
  cases op with
  | listMembers | createMember | updateMember | deleteMember => exact .inl rfl
  | listMachines => exact .inr rfl
  | _ => exact h.elim

/-- Those of them that only read. -/
def ReadsMembers : Op → Prop
  | .listMembers _ => True
  | .listMachines _ _ _ => True
  | _ => False

theorem ReadsMembers.about {op : Op} (h : ReadsMembers op) : AboutMembers op := by
  cases op with
  | listMembers | listMachines => trivial
  | _ => exact h.elim

/-! ## Shared patterns -/

section Patterns

variable {σ β : Type} {f : σ → β} {k : Kind} {part : Part}

theorem adoptByTags_frame (hk : partOfKind k = part) (name : String) (tags : TagMap) :
    Frame f (About part) (adoptByTags k name tags) := by
  refine .bind (.perform (.inl hk)) fun r => ?_
  split
  · exact .fail _
  · exact .pure _
  · exact .pure _
  · exact .fail _

theorem ensureResource_frame (hk : partOfKind k = part) (current name : String) (tags : TagMap) :
    Frame f (About part) (ensureResource k current name tags) := by
  refine .ite (fun _ => .bind (.perform (.inl hk)) fun r => ?_) fun _ => adoptByTags_frame hk _ _
  split
  · exact .pure _
  · exact .ite (fun _ => adoptByTags_frame hk _ _) fun _ => .fail _

/-- Lookups. -/
def IsLookup : Op → Prop
  | .get _ _ => True
  | .list _ _ => True
  | _ => False

theorem adoptByTags_lookups (name : String) (tags : TagMap) :
    Frame f IsLookup (adoptByTags k name tags) := by
  refine .bind (.perform trivial) fun r => ?_
  split
  · exact .fail _
  · exact .pure _
  · exact .pure _
  · exact .fail _

theorem ensureResource_lookups (current name : String) (tags : TagMap) :
    Frame f IsLookup (ensureResource k current name tags) := by
  refine .ite (fun _ => .bind (.perform trivial) fun r => ?_) fun _ => adoptByTags_lookups _ _
  split
  · exact .pure _
  · exact .ite (fun _ => adoptByTags_lookups _ _) fun _ => .fail _

theorem createResource_within {req : k.Request} (hop : P (.create k req)) (what : String)
    (requeueAfter : Nat) : Frame f P (createResource k req what requeueAfter) := by
  refine .bind (.perform hop) fun r => ?_
  split
  · exact .pure _
  · exact .ite (fun _ => .pure _) fun _ => .fail _

theorem createResource_frame (hk : partOfKind k = part) (req : k.Request) (what : String)
    (requeueAfter : Nat) : Frame f (About part) (createResource k req what requeueAfter) :=
  createResource_within (.inl hk) what requeueAfter

end Patterns

/-- Reading the bootstrap data changes nothing. -/
theorem getBootstrapData_frame {f : CloudscaleMachine → β} (s : MachineScope)
    (hsecret : ∀ ns name, P (.getSecret ns name)) : Frame f P (getBootstrapData s) := by
  rw [getBootstrapData]
  split
  · exact .fail _
  · refine .bind (.perform (hsecret _ _)) fun r => ?_
    split
    · exact .fail _
    · split
      · exact .fail _
      · exact .pure _

/-! ## Networks -/

/-- The cluster without its network entries. -/
def exceptNetworks (c : CloudscaleCluster) : CloudscaleCluster :=
  { c with status := { c.status with networks := [] } }

/-- The cluster without what the network step writes. -/
def offNetworks (c : CloudscaleCluster) : CloudscaleCluster :=
  { c with status := { c.status with networks := [], conditions := [] } }

theorem offNetworks_factors : offNetworks.FactorsThrough exceptNetworks :=
  fun _ _ hsame => (congrArg offNetworks hsame :)

section Entry

theorem reconcilePreExistingNetwork_frame {n : NetworkSpec}
    (hf : ∀ networkID subnetID cidr managed mtu c,
      f (setNetworkStatus n.name networkID subnetID cidr managed mtu c) = f c) :
    Frame f (About .network) (reconcilePreExistingNetwork n) := by
  refine .read fun c => .ite (fun _ => .pure _) fun _ => .bind (.perform (.inl rfl)) fun r => ?_
  split
  · exact .fail _
  · refine .ite (fun _ => .fail _) fun _ => ?_
    split
    · exact .fail _
    · exact .update (hf _ _ _ _ _)

theorem resolveNetwork_frame (n : NetworkSpec) (networkID : String) (tags : TagMap) :
    Frame f (About .network) (resolveNetwork n networkID tags) := by
  refine .read fun c => .bind (ensureResource_frame (k := .network) rfl _ _ _) fun r => ?_
  refine .ite (fun _ => .pure _) fun _ => ?_
  refine .bind (createResource_frame (k := .network) rfl _ _ _) fun r => ?_
  split <;> exact .pure _

theorem resolveSubnet_frame (n : NetworkSpec) (subnetID networkID : String) (tags : TagMap) :
    Frame f (About .network) (resolveSubnet n subnetID networkID tags) := by
  refine .bind (ensureResource_frame (k := .subnet) rfl _ _ _) fun r => ?_
  refine .ite (fun _ => .pure _) fun _ => ?_
  refine .bind (createResource_frame (k := .subnet) rfl _ _ _) fun r => ?_
  split <;> exact .pure _

theorem reconcileManagedNetwork_frame {n : NetworkSpec}
    (hf : ∀ networkID subnetID cidr managed mtu c, f (setNetworkStatus n.name networkID subnetID
      cidr managed mtu c) = f c) :
    Frame f (About .network) (reconcileManagedNetwork cluster n) := by
  refine .read fun c => .bind (resolveNetwork_frame _ _ _) fun r => ?_
  split
  · exact .pure _
  · refine .bind (resolveSubnet_frame _ _ _ _) fun r => ?_
    split
    · exact .pure _
    · exact .bind (.update (hf _ _ _ _ _)) fun _ => .pure _

/-- The loop writes the entries of the networks it is about. -/
theorem reconcileNetworks_frame (ns : List NetworkSpec)
    (hf : ∀ n ∈ ns, ∀ networkID subnetID cidr managed mtu c, f (setNetworkStatus n.name networkID
      subnetID cidr managed mtu c) = f c) :
    Frame f (About .network) (reconcileNetworks cluster ns) := by
  induction ns with
  | nil => exact .pure _
  | cons n ns ih =>
      have ih := ih fun n' hn' => hf n' (List.mem_cons_of_mem _ hn')
      refine .ite (fun _ => ?_) fun _ => ?_
      · exact .bind (.wrapErr (reconcilePreExistingNetwork_frame (hf n List.mem_cons_self)))
          fun _ => ih
      · refine .bind (.wrapErr (reconcileManagedNetwork_frame cluster (hf n List.mem_cons_self)))
          fun result => ?_
        exact .ite (fun _ => ih) fun _ => .pure _

end Entry

theorem reconcileNetwork_blind (hf : f.FactorsThrough exceptNetworks)
    (hready : ∀ status reason msg c, f (setCondition .networkReady status reason msg c) = f c) :
    Frame f (About .network) (reconcileNetwork cluster) := by
  refine .deferred (.read fun c => .ite (fun _ => .fail _) fun _ => ?_) ?_
  · exact reconcileNetworks_frame cluster _ fun _ _ _ _ _ _ _ _ => hf rfl
  · intro out c
    cases out <;> exact hready _ _ _ c

theorem reconcileNetwork_frame :
    Frame offNetworks (About .network) (reconcileNetwork cluster) :=
  reconcileNetwork_blind cluster offNetworks_factors fun _ _ _ _ => rfl

/-! ## Routers -/

/-- The cluster without what the router step writes. -/
def offRouters (c : CloudscaleCluster) : CloudscaleCluster :=
  { c with status := { c.status with routers := [], conditions := [] } }

/-- What the entries of a router have no part in. -/
structure Blind {β : Type} (routerSpec : RouterSpec) (f : CloudscaleCluster → β) : Prop where
  router : ∀ id c, f (setRouterStatus routerSpec id c) = f c
  interface : ∀ network id managed c,
    f (setRouterInterfaceStatus routerSpec.name network id managed c) = f c

theorem blind_offRouters (routerSpec : RouterSpec) : Blind routerSpec offRouters :=
  ⟨fun _ _ => rfl, fun _ _ _ _ => rfl⟩

section Blind

variable {routerSpec : RouterSpec}

section Interface

variable {ns : NetworkStatus} (hf : ∀ id managed c,
  f (setRouterInterfaceStatus routerSpec.name ns.name id managed c) = f c)

include hf

theorem adoptRouterInterface_frame (ifaceSpec : RouterInterfaceSpec) (router : Router) :
    Frame f P (adoptRouterInterface routerSpec ifaceSpec ns router) := by
  rw [adoptRouterInterface]
  split
  · exact .fail _
  · exact .ite (fun _ => .fail _) fun _ => .update (hf _ _)

theorem claimRouterInterface_frame (ifaceSpec : RouterInterfaceSpec) (live : RouterInterface) :
    Frame f P (claimRouterInterface routerSpec ifaceSpec ns live) :=
  .read fun _ => .ite (fun _ => .fail _) fun _ => .update (hf _ _)

theorem createRouterInterface_frame (router : Router) (ifaceSpec : RouterInterfaceSpec) :
    Frame f (About .router) (createRouterInterface routerSpec router ifaceSpec ns) := by
  refine .bind (.update (hf _ _)) fun _ => .bind (.perform (.inl rfl)) fun r => ?_
  split
  · exact .ite (fun _ => .pure _) fun _ => .fail _
  · exact .bind (.update (hf _ _)) fun _ => .pure _

end Interface

/-- The loop writes the entries of the networks it is about. -/
theorem reconcileInterfaces_frame (router : Router) (ifaces : List RouterInterfaceSpec)
    (hf : ∀ i ∈ ifaces, ∀ id managed c,
      f (setRouterInterfaceStatus routerSpec.name i.network id managed c) = f c) :
    Frame f (About .router) (reconcileInterfaces routerSpec router ifaces) := by
  induction ifaces with
  | nil => exact .pure _
  | cons ifaceSpec rest ih =>
      have ih := ih fun i hi => hf i (List.mem_cons_of_mem _ hi)
      refine .read fun c => ?_
      split
      · exact .fail _
      · next ns hns =>
        have hname : ns.name = ifaceSpec.network := by simpa using List.find?_some hns
        have hown := hname ▸ hf ifaceSpec List.mem_cons_self
        refine .ite (fun _ => .bind (adoptRouterInterface_frame hown _ _) fun _ => ih) fun _ => ?_
        split
        · exact .bind (claimRouterInterface_frame hown _ _) fun _ => ih
        · refine .bind (createRouterInterface_frame hown _ _) fun result => ?_
          exact .ite (fun _ => ih) fun _ => .pure _

theorem recordRouter_frame (hf : Blind routerSpec f) (router : Router) :
    Frame f (About .router) (recordRouter routerSpec router) := by
  refine .bind (.update fun c => hf.router _ c) fun _ => .ite (fun _ => .pure _) fun _ =>
    .read fun c => ?_
  split
  · exact .fail _
  · exact reconcileInterfaces_frame router _ fun _ _ => hf.interface _

end Blind

theorem adoptRouter_within (routerSpec : RouterSpec) (hget : ∀ id, P (.get .router id)) :
    Frame f P (adoptRouter routerSpec) := by
  refine .read fun c => .bind (.perform (hget _)) fun r => ?_
  split
  · exact .fail _
  · exact .ite (fun _ => .fail _) fun _ => .pure _

theorem adoptRouter_frame (routerSpec : RouterSpec) :
    Frame f (About .router) (adoptRouter routerSpec) :=
      adoptRouter_within routerSpec fun _ => .inl rfl

theorem ensureManagedRouter_frame (routerSpec : RouterSpec) :
    Frame f (About .router) (ensureManagedRouter cluster routerSpec) := by
  refine .read fun c => .bind (.wrapErr (ensureResource_frame (k := .router) rfl _ _ _)) fun r => ?_
  have hcreate : Frame f (About .router) (ensureManagedRouter.createRouter routerSpec c
      (routerTags cluster routerSpec.name)) := createResource_frame (k := .router) rfl _ _ _
  split
  split
  · exact .ite (fun _ => .pure _) fun _ => hcreate
  · exact hcreate

theorem reconcileRouter_frame {routerSpec : RouterSpec} (hf : Blind routerSpec f) :
    Frame f (About .router) (reconcileRouter cluster routerSpec) := by
  refine .ite (fun _ => ?_) fun _ => ?_
  · exact .bind (adoptRouter_frame _) fun router => recordRouter_frame hf router
  · refine .bind (ensureManagedRouter_frame cluster routerSpec) fun r => ?_
    split
    · exact .pure _
    · exact recordRouter_frame hf _

theorem reconcileEachRouter_frame (routers : List RouterSpec) (hf : ∀ r ∈ routers, Blind r f) :
    ∀ result, Frame f (About .router) (reconcileEachRouter cluster result routers) := by
  induction routers with
  | nil => exact fun _ => .pure _
  | cons r rest ih =>
      intro result
      refine .bind (.wrapErr (reconcileRouter_frame cluster (hf r (by simp)))) fun res => ?_
      exact ih (fun r' hr' => hf r' (by simp [hr'])) _

theorem reconcileRouters_blind (hf : ∀ r, Blind r f)
    (hready : ∀ status reason msg c, f (setCondition .routerReady status reason msg c) = f c) :
    Frame f (About .router) (reconcileRouters cluster) := by
  refine .deferred (.read fun _ => reconcileEachRouter_frame cluster _ (fun r _ => hf r) _) ?_
  intro out c
  cases out with
  | error err => exact hready _ _ _ c
  | ok result =>
      rw [setRouterReady]
      split_ifs <;> exact hready _ _ _ c

theorem reconcileRouters_frame :
    Frame offRouters (About .router) (reconcileRouters cluster) :=
  reconcileRouters_blind cluster blind_offRouters fun _ _ _ _ => rfl

/-! ## Load balancer -/

/-- The cluster without the resources of its load balancer. -/
def exceptLoadBalancer (c : CloudscaleCluster) : CloudscaleCluster :=
  { c with status := { c.status with
      loadBalancerID := "", loadBalancerPoolID := "", loadBalancerListenerID := ""
      loadBalancerHealthMonitorID := "", loadBalancerMemberIDs := [] } }

/-- The cluster without what the load balancer step writes. -/
def offLoadBalancer (c : CloudscaleCluster) : CloudscaleCluster :=
  { c with status := { c.status with
      loadBalancerID := "", loadBalancerPoolID := "", loadBalancerListenerID := ""
      loadBalancerHealthMonitorID := "", loadBalancerMemberIDs := [], conditions := [] } }

theorem offLoadBalancer_factors : offLoadBalancer.FactorsThrough exceptLoadBalancer :=
  fun _ _ hsame => (congrArg offLoadBalancer hsame :)

theorem reconcileOwned_frame {k : Kind} (hk : partOfKind k = .loadBalancer) (what : String)
    (id : CloudscaleClusterStatus → String)
    {setID : String → CloudscaleClusterStatus → CloudscaleClusterStatus}
    (hset : ∀ new c, f { c with status := setID new c.status } = f c)
    (request : CloudscaleCluster → Except GoError k.Request) :
    Frame f (About .loadBalancer) (reconcileOwned k what id setID request) := by
  refine .read fun c => .bind (ensureResource_frame hk _ _ _) fun r => ?_
  refine .bind (.update fun c => hset _ c) fun _ => .ite (fun _ => .pure _) fun _ =>
    .read fun c => ?_
  split
  · exact .fail _
  · refine .bind (createResource_frame hk _ _ _) fun r => ?_
    split
    · exact .pure _
    · exact .bind (.update fun c => hset _ c) fun _ => .pure _

/-- The pattern under any contract: it makes lookups, creates, and writes its own field. -/
theorem reconcileOwned_preserves {W : Type} {C : Interaction.Contract W Op Op.Reply}
    {J : CloudscaleCluster → W → Prop} {k : Kind} {what : String}
    {getID : CloudscaleClusterStatus → String}
    {setID : String → CloudscaleClusterStatus → CloudscaleClusterStatus}
    {request : CloudscaleCluster → Except GoError k.Request}
    (hlookups : ∀ {α : Type} {m : ClusterM α}, Frame id IsLookup m → C.Preserves J m)
    (hcreate : ∀ req, C.Preserves J (Proc.perform (Op.create k req) : ClusterM _))
    (hset : ∀ new c w, J c w → J { c with status := setID new c.status } w) :
    C.Preserves J (reconcileOwned k what getID setID request) := by
  refine .read_any fun c => .bind (hlookups (ensureResource_lookups _ _ _)) fun r => ?_
  refine .bind (.update (hset _)) fun _ => .ite (fun _ => .pure _) fun _ => .read_any fun c => ?_
  split
  · exact .fail _
  · refine .bind (.bind (hcreate _) fun r => ?_) fun r => ?_
    · split
      · exact .pure _
      · exact .ite (fun _ => .pure _) fun _ => .fail _
    · split
      · exact .pure _
      · exact .bind (.update (hset _)) fun _ => .pure _

/-- The cluster without the pool members. -/
def offMembers (c : CloudscaleCluster) : CloudscaleCluster :=
  { c with status := { c.status with loadBalancerMemberIDs := [] } }

theorem getDesiredLoadBalancerMembers_frame :
    Frame f ReadsMembers (getDesiredLoadBalancerMembers cluster) := fun _ _ _ _ hc =>
  getDesiredLoadBalancerMembers_wpc (Interaction.Contract.wpc_perform.mpr fun _ _ _ =>
    ⟨trivial, fun _ _ _ _ => ⟨fun _ => hc, fun _ _ _ _ _ _ _ _ => hc⟩⟩)

theorem reconcileLBMembers_frame :
    Frame offMembers AboutMembers (reconcileLBMembers cluster) := by
  have hdesired : Frame offMembers AboutMembers (getDesiredLoadBalancerMembers cluster) :=
    (getDesiredLoadBalancerMembers_frame (f := offMembers) cluster).mono (fun _ _ hsame => hsame)
      fun _ => ReadsMembers.about
  have hcreate (d : LoadBalancerPoolMemberRequest) :
      Frame offMembers AboutMembers (createLoadBalancerMember d) := by
    refine .read fun c => .bind (.perform trivial) fun r => ?_
    split
    · exact .ite (fun _ => .pure _) fun _ => .fail _
    · exact .bind (.update fun _ => rfl) fun _ => .pure _
  have hupdate (id address : String) :
      Frame offMembers AboutMembers (updateLoadBalancerMember id address) := by
    refine .read fun c => .bind (.perform trivial) fun r => ?_
    split
    · exact .fail _
    · exact .pure _
  have hdelete (m : LoadBalancerPoolMember) :
      Frame offMembers AboutMembers (deleteLoadBalancerMember m) := by
    refine .read fun c => .bind (.perform trivial) fun r => ?_
    split
    · exact .fail _
    · exact .update fun _ => rfl
  exact fun x => reconcileLBMembers_preserves (fun _ => Frame.perform trivial x) (hdesired x)
    (fun d => hcreate d x) (fun id address => hupdate id address x) fun m => hdelete m x

/-- The cluster without what hangs on its load balancer. -/
def exceptChildren (c : CloudscaleCluster) : CloudscaleCluster :=
  { c with status := { c.status with
      loadBalancerPoolID := "", loadBalancerListenerID := ""
      loadBalancerHealthMonitorID := "", loadBalancerMemberIDs := [] } }

theorem reconcileLBChildren_blind (hf : f.FactorsThrough exceptChildren) :
    Frame f (About .loadBalancer) (reconcileLBChildren cluster) := by
  refine .mono (f := exceptChildren) ?_ (fun _ _ hsame => hf hsame) fun _ hop => hop
  refine .bind (.wrapErr (reconcileOwned_frame rfl _ _ (fun _ _ => rfl) _)) fun _ => ?_
  refine .ite (fun _ => .pure _) fun _ => ?_
  refine .bind (.wrapErr (reconcileOwned_frame rfl _ _ (fun _ _ => rfl) _)) fun _ => ?_
  refine .ite (fun _ => .pure _) fun _ => ?_
  refine .bind (.wrapErr (reconcileOwned_frame rfl _ _ (fun _ _ => rfl) _)) fun _ => ?_
  refine .ite (fun _ => .pure _) fun _ => .wrapErr ((reconcileLBMembers_frame cluster).mono ?_ ?_)
  · intro c c' hsame
    show exceptChildren (offMembers c') = exceptChildren (offMembers c)
    rw [hsame]
  · exact fun _ => AboutMembers.about

theorem reconcileLBChildren_frame :
    Frame exceptLoadBalancer (About .loadBalancer) (reconcileLBChildren cluster) :=
  reconcileLBChildren_blind cluster fun _ _ hsame => (congrArg exceptLoadBalancer hsame :)

theorem finishLoadBalancer_blind (hf : f.FactorsThrough exceptChildren) (lb : LoadBalancer)
    (pending : Option String) :
    Frame f (About .loadBalancer) (finishLoadBalancer cluster lb pending) :=
  .bind (reconcileLBChildren_blind cluster hf) fun _ => .ite (fun _ => .pure _) fun _ => .pure _

theorem finishLoadBalancer_frame (lb : LoadBalancer) (pending : Option String) :
    Frame exceptLoadBalancer (About .loadBalancer) (finishLoadBalancer cluster lb pending) :=
  finishLoadBalancer_blind cluster
    (fun _ _ hsame => (congrArg exceptLoadBalancer hsame :)) lb pending

theorem degradedMessage_frame (lb : LoadBalancer) :
    Frame f ReadsMembers (degradedMessage lb) := by
  refine .read fun c => .ite (fun _ => .pure _) fun _ => .bind (.perform trivial) fun r => ?_
  split
  · exact .pure _
  · split <;> exact .pure _

theorem loadBalancerBody_frame :
    Frame exceptLoadBalancer (About .loadBalancer) (loadBalancerBody cluster) := by
  refine .bind (.wrapErr (reconcileOwned_frame rfl _ _ (fun _ _ => rfl) _)) fun _ => ?_
  refine .ite (fun _ => .pure _) fun _ => .read fun c => .ite (fun _ => .pure _) fun _ => ?_
  refine .bind (.perform (.inl rfl)) fun r => ?_
  split
  · exact .fail _
  · refine .ite (fun _ => finishLoadBalancer_frame cluster _ _) fun _ => ?_
    refine .ite (fun _ => .pure _) fun _ => .bind ?_ fun _ => finishLoadBalancer_frame cluster _ _
    exact (degradedMessage_frame (f := exceptLoadBalancer) _).mono
      (fun _ _ hsame => hsame) fun _ hop =>
      hop.about.about

theorem reconcileLoadBalancer_blind (hf : f.FactorsThrough exceptLoadBalancer)
    (hready : ∀ status reason msg c,
      f (setCondition .loadBalancerReady status reason msg c) = f c) :
    Frame f (About .loadBalancer) (reconcileLoadBalancer cluster) := by
  refine .read fun c => .ite (fun _ => ?_) fun _ => ?_
  · exact .bind (.update fun c => hready _ _ _ c) fun _ => .pure _
  · refine .bind (.deferred ((loadBalancerBody_frame cluster).mono (fun _ _ hsame => hf hsame)
      fun _ hop => hop) ?_) fun _ => .pure _
    intro out c
    unfold setLoadBalancerReady
    split <;> exact hready _ _ _ c

theorem reconcileLoadBalancer_frame :
    Frame offLoadBalancer (About .loadBalancer) (reconcileLoadBalancer cluster) :=
  reconcileLoadBalancer_blind cluster offLoadBalancer_factors
    fun _ _ _ _ => rfl

/-! ## Floating IP -/

/-- The cluster without its floating IP. -/
def exceptFloatingIP (c : CloudscaleCluster) : CloudscaleCluster :=
  { c with status := { c.status with floatingIP := "" } }

/-- The cluster without what the floating IP step writes. -/
def offFloatingIP (c : CloudscaleCluster) : CloudscaleCluster :=
  { c with status := { c.status with floatingIP := "", conditions := [] } }

theorem offFloatingIP_factors : offFloatingIP.FactorsThrough exceptFloatingIP :=
  fun _ _ hsame => (congrArg offFloatingIP hsame :)

theorem getFloatingIPTarget_within
    (hlist : ∀ ns name controlPlane, P (.listMachines ns name controlPlane)) :
    Frame f P (getFloatingIPTarget cluster) := by
  refine .read fun c => .ite (fun _ => .ite (fun _ => .pure _) fun _ => .pure _) fun _ => ?_
  refine .bind (.perform (hlist _ _ _)) fun r => ?_
  split
  · exact .pure _
  · split <;> exact .pure _

theorem getFloatingIPTarget_frame :
    Frame f (About .floatingIP) (getFloatingIPTarget cluster) :=
  getFloatingIPTarget_within cluster fun _ _ _ => .inr rfl

theorem ensureFloatingIPAssignment_within (fip : FloatingIP)
    (hlist : ∀ ns name controlPlane, P (.listMachines ns name controlPlane))
    (hassign : ∀ ip req, P (.updateFloatingIP ip req)) :
    Frame f P (ensureFloatingIPAssignment cluster fip) := by
  refine .bind (getFloatingIPTarget_within cluster hlist) fun target => ?_
  split
  · exact .pure _
  · split
    · exact .pure _
    · refine .read fun c => .bind (.perform (hassign _ _)) fun r => ?_
      split
      · exact .pure _
      · exact .ite (fun _ => .fail _) fun _ => .fail _

theorem ensureFloatingIPAssignment_frame (fip : FloatingIP) :
    Frame f (About .floatingIP) (ensureFloatingIPAssignment cluster fip) :=
  ensureFloatingIPAssignment_within cluster fip (fun _ _ _ => .inr rfl) fun _ _ => .inl rfl

theorem createFloatingIP_frame (fipSpec : FloatingIPSpec) :
    Frame exceptFloatingIP (About .floatingIP) (createFloatingIP cluster fipSpec) := by
  refine .read fun c => .bind (getFloatingIPTarget_frame cluster) fun target => ?_
  refine .bind (createResource_frame (k := .floatingIP) rfl _ _ _) fun r => ?_
  split
  · exact .pure _
  · exact .bind (.update fun _ => rfl) fun _ => .pure _

theorem reconcilePreExistingFloatingIP_frame (ip : String) :
    Frame exceptFloatingIP (About .floatingIP) (reconcilePreExistingFloatingIP cluster ip) := by
  have hadopt (fip : FloatingIP) : Frame exceptFloatingIP (About .floatingIP)
      (reconcilePreExistingFloatingIP.adopt cluster fip) :=
    .bind (.update fun _ => rfl) fun _ => ensureFloatingIPAssignment_frame cluster fip
  refine .bind (.perform (.inl rfl)) fun r => ?_
  split
  · exact .fail _
  · refine .read fun c => ?_
    split
    · exact .ite (fun _ => .fail _) fun _ => hadopt _
    · exact hadopt _

theorem reconcileManagedFloatingIP_frame (fipSpec : FloatingIPSpec) :
    Frame exceptFloatingIP (About .floatingIP) (reconcileManagedFloatingIP cluster fipSpec) := by
  refine .read fun c => .bind (ensureResource_frame (k := .floatingIP) rfl _ _ _) fun r => ?_
  refine .bind (.update fun _ => rfl) fun _ => ?_
  split
  · refine .ite (fun _ => ?_) fun _ => createFloatingIP_frame cluster fipSpec
    exact .bind (ensureFloatingIPAssignment_frame cluster _) fun _ => .pure _
  · exact createFloatingIP_frame cluster fipSpec

theorem reconcileFloatingIP_blind (hf : f.FactorsThrough exceptFloatingIP)
    (hready : ∀ status reason msg c, f (setCondition .floatingIPReady status reason msg c) = f c) :
    Frame f (About .floatingIP) (reconcileFloatingIP cluster) := by
  refine .read fun c => ?_
  split
  · exact .bind (.update fun c => hready _ _ _ c) fun _ => .pure _
  · refine .deferred (.mono (f := exceptFloatingIP) (.ite (fun _ => ?_) fun _ => ?_)
      (fun _ _ hsame => hf hsame) fun _ hop => hop) ?_
    · exact .bind (reconcilePreExistingFloatingIP_frame cluster _) fun _ => .pure _
    · exact reconcileManagedFloatingIP_frame cluster _
    · intro out c
      cases out <;> exact hready _ _ _ c

theorem reconcileFloatingIP_frame :
    Frame offFloatingIP (About .floatingIP) (reconcileFloatingIP cluster) :=
  reconcileFloatingIP_blind cluster offFloatingIP_factors
    fun _ _ _ _ => rfl

/-! ## The end of a normal pass -/

/-- The cluster without its endpoint and without what it says about being provisioned. -/
def exceptEndpoint (c : CloudscaleCluster) : CloudscaleCluster :=
  { c with
    spec := { c.spec with controlPlaneEndpoint := {} }
    status := { c.status with initialization := none } }

/-- The cluster without what the end of a pass writes. -/
def offEndpoint (c : CloudscaleCluster) : CloudscaleCluster :=
  { c with
    spec := { c.spec with controlPlaneEndpoint := {} }
    status := { c.status with initialization := none, conditions := [] } }

theorem offEndpoint_factors : offEndpoint.FactorsThrough exceptEndpoint :=
  fun _ _ hsame => (congrArg offEndpoint hsame :)

theorem finishNormal_blind (lb : LbStatus) :
    Frame exceptEndpoint (fun _ => False) (finishNormal cluster lb) := by
  refine .bind (.update fun c => ?_) fun _ => .bind (.update fun _ => rfl) fun _ => ?_
  · rw [reconcileControlPlaneEndpoint]
    split_ifs <;> rfl
  · exact .ite (fun _ => .pure _) fun _ => .pure _

theorem finishNormal_frame (lb : LbStatus) :
    Frame offEndpoint (fun _ => False) (finishNormal cluster lb) :=
  (finishNormal_blind cluster lb).mono (fun _ _ hsame => offEndpoint_factors hsame) fun _ hop => hop

/-- A normal pass takes no interface off a router. -/
theorem reconcileNormal_frame :
    Frame (fun _ : CloudscaleCluster => ()) (fun op => partOf op ≠ .detach)
      (reconcileNormal cluster) := by
  have hpart {part : Part} (hne : part ≠ .detach) (op : Op) (hop : About part op) :
      partOf op ≠ .detach := by
    rcases hop with hop | hop
    · rw [hop]
      exact hne
    · rw [hop]
      decide
  intro x
  exact reconcileNormal_preserves
    ((reconcileNetwork_frame cluster).mono (fun _ _ _ => rfl) (hpart (by decide)) x)
    ((reconcileRouters_frame cluster).mono (fun _ _ _ => rfl) (hpart (by decide)) x)
    ((reconcileLoadBalancer_frame cluster).mono (fun _ _ _ => rfl) (hpart (by decide)) x)
    ((reconcileFloatingIP_frame cluster).mono (fun _ _ _ => rfl) (hpart (by decide)) x)
    (fun lb => (finishNormal_frame cluster lb).mono (fun _ _ _ => rfl)
      (fun _ hfalse => hfalse.elim) x)
    fun _ _ hx => hx

/-! ## Teardown -/

theorem deleteFloatingIP_blind (hf : f.FactorsThrough exceptFloatingIP)
    (hready : ∀ status reason msg c, f (setCondition .floatingIPReady status reason msg c) = f c) :
    Frame f (About .floatingIP) deleteFloatingIP := by
  refine .read fun c => ?_
  split
  · exact .pure _
  · refine .ite (fun _ => .pure _) fun _ => .deferred (.read fun c => ?_) ?_
    · refine .ite (fun _ => .pure _) fun _ => .bind (.perform (.inl rfl)) fun r => ?_
      split
      · exact .update fun _ => hf rfl
      · exact .ite (fun _ => .update fun _ => hf rfl) fun _ => .fail _
    · intro out c
      cases out <;> exact hready _ _ _ c

theorem deleteFloatingIP_frame : Frame offFloatingIP (About .floatingIP) deleteFloatingIP :=
  deleteFloatingIP_blind offFloatingIP_factors fun _ _ _ _ => rfl

theorem deleteLoadBalancer_blind (hf : f.FactorsThrough exceptLoadBalancer)
    (hready : ∀ status reason msg c,
      f (setCondition .loadBalancerReady status reason msg c) = f c) :
    Frame f (About .loadBalancer) deleteLoadBalancer := by
  refine .read fun c => .ite (fun _ => .pure _) fun _ => .deferred ?_ ?_
  · refine .ite (fun _ => .update fun _ => hf rfl) fun _ => .bind (.perform (.inl rfl)) fun r => ?_
    split
    · exact .update fun _ => hf rfl
    · exact .ite (fun _ => .update fun _ => hf rfl) fun _ => .fail _
  · intro out c
    cases out <;> exact hready _ _ _ c

theorem deleteLoadBalancer_frame : Frame offLoadBalancer (About .loadBalancer) deleteLoadBalancer :=
  deleteLoadBalancer_blind offLoadBalancer_factors fun _ _ _ _ => rfl

theorem deleteEachServerGroup_frame (owned : List String) (groups : List ServerGroup) :
    Frame f (About .server) (deleteEachServerGroup owned groups) := by
  induction groups with
  | nil => exact .pure _
  | cons g rest ih =>
      refine .ite (fun _ => .fail _) fun _ => .ite (fun _ => ih) fun _ => ?_
      refine .bind (.perform (.inl rfl)) fun r => ?_
      split
      · exact ih
      · exact .ite (fun _ => ih) fun _ => .fail _

theorem deleteServerGroups_frame :
    Frame f (About .server) (deleteServerGroups cluster) := by
  refine .bind (.wrapErr (.read fun c => .bind (.perform (.inr rfl)) fun r => ?_)) fun owned => ?_
  · split
    · exact .fail _
    · exact .pure _
  · refine .read fun c => .bind (.perform (.inl rfl)) fun r => ?_
    split
    · exact .fail _
    · exact deleteEachServerGroup_frame owned _

theorem returnJoined_frame (errs : List GoError) : Frame f P (returnJoined errs) := by
  rw [returnJoined]
  split
  · exact .pure _
  · exact .fail _

theorem detachInterfaces_frame (rs : RouterStatus) (router : Router)
    (ifaces : List RouterInterfaceStatus) :
    Frame f AboutRouters (detachInterfaces rs router ifaces) := by
  induction ifaces with
  | nil => exact .pure _
  | cons iface rest ih =>
      refine .ite (fun _ => .bind ih fun _ => .pure _) fun _ => .read fun c => ?_
      refine .ite (fun _ => ih) fun _ => .bind (.perform (.inr rfl)) fun r => ?_
      split
      · exact ih
      · exact .ite (fun _ => ih) fun _ => .bind ih fun _ => .pure _

theorem deleteRouterInterfaces_frame (rs : RouterStatus) :
    Frame f AboutRouters (deleteRouterInterfaces rs) := by
  refine .ite (fun _ => .pure _) fun _ => .bind (.perform (.inl rfl)) fun r => ?_
  split
  · exact .ite (fun _ => .pure _) fun _ => .pure _
  · exact .bind (detachInterfaces_frame rs _ _) fun _ => .pure _

theorem deleteEachRouter_frame (entries : List RouterStatus) :
    Frame f AboutRouters (deleteEachRouter entries) := by
  induction entries with
  | nil => exact .pure _
  | cons entry rest ih =>
      refine .ite (fun _ => ih) fun _ => .bind (deleteRouterInterfaces_frame entry) fun r => ?_
      refine .ite (fun _ => .bind ih fun _ => .pure _) fun _ => ?_
      refine .ite (fun _ => .bind ih fun _ => .pure _) fun _ =>
        .bind (.perform (.inl rfl)) fun r => ?_
      split
      · exact ih
      · exact .ite (fun _ => ih) fun _ => .bind ih fun _ => .pure _

theorem deleteRouters_blind
    (hf : ∀ c routers, f { c with status := { c.status with routers } } = f c)
    (hready : ∀ status reason msg c, f (setCondition .routerReady status reason msg c) = f c) :
    Frame f AboutRouters deleteRouters := by
  refine .deferred (.read fun c => .bind (deleteEachRouter_frame _) fun r => ?_) ?_
  · exact .bind (.update fun c => hf c _) fun _ => returnJoined_frame _
  · intro out c
    cases out <;> exact hready _ _ _ c

theorem deleteRouters_frame : Frame offRouters AboutRouters deleteRouters :=
  deleteRouters_blind (fun _ _ => rfl) fun _ _ _ _ => rfl

theorem deleteNetworks_frame (entries : List NetworkStatus) :
    Frame f (About .network) (deleteNetworks entries) := by
  induction entries with
  | nil => exact .pure _
  | cons ns rest ih =>
      refine .ite (fun _ => .bind ih fun _ => .pure _) fun _ => .ite (fun _ => ih) fun _ => ?_
      refine .bind (.perform (.inl rfl)) fun r => ?_
      split
      · exact ih
      · refine .ite (fun _ => .fail _) fun _ => .ite (fun _ => ih) fun _ => ?_
        exact .bind ih fun _ => .pure _

theorem deleteNetwork_blind (hf : f.FactorsThrough exceptNetworks)
    (hready : ∀ status reason msg c, f (setCondition .networkReady status reason msg c) = f c) :
    Frame f (About .network) deleteNetwork := by
  refine .deferred (.read fun c => .bind (deleteNetworks_frame _) fun r => ?_) ?_
  · exact .bind (.update fun _ => hf rfl) fun _ => returnJoined_frame _
  · intro out c
    cases out <;> exact hready _ _ _ c

theorem deleteNetwork_frame : Frame offNetworks (About .network) deleteNetwork :=
  deleteNetwork_blind offNetworks_factors fun _ _ _ _ => rfl

/-! ## The server of a machine -/

/-- What the server step has no part in. -/
structure ServerBlind {β : Type} (f : CloudscaleMachine → β) : Prop where
  recorded : ∀ id m, f (setServerID id m) = f m
  described : ∀ server m, f (updateMachineFromServer server m) = f m
  blind : ∀ x, MachineBlind fun m (_ : Unit) => f m = x

section Server

variable {β : Type} {f : CloudscaleMachine → β}

theorem adoptServer_frame (hf : ServerBlind f) (server : Server) :
    Frame f (fun _ => True) (adoptServer server) :=
  .bind (.update (hf.recorded _)) fun _ => .bind (.update (hf.described _)) fun _ => .pure _

theorem createServer_frame (s : MachineScope) (hf : ServerBlind f) :
    Frame f (fun _ => True) (createServer s) := by
  refine .bind (.wrapErr (getBootstrapData_frame s fun _ _ => trivial)) fun _ => .read fun m => ?_
  split
  · exact .fail _
  · refine .bind (createResource_frame rfl _ _ _).anyOp fun r => ?_
    split
    · exact .pure _
    · exact adoptServer_frame hf _

theorem serverBody_frame (s : MachineScope) (hf : ServerBlind f) :
    Frame f (fun _ => True) (serverBody s) := fun x =>
  serverBody_preserves (hf.blind x) (fun _ => Frame.perform trivial x)
    (fun server m _ hx => (hf.described server m).trans hx)
    (findServer_preserves (fun _ => Frame.perform trivial x)
      (fun server => adoptServer_frame hf server x) (createServer_frame s hf x))

theorem machineServerStep_frame (s : MachineScope) (hf : ServerBlind f) :
    Frame f (fun _ => True) (machineServerStep s) := fun x m w hinv hx =>
  machineServerStep_wpc (hf.blind x) (serverBody_frame s hf x m w hinv hx)

end Server

end Capcs.Controller
