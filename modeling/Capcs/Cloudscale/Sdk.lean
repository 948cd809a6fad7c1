import Capcs.Api.Types

/-!
# Capcs.Cloudscale.Sdk — resources and requests of the cloudscale API

The SDK's resource and request types, restricted to the fields the controllers
read or send. Resources come in kinds, and the get/list/create/delete calls are
the same for every kind, so both are indexed by `Kind`; pool members and router
interfaces hang below another resource and have calls of their own.

`Op` lists every request a reconcile pass can issue while it works on the cloud:
the cloudscale calls, and the two reads it makes of the Kubernetes API on the way
(the cluster's machines, and a bootstrap secret).
-/

namespace Capcs.Cloudscale

/-! ## Errors -/

/-- What a failed cloudscale call returns: a response with an HTTP status, a
request that ran into its deadline, or any other transport error. -/
inductive ApiError where
  | response (statusCode : Nat) (message : String)
  | timeout (message : String)
  | other (message : String)
  deriving DecidableEq, Repr

/-- `err.Error()`. -/
def ApiError.text : ApiError → String
  | .response _ m => m
  | .timeout m => m
  | .other m => m

/-- `IsNotFound`. -/
def isNotFound : ApiError → Bool
  | .response code _ => code = 404
  | _ => false

/-- `IsTimeoutError`. -/
def isTimeoutError : ApiError → Bool
  | .timeout _ => true
  | _ => false

/-- `strings.Contains`. -/
def stringContains (s sub : String) : Bool :=
  s.toList.tails.any fun t => sub.toList.isPrefixOf t

/-- `IsFloatingIPNoPublicInterface`. -/
def isFloatingIPNoPublicInterface (err : ApiError) : Bool :=
  stringContains err.text "does not have a public interface with an IPv4 address"

/-- An error of the Kubernetes client. -/
inductive KubeError where
  | notFound
  | other (message : String)
  deriving DecidableEq, Repr

def KubeError.text : KubeError → String
  | .notFound => "not found"
  | .other m => m

/-! ## Resources -/

/-- The kinds of resource that carry tags. -/
inductive Kind where
  | network
  | subnet
  | router
  | loadBalancer
  | pool
  | listener
  | healthMonitor
  | floatingIP
  | server
  | serverGroup
  deriving DecidableEq, Repr

/-- The subnet summary inside a network. -/
structure SubnetStub where
  uuid : String
  cidr : String
  deriving DecidableEq, Repr

structure Network where
  uuid : String
  name : String := ""
  zone : String := ""
  mtu : Int := 0
  subnets : List SubnetStub := []
  tags : TagMap := []
  deriving DecidableEq, Repr

structure Subnet where
  uuid : String
  cidr : String := ""
  network : String := ""
  gatewayAddress : String := ""
  tags : TagMap := []
  deriving DecidableEq, Repr

/-- An address of a router interface, with the UUID of its subnet. -/
structure RouterInterfaceAddress where
  subnet : String
  address : String
  deriving DecidableEq, Repr

structure RouterInterface where
  uuid : String
  network : String
  addresses : List RouterInterfaceAddress := []
  deriving DecidableEq, Repr

structure Router where
  uuid : String
  name : String := ""
  zone : String := ""
  status : String := ""
  interfaces : List RouterInterface := []
  tags : TagMap := []
  deriving DecidableEq, Repr

/-- `RouterActive`. -/
def routerActive : String := "active"

structure LoadBalancer where
  uuid : String
  status : String := ""
  /-- The addresses of `VIPAddresses`, in order. -/
  vipAddresses : List String := []
  tags : TagMap := []
  deriving DecidableEq, Repr

structure LoadBalancerPool where
  uuid : String
  loadBalancer : String := ""
  tags : TagMap := []
  deriving DecidableEq, Repr

structure LoadBalancerListener where
  uuid : String
  pool : String := ""
  tags : TagMap := []
  deriving DecidableEq, Repr

structure LoadBalancerHealthMonitor where
  uuid : String
  pool : String := ""
  tags : TagMap := []
  deriving DecidableEq, Repr

structure LoadBalancerPoolMember where
  uuid : String
  name : String
  address : String := ""
  protocolPort : Int := 0
  monitorStatus : String := ""
  deriving DecidableEq, Repr

structure FloatingIP where
  /-- `IP()`: the address, which is also what the API identifies it by. -/
  ip : String
  region : Option String := none
  loadBalancer : Option String := none
  server : Option String := none
  tags : TagMap := []
  deriving DecidableEq, Repr

structure ServerInterface where
  type : String
  addresses : List String := []
  deriving DecidableEq, Repr

structure Server where
  uuid : String
  status : String := ""
  interfaces : List ServerInterface := []
  tags : TagMap := []
  deriving DecidableEq, Repr

structure ServerGroup where
  uuid : String
  name : String := ""
  zone : String := ""
  /-- The UUIDs of the servers in the group. -/
  servers : List String := []
  tags : TagMap := []
  deriving DecidableEq, Repr

/-- The resource type of a kind. -/
@[reducible] def Kind.Resource : Kind → Type
  | .network => Network
  | .subnet => Subnet
  | .router => Router
  | .loadBalancer => LoadBalancer
  | .pool => LoadBalancerPool
  | .listener => LoadBalancerListener
  | .healthMonitor => LoadBalancerHealthMonitor
  | .floatingIP => FloatingIP
  | .server => Server
  | .serverGroup => ServerGroup

/-- What a resource is addressed by: its UUID, or the address of a floating IP. -/
def uuidOf : {k : Kind} → k.Resource → String
  | .network, r => r.uuid
  | .subnet, r => r.uuid
  | .router, r => r.uuid
  | .loadBalancer, r => r.uuid
  | .pool, r => r.uuid
  | .listener, r => r.uuid
  | .healthMonitor, r => r.uuid
  | .floatingIP, r => r.ip
  | .server, r => r.uuid
  | .serverGroup, r => r.uuid

/-- The tags of a resource. -/
def tagsOf : {k : Kind} → k.Resource → TagMap
  | .network, r => r.tags
  | .subnet, r => r.tags
  | .router, r => r.tags
  | .loadBalancer, r => r.tags
  | .pool, r => r.tags
  | .listener, r => r.tags
  | .healthMonitor, r => r.tags
  | .floatingIP, r => r.tags
  | .server, r => r.tags
  | .serverGroup, r => r.tags

/-! ## Requests -/

structure NetworkCreateRequest where
  name : String
  autoCreateIPV4Subnet : Bool
  zone : String
  mtu : Int := 0
  tags : TagMap
  deriving DecidableEq, Repr

structure SubnetCreateRequest where
  network : String
  cidr : String
  gatewayAddress : String
  tags : TagMap
  deriving DecidableEq, Repr

structure RouterCreateRequest where
  name : String
  internetGateway : Bool
  zone : String
  tags : TagMap
  deriving DecidableEq, Repr

structure LoadBalancerRequest where
  name : String
  flavor : String
  zone : String
  /-- The subnets of `VIPAddresses`; `none` asks for a public VIP. -/
  vipAddresses : Option (List String) := none
  tags : TagMap
  deriving DecidableEq, Repr

structure LoadBalancerPoolRequest where
  name : String
  loadBalancer : String
  algorithm : String
  protocol : String
  tags : TagMap
  deriving DecidableEq, Repr

structure LoadBalancerListenerRequest where
  name : String
  pool : String
  protocol : String
  protocolPort : Int
  tags : TagMap
  deriving DecidableEq, Repr

structure LoadBalancerHealthMonitorRequest where
  pool : String
  type : String
  delayS : Int
  timeoutS : Int
  upThreshold : Int
  downThreshold : Int
  tags : TagMap
  deriving DecidableEq, Repr

structure LoadBalancerPoolMemberRequest where
  name : String := ""
  address : String := ""
  subnet : String := ""
  protocolPort : Int := 0
  tags : TagMap := []
  deriving DecidableEq, Repr

structure FloatingIPCreateRequest where
  ipVersion : Nat
  region : String
  loadBalancer : String := ""
  server : String := ""
  tags : TagMap
  deriving DecidableEq, Repr

structure FloatingIPUpdateRequest where
  loadBalancer : String := ""
  server : String := ""
  deriving DecidableEq, Repr

structure ServerRequest where
  name : String
  flavor : String
  image : String
  zone : String
  tags : TagMap
  userData : String
  /-- The network of each requested interface. -/
  interfaces : List String
  useIPV6 : Option Bool
  volumeSizeGB : Int := 0
  serverGroups : List String := []
  deriving DecidableEq, Repr

structure ServerGroupRequest where
  name : String
  type : String
  zone : String
  tags : TagMap
  deriving DecidableEq, Repr

/-- `CreateInterfaceRequest`; the controller always asks for one address. -/
structure CreateInterfaceRequest where
  network : String
  addresses : List RouterInterfaceAddress
  deriving DecidableEq, Repr

/-- The create request of a kind. -/
@[reducible] def Kind.Request : Kind → Type
  | .network => NetworkCreateRequest
  | .subnet => SubnetCreateRequest
  | .router => RouterCreateRequest
  | .loadBalancer => LoadBalancerRequest
  | .pool => LoadBalancerPoolRequest
  | .listener => LoadBalancerListenerRequest
  | .healthMonitor => LoadBalancerHealthMonitorRequest
  | .floatingIP => FloatingIPCreateRequest
  | .server => ServerRequest
  | .serverGroup => ServerGroupRequest

/-- The tags a create request asks for. -/
def requestTags : {k : Kind} → k.Request → TagMap
  | .network, r => r.tags
  | .subnet, r => r.tags
  | .router, r => r.tags
  | .loadBalancer, r => r.tags
  | .pool, r => r.tags
  | .listener, r => r.tags
  | .healthMonitor, r => r.tags
  | .floatingIP, r => r.tags
  | .server, r => r.tags
  | .serverGroup, r => r.tags

/-! ## Calls -/

/-- Every request a reconcile pass can issue while it works on the cloud. -/
inductive Op where
  | get (k : Kind) (id : String)
  | list (k : Kind) (tagFilter : TagMap)
  | create (k : Kind) (req : k.Request)
  | delete (k : Kind) (id : String)
  | listMembers (pool : String)
  | createMember (pool : String) (req : LoadBalancerPoolMemberRequest)
  | updateMember (pool member : String) (req : LoadBalancerPoolMemberRequest)
  | deleteMember (pool member : String)
  | createInterface (router : String) (req : CreateInterfaceRequest)
  | deleteInterface (router iface : String)
  | updateFloatingIP (ip : String) (req : FloatingIPUpdateRequest)
  | listMachines (ns clusterName : String) (controlPlane : Bool)
  | getSecret (ns name : String)

/-- The type of the reply to a request. -/
@[reducible] def Op.Reply : Op → Type
  | .get k _ => Except ApiError k.Resource
  | .list k _ => Except ApiError (List k.Resource)
  | .create k _ => Except ApiError k.Resource
  | .delete _ _ => Except ApiError Unit
  | .listMembers _ => Except ApiError (List LoadBalancerPoolMember)
  | .createMember _ _ => Except ApiError LoadBalancerPoolMember
  | .updateMember _ _ _ => Except ApiError Unit
  | .deleteMember _ _ => Except ApiError Unit
  | .createInterface _ _ => Except ApiError RouterInterface
  | .deleteInterface _ _ => Except ApiError Unit
  | .updateFloatingIP _ _ => Except ApiError Unit
  | .listMachines _ _ _ => Except KubeError (List CloudscaleMachine)
  | .getSecret _ _ => Except KubeError (List (String × String))

/-- A tag filter matches tags that bind each of its keys to the same value. -/
def matchesTags (filter tags : TagMap) : Bool :=
  filter.all fun kv => tags.lookup kv.1 = some kv.2

end Capcs.Cloudscale
