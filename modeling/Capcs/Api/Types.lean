import Capcs.Api.Conditions

/-!
# Capcs.Api.Types — the custom resources

The types of `api/v1beta2`, field by field, together with the part of the
cluster-api objects (`Cluster`, `Machine`) the controllers read.

Pointers that may be nil are `Option`; Go maps are association lists read with
`List.lookup`, so that a later insertion shadows an earlier one. `credentialsRef`,
`observedGeneration` and type metadata are left out: no modelled function looks
at them.
-/

namespace Capcs

/-- `map[string]string`, newest binding first. -/
abbrev TagMap := List (String × String)

/-- The finalizer of a `CloudscaleCluster`. -/
def clusterFinalizer : String := "cloudscalecluster.infrastructure.cluster.x-k8s.io"

/-- The finalizer of a `CloudscaleMachine`. -/
def machineFinalizer : String := "cloudscalemachine.infrastructure.cluster.x-k8s.io"

/-- `NameCloudscaleProviderPrefix`. -/
def nameCloudscaleProviderPrefix : String := "capcs-"

/-- `NameCloudscaleProviderOwned`. -/
def nameCloudscaleProviderOwned : String := nameCloudscaleProviderPrefix ++ "cluster-"

/-- `ResourceLifecycleOwned`. -/
def resourceLifecycleOwned : String := "owned"

/-- `metav1.ObjectMeta`; `ns` is its namespace, and `deletionTimestamp` says whether
the timestamp is set. -/
structure ObjectMeta where
  name : String
  ns : String
  labels : TagMap := []
  annotations : TagMap := []
  finalizers : List String := []
  deletionTimestamp : Bool := false
  deriving DecidableEq, Repr

/-- `IPFamily`. -/
inductive IPFamily where
  | ipv4
  | ipv6
  | dualStack
  deriving DecidableEq, Repr

/-! ## CloudscaleCluster -/

/-- `clusterv1.APIEndpoint`. -/
structure APIEndpoint where
  host : String := ""
  port : Int := 0
  deriving DecidableEq, Repr

structure NetworkSpec where
  name : String
  uuid : String := ""
  cidr : String := ""
  mtu : Int := 0
  gatewayAddress : String := ""
  deriving DecidableEq, Repr

structure RouterInterfaceSpec where
  network : String
  uuid : String := ""
  address : String := ""
  deriving DecidableEq, Repr

structure RouterSpec where
  name : String
  uuid : String := ""
  internetGateway : Bool := false
  interfaces : List RouterInterfaceSpec := []
  deriving DecidableEq, Repr

structure HealthMonitorSpec where
  delayS : Int := 0
  timeoutS : Int := 0
  upThreshold : Int := 0
  downThreshold : Int := 0
  deriving DecidableEq, Repr

structure LoadBalancerSpec where
  enabled : Option Bool := none
  algorithm : String := ""
  flavor : String := ""
  apiServerPort : Int := 0
  network : String := ""
  poolMemberNetwork : String := ""
  healthMonitor : HealthMonitorSpec := {}
  deriving DecidableEq, Repr

/-- `ptr.Deref(spec.Enabled, true)`. -/
def LoadBalancerSpec.isEnabled (lb : LoadBalancerSpec) : Bool := lb.enabled.getD true

structure FloatingIPSpec where
  ipFamily : Option IPFamily := none
  address : String := ""
  deriving DecidableEq, Repr

structure CloudscaleClusterSpec where
  region : String := ""
  zone : String := ""
  controlPlaneEndpoint : APIEndpoint := {}
  networks : List NetworkSpec := []
  routers : List RouterSpec := []
  controlPlaneLoadBalancer : LoadBalancerSpec := {}
  floatingIP : Option FloatingIPSpec := none
  deriving DecidableEq, Repr

structure NetworkStatus where
  name : String
  networkID : String := ""
  subnetID : String := ""
  cidr : String := ""
  mtu : Int := 0
  managed : Bool := false
  gatewayAddress : String := ""
  deriving DecidableEq, Repr

structure RouterInterfaceStatus where
  network : String
  interfaceID : String := ""
  managed : Bool := false
  deriving DecidableEq, Repr

structure RouterStatus where
  name : String
  routerID : String := ""
  interfaces : List RouterInterfaceStatus := []
  managed : Bool := false
  deriving DecidableEq, Repr

/-- `GetInterfaceStatus`: the first entry for a network. -/
def RouterStatus.getInterfaceStatus (rs : RouterStatus) (network : String) :
    Option RouterInterfaceStatus :=
  rs.interfaces.find? fun i => i.network = network

/-- `ClusterInitializationStatus`, and `MachineInitializationStatus`, which is the same. -/
structure InitializationStatus where
  provisioned : Option Bool := none
  deriving DecidableEq, Repr

structure CloudscaleClusterStatus where
  initialization : Option InitializationStatus := none
  networks : List NetworkStatus := []
  routers : List RouterStatus := []
  floatingIP : String := ""
  loadBalancerID : String := ""
  loadBalancerPoolID : String := ""
  loadBalancerListenerID : String := ""
  loadBalancerHealthMonitorID : String := ""
  loadBalancerMemberIDs : List String := []
  conditions : List Condition := []
  deriving DecidableEq, Repr

/-- `GetNetworkStatus`: the first entry of that name. -/
def CloudscaleClusterStatus.getNetworkStatus (s : CloudscaleClusterStatus) (name : String) :
    Option NetworkStatus :=
  s.networks.find? fun n => n.name = name

/-- `GetRouterStatus`: the first entry of that name. -/
def CloudscaleClusterStatus.getRouterStatus (s : CloudscaleClusterStatus) (name : String) :
    Option RouterStatus :=
  s.routers.find? fun r => r.name = name

structure CloudscaleCluster where
  metadata : ObjectMeta
  spec : CloudscaleClusterSpec := {}
  status : CloudscaleClusterStatus := {}
  deriving DecidableEq, Repr

/-- `ClusterTagKey`. -/
def CloudscaleCluster.clusterTagKey (c : CloudscaleCluster) : String :=
  nameCloudscaleProviderOwned ++ c.metadata.name

/-! ## CloudscaleMachine -/

structure InterfaceSpec where
  type : String := ""
  network : String := ""
  ipFamily : Option IPFamily := none
  deriving DecidableEq, Repr

structure ServerGroupSpec where
  name : String
  deriving DecidableEq, Repr

structure CloudscaleMachineSpec where
  providerID : Option String := none
  flavor : String := ""
  image : String := ""
  rootVolumeSize : Int := 0
  tags : TagMap := []
  serverGroup : Option ServerGroupSpec := none
  interfaces : List InterfaceSpec := []
  deriving DecidableEq, Repr

/-- The `clusterv1.MachineAddressType` values the controller writes. -/
inductive MachineAddressType where
  | internalIP
  | externalIP
  deriving DecidableEq, Repr

structure MachineAddress where
  type : MachineAddressType
  address : String
  deriving DecidableEq, Repr

structure CloudscaleMachineStatus where
  initialization : Option InitializationStatus := none
  serverID : String := ""
  addresses : List MachineAddress := []
  serverGroupID : String := ""
  conditions : List Condition := []
  deriving DecidableEq, Repr

structure CloudscaleMachine where
  metadata : ObjectMeta
  spec : CloudscaleMachineSpec := {}
  status : CloudscaleMachineStatus := {}
  deriving DecidableEq, Repr

/-- `MachineTagKey`. -/
def CloudscaleMachine.machineTagKey (_m : CloudscaleMachine) (clusterName : String) : String :=
  nameCloudscaleProviderOwned ++ clusterName

/-! ## The cluster-api objects -/

/-- The fields of `clusterv1.Cluster` the controllers read. -/
structure Cluster where
  name : String
  ns : String
  /-- `spec.infrastructureRef.name`. -/
  infrastructureRef : String := ""
  paused : Bool := false
  /-- The `ControlPlaneInitialized` status the cluster controller maintains. -/
  controlPlaneInitialized : Bool := false
  deriving DecidableEq, Repr

/-- The fields of `clusterv1.Machine` the controllers read. -/
structure Machine where
  ns : String
  dataSecretName : Option String := none
  labels : TagMap := []
  deriving DecidableEq, Repr

end Capcs
