import Capcs.Api.Types
import Capcs.Cloudscale.Regions
import Capcs.Controller.Services
import Capcs.Net.Addr
import Capcs.Webhook.Field

/-!
# Capcs.Webhook.Cluster — admission of CloudscaleClusters

`internal/webhook/v1beta2/cloudscalecluster_webhook.go`: defaulting, and the
validators for create and update. A validator is the list of errors it reports;
the object is accepted if there is none. The message of an address that does not
parse is left out after its prefix.
-/

namespace Capcs.Webhook

open Cloudscale Controller

/-! ## Defaults -/

/-- `defaultSubnetCIDR`. -/
def defaultSubnetCIDR : String := "172.18.0.0/24"

/-- A field that is set if it has its zero value. -/
def orDefault {α : Type} [DecidableEq α] (zero value default_ : α) : α :=
  if value = zero then default_ else value

/-- The load balancer part of `clusterSpecDefault`. -/
def loadBalancerDefault (lb : LoadBalancerSpec) : LoadBalancerSpec :=
  { lb with
    enabled := orDefault none lb.enabled (some true)
    algorithm := orDefault "" lb.algorithm "round_robin"
    flavor := orDefault "" lb.flavor "lb-standard"
    apiServerPort := orDefault 0 lb.apiServerPort 6443
    healthMonitor :=
      { delayS := orDefault 0 lb.healthMonitor.delayS 5
        timeoutS := orDefault 0 lb.healthMonitor.timeoutS 3
        upThreshold := orDefault 0 lb.healthMonitor.upThreshold 2
        downThreshold := orDefault 0 lb.healthMonitor.downThreshold 3 } }

/-- The floating IP part of `clusterSpecDefault`: if both fields are empty, IPv4. -/
def floatingIPDefault (fip : FloatingIPSpec) : FloatingIPSpec :=
  if fip.ipFamily = none ∧ fip.address = "" then { fip with ipFamily := some .ipv4 } else fip

/-- `clusterSpecDefault`. -/
def clusterSpecDefault (spec : CloudscaleClusterSpec) : CloudscaleClusterSpec :=
  { spec with
    controlPlaneLoadBalancer := loadBalancerDefault spec.controlPlaneLoadBalancer
    floatingIP := spec.floatingIP.map floatingIPDefault }

/-- `CloudscaleClusterCustomDefaulter.Default`. -/
def clusterDefault (ri : RegionInfo) (c : CloudscaleCluster) : CloudscaleCluster :=
  let zone := orDefault "" c.spec.zone (ri.getDefaultZoneForRegion c.spec.region)
  let networks := orDefault [] c.spec.networks
    [{ name := c.metadata.name, cidr := defaultSubnetCIDR }]
  { c with spec := clusterSpecDefault { c.spec with zone, networks } }

/-! ## Addresses and references -/

/-- `validateAddressInCIDR`: a CIDR that does not parse is reported elsewhere. -/
def validateAddressInCIDR (cidr address : String) (fldPath : Path) : ErrorList :=
  match Net.parsePrefix cidr with
  | none => []
  | some pfx =>
    match Net.parseAddr address with
    | none => [.invalid fldPath address "invalid IP address: "]
    | some ip => errorIf (¬ pfx.contains ip)
        (.invalid fldPath address ("must be within CIDR " ++ cidr))

/-- `validateNetworkReference`. -/
def validateNetworkReference (networkName : String) (networks : List NetworkSpec)
    (fldPath : Path) : ErrorList :=
  errorIf (¬ networks.any (·.name = networkName)) (.notFound fldPath networkName)

/-! ## Networks -/

/-- The checks `validateNetworks` makes on one entry, apart from its name. -/
def validateNetwork (netSpec : NetworkSpec) (netPath : Path) : ErrorList :=
  let hasUUID := netSpec.uuid ≠ ""
  let hasCIDR := netSpec.cidr ≠ ""
  errorIf (hasUUID ↔ hasCIDR)
    (.invalid netPath netSpec.name "exactly one of uuid or cidr must be specified") ++
  errorIf (hasCIDR ∧ (Net.parsePrefix netSpec.cidr).isNone)
    (.invalid (netPath.child "cidr") netSpec.cidr "invalid CIDR: ") ++
  errorIf (netSpec.gatewayAddress ≠ "" ∧ ¬ hasCIDR)
    (.invalid (netPath.child "gatewayAddress") netSpec.gatewayAddress
      "gatewayAddress can only be set when cidr is specified") ++
  if netSpec.gatewayAddress ≠ "" ∧ hasCIDR then
    validateAddressInCIDR netSpec.cidr netSpec.gatewayAddress (netPath.child "gatewayAddress")
  else []

/-- The loop of `validateNetworks`, with the index and the names met so far. -/
def validateNetworksFrom (fldPath : Path) : Nat → List String → List NetworkSpec → ErrorList
  | _, _, [] => []
  | i, names, netSpec :: rest =>
    errorIf (netSpec.name ∈ names)
      (.duplicate ((fldPath.index i).child "name") netSpec.name) ++
    validateNetwork netSpec (fldPath.index i) ++
    validateNetworksFrom fldPath (i + 1) (netSpec.name :: names) rest

/-- `validateNetworks`. -/
def validateNetworks (networks : List NetworkSpec) (fldPath : Path) : ErrorList :=
  validateNetworksFrom fldPath 0 [] networks

def immutableDetail : String := "field is immutable after cluster creation"

/-- What `validateNetworkImmutability` checks for one old network. -/
def validateNetworkKept (newNetworks : List NetworkSpec) (fldPath : Path) (oldNet : NetworkSpec) :
    ErrorList :=
  match lastByKey (·.name) newNetworks oldNet.name with
  | none => [.forbidden fldPath ("removing network " ++ quote oldNet.name ++ " is not allowed")]
  | some (newNet, newIdx) =>
    let newPath := fldPath.index newIdx
    errorIf (newNet.cidr ≠ oldNet.cidr) (.forbidden (newPath.child "cidr") immutableDetail) ++
    errorIf (newNet.uuid ≠ oldNet.uuid) (.forbidden (newPath.child "uuid") immutableDetail) ++
    errorIf (newNet.mtu ≠ oldNet.mtu) (.forbidden (newPath.child "mtu") immutableDetail) ++
    errorIf (newNet.gatewayAddress ≠ oldNet.gatewayAddress)
      (.forbidden (newPath.child "gatewayAddress") immutableDetail)

/-- `validateNetworkImmutability`. -/
def validateNetworkImmutability (oldNetworks newNetworks : List NetworkSpec) (fldPath : Path) :
    ErrorList :=
  oldNetworks.flatMap (validateNetworkKept newNetworks fldPath)

/-! ## Routers -/

/-- `validateRouterInterface`. The index of networks is the list it is made from. -/
def validateRouterInterface (ifaceSpec : RouterInterfaceSpec) (networks : List NetworkSpec)
    (routerAdopted : Bool) (ifacePath : Path) : ErrorList :=
  match lastByKey (·.name) networks ifaceSpec.network with
  | none => [.notFound (ifacePath.child "network") ifaceSpec.network]
  | some (network, _) =>
    if ifaceSpec.uuid ≠ "" then
      errorIf (¬ routerAdopted) (.forbidden (ifacePath.child "uuid")
        "only a router referenced by uuid carries pre-existing interfaces to adopt") ++
      errorIf (ifaceSpec.address ≠ "") (.forbidden (ifacePath.child "address")
        ("the address of an adopted interface is read from the interface itself, so it cannot " ++
          "be requested"))
    else if ifaceSpec.address = "" then
      [.required (ifacePath.child "address") "router interface address must be set explicitly"]
    else if network.cidr = "" then []
    else validateAddressInCIDR network.cidr ifaceSpec.address (ifacePath.child "address")

/-- `validateSingleRouter`. -/
def validateSingleRouter (routerSpec : RouterSpec) (networks : List NetworkSpec)
    (routerPath : Path) : ErrorList :=
  errorIf (routerSpec.uuid ≠ "" ∧ routerSpec.internetGateway)
    (.invalid routerPath routerSpec.name "uuid and internetGateway are mutually exclusive") ++
  errorsAt (fun ifaceSpec j => validateRouterInterface ifaceSpec networks (routerSpec.uuid ≠ "")
    ((routerPath.child "interfaces").index j)) routerSpec.interfaces

/-- `validateRouters`. -/
def validateRouters (routers : List RouterSpec) (networks : List NetworkSpec) (fldPath : Path) :
    ErrorList :=
  errorsAt (fun routerSpec i => validateSingleRouter routerSpec networks (fldPath.index i)) routers

/-- What `validateRouterDiff` checks for one old interface. -/
def validateInterfaceKept (newRouter : RouterSpec) (newPath : Path)
    (oldIface : RouterInterfaceSpec) : ErrorList :=
  match lastByKey (·.network) newRouter.interfaces oldIface.network with
  | none => [.forbidden (newPath.child "interfaces")
      ("removing interface for network " ++ quote oldIface.network ++ " is not allowed")]
  | some (newIface, _) =>
    errorIf (newIface.address ≠ oldIface.address) (.forbidden (newPath.child "interfaces")
      ("address for network " ++ quote newIface.network ++
        " is immutable after cluster creation")) ++
    errorIf (newIface.uuid ≠ oldIface.uuid) (.forbidden (newPath.child "interfaces")
      ("uuid for network " ++ quote newIface.network ++ " is immutable after cluster creation"))

/-- What `validateRouterDiff` checks for one old router. -/
def validateRouterKept (newRouters : List RouterSpec) (fldPath : Path) (oldRouter : RouterSpec) :
    ErrorList :=
  match lastByKey (·.name) newRouters oldRouter.name with
  | none =>
    [.forbidden fldPath ("removing router " ++ quote oldRouter.name ++ " is not allowed")]
  | some (newRouter, newIdx) =>
    let newPath := fldPath.index newIdx
    errorIf (newRouter.uuid ≠ oldRouter.uuid)
      (.forbidden (newPath.child "uuid") immutableDetail) ++
    errorIf (newRouter.internetGateway ≠ oldRouter.internetGateway)
      (.forbidden (newPath.child "internetGateway") immutableDetail) ++
    oldRouter.interfaces.flatMap (validateInterfaceKept newRouter newPath)

/-- `validateRouterDiff`. -/
def validateRouterDiff (oldRouters newRouters : List RouterSpec) (fldPath : Path) : ErrorList :=
  oldRouters.flatMap (validateRouterKept newRouters fldPath)

/-! ## Load balancer and floating IP -/

/-- `validateLBImmutability`. -/
def validateLBImmutability (oldLB newLB : LoadBalancerSpec) (fldPath : Path) : ErrorList :=
  let hmPath := fldPath.child "healthMonitor"
  errorIf (oldLB.algorithm ≠ newLB.algorithm)
    (.forbidden (fldPath.child "algorithm") immutableDetail) ++
  errorIf (oldLB.flavor ≠ newLB.flavor) (.forbidden (fldPath.child "flavor") immutableDetail) ++
  errorIf (oldLB.apiServerPort ≠ newLB.apiServerPort)
    (.forbidden (fldPath.child "apiServerPort") immutableDetail) ++
  errorIf (oldLB.poolMemberNetwork ≠ newLB.poolMemberNetwork)
    (.forbidden (fldPath.child "poolMemberNetwork") immutableDetail) ++
  errorIf (oldLB.healthMonitor.delayS ≠ newLB.healthMonitor.delayS)
    (.forbidden (hmPath.child "delayS") immutableDetail) ++
  errorIf (oldLB.healthMonitor.timeoutS ≠ newLB.healthMonitor.timeoutS)
    (.forbidden (hmPath.child "timeoutS") immutableDetail) ++
  errorIf (oldLB.healthMonitor.upThreshold ≠ newLB.healthMonitor.upThreshold)
    (.forbidden (hmPath.child "upThreshold") immutableDetail) ++
  errorIf (oldLB.healthMonitor.downThreshold ≠ newLB.healthMonitor.downThreshold)
    (.forbidden (hmPath.child "downThreshold") immutableDetail)

/-- `validateFloatingIP`. -/
def validateFloatingIP (fip : FloatingIPSpec) (fldPath : Path) : ErrorList :=
  let hasIP := fip.address ≠ ""
  errorIf (fip.ipFamily.isSome ↔ hasIP)
    (.invalid fldPath "" "exactly one of ipFamily or ip must be specified") ++
  errorIf (hasIP ∧ (Net.parseAddr fip.address).isNone)
    (.invalid (fldPath.child "ip") fip.address "must be a valid IP address: ")

/-- `validateFloatingIPImmutability`. -/
def validateFloatingIPImmutability (oldFIP newFIP : Option FloatingIPSpec) (fldPath : Path) :
    ErrorList :=
  match oldFIP, newFIP with
  | none, none => []
  | none, some _ => [.forbidden fldPath "floating IP cannot be added after cluster creation"]
  | some _, none => [.forbidden fldPath "floating IP cannot be removed after cluster creation"]
  | some oldFIP, some newFIP =>
    errorIf (oldFIP.address ≠ newFIP.address)
      (.forbidden (fldPath.child "ip") "field is immutable once set") ++
    errorIf (oldFIP.ipFamily ≠ newFIP.ipFamily)
      (.forbidden (fldPath.child "ipFamily") "field is immutable once set")

/-- `validateFloatingIPRequiresLBOrPreExisting`. -/
def validateFloatingIPRequiresLBOrPreExisting (spec : CloudscaleClusterSpec) (fldPath : Path) :
    ErrorList :=
  errorIf (spec.floatingIP.any (·.address = "") ∧ ¬ spec.controlPlaneLoadBalancer.isEnabled)
    (.invalid (fldPath.child "floatingIP") ""
      ("managed floating IP requires the load balancer to be enabled; use a pre-existing " ++
        "floating IP if you need a floating IP without a load balancer"))

/-- `validateFloatingIPRequiresPublicLB`. -/
def validateFloatingIPRequiresPublicLB (spec : CloudscaleClusterSpec) (fldPath : Path) :
    ErrorList :=
  errorIf (spec.floatingIP.isSome ∧ spec.controlPlaneLoadBalancer.isEnabled ∧
      spec.controlPlaneLoadBalancer.network ≠ "")
    (.invalid (fldPath.child "floatingIP") ""
      ("floating IPs cannot be attached to a load balancer with a private VIP; use a public " ++
        "load balancer or remove the floating IP"))

/-- `validateLBPoolMemberNetworkResolvable`. -/
def validateLBPoolMemberNetworkResolvable (spec : CloudscaleClusterSpec) (fldPath : Path) :
    ErrorList :=
  let lb := spec.controlPlaneLoadBalancer
  errorIf (lb.isEnabled ∧ lb.network = "" ∧ lb.poolMemberNetwork = "" ∧ 1 < spec.networks.length)
    (.required (fldPath.child "controlPlaneLoadBalancer")
      ("controlPlaneLoadBalancer.network or controlPlaneLoadBalancer.poolMemberNetwork must be " ++
        "set to one of spec.networks[].name when multiple networks are defined; the load " ++
        "balancer pool members need an explicit subnet to attach to"))

/-- The references to networks in the load balancer spec, as create and update check
them. -/
def validateLBReferences (spec : CloudscaleClusterSpec) (fldPath : Path) : ErrorList :=
  let lb := spec.controlPlaneLoadBalancer
  let lbPath := fldPath.child "controlPlaneLoadBalancer"
  (if lb.network ≠ "" then
    validateNetworkReference lb.network spec.networks (lbPath.child "network") else []) ++
  (if lb.poolMemberNetwork ≠ "" then
    validateNetworkReference lb.poolMemberNetwork spec.networks (lbPath.child "poolMemberNetwork")
    else [])

/-- The rules on the endpoint that end both validators: the floating IP, and the
network of the pool members. -/
def validateEndpointRules (spec : CloudscaleClusterSpec) (fldPath : Path) : ErrorList :=
  (spec.floatingIP.elim [] fun fip => validateFloatingIP fip (fldPath.child "floatingIP")) ++
  validateFloatingIPRequiresLBOrPreExisting spec fldPath ++
  validateFloatingIPRequiresPublicLB spec fldPath ++
  validateLBPoolMemberNetworkResolvable spec fldPath

/-! ## The validators -/

/-- What a validator returns. -/
structure Review where
  warnings : List String
  errs : ErrorList
  deriving DecidableEq, Repr

/-- The object is admitted. -/
def Review.Accepted (r : Review) : Prop := r.errs = []

instance (r : Review) : Decidable r.Accepted := inferInstanceAs (Decidable (r.errs = []))

/-- `checkSNATConfiguration`. -/
def checkSNATConfiguration (spec : CloudscaleClusterSpec) : List String :=
  spec.routers.filterMap fun router =>
    if router.internetGateway ∧ ¬ router.interfaces.any (fun iface =>
        spec.networks.any fun network => network.name = iface.network ∧ network.gatewayAddress ≠ "")
    then some ("Router " ++ quote router.name ++ " has internetGateway enabled but no " ++
      "gatewayAddress is set on its attached networks. Set networks[].gatewayAddress to enable " ++
      "SNAT for outbound internet access.")
    else none

/-- `clusterSpecValidateCreate`. -/
def clusterSpecValidateCreate (spec : CloudscaleClusterSpec) (ri : RegionInfo) (fldPath : Path) :
    ErrorList :=
  errorIf (spec.zone ≠ "" ∧ ¬ ri.zoneBelongsToRegion spec.zone spec.region)
    (.invalid (fldPath.child "zone") spec.zone
      ("zone must belong to region " ++ quote spec.region)) ++
  validateNetworks spec.networks (fldPath.child "networks") ++
  validateRouters spec.routers spec.networks (fldPath.child "routers") ++
  validateLBReferences spec fldPath ++
  validateEndpointRules spec fldPath

/-- The check of `ValidateUpdate` that an endpoint does not change once it is set. -/
def validateEndpointImmutability (oldEndpoint newEndpoint : APIEndpoint) (fldPath : Path) :
    ErrorList :=
  if oldEndpoint.host ≠ "" then
    errorIf (newEndpoint.host ≠ oldEndpoint.host)
      (.forbidden (fldPath.child "host") "field is immutable once set") ++
    errorIf (newEndpoint.port ≠ oldEndpoint.port)
      (.forbidden (fldPath.child "port") "field is immutable once set")
  else []

/-- `CloudscaleClusterCustomValidator.ValidateCreate`. -/
def clusterValidateCreate (ri : RegionInfo) (c : CloudscaleCluster) : Review :=
  { warnings := checkSNATConfiguration c.spec, errs := clusterSpecValidateCreate c.spec ri "spec" }

/-- The errors of `ValidateUpdate`, in its order. -/
def clusterSpecValidateUpdate (old new : CloudscaleClusterSpec) : ErrorList :=
  let lbPath := "spec.controlPlaneLoadBalancer"
  errorIf (new.region ≠ old.region) (.forbidden "spec.region" immutableDetail) ++
  errorIf (new.zone ≠ old.zone) (.forbidden "spec.zone" immutableDetail) ++
  validateNetworkImmutability old.networks new.networks "spec.networks" ++
  validateNetworks new.networks "spec.networks" ++
  validateRouters new.routers new.networks "spec.routers" ++
  validateRouterDiff old.routers new.routers "spec.routers" ++
  errorIf (new.controlPlaneLoadBalancer.isEnabled ≠ old.controlPlaneLoadBalancer.isEnabled)
    (.forbidden (Path.child lbPath "enabled") immutableDetail) ++
  errorIf (new.controlPlaneLoadBalancer.network ≠ old.controlPlaneLoadBalancer.network)
    (.forbidden (Path.child lbPath "network") "field is immutable once set") ++
  validateLBImmutability old.controlPlaneLoadBalancer new.controlPlaneLoadBalancer lbPath ++
  validateLBReferences new "spec" ++
  validateEndpointImmutability old.controlPlaneEndpoint new.controlPlaneEndpoint
    "spec.controlPlaneEndpoint" ++
  validateFloatingIPImmutability old.floatingIP new.floatingIP "spec.floatingIP" ++
  validateEndpointRules new "spec"

/-- `CloudscaleClusterCustomValidator.ValidateUpdate`. -/
def clusterValidateUpdate (oldCluster newCluster : CloudscaleCluster) : Review :=
  { warnings := checkSNATConfiguration newCluster.spec
    errs := clusterSpecValidateUpdate oldCluster.spec newCluster.spec }

end Capcs.Webhook
