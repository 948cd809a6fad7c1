import Capcs.Controller.Frames
import Capcs.Readiness.Calls
import Capcs.Webhook.Admission

/-!
# Capcs.Endpoint.Ports — the ports of the endpoint, the listener and the pool members

All three take their port from `apiServerPort`, which an admitted update does not change. So the
endpoint and the listener agree, but the pool members are asked for on that port too and not on
the port of the API server (`ports_iff`).
-/

namespace Capcs.Endpoint

open Cloudscale Controller Webhook
open Readiness (CallEvent Trace)
open Interaction (Frame within)
open Interaction.Contract

/-! ## What a pass asks for -/

/-- A pool member that is asked for, with some machines. -/
def Requested (c : CloudscaleCluster) (req : LoadBalancerPoolMemberRequest) : Prop :=
  ∃ subnetID net machines, req ∈ desiredMembers c subnetID net machines

/-- The port of the spec. -/
abbrev portOf (c : CloudscaleCluster) : Int := c.spec.controlPlaneLoadBalancer.apiServerPort

theorem Requested.port {c : CloudscaleCluster} {req : LoadBalancerPoolMemberRequest}
    (h : Requested c req) : req.protocolPort = portOf c := by
  obtain ⟨subnetID, net, machines, hmem⟩ := h
  obtain ⟨m, -, hm⟩ := List.mem_filterMap.mp hmem
  obtain ⟨address, -, rfl⟩ := Option.map_eq_some_iff.mp hm
  rfl

/-- Requests that take their ports from the spec. -/
def FromSpec (c : CloudscaleCluster) : Op → Prop
  | .create .listener req => req.protocolPort = portOf c
  | .createMember _ req => Requested c req
  | _ => True

theorem fromSpec_of_part {c : CloudscaleCluster} {op : Op} (h : partOf op ≠ .loadBalancer) :
    FromSpec c op := by
  match op with
  | .create .listener _ => exact absurd rfl h
  | .createMember _ _ => exact absurd rfl h
  | .create .network _ | .create .subnet _ | .create .router _ | .create .loadBalancer _
  | .create .pool _ | .create .healthMonitor _ | .create .floatingIP _ | .create .server _
  | .create .serverGroup _ => trivial
  | .get _ _ | .list _ _ | .delete _ _ | .listMembers _ | .updateMember _ _ _ | .deleteMember _ _
  | .createInterface _ _ | .deleteInterface _ _ | .updateFloatingIP _ _ | .listMachines _ _ _
  | .getSecret _ _ => trivial

theorem fromSpec_of_lookup {c : CloudscaleCluster} {op : Op} (h : IsLookup op) : FromSpec c op := by
  match op with
  | .get _ _ | .list _ _ => trivial

/-- What a pass keeps of the object it started from: its name and its load balancer, and the
endpoint unless it was set. -/
structure SameTarget (c₀ c : CloudscaleCluster) : Prop where
  name : c.metadata.name = c₀.metadata.name
  loadBalancer : c.spec.controlPlaneLoadBalancer = c₀.spec.controlPlaneLoadBalancer
  endpoint : c.spec.controlPlaneEndpoint = c₀.spec.controlPlaneEndpoint ∨
    c.spec.controlPlaneEndpoint.port = portOf c₀

variable {c₀ c c' : CloudscaleCluster} {α β : Type} {f : CloudscaleCluster → β} {P : Op → Prop}
  (cluster : Cluster)

theorem SameTarget.congr (h : SameTarget c₀ c) (hmeta : c'.metadata = c.metadata)
    (hspec : c'.spec = c.spec) : SameTarget c₀ c' :=
  ⟨hmeta ▸ h.name, hspec ▸ h.loadBalancer, hspec ▸ h.endpoint⟩

/-- A step that keeps to the ports of the spec. -/
abbrev KeepsPorts (c₀ : CloudscaleCluster) (m : ClusterM α) : Prop :=
  (within (FromSpec c₀)).Preserves (fun c _ => SameTarget c₀ c) m

/-- A step that leaves spec and metadata alone and asks for no listener or member. -/
theorem steady_of_frame {m : ClusterM α} (hm : Frame f P m)
    (hf : ∀ c c', f c' = f c → c'.metadata = c.metadata ∧ c'.spec = c.spec)
    (hP : ∀ op, P op → FromSpec c₀ op) : KeepsPorts c₀ m := by
  refine hm.preserves ?_ (fun _ _ _ h _ _ => h) fun _ _ op hop h _ => ⟨hP op hop, fun _ _ _ _ => h⟩
  intro c c' _ hsame h
  exact h.congr (hf c c' hsame).1 (hf c c' hsame).2

theorem steady_perform {op : Op} (hop : FromSpec c₀ op) :
    KeepsPorts c₀ (Interaction.Proc.perform op) :=
  steady_of_frame (f := fun c => c) (.perform hop)
    (by rintro c _ rfl; exact ⟨rfl, rfl⟩) fun _ h => h

/-! ## The load balancer -/

theorem reconcileOwned_steady {k : Kind} (what : String) (id : CloudscaleClusterStatus → String)
    (setID : String → CloudscaleClusterStatus → CloudscaleClusterStatus)
    {request : CloudscaleCluster → Except GoError k.Request}
    (hreq : ∀ c req, SameTarget c₀ c → request c = .ok req → FromSpec c₀ (.create k req)) :
    KeepsPorts c₀ (reconcileOwned k what id setID request) := by
  have hset (new : String) : KeepsPorts c₀ (Interaction.Proc.update fun c : CloudscaleCluster =>
      { c with status := setID new c.status }) := .update fun _ _ h => h.congr rfl rfl
  refine .read_any fun c => .bind ?_ fun r => ?_
  · exact steady_of_frame (f := fun c => c) (ensureResource_lookups _ _ _)
      (by rintro c _ rfl; exact ⟨rfl, rfl⟩) fun _ => fromSpec_of_lookup
  · refine .bind (hset _) fun _ => .ite (fun _ => .pure _) fun _ => .read fun c w _ h => ?_
    cases hc : request c with
    | error err => exact h
    | ok req =>
        refine Preserves.bind
          (steady_of_frame (f := fun c => c) (P := FromSpec c₀) ?_ ?_ fun _ h => h)
          (fun r => ?_) c w trivial h
        · refine .bind (.perform (hreq c req h hc)) fun r => ?_
          split
          · exact .pure _
          · exact .ite (fun _ => .pure _) fun _ => .fail _
        · rintro c _ rfl
          exact ⟨rfl, rfl⟩
        · split
          · exact .pure _
          · exact .bind (hset _) fun _ => .pure _

/-- The members depend on the name and the load balancer only. -/
theorem SameTarget.desiredMembers (h : SameTarget c₀ c) (subnetID : String) (net : Net.Prefix)
    (machines : List CloudscaleMachine) :
    desiredMembers c subnetID net machines = desiredMembers c₀ subnetID net machines := by
  simp only [Controller.desiredMembers, clusterOwnershipTags, CloudscaleCluster.clusterTagKey,
    h.name, h.loadBalancer]

theorem getDesiredLoadBalancerMembers_requested (h : SameTarget c₀ c) :
    (within (FromSpec c₀)).wpc (fun out c' _ => SameTarget c₀ c' ∧
      ∀ ds, out = .ok ds → ∀ d ∈ ds, Requested c₀ d)
        (getDesiredLoadBalancerMembers cluster) c () := by
  refine getDesiredLoadBalancerMembers_wpc (wpc_perform.mpr fun _ _ _ => ⟨trivial, fun r _ _ _ =>
    ⟨fun _ => ⟨h, by simp⟩, fun machines id cidr net _ _ _ _ => ⟨h, ?_⟩⟩⟩)
  rintro _ ⟨⟩ d hd
  exact ⟨_, _, _, h.desiredMembers _ _ _ ▸ hd⟩

theorem addMembers_steady (current : List LoadBalancerPoolMember)
    {desired : List LoadBalancerPoolMemberRequest} (hreq : ∀ d ∈ desired, Requested c₀ d) :
    KeepsPorts c₀ (addMembers current desired) := by
  refine addMembers_preserves (fun d hd => .read_any fun c => ?_) fun _ _ => .read_any fun c => ?_
  · refine .bind (steady_perform (hreq d hd)) fun r => ?_
    split
    · exact .ite (fun _ => .pure _) fun _ => .fail _
    · exact .bind (.update fun _ _ h => h.congr rfl rfl) fun _ => .pure _
  · refine .bind (steady_perform trivial) fun r => ?_
    split
    · exact .fail _
    · exact .pure _

theorem removeMembers_steady (desired : List LoadBalancerPoolMemberRequest)
    (current : List LoadBalancerPoolMember) : KeepsPorts c₀ (removeMembers desired current) := by
  refine removeMembers_preserves fun m _ => .read_any fun c =>
    .bind (steady_perform trivial) fun r => ?_
  split
  · exact .fail _
  · exact .update fun _ _ h => h.congr rfl rfl

theorem reconcileLBMembers_steady :
    KeepsPorts c₀ (reconcileLBMembers cluster) := by
  refine .read_any fun c => .bind (steady_perform trivial) fun r => ?_
  split
  · exact .fail _
  · next current =>
    intro c w _ h
    refine wpc_seq (wpc_wrapped (getDesiredLoadBalancerMembers_requested cluster h) ?_) ?_
    · exact fun _ _ _ hout => ⟨hout.1, by simp⟩
    · rintro out c₁ w₁ ⟨h₁, hreq⟩
      cases out with
      | error err => exact h₁
      | ok desired =>
          refine Preserves.bind (addMembers_steady current (hreq desired rfl)) (fun result => ?_)
            c₁ w₁ trivial h₁
          refine .ite (fun _ => .bind (removeMembers_steady desired current) fun _ => .pure _)
            fun _ => .pure _

theorem reconcileLBChildren_steady :
    KeepsPorts c₀ (reconcileLBChildren cluster) := by
  refine reconcileLBChildren_preserves (reconcileOwned_steady _ _ _ fun _ _ _ _ => trivial)
    (reconcileOwned_steady _ _ _ ?_) (reconcileOwned_steady _ _ _ fun _ _ _ _ => trivial)
    (reconcileLBMembers_steady cluster)
  rintro c _ h ⟨⟩
  exact congrArg LoadBalancerSpec.apiServerPort h.loadBalancer

theorem reconcileLoadBalancer_steady :
    KeepsPorts c₀ (reconcileLoadBalancer cluster) := by
  refine reconcileLoadBalancer_preserves (fun _ _ _ _ _ h => h.congr rfl rfl)
    (reconcileOwned_steady _ _ _ fun _ _ _ _ => trivial) (fun _ => steady_perform trivial)
      (fun lb => ?_)
    (reconcileLBChildren_steady cluster)
  refine .read_any fun c => .ite (fun _ => .pure _) fun _ =>
    .bind (steady_perform trivial) fun r => ?_
  split
  · exact .pure _
  · split <;> exact .pure _

/-! ## The whole pass -/

theorem finishNormal_steady (lb : LbStatus) :
    KeepsPorts c₀ (finishNormal cluster lb) := by
  refine .bind (.update fun c _ h => ?_) fun _ =>
    .bind (.update fun _ _ h => h.congr rfl rfl) fun _ => ?_
  · rw [reconcileControlPlaneEndpoint]
    split_ifs
    · exact h
    · exact h
    · exact ⟨h.name, h.loadBalancer, .inr (congrArg LoadBalancerSpec.apiServerPort h.loadBalancer)⟩
  · exact .ite (fun _ => .pure _) fun _ => .pure _

theorem reconcileNormal_steady : KeepsPorts c₀ (reconcileNormal cluster) := by
  have hpart {part : Part} (hne : part ≠ .loadBalancer) (op : Op) (hop : About part op) :
      FromSpec c₀ op := by
    refine fromSpec_of_part ?_
    rcases hop with hop | hop
    · rw [hop]
      exact hne
    · rw [hop]
      decide
  refine reconcileNormal_preserves ?_ ?_ (reconcileLoadBalancer_steady cluster) ?_
    (finishNormal_steady cluster) fun _ _ h => h.congr rfl rfl
  · exact steady_of_frame (reconcileNetwork_frame cluster)
      (fun c c' h => ⟨congrArg (·.metadata) h, congrArg (·.spec) h⟩) (hpart (by decide))
  · exact steady_of_frame (reconcileRouters_frame cluster)
      (fun c c' h => ⟨congrArg (·.metadata) h, congrArg (·.spec) h⟩) (hpart (by decide))
  · exact steady_of_frame (reconcileFloatingIP_frame cluster)
      (fun c c' h => ⟨congrArg (·.metadata) h, congrArg (·.spec) h⟩) (hpart (by decide))

/-- A normal pass over an object, with its calls. -/
def NormalRun (c : CloudscaleCluster) (tr : Trace) (after : CloudscaleCluster) : Prop :=
  ∃ cluster out, ((reconcileNormal cluster).exec c).Runs tr (out, after)

theorem NormalRun.steady {tr : Trace} {after : CloudscaleCluster} (h : NormalRun c tr after) :
    SameTarget c after ∧ ∀ e ∈ tr, FromSpec c e.op := by
  obtain ⟨cluster, out, hrun⟩ := h
  exact Interaction.runs_of_within
    (reconcileNormal_steady cluster c () trivial ⟨rfl, rfl, .inl rfl⟩) hrun

/-! ## The result -/

/-- The port of the API server on the control plane nodes. -/
def kubeAPIServerPort : Int := 6443

/-- Clients that use the endpoint of a cluster reach the API server: among the passes over the
stored objects, an endpoint that is set has the port of the listeners that are created, and every
member is asked for on the port of the API server. -/
structure LeadsToAPIServer (stored : List CloudscaleCluster) : Prop where
  listener : ∀ c ∈ stored, ∀ tr after, NormalRun c tr after → ∀ req, ∀ e ∈ tr,
    e.op = .create .listener req → ∀ c' ∈ stored, ∀ tr' after', NormalRun c' tr' after' →
      c'.spec.controlPlaneEndpoint.host = "" → after'.spec.controlPlaneEndpoint.host ≠ "" →
      after'.spec.controlPlaneEndpoint.port = req.protocolPort
  members : ∀ c ∈ stored, ∀ req, Requested c req → req.protocolPort = kubeAPIServerPort
  created : ∀ c ∈ stored, ∀ tr after, NormalRun c tr after → ∀ pool req, ∀ e ∈ tr,
    e.op = .createMember pool req → req.protocolPort = kubeAPIServerPort

/-- All stored objects have the same load balancer. -/
theorem sameLoadBalancer {ri : RegionInfo} {stored : List CloudscaleCluster}
    (h : AdmittedRun ri stored) : ∀ a ∈ stored, ∀ b ∈ stored,
      a.spec.controlPlaneLoadBalancer = b.spec.controlPlaneLoadBalancer := by
  let same (a b : CloudscaleCluster) : Prop :=
    a.spec.controlPlaneLoadBalancer = b.spec.controlPlaneLoadBalancer
  have hpair : stored.Pairwise same := h.coherent.grows.imp fun hext => hext.loadBalancer.symm
  have : Std.Symm same := ⟨fun _ _ h => h.symm⟩
  exact fun a ha b hb => List.Pairwise.forall_of_forall (R := same) (fun _ _ => rfl) hpair ha hb

/-- A machine whose address is on a subnet. -/
def addressedMachine : CloudscaleMachine :=
  { metadata := { name := "m", ns := "default" }
    status := { addresses := [{ type := .internalIP, address := "10.0.0.5" }] } }

/-- The member that is asked for it. -/
def addressedMember (c : CloudscaleCluster) : LoadBalancerPoolMemberRequest :=
  { name := "m", subnet := "s", address := "10.0.0.5", protocolPort := portOf c
    tags := clusterOwnershipTags c }

theorem exists_requested (c : CloudscaleCluster) : ∃ req, Requested c req := by
  have hnet : ∃ net, Net.parseCIDR "10.0.0.0/24" = some net ∧
      memberAddress net addressedMachine = some "10.0.0.5" := by
    refine ⟨_, rfl, by decide +kernel⟩
  obtain ⟨net, -, haddr⟩ := hnet
  refine ⟨addressedMember c, "s", net, [addressedMachine], ?_⟩
  simp only [Controller.desiredMembers, List.filterMap_cons, haddr, Option.map_some]
  exact List.mem_cons_self

/-- The endpoint of an admitted cluster leads to the API server exactly when `apiServerPort` is the
port of the API server. -/
theorem ports_iff {ri : RegionInfo} {stored : List CloudscaleCluster} (h : AdmittedRun ri stored) :
    LeadsToAPIServer stored ↔ ∀ c ∈ stored, portOf c = kubeAPIServerPort := by
  constructor
  · intro hleads c hc
    obtain ⟨req, hreq⟩ := exists_requested c
    rw [← hreq.port]
    exact hleads.members c hc req hreq
  · intro hport
    refine ⟨?_, ?_, ?_⟩
    · intro c hc tr after hrun req e he hop c' hc' tr' after' hrun' hempty hset
      have hreq : req.protocolPort = portOf c := by
        have hfrom := hrun.steady.2 e he
        rw [hop] at hfrom
        exact hfrom
      rcases hrun'.steady.1.endpoint with hsame | hsame
      · exact absurd (hsame ▸ hempty) hset
      · rw [hsame, hreq]
        exact congrArg LoadBalancerSpec.apiServerPort (sameLoadBalancer h c' hc' c hc)
    · exact fun c hc req hreq => hreq.port.trans (hport c hc)
    · intro c hc tr after hrun pool req e he hop
      have hfrom := hrun.steady.2 e he
      rw [hop] at hfrom
      exact (Requested.port hfrom).trans (hport c hc)

/-- A cluster that keeps the default port. -/
theorem ports_default : LeadsToAPIServer [storedCluster] := by
  have hstored : AdmittedRun oneRegion [storedCluster] :=
    .create (by decide) (by decide)
  exact (ports_iff hstored).mpr (by decide)

/-! ## Another port -/

/-- A cluster whose API server is to be reached on port 443. -/
def cluster443 : CloudscaleCluster :=
  clusterDefault oneRegion { smallCluster with
    spec := { smallCluster.spec with
      controlPlaneLoadBalancer := { poolMemberNetwork := "net", apiServerPort := 443 } } }

/-- An empty project in which everything can be created, and a machine with an address. -/
def buildingReply : (op : Op) → op.Reply
  | .create .network _ => .ok { uuid := "n", zone := "rma1" }
  | .create .subnet _ => .ok { uuid := "s", network := "n" }
  | .create .loadBalancer _ => .ok { uuid := "lb" }
  | .create .pool _ => .ok { uuid := "p" }
  | .create .listener _ => .ok { uuid := "l" }
  | .create .healthMonitor _ => .ok { uuid := "h" }
  | .get .loadBalancer id =>
    .ok { uuid := id, status := loadBalancerRunningStatus, vipAddresses := ["192.0.2.1"] }
  | .list _ _ | .listMembers _ => .ok []
  | .listMachines _ _ _ => .ok [addressedMachine]
  | .createMember _ req => .ok { uuid := "m", name := req.name }
  | .get _ _ | .create _ _ | .delete _ _ | .updateMember _ _ _ | .deleteMember _ _
  | .createInterface _ _ | .deleteInterface _ _ | .updateFloatingIP _ _ => .error (.other "")
  | .getSecret _ _ => .error (.other "")

/-- A first pass over that cluster. -/
def buildingPass : Trace × (Except GoError Result × CloudscaleCluster) :=
  (reconcileNormal { name := "c", ns := "default" }).record buildingReply cluster443

/-- The ports of the members and of the listener that are asked for. -/
def portAsked : CallEvent → Option Int
  | ⟨.createMember _ req, _⟩ => some req.protocolPort
  | ⟨.create .listener req, _⟩ => some req.protocolPort
  | _ => none

/-- The endpoint and the listener are on port 443, and so is the member. -/
theorem members_on_443 : AdmittedRun oneRegion [cluster443] ∧
    NormalRun cluster443 buildingPass.1 buildingPass.2.2 ∧
    buildingPass.2.2.spec.controlPlaneEndpoint = { host := "192.0.2.1", port := 443 } ∧
    buildingPass.1.filterMap portAsked = [443, 443] ∧ ¬ LeadsToAPIServer [cluster443] := by
  refine ⟨.create (by decide) (by decide), ⟨_, _, (reconcileNormal _).runs_record _ _⟩,
    by decide +kernel, by decide +kernel, fun hleads => ?_⟩
  obtain ⟨req, hreq⟩ := exists_requested cluster443
  have hport := hleads.members cluster443 (List.mem_singleton.mpr rfl) req hreq
  rw [hreq.port] at hport
  revert hport
  decide

end Capcs.Endpoint
