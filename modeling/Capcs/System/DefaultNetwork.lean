import Capcs.System.References

/-!
# Capcs.System.DefaultNetwork — the network of machines without interfaces

A machine that lists no interfaces is put on the first network of `status.networks`. Entries are
updated in place and appended, so the first entry stays what it is as long as there is one, and
it is the first network of the spec if a pass begins with none (`reconcileNormal_led`). What is
first in the spec is free to change, and a lost status makes the controller ask again.

* `one_default_network` — if every pass that begins without entries finds the same network first,
  all machines without interfaces are put on that one.
* `default_network_moves` — a network added in front, and a lost status.
-/

namespace Capcs.System

open Cloudscale Controller Webhook
open Readiness (Trace anyCalls)
open Interaction (Proc history history_perform Frame)
open Interaction.Contract

/-! ## The first entry -/

/-- The first network entry has this name. -/
def LedBy (name : String) (status : CloudscaleClusterStatus) : Prop :=
  ∃ e rest, status.networks = e :: rest ∧ e.name = name

/-- There are no entries, or the first one has this name. -/
def LedAtMost (name : String) (status : CloudscaleClusterStatus) : Prop :=
  status.networks = [] ∨ LedBy name status

variable {name : String} {status status' : CloudscaleClusterStatus}
  {c : CloudscaleCluster} {h : Trace}

theorem LedBy.congr (hc : LedBy name status) (hsame : status'.networks = status.networks) :
    LedBy name status' := by
  obtain ⟨e, rest, hnets, he⟩ := hc
  exact ⟨e, rest, hsame.trans hnets, he⟩

theorem LedAtMost.congr (hc : LedAtMost name status) (hsame : status'.networks = status.networks) :
    LedAtMost name status' :=
  hc.imp hsame.trans fun hled => hled.congr hsame

/-- An entry is updated in place or appended. -/
theorem LedBy.set (hc : LedBy name c.status) (other networkID subnetID cidr : String)
    (managed : Bool) (mtu : Int) :
    LedBy name (setNetworkStatus other networkID subnetID cidr managed mtu c).status := by
  obtain ⟨e, rest, hnets, he⟩ := hc
  simp only [LedBy, setNetworkStatus, hnets, Keyed.upsertFirst]
  split
  · exact ⟨_, _, rfl, he⟩
  · exact ⟨_, _, rfl, he⟩

/-- The first entry to be written becomes the first entry. -/
theorem LedAtMost.set (hc : LedAtMost name c.status) (networkID subnetID cidr : String)
    (managed : Bool) (mtu : Int) :
    LedBy name (setNetworkStatus name networkID subnetID cidr managed mtu c).status := by
  rcases hc with hnone | hled
  · simp only [LedBy, setNetworkStatus, hnone, Keyed.upsertFirst]
    exact ⟨_, _, rfl, rfl⟩
  · exact hled.set _ _ _ _ _ _

/-! ## A pass keeps the first entry -/

section Networks

variable {J : CloudscaleCluster → Prop} {n : NetworkSpec}

/-- An assertion that writing the entry of `n` establishes is kept while `n` is worked on. -/
theorem reconcilePreExistingNetwork_keepsLead (hJ : ∀ c networkID subnetID cidr managed mtu, J c →
    J (setNetworkStatus n.name networkID subnetID cidr managed mtu c)) :
    anyCalls.Preserves (fun c _ => J c) (reconcilePreExistingNetwork n) := by
  refine .read_any fun c => .ite (fun _ => .pure _) fun _ => ?_
  refine .bind (Frame.carries_all (.perform (P := fun _ => True) trivial)) fun r => ?_
  split
  · exact .fail _
  · refine .ite (fun _ => .fail _) fun _ => ?_
    split
    · exact .fail _
    · exact .update fun c _ hc => hJ c _ _ _ _ _ hc

theorem reconcileManagedNetwork_keepsLead (cluster : Cluster)
    (hJ : ∀ c networkID subnetID cidr managed mtu, J c →
      J (setNetworkStatus n.name networkID subnetID cidr managed mtu c)) :
    anyCalls.Preserves (fun c _ => J c) (reconcileManagedNetwork cluster n) := by
  refine .read_any fun c => .bind (Frame.carries_all (resolveNetwork_frame _ _ _)) fun r => ?_
  split
  · exact .pure _
  · refine .bind (Frame.carries_all (resolveSubnet_frame _ _ _ _)) fun r => ?_
    split
    · exact .pure _
    · exact .bind (.update fun c _ hc => hJ c _ _ _ _ _ hc) fun _ => .pure _

theorem reconcileNetworks_led (cluster : Cluster) (ns : List NetworkSpec) :
    anyCalls.Preserves (fun c _ => LedBy name c.status) (reconcileNetworks cluster ns) := by
  induction ns with
  | nil => exact .pure _
  | cons n ns ih =>
      refine .ite (fun _ => ?_) fun _ => ?_
      · exact .bind (.wrapErr (reconcilePreExistingNetwork_keepsLead fun _ _ _ _ _ _ hc =>
          hc.set _ _ _ _ _ _)) fun _ => ih
      · refine .bind (.wrapErr (reconcileManagedNetwork_keepsLead cluster fun _ _ _ _ _ _ hc =>
          hc.set _ _ _ _ _ _)) fun result => ?_
        exact .ite (fun _ => ih) fun _ => .pure _

end Networks

/-! ## A pass that begins without entries -/

/-- Past the first network, the entry of it is there. -/
theorem reconcilePreExistingNetwork_first (n : NetworkSpec) (hnone : c.status.networks = []) :
    anyCalls.wpc (fun out c' _ => match out with
      | .error _ => LedAtMost n.name c'.status
      | .ok _ => LedBy n.name c'.status) (reconcilePreExistingNetwork n) c h := by
  have huncached : c.status.getNetworkStatus n.name = none := by
    simp [CloudscaleClusterStatus.getNetworkStatus, hnone]
  rw [reconcilePreExistingNetwork, wpc_read_bind, huncached, wpc_ite,
    if_neg (by simp), wpc_bind]
  refine history_perform fun r _ => ?_
  cases r with
  | error err => exact .inl hnone
  | ok network =>
      simp only [after_ok, wpc_ite]
      split
      · exact .inl hnone
      · cases network.subnets with
        | nil => exact .inl hnone
        | cons subnet _ => exact LedAtMost.set (.inl hnone) _ _ _ _ _

/-- A create that has timed out ends the pass. -/
theorem createResource_requeues {k : Kind} {req : k.Request} {what : String} {seconds : Nat}
    (hpos : 0 < seconds) : anyCalls.wpc (fun out c' _ => c' = c ∧
      ∀ result, out = .ok (.error result) → result.isZero = false)
      (createResource k req what seconds : ClusterM (Except Result k.Resource)) c h := by
  rw [createResource, wpc_bind]
  refine history_perform fun r _ => ?_
  cases r with
  | ok resource => exact ⟨rfl, fun _ heq => by cases heq⟩
  | error err =>
      simp only [after_ok, wpc_ite]
      split
      · refine ⟨rfl, fun result heq => ?_⟩
        cases heq
        simp [Result.isZero, Nat.ne_of_gt hpos]
      · exact ⟨rfl, fun _ heq => by cases heq⟩

theorem resolveNetwork_requeues (n : NetworkSpec) (networkID : String) (tags : TagMap) :
    anyCalls.wpc (fun out c' _ => c' = c ∧ ∀ result, out = .ok (.error result) →
      result.isZero = false) (resolveNetwork n networkID tags) c h := by
  rw [resolveNetwork, wpc_read_bind]
  refine wpc_seq ((ensureResource_frame (f := id) (k := .network) rfl _ _ _).wpc c h) ?_
  rintro out c₁ h₁ hsame
  obtain rfl : c₁ = c := hsame
  rcases out with err | ⟨network, id⟩
  · exact ⟨rfl, fun _ heq => by cases heq⟩
  · simp only [after_ok, wpc_ite]
    split
    · exact ⟨rfl, fun _ heq => by cases heq⟩
    refine wpc_seq (createResource_requeues (k := .network) (by decide)) ?_
    rintro out c₂ h₂ ⟨rfl, hzero⟩
    rcases out with err | result | network
    · exact ⟨rfl, fun _ heq => by cases heq⟩
    · refine ⟨rfl, fun _ heq => ?_⟩
      cases heq
      exact hzero _ rfl
    · exact ⟨rfl, fun _ heq => by cases heq⟩

theorem resolveSubnet_requeues (n : NetworkSpec) (subnetID networkID : String) (tags : TagMap) :
    anyCalls.wpc (fun out c' _ => c' = c ∧ ∀ result, out = .ok (.error result) →
      result.isZero = false) (resolveSubnet n subnetID networkID tags) c h := by
  rw [resolveSubnet]
  refine wpc_seq ((ensureResource_frame (f := id) (k := .subnet) rfl _ _ _).wpc c h) ?_
  rintro out c₁ h₁ hsame
  obtain rfl : c₁ = c := hsame
  rcases out with err | ⟨subnet, id⟩
  · exact ⟨rfl, fun _ heq => by cases heq⟩
  · simp only [after_ok, wpc_ite]
    split
    · exact ⟨rfl, fun _ heq => by cases heq⟩
    refine wpc_seq (createResource_requeues (k := .subnet) (by decide)) ?_
    rintro out c₂ h₂ ⟨rfl, hzero⟩
    rcases out with err | result | subnet
    · exact ⟨rfl, fun _ heq => by cases heq⟩
    · refine ⟨rfl, fun _ heq => ?_⟩
      cases heq
      exact hzero _ rfl
    · exact ⟨rfl, fun _ heq => by cases heq⟩

theorem reconcileManagedNetwork_first (cluster : Cluster) (n : NetworkSpec)
    (hnone : c.status.networks = []) :
    anyCalls.wpc (fun out c' _ => match out with
      | .error _ => LedAtMost n.name c'.status
      | .ok result => LedAtMost n.name c'.status ∧ (result.isZero = true → LedBy n.name c'.status))
      (reconcileManagedNetwork cluster n) c h := by
  rw [reconcileManagedNetwork, wpc_read_bind]
  refine wpc_seq (resolveNetwork_requeues _ _ _) ?_
  rintro out c₁ h₁ ⟨rfl, hzero⟩
  rcases out with err | result | ⟨network, networkID⟩
  · exact .inl hnone
  · refine ⟨.inl hnone, fun hz => ?_⟩
    rw [hzero result rfl] at hz
    cases hz
  · rw [after_ok]
    refine wpc_seq (resolveSubnet_requeues _ _ _ _) ?_
    rintro out c₂ h₂ ⟨rfl, hzero⟩
    rcases out with err | result | subnetID
    · exact .inl hnone
    · refine ⟨.inl hnone, fun hz => ?_⟩
      rw [hzero result rfl] at hz
      cases hz
    -- both IDs are known: the entry is written, as the first
    · have hatMost : LedAtMost n.name c₂.status := .inl hnone
      have hled := hatMost.set networkID subnetID n.cidr true (network.elim 0 (·.mtu))
      exact ⟨.inr hled, fun _ => hled⟩

/-- The first network that is recorded is the first of the list, since any other way out of the
work on it ends the loop. -/
theorem reconcileNetworks_first (cluster : Cluster) (n : NetworkSpec) (ns : List NetworkSpec)
    (hnone : c.status.networks = []) :
    anyCalls.wpc (fun _ c' _ => LedAtMost n.name c'.status)
      (reconcileNetworks cluster (n :: ns)) c h := by
  have hrest (c' : CloudscaleCluster) (h' : Trace) (hled : LedBy n.name c'.status) :
      anyCalls.wpc (fun _ c' _ => LedAtMost n.name c'.status)
        (reconcileNetworks cluster ns) c' h' :=
    wpc_imp (reconcileNetworks_led cluster ns c' h' (fun _ _ => trivial) hled) fun _ _ _ => .inr
  rw [reconcileNetworks, wpc_ite]
  split
  · refine wpc_seq (wpc_wrapped (reconcilePreExistingNetwork_first n hnone) fun _ _ _ => id) ?_
    rintro (err | _) c₁ h₁ hout
    · exact hout
    · exact hrest c₁ h₁ hout
  · refine wpc_seq (wpc_wrapped (reconcileManagedNetwork_first cluster n hnone) fun _ _ _ => id) ?_
    rintro (err | result) c₁ h₁ hout
    · exact hout
    rw [after_ok, wpc_ite]
    split
    · next hz => exact hrest c₁ h₁ (hout.2 hz)
    · exact hout.1

/-! ## The pass -/

/-- A pass that begins without entries finds this network first. -/
def Begins (name : String) (c : CloudscaleCluster) : Prop :=
  c.status.networks = [] → ∀ n ∈ c.spec.networks.head?, n.name = name

theorem reconcileNetwork_led (cluster : Cluster) (hc : LedAtMost name c.status)
    (hbegins : Begins name c) :
    anyCalls.wpc (fun _ c' _ => LedAtMost name c'.status) (reconcileNetwork cluster) c h := by
  rw [reconcileNetwork, wpc_deferred]
  have hready (out : Except GoError Result) (c' : CloudscaleCluster)
    (hled : LedAtMost name c'.status) :
      LedAtMost name (setNetworkReady out c').status := by
    cases out <;> exact hled.congr rfl
  refine wpc_imp (Q := fun _ c' _ => LedAtMost name c'.status) ?_ fun out c' _ => hready out c'
  rw [wpc_read_bind, wpc_ite]
  split
  · exact hc
  rcases hc with hnone | hled
  · cases hspec : c.spec.networks with
    | nil => contradiction
    | cons n ns =>
        have hname : n.name = name := hbegins hnone n (by simp [hspec])
        exact hname ▸ reconcileNetworks_first cluster n ns hnone
  · exact wpc_imp (reconcileNetworks_led cluster _ c h (fun _ _ => trivial) hled) fun _ _ _ => .inr

theorem reconcileNormal_led (cluster : Cluster) (hc : LedAtMost name c.status)
    (hbegins : Begins name c) :
    anyCalls.wpc (fun _ c' _ => LedAtMost name c'.status) (reconcileNormal cluster) c h := by
  have hothers {β : Type} {f : CloudscaleCluster → β} {P : Op → Prop} {α : Type} {m : ClusterM α}
      (hm : Frame f P m) (hf : ∀ c c', f c' = f c → c'.status.networks = c.status.networks) :
      anyCalls.Preserves (fun c _ => LedAtMost name c.status) m :=
    hm.carries fun c c' hsame hc => hc.congr (hf c c' hsame)
  -- the steps after the network step write other fields
  refine reconcileNormal_wpc (J := fun c _ => LedAtMost name c.status) (fun _ _ => trivial)
    (reconcileNetwork_led cluster hc hbegins) (afterNetwork_preserves ?_ ?_ ?_ fun _ => ?_)
    fun _ _ hled => hled.congr rfl
  · exact hothers (reconcileRouters_frame cluster) fun _ _ hsame =>
      congrArg (·.status.networks) hsame
  · exact hothers (reconcileLoadBalancer_frame cluster) fun _ _ hsame =>
      congrArg (·.status.networks) hsame
  · exact hothers (reconcileFloatingIP_frame cluster) fun _ _ hsame =>
      congrArg (·.status.networks) hsame
  · exact hothers (finishNormal_frame cluster _) fun _ _ hsame =>
      congrArg (·.status.networks) hsame

/-! ## The versions of a cluster -/

/-- The versions stored so far, the newest first, where all passes begin from versions that
meet a condition. -/
abbrev Reordered (ok : CloudscaleCluster → Prop) (first : CloudscaleCluster)
    (vs : List CloudscaleCluster) : Prop :=
  Evolution (normalPasses ok fun _ _ => True) first vs

variable {first : CloudscaleCluster} {vs : List CloudscaleCluster}

/-- The first entry is the same in all versions that have one. -/
theorem Reordered.led (h : Reordered (Begins name) first vs) :
    ∀ v ∈ vs, LedAtMost name v.status := by
  refine h.all (P := fun _ _ status => LedAtMost name status) {
    create := fun _ _ _ => .inl rfl
    lost := fun _ => .inl rfl
    extend := fun _ _ => id
    pass := ?_
    patch := fun hp hs ha => (networks_patched hp).elim hs.congr ha.congr
    env := fun _ => id }
  rintro first before after _ - - - ⟨-, hbegins, cluster, tr, out, hrun, -⟩ hled
  have hled := reconcileNormal_led (c := startNormal before) (h := []) cluster hled hbegins
  exact ⟨Interaction.runs_of_wpc hled hrun fun _ _ => trivial, id⟩

/-! ## What servers are asked for -/

/-- A server is asked for on the first network that is recorded. -/
def OnFirst (c : CloudscaleCluster) : Op → Prop
  | .create .server req => ∃ e rest, c.status.networks = e :: rest ∧
      req.interfaces = [interfaceTypePublic, e.networkID]
  | _ => True

/-- Steps of a pass over a machine that has no interfaces. -/
abbrev AsksFirst {α : Type} (c : CloudscaleCluster) (p : MachineM α) : Prop :=
  (Interaction.within (OnFirst c)).Preserves (fun m _ => m.spec.interfaces = []) p

theorem asksFirst_of_frame {α : Type} {p : MachineM α}
    (hp : Frame (fun m : CloudscaleMachine => m.spec.interfaces) (OnFirst c) p) : AsksFirst c p :=
  hp []

theorem asksFirst_blind :
    MachineBlind fun (m : CloudscaleMachine) (_ : Unit) => m.spec.interfaces = [] :=
  ⟨fun _ _ _ _ _ _ _ => id, fun _ _ _ => id⟩

theorem adoptServer_asks (server : Server) : AsksFirst c (adoptServer server) :=
  .bind (.update fun _ _ => id) fun _ => .bind (.update fun _ _ => id) fun _ => .pure _

/-- The request for a machine that has no interfaces. -/
theorem buildInterfaceRequests_bare {m : CloudscaleMachine} (hbare : m.spec.interfaces = [])
    {interfaces : List String} {ipFamily : Option IPFamily}
    (hok : buildInterfaceRequests c m = .ok (interfaces, ipFamily)) :
    ∃ e rest, c.status.networks = e :: rest ∧ interfaces = [interfaceTypePublic, e.networkID] := by
  rw [buildInterfaceRequests, hbare] at hok
  cases hnets : c.status.networks with
  | nil =>
      rw [hnets] at hok
      cases hok
  | cons e rest =>
      rw [hnets] at hok
      cases hok
      exact ⟨e, rest, rfl, rfl⟩

theorem createServer_asks (s : MachineScope) : AsksFirst s.cloudscaleCluster (createServer s) := by
  refine .bind (.wrapErr (asksFirst_of_frame (getBootstrapData_frame s fun _ _ => trivial)))
    fun data => .read fun m _ _ hbare => ?_
  split
  · exact hbare
  · next interfaces ipFamily hok =>
    have hreq := buildInterfaceRequests_bare hbare hok
    refine Preserves.bind (asksFirst_of_frame (createResource_within hreq _ _))
      (fun r => ?_) m _ trivial hbare
    split
    · exact .pure _
    · exact adoptServer_asks _

theorem machineReconcileNormal_asks (s : MachineScope) :
    AsksFirst s.cloudscaleCluster (machineReconcileNormal s) := by
  have hcall (op : Op) (hop : OnFirst s.cloudscaleCluster op) :
      AsksFirst s.cloudscaleCluster (Proc.perform op : MachineM _) :=
        asksFirst_of_frame (.perform hop)
  refine machineReconcileNormal_preserves asksFirst_blind ?_ ?_
  · exact reconcileServerGroup_preserves asksFirst_blind (fun _ _ _ => id)
      (fun _ => hcall _ trivial) (fun _ => hcall _ trivial) fun _ => hcall _ trivial
  · exact serverBody_preserves asksFirst_blind (fun _ => hcall _ trivial) (fun _ _ _ => id)
      (findServer_preserves (fun _ => hcall _ trivial) adoptServer_asks (createServer_asks s))

/-! ## The result -/

/-- A server request that names the network `name` of a version of the cluster. -/
def Names (name : String) (v : CloudscaleCluster) (req : ServerRequest) : Prop :=
  ∃ n ∈ v.spec.networks, ∃ e ∈ v.status.networks, n.name = name ∧ e.name = name ∧
    req.interfaces = [interfaceTypePublic, e.networkID]

/-- If every pass that begins without network entries finds the same network first in the spec,
then whatever version of the cluster a pass over a machine without interfaces reads, the servers
it asks for are on that network. -/
theorem one_default_network (h : Reordered (Begins name) first vs) :
    ∀ (s : MachineScope) (m m' : CloudscaleMachine) (tr : Trace) (out : Except GoError Result),
      s.cloudscaleCluster ∈ vs → m.spec.interfaces = [] →
      ((machineReconcileNormal s).exec m).Runs tr (out, m') →
      ∀ e ∈ tr, ∀ req, e.op = .create .server req → Names name s.cloudscaleCluster req := by
  intro s m m' tr out hv hbare hrun e he req hop
  have hasks := Interaction.runs_of_within (machineReconcileNormal_asks s m () trivial hbare) hrun
  have hreq := hasks.2 e he
  rw [hop] at hreq
  obtain ⟨entry, rest, hnets, hreq⟩ := hreq
  -- the entry is about a network of the spec
  obtain ⟨n, hn, hname⟩ := (h.mirrors lasting_named (fun _ => trivial) normalPasses_pass _ hv).each
    entry (by simp [hnets])
  have hled : entry.name = name := by
    rcases Reordered.led h _ hv with hnone | ⟨entry', rest', hnets', hname'⟩
    · rw [hnone] at hnets
      cases hnets
    · rw [hnets] at hnets'
      cases hnets'
      exact hname'
  exact ⟨n, hn, entry, by simp [hnets], hname.symm.trans hled, hled, hreq⟩

/-! ## A network added in front -/

/-- A project where networks get their name as UUID. -/
def ownNames : (op : Op) → op.Reply
  | .create .network req => .ok { uuid := req.name, zone := req.zone }
  | .create .subnet req => .ok { uuid := req.network ++ "-subnet", network := req.network }
  | .create .server _ => .ok { uuid := "server" }
  | .getSecret _ _ => .ok [("value", "")]
  | op => emptyReply op

/-- A pass in this project. -/
def passThere (c : CloudscaleCluster) : Trace × Except GoError Result × CloudscaleCluster :=
  (reconcileNormal { name := "c", ns := "default" }).record ownNames (startNormal c)

/-- The version that is stored after the pass. -/
def afterPass (c : CloudscaleCluster) : CloudscaleCluster := withStatusOf c (passThere c).2.2

theorem Reordered.afterPass {ok : CloudscaleCluster → Prop} (h : Reordered ok first (c :: vs))
    (hok : ok c) : Reordered ok first (afterPass c :: c :: vs) := by
  have hrun := Interaction.Proc.runs_record ownNames
    (reconcileNormal { name := "c", ns := "default" }) (startNormal c)
  exact h.pass List.mem_cons_self ⟨rfl, hok, _, _, _, hrun, fun _ _ => trivial⟩
    (clusterPatched_withStatusOf c _) trivial

/-- A machine without interfaces, ready to get its server. -/
def bareScope (v : CloudscaleCluster) : MachineScope where
  cluster := { name := "c", ns := "default" }
  machine := { ns := "default", dataSecretName := some "data" }
  cloudscaleCluster := v

/-- A pass over such a machine that reads the version `v` of the cluster. -/
def barePass (v : CloudscaleCluster) : Trace × Except GoError Result × CloudscaleMachine :=
  (machineReconcileNormal (bareScope v)).record ownNames
    { metadata := { name := "m", ns := "default" } }

/-- The interfaces of the servers a pass has asked for. -/
def askedFor (tr : Trace) : List (List String) :=
  tr.filterMap fun e => match e.op with
    | .create .server req => some req.interfaces
    | _ => none

/-- The machine is put on the only network. -/
theorem one_default_network_created :
    Reordered (Begins "net") storedCluster [afterPass storedCluster, storedCluster] ∧
    askedFor (barePass (afterPass storedCluster)).1 = [["public", "net"]] ∧
    ∀ e ∈ (barePass (afterPass storedCluster)).1, ∀ req, e.op = .create .server req →
      Names "net" (afterPass storedCluster) req := by
  have hcreated : Reordered (Begins "net") storedCluster [storedCluster] :=
    .create (by decide) (by decide) rfl rfl trivial
  have hbegins : Begins "net" storedCluster := by
    rintro - n hn
    cases hn
    rfl
  have hstored := Reordered.afterPass hcreated hbegins
  refine ⟨hstored, by decide +kernel, ?_⟩
  exact one_default_network hstored (bareScope (afterPass storedCluster)) _ _ _ _
    List.mem_cons_self rfl (Interaction.Proc.runs_record ownNames _ _)

/-- The cluster after a second network has been added in front of the first. -/
def grownVersion : CloudscaleCluster :=
  { clusterDefault oneRegion grownCluster with status := (afterPass storedCluster).status }

/-- The grown cluster, moved. -/
def movedVersion : CloudscaleCluster := { grownVersion with status := {} }

/-- A machine of the cluster is put on the first network, and one after the move on the network
that was added. -/
theorem default_network_moves :
    Reordered (fun _ => True) storedCluster
      [afterPass movedVersion, movedVersion, grownVersion, afterPass storedCluster, storedCluster] ∧
    (afterPass storedCluster).status.networks.map (·.name) = ["net"] ∧
    askedFor (barePass (afterPass storedCluster)).1 = [["public", "net"]] ∧
    (afterPass movedVersion).status.networks.map (·.name) = ["dmz", "net"] ∧
    askedFor (barePass (afterPass movedVersion)).1 = [["public", "dmz"]] := by
  refine ⟨?_, by decide +kernel, by decide +kernel, by decide +kernel, by decide +kernel⟩
  have hcreated : Reordered (fun _ => True) storedCluster [storedCluster] :=
    .create (by decide) (by decide) rfl rfl trivial
  have hrecorded := Reordered.afterPass hcreated trivial
  have hgrown : Reordered (fun _ => True) storedCluster
      [grownVersion, afterPass storedCluster, storedCluster] :=
    hrecorded.update ⟨by decide, by decide, rfl, rfl⟩ rfl trivial
  have hmoved : Reordered (fun _ => True) storedCluster
      [movedVersion, grownVersion, afterPass storedCluster, storedCluster] :=
    hgrown.touch rfl (.inr rfl) trivial
  exact Reordered.afterPass hmoved trivial

end Capcs.System
