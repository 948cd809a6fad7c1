import Capcs.Steady.Project
import Capcs.Readiness.Networks

/-!
# Capcs.Steady.Networks — networks that are settled

`NetworkSettled c P n`: the status of `c` records the network `n` of the spec as it is in the
project `P`. The network step settles every network of the spec if it ends well
(`reconcileNetwork_settles`), and over a project in which they are settled it only looks
(`reconcileNetwork_looks`).
-/

namespace Capcs.Steady

open Cloudscale Controller
open Readiness (getNetworkStatus_set_of_ne getNetworkStatus_set_self)
open Interaction (Proc)
open Interaction.Contract

variable {machines : List CloudscaleMachine} {P P' : Project} {c : CloudscaleCluster}
  {cluster : Cluster} {n n' : NetworkSpec} {ns : NetworkStatus}

/-! ## Entries -/

/-- The entry of a network that the cluster has created. -/
structure ManagedAs (P : Project) (n : NetworkSpec) (ns : NetworkStatus) : Prop where
  network : ∃ x, P.found .network ns.networkID = some x ∧ ns.mtu = x.mtu
  subnet : ∃ y, P.found .subnet ns.subnetID = some y
  cidr : ns.cidr = n.cidr
  managed : ns.managed = true

/-- The entry of a network that was there before, as it is read. -/
structure AdoptedAs (zone : String) (P : Project) (n : NetworkSpec) (ns : NetworkStatus)
    (x : Network) (subnet : SubnetStub) : Prop where
  network : P.found .network n.uuid = some x
  zone : x.zone = zone
  first : x.subnets.head? = some subnet
  networkID : ns.networkID = x.uuid
  subnetID : ns.subnetID = subnet.uuid
  cidr : ns.cidr = subnet.cidr
  managed : ns.managed = false
  mtu : ns.mtu = x.mtu

/-- `cached` of `reconcilePreExistingNetwork`: the entry is not looked up again. -/
def Cached (ns : NetworkStatus) : Prop := ns.networkID ≠ "" ∧ ns.subnetID ≠ "" ∧ ns.cidr ≠ ""

/-- The status records the network as it is. -/
def NetworkSettled (c : CloudscaleCluster) (P : Project) (n : NetworkSpec) : Prop :=
  ∃ ns, c.status.getNetworkStatus n.name = some ns ∧ (n.uuid = "" → ManagedAs P n ns) ∧
    (n.uuid ≠ "" → Cached ns ∨ ∃ x subnet, AdoptedAs c.spec.zone P n ns x subnet)

theorem ManagedAs.grows (h : ManagedAs P n ns) (hgrows : Grows P P') : ManagedAs P' n ns where
  network := by
    obtain ⟨x, hx, hmtu⟩ := h.network
    obtain ⟨x', hx', more, rfl⟩ := hgrows _ _ _ hx
    exact ⟨_, hx', hmtu⟩
  subnet := by
    obtain ⟨y, hy⟩ := h.subnet
    obtain ⟨y', hy', -⟩ := hgrows _ _ _ hy
    exact ⟨y', hy'⟩
  cidr := h.cidr
  managed := h.managed

/-- New subnets come last, so the first one stays the first. -/
theorem AdoptedAs.grows {zone : String} {x : Network} {subnet : SubnetStub}
    (h : AdoptedAs zone P n ns x subnet) (hgrows : Grows P P') :
    ∃ x', AdoptedAs zone P' n ns x' subnet := by
  obtain ⟨x', hx', more, rfl⟩ := hgrows _ _ _ h.network
  refine ⟨_, hx', h.zone, ?_, h.networkID, h.subnetID, h.cidr, h.managed, h.mtu⟩
  rw [List.head?_append, h.first]
  rfl

theorem NetworkSettled.grows (h : NetworkSettled c P n) (hgrows : Grows P P') :
    NetworkSettled c P' n := by
  obtain ⟨ns, hns, hmanaged, hadopted⟩ := h
  refine ⟨ns, hns, fun huuid => (hmanaged huuid).grows hgrows, fun huuid => ?_⟩
  rcases hadopted huuid with hcached | ⟨x, subnet, hx⟩
  · exact .inl hcached
  · obtain ⟨x', hx'⟩ := hx.grows hgrows
    exact .inr ⟨x', subnet, hx'⟩

/-- Being settled is about the entry of the network and the zone. -/
theorem NetworkSettled.congr {c' : CloudscaleCluster} (h : NetworkSettled c P n)
    (hentry : c'.status.getNetworkStatus n.name = c.status.getNetworkStatus n.name)
    (hspec : c'.spec = c.spec) : NetworkSettled c' P n := by
  obtain ⟨ns, hns, hmanaged, hadopted⟩ := h
  exact ⟨ns, hentry.trans hns, hmanaged, hspec ▸ hadopted⟩

/-- Recording what is recorded changes nothing. -/
theorem setNetworkStatus_same {name : String} (hns : c.status.getNetworkStatus name = some ns) :
    setNetworkStatus name ns.networkID ns.subnetID ns.cidr ns.managed ns.mtu c = c := by
  unfold setNetworkStatus
  rw [Keyed.upsertFirst_of_find hns, Keyed.updateFirst_same hns rfl]

/-! ## A step that works -/

section Resolve

variable {α : Type} {Q : α → CloudscaleCluster → Project → Prop}

/-- A network that is found or created is there; a create that takes too long asks for a requeue. -/
theorem works_resolveNetwork {networkID : String} {tags : TagMap}
    {f : Except Result (Option Network × String) → ClusterM α}
    (hthere : ∀ x P', Builds P P' → P'.found .network x.uuid = some x →
      (works machines).returns Q (f (.ok (some x, x.uuid))) c P')
    (hlate : ∀ P', (works machines).returns Q
      (f (.error { requeueAfter := createNetworkTimeoutRequeueAfter })) c P') :
    (works machines).returns Q (resolveNetwork n networkID tags >>= f) c P := by
  rw [resolveNetwork, bind_assoc, returns_read, bind_assoc]
  refine works_ensure (fun x hx hne => ?_) ?_
  · dsimp only
    rw [if_pos hne]
    exact hthere x P (.refl P) hx
  · dsimp only
    rw [if_neg (not_not.mpr rfl), bind_assoc]
    exact works_create (fun x P' hmade => hthere x P' hmade.builds hmade.there) hlate

/-- The same for its subnet. -/
theorem works_resolveSubnet {subnetID networkID : String} {tags : TagMap}
    {f : Except Result String → ClusterM α}
    (hthere : ∀ (y : Subnet) P', Builds P P' → P'.found .subnet y.uuid = some y →
      (works machines).returns Q (f (.ok y.uuid)) c P')
    (hlate : ∀ P', (works machines).returns Q
      (f (.error { requeueAfter := createNetworkTimeoutRequeueAfter })) c P') :
    (works machines).returns Q (resolveSubnet n subnetID networkID tags >>= f) c P := by
  rw [resolveSubnet, bind_assoc]
  refine works_ensure (fun y hy hne => ?_) ?_
  · dsimp only
    rw [if_pos hne]
    exact hthere y P (.refl P) hy
  · dsimp only
    rw [if_neg (not_not.mpr rfl), bind_assoc]
    exact works_create (fun y P' hmade => hthere y P' hmade.builds hmade.there) hlate

end Resolve

/-- What a step about the networks `names` leaves of the others. -/
structure OthersKept (names : List String) (c : CloudscaleCluster) (P : Project)
    (c' : CloudscaleCluster) (P' : Project) : Prop where
  builds : Builds P P'
  spec : c'.spec = c.spec
  others : ∀ m : NetworkSpec, m.name ∉ names → NetworkSettled c P m → NetworkSettled c' P' m

theorem OthersKept.refl (c : CloudscaleCluster) (P : Project) : OthersKept [] c P c P :=
  ⟨.refl P, rfl, fun _ _ h => h⟩

theorem OthersKept.set (h : Builds P P') (networkID subnetID cidr : String) (managed : Bool)
    (mtu : Int) :
    OthersKept [n.name] c P (setNetworkStatus n.name networkID subnetID cidr managed mtu c) P' := by
  refine ⟨h, rfl, fun m hne hm => (hm.grows h.grows).congr ?_ rfl⟩
  exact getNetworkStatus_set_of_ne (by simpa using hne) networkID subnetID cidr managed mtu c

theorem OthersKept.trans {names names' : List String} {c' c'' : CloudscaleCluster} {P'' : Project}
    (h : OthersKept names c P c' P') (h' : OthersKept names' c' P' c'' P'') :
    OthersKept (names ++ names') c P c'' P'' := by
  refine ⟨h.builds.trans h'.builds, h'.spec.trans h.spec, fun m hne hm => ?_⟩
  rw [List.mem_append, not_or] at hne
  exact h'.others m hne.2 (h.others m hne.1 hm)

theorem reconcilePreExistingNetwork_settles (huuid : n.uuid ≠ "") :
    (works machines).returns (fun _ c' P' => OthersKept [n.name] c P c' P' ∧ NetworkSettled c' P' n)
      (reconcilePreExistingNetwork n) c P := by
  rw [reconcilePreExistingNetwork, returns_read]
  refine returns_ite (fun hcached => ?_) fun _ => works_read trivial fun r hans _ => ?_
  · rw [returns_pure]
    refine ⟨⟨.refl P, rfl, fun _ _ h => h⟩, ?_⟩
    cases hns : c.status.getNetworkStatus n.name with
    | none => simp [hns] at hcached
    | some ns =>
        have hids : Cached ns := by simpa [hns, Cached] using hcached
        exact ⟨ns, hns, fun h => absurd h huuid, fun _ => .inl hids⟩
  · cases r with
    | error e => exact returns_fail _
    | ok x =>
        refine returns_ite (fun _ => returns_fail _) fun hzone => ?_
        cases hsubnets : x.subnets with
        | nil => exact returns_fail _
        | cons subnet rest =>
            refine returns_update.mpr ⟨.set (.refl _) _ _ _ _ _, ?_⟩
            obtain ⟨ns, hns, hid, hsid, hcidr, hman, hmtu⟩ :=
              getNetworkStatus_set_self n.name x.uuid subnet.uuid subnet.cidr false x.mtu c
            refine ⟨ns, hns, fun h => absurd h huuid, fun _ => .inr ⟨x, subnet, ?_⟩⟩
            exact ⟨hans.2, not_not.mp hzone, by rw [hsubnets]; rfl, hid, hsid, hcidr, hman, hmtu⟩

theorem reconcileManagedNetwork_settles (huuid : n.uuid = "") :
    (works machines).returns
      (Ends fun c' P' => OthersKept [n.name] c P c' P' ∧ NetworkSettled c' P' n)
      (reconcileManagedNetwork cluster n) c P := by
  rw [reconcileManagedNetwork, returns_read]
  refine works_resolveNetwork (fun x P₁ hbuilds₁ hx => ?_) fun _ => ends_late rfl
  refine works_resolveSubnet (fun y P₂ hbuilds₂ hy => ?_) fun _ => ends_late rfl
  -- both are there: the entry is written
  rw [returns_bind, returns_update, returns_pure]
  refine fun _ => ⟨.set (hbuilds₁.trans hbuilds₂) _ _ _ _ _, ?_⟩
  obtain ⟨ns, hns, hid, hsid, hcidr, hman, hmtu⟩ :=
    getNetworkStatus_set_self n.name x.uuid y.uuid n.cidr true x.mtu c
  obtain ⟨x', hx', more, rfl⟩ := hbuilds₂.grows _ _ _ hx
  refine ⟨ns, hns, fun _ =>
    ⟨⟨{ x with subnets := x.subnets ++ more }, ?_, hmtu⟩, ⟨y, ?_⟩, hcidr, hman⟩,
    fun h => absurd huuid h⟩
  · rw [hid]
    exact hx'
  · rw [hsid]
    exact hy

/-- The loop settles its networks, one after the other. -/
theorem reconcileNetworks_settles (todo : List NetworkSpec) (hnames : (todo.map (·.name)).Nodup) :
    (works machines).returns (Ends fun c' P' =>
      OthersKept (todo.map (·.name)) c P c' P' ∧ ∀ m ∈ todo, NetworkSettled c' P' m)
      (reconcileNetworks cluster todo) c P := by
  induction todo generalizing c P with
  | nil => exact (returns_pure _).mpr fun _ => ⟨.refl c P, by simp⟩
  | cons n rest ih =>
      obtain ⟨hnew, hnames⟩ := List.nodup_cons.mp hnames
      -- what is left to do once `n` is settled
      have hgo {c₁ P₁} (hn : OthersKept [n.name] c P c₁ P₁ ∧ NetworkSettled c₁ P₁ n) :
          (works machines).returns (Ends fun c' P' =>
            OthersKept ((n :: rest).map (·.name)) c P c' P' ∧ ∀ m ∈ n :: rest,
              NetworkSettled c' P' m)
            (reconcileNetworks cluster rest) c₁ P₁ := by
        refine returns_imp (ih hnames) fun result c' P' hend hzero => ?_
        obtain ⟨hkept, hall⟩ := hend hzero
        exact ⟨hn.1.trans hkept, List.forall_mem_cons.mpr ⟨hkept.others n hnew hn.2, hall⟩⟩
      refine returns_ite (fun huuid => ?_) fun huuid => ?_
      · refine returns_seq (returns_wrapErr.mpr (reconcilePreExistingNetwork_settles huuid)) ?_
        exact fun _ _ _ => hgo
      · refine returns_seq (returns_wrapErr.mpr
          (reconcileManagedNetwork_settles (not_not.mp huuid))) fun result c₁ P₁ hn => ?_
        exact returns_ite (fun hzero => hgo (hn hzero))
          fun hzero => (returns_pure _).mpr fun h => absurd h hzero

/-- A network step that ends well has settled all networks of the spec. -/
theorem reconcileNetwork_settles (hnames : (c.spec.networks.map (·.name)).Nodup) :
    (works machines).returns (Ends fun c' P' =>
      Builds P P' ∧ c'.spec = c.spec ∧ ∀ n ∈ c.spec.networks, NetworkSettled c' P' n)
      (reconcileNetwork cluster) c P := by
  refine returns_deferred (returns_read.mpr (returns_ite (fun _ => returns_fail _) fun _ => ?_))
  refine returns_imp (reconcileNetworks_settles _ hnames) fun result c' P' hend hzero => ?_
  obtain ⟨hkept, hall⟩ := hend hzero
  exact ⟨hkept.builds, hkept.spec, fun n hn => (hall n hn).congr rfl rfl⟩

/-! ## A step that looks -/

theorem reconcilePreExistingNetwork_looks (h : NetworkSettled c P n) (huuid : n.uuid ≠ "") :
    (looks machines).Preserves (Rests c P) (reconcilePreExistingNetwork n) := by
  obtain ⟨ns, hns, -, hadopted⟩ := h
  refine looks_read fun conditions => .ite (fun _ => .pure _) fun hcached => ?_
  obtain ⟨x, subnet, hx⟩ : ∃ x subnet, AdoptedAs c.spec.zone P n ns x subnet := by
    refine (hadopted huuid).resolve_left fun hids => hcached ?_
    have hns' : CloudscaleClusterStatus.getNetworkStatus { c.status with conditions } n.name =
      some ns := hns
    simpa [hns', Cached] using hids
  refine looks_call trivial fun r hans => ?_
  cases r with
  | error e => exact .fail _
  | ok y =>
      obtain rfl : y = x := Option.some.inj (hans.2.symm.trans hx.network)
      dsimp only
      rw [if_neg (not_not.mpr hx.zone)]
      cases hsubnets : y.subnets with
      | nil => exact .fail _
      | cons first rest =>
          obtain rfl : first = subnet := by
            have hfirst := hx.first
            rw [hsubnets] at hfirst
            exact Option.some.inj hfirst
          refine looks_same fun conditions => ?_
          rw [← hx.networkID, ← hx.subnetID, ← hx.cidr, ← hx.managed, ← hx.mtu]
          exact setNetworkStatus_same hns

theorem reconcileManagedNetwork_looks (h : NetworkSettled c P n) (huuid : n.uuid = "") :
    (looks machines).Preserves (Rests c P) (reconcileManagedNetwork cluster n) := by
  obtain ⟨ns, hns, hmanaged, -⟩ := h
  have hm := hmanaged huuid
  obtain ⟨x, hx, hmtu⟩ := hm.network
  obtain ⟨y, hy⟩ := hm.subnet
  refine looks_read fun conditions => ?_
  have hns' : CloudscaleClusterStatus.getNetworkStatus { c.status with conditions } n.name =
    some ns := hns
  simp only [hns', Option.elim_some]
  rw [resolveNetwork, bind_assoc]
  refine looks_read fun _ => ?_
  rw [bind_assoc]
  refine looks_ensure hx ?_
  simp only [ne_eq, P.ne_empty hx, not_false_eq_true, if_true, pure_bind]
  rw [resolveSubnet, bind_assoc]
  refine looks_ensure hy ?_
  simp only [ne_eq, P.ne_empty hy, not_false_eq_true, if_true, pure_bind]
  refine .bind (looks_same fun conditions => ?_) fun _ => .pure _
  rw [Option.elim_some, ← hm.cidr, ← hm.managed, ← hmtu]
  exact setNetworkStatus_same hns

theorem reconcileNetworks_looks (ns : List NetworkSpec) (h : ∀ n ∈ ns, NetworkSettled c P n) :
    (looks machines).Preserves (Rests c P) (reconcileNetworks cluster ns) := by
  induction ns with
  | nil => exact .pure _
  | cons n rest ih =>
      have hn := h n List.mem_cons_self
      have hrest := ih fun m hm => h m (List.mem_cons_of_mem _ hm)
      refine .ite (fun huuid => ?_) fun huuid => ?_
      · exact .bind (.wrapErr (reconcilePreExistingNetwork_looks hn huuid)) fun _ => hrest
      · refine .bind (.wrapErr (reconcileManagedNetwork_looks hn (not_not.mp huuid)))
          fun result => ?_
        exact .ite (fun _ => hrest) fun _ => .pure _

/-- Over settled networks the network step only looks. -/
theorem reconcileNetwork_looks (h : ∀ n ∈ c.spec.networks, NetworkSettled c P n) :
    (looks machines).Preserves (Rests c P) (reconcileNetwork cluster) := by
  refine .deferred (looks_read fun conditions => .ite (fun _ => .fail _) fun _ => ?_) ?_
  · exact reconcileNetworks_looks _ h
  · rintro out c' P' ⟨hstill, rfl⟩
    refine ⟨?_, rfl⟩
    cases out <;> exact hstill.setCondition _ _ _ _

end Capcs.Steady
