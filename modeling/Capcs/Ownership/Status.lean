import Capcs.Controller.Frames
import Capcs.Ownership.Calls

/-!
# Capcs.Ownership.Status — what a cluster's status says about the cloud

`ClusterOK` relates the in-memory `CloudscaleCluster` of a pass to the cloud:
every recorded identifier that teardown or a lookup would use was created for
this cluster, and (with `clean`) every network, router, load balancer and floating
IP created for it is recorded. It is stated piece by piece on the fields it reads,
so that an edit of any other field leaves it as it is by definition.
-/

namespace Capcs.Ownership

open Cloudscale Controller

variable {ι : Type}

/-! ## Slots of a cluster -/

/-- A slot the role creates in, whose tags no other slot selects. -/
structure Mine (slot : Slots ι) (R : Role ι) (k : Kind) (t : TagMap) : Prop where
  isSlot : slot R.owner k t
  turf : R.turf k t
  self : matchesTags t t
  only : ∀ o' t', slot o' k t' → matchesTags t' t → o' = R.owner ∧ t' = t

/-- A create with the tags of an empty slot of the role is guarded. -/
theorem Mine.guard {slot : Slots ι} {R : Role ι} {clean : Prop} {k : Kind} {t : TagMap}
    (h : Mine slot R k t) {req : k.Request} (htags : requestTags req = t) {w w' : World ι}
    (hempty : w.listed k t = [])
    (hsub : k = .subnet → (R.owner, .network, (requestIdent req "").parent) ∈ w.created)
    (hl : Later R clean w w') : Guard slot R w' (.create k req) := by
  refine ⟨t, h.isSlot, htags ▸ h.self, htags ▸ h.only, fun _ => ⟨h.turf, ?_⟩,
    fun hk => hl.grows _ _ (hsub hk)⟩
  have hsubl := hl.1.listed k t h.turf
  rw [hempty] at hsubl
  exact List.sublist_nil.mp hsubl

/-- The ownership tags of a `CloudscaleCluster` of a name. -/
def ownershipTags (name : String) : TagMap :=
  [(nameCloudscaleProviderOwned ++ name, resourceLifecycleOwned)]

theorem clusterOwnershipTags_eq (c : CloudscaleCluster) :
    clusterOwnershipTags c = ownershipTags c.metadata.name := rfl

/-- The kinds looked up by the ownership tags of the cluster. -/
def clusterKinds : List Kind := [.loadBalancer, .pool, .listener, .healthMonitor, .floatingIP]

/-- What a `CloudscaleCluster` has ever been admitted with, together with its owner:
every network and router that was in the spec at some time, and the floating IP,
which never changes. -/
structure Admitted where
  cluster : Cluster
  name : String
  networks : List NetworkSpec
  routers : List RouterSpec
  floatingIP : Option FloatingIPSpec

/-- The name and the spec of an object are among the admitted ones. -/
structure Admitted.Covers (A : Admitted) (name : String) (spec : CloudscaleClusterSpec) :
    Prop where
  name : name = A.name
  networks : ∀ n ∈ spec.networks, n ∈ A.networks
  routers : ∀ r ∈ spec.routers, r ∈ A.routers
  floatingIP : spec.floatingIP = A.floatingIP

/-- The role fits the cluster: an entry never changes between managed and
pre-existing, and the tags the specs lead to are the role's. -/
structure RoleFits (slot : Slots ι) (R : Role ι) (A : Admitted) : Prop where
  networkNames : ∀ n ∈ A.networks, ∀ n' ∈ A.networks, n.name = n'.name →
    (n.uuid = "" ↔ n'.uuid = "")
  routerNames : ∀ r ∈ A.routers, ∀ r' ∈ A.routers, r.name = r'.name →
    (r.uuid = "" ↔ r'.uuid = "")
  network : ∀ n ∈ A.networks, n.uuid = "" → Mine slot R .network (networkTags A.cluster n.name)
  subnet : ∀ n ∈ A.networks, n.uuid = "" → Mine slot R .subnet (networkTags A.cluster n.name)
  router : ∀ r ∈ A.routers, r.uuid = "" → Mine slot R .router (routerTags A.cluster r.name)
  owned : ∀ k ∈ clusterKinds, Mine slot R k (ownershipTags A.name)
  serverGroup : slot R.owner .serverGroup (ownershipTags A.name)
  members : R.managesMembers
  networkIDs : ∀ n ∈ A.networks, n.uuid ≠ "" → R.names .network n.uuid
  routerIDs : ∀ r ∈ A.routers, r.uuid ≠ "" → R.names .router r.uuid
  addresses : ∀ f ∈ A.floatingIP, f.address ≠ "" → R.names .floatingIP f.address

/-! ## Recorded identifiers -/

/-- Every network entry belongs to an entry of the spec and is flagged as that
entry says, and the IDs of a managed one are the cluster's own. -/
def NetworksOwned (w : World ι) (o : ι) (specs : List NetworkSpec)
    (entries : List NetworkStatus) : Prop :=
  ∀ e ∈ entries, ∃ n ∈ specs, n.name = e.name ∧ (e.managed = true ↔ n.uuid = "") ∧
    (n.uuid = "" → Own w o .network e.networkID ∧ Own w o .subnet e.subnetID)

/-- The same for router entries; the ID of one that is not managed is that of the
spec. -/
def RoutersOwned (w : World ι) (o : ι) (specs : List RouterSpec)
    (entries : List RouterStatus) : Prop :=
  ∀ e ∈ entries, ∃ r ∈ specs, r.name = e.name ∧ (e.managed = true ↔ r.uuid = "") ∧
    (r.uuid = "" → Own w o .router e.routerID) ∧
    (r.uuid ≠ "" → e.routerID = "" ∨ e.routerID = r.uuid)

/-- A floating IP the controller manages itself is configured. -/
def ManagedFIP (spec : Option FloatingIPSpec) : Prop := ∃ f, spec = some f ∧ f.address = ""

/-- The resource of kind `k` and identifier `u` is recorded where teardown looks. -/
def InStatus (k : Kind) (lb : LoadBalancerSpec) (fip : Option FloatingIPSpec)
    (networks : List NetworkStatus) (routers : List RouterStatus) (lbID fipID u : String) : Prop :=
  match k with
  | .network => ∃ e ∈ networks, e.managed = true ∧ e.networkID = u
  | .router => ∃ e ∈ routers, e.managed = true ∧ e.routerID = u
  | .loadBalancer => lb.isEnabled = true ∧ lbID = u
  | .floatingIP => ManagedFIP fip ∧ fipID = u
  | _ => True

/-- The same of a cluster. -/
def InStatusOf (k : Kind) (c : CloudscaleCluster) (u : String) : Prop :=
  InStatus k c.spec.controlPlaneLoadBalancer c.spec.floatingIP c.status.networks
    c.status.routers c.status.loadBalancerID c.status.floatingIP u

/-- Everything of kind `k` that was created for `o` and exists is recorded. -/
def Recorded (o : ι) (k : Kind) (c : CloudscaleCluster) (w : World ι) : Prop :=
  ∀ i ∈ w.cloud k, (o, k, i.uuid) ∈ w.created → InStatusOf k c i.uuid

/-- The part of the status that is about ownership. -/
def recordedIDs (s : CloudscaleClusterStatus) :=
  (s.networks, s.routers, s.loadBalancerID, s.loadBalancerPoolID, s.loadBalancerListenerID,
    s.loadBalancerHealthMonitorID, s.floatingIP)

/-- The status is in order. `ex` is a kind whose newest resource is not recorded
yet. -/
structure ClusterOK (slot : Slots ι) (R : Role ι) (clean : Prop) (A : Admitted)
    (ex : Option Kind) (c : CloudscaleCluster) (w : World ι) : Prop where
  fits : RoleFits slot R A
  covers : A.Covers c.metadata.name c.spec
  networks : NetworksOwned w R.owner A.networks c.status.networks
  routers : RoutersOwned w R.owner A.routers c.status.routers
  loadBalancer : Own w R.owner .loadBalancer c.status.loadBalancerID
  pool : Own w R.owner .pool c.status.loadBalancerPoolID
  listener : Own w R.owner .listener c.status.loadBalancerListenerID
  healthMonitor : Own w R.owner .healthMonitor c.status.loadBalancerHealthMonitorID
  floatingIP : ManagedFIP A.floatingIP → Own w R.owner .floatingIP c.status.floatingIP
  recorded : clean → ∀ k, ex ≠ some k → Recorded R.owner k c w

namespace ClusterOK

variable {slot : Slots ι} {R : Role ι} {clean : Prop} {A : Admitted} {ex : Option Kind}
  {c : CloudscaleCluster} {w w' : World ι}

/-! ## Moves of the world -/

theorem networksOwned_grows {o : ι} {specs : List NetworkSpec} {entries : List NetworkStatus}
    (h : NetworksOwned w o specs entries) (hg : Remembers o w w') :
    NetworksOwned w' o specs entries := by
  intro e he
  obtain ⟨n, hn, hname, hm, hown⟩ := h e he
  exact ⟨n, hn, hname, hm, fun hu => ⟨(hown hu).1.grows hg, (hown hu).2.grows hg⟩⟩

theorem routersOwned_grows {o : ι} {specs : List RouterSpec} {entries : List RouterStatus}
    (h : RoutersOwned w o specs entries) (hg : Remembers o w w') :
    RoutersOwned w' o specs entries := by
  intro e he
  obtain ⟨r, hr, hname, hm, hown, hid⟩ := h e he
  exact ⟨r, hr, hname, hm, fun hu => (hown hu).grows hg, hid⟩

/-- The one rule for moves of the world: creations are not forgotten, and what is
still to be recorded is given. -/
theorem move (h : ClusterOK slot R clean A ex c w) (hg : Remembers R.owner w w')
    {ex' : Option Kind} (hrec : clean → ∀ k, ex' ≠ some k → Recorded R.owner k c w') :
    ClusterOK slot R clean A ex' c w' where
  fits := h.fits
  covers := h.covers
  networks := networksOwned_grows h.networks hg
  routers := routersOwned_grows h.routers hg
  loadBalancer := h.loadBalancer.grows hg
  pool := h.pool.grows hg
  listener := h.listener.grows hg
  healthMonitor := h.healthMonitor.grows hg
  floatingIP hf := (h.floatingIP hf).grows hg
  recorded := hrec

theorem later (h : ClusterOK slot R clean A ex c w) (hl : Later R clean w w') :
    ClusterOK slot R clean A ex c w' :=
  h.move hl.grows fun hc k hk => (hl.2 hc) ▸ h.recorded hc k hk

/-- A create of kind `k` leaves the other kinds as they were. -/
theorem create (h : ClusterOK slot R clean A none c w) {k : Kind} {i : Ident}
    (hg : Remembers R.owner w w') (hw : clean → w' = w.create R.owner k i) :
    ClusterOK slot R clean A (some k) c w' := by
  refine h.move hg fun hc k' hk' => ?_
  have hne : k' ≠ k := fun e => hk' (e ▸ rfl)
  rw [hw hc]
  intro j hj hcr
  rw [cloud_create, if_neg hne] at hj
  rw [created_create, List.mem_cons, Prod.mk.injEq, Prod.mk.injEq] at hcr
  exact h.recorded hc k' (by simp) j hj (hcr.resolve_left fun e => hne e.2.1)

/-- The kinds teardown does not look for. -/
def Untracked (k : Kind) : Prop :=
  ∀ lb fip networks routers lbID fipID u, InStatus k lb fip networks routers lbID fipID u

theorem untracked {k : Kind} (hk : k ∈ [.subnet, .pool, .listener, .healthMonitor]) :
    Untracked k := by
  intro lb fip networks routers lbID fipID u
  simp only [List.mem_cons, List.not_mem_nil, or_false] at hk
  rcases hk with rfl | rfl | rfl | rfl <;> trivial

theorem createUntracked (h : ClusterOK slot R clean A ex c w) {k : Kind} {i : Ident}
    (hk : Untracked k) (hg : Remembers R.owner w w') (hw : clean → w' = w.create R.owner k i) :
    ClusterOK slot R clean A ex c w' := by
  refine h.move hg fun hc k' hk' j hj hcr => ?_
  by_cases hne : k' = k
  · exact hne ▸ hk _ _ _ _ _ _ _
  · rw [hw hc, cloud_create, if_neg hne] at hj
    rw [hw hc, created_create, List.mem_cons, Prod.mk.injEq, Prod.mk.injEq] at hcr
    exact h.recorded hc k' hk' j hj (hcr.resolve_left fun e => hne e.2.1)

/-- A create that added nothing, or was not recorded without `clean`. -/
theorem failed (h : ClusterOK slot R clean A ex c w) (hg : Remembers R.owner w w')
    (hw : clean → w' = w) : ClusterOK slot R clean A ex c w' :=
  h.move hg fun hc k hk => (hw hc) ▸ h.recorded hc k hk

/-- Pool members are not part of what the status says. -/
theorem sameCloud (h : ClusterOK slot R clean A ex c w) (hcloud : w'.cloud = w.cloud)
    (hcreated : w'.created = w.created) : ClusterOK slot R clean A ex c w' :=
  h.move (fun _ _ hu => hcreated ▸ hu) fun hc k hk i hi hcr =>
    h.recorded hc k hk i (hcloud ▸ hi) (hcreated ▸ hcr)

/-- The kind left out is recorded after all. -/
theorem settle {k : Kind} (h : ClusterOK slot R clean A (some k) c w)
    (hrec : clean → Recorded R.owner k c w) : ClusterOK slot R clean A none c w :=
  h.move (fun _ _ hu => hu) fun hc k' _ => by
    by_cases hk : k' = k
    · exact hk ▸ hrec hc
    · exact h.recorded hc k' fun e => hk (Option.some.inj e).symm

/-- Leaving a kind out is weaker. -/
theorem weaken (h : ClusterOK slot R clean A none c w) (ex' : Option Kind) :
    ClusterOK slot R clean A ex' c w :=
  h.move (fun _ _ hu => hu) fun hc k _ => h.recorded hc k (by simp)

/-! ## Edits of the status -/

/-- Fields the invariant does not read may change freely. -/
theorem edit (h : ClusterOK slot R clean A ex c w) {c' : CloudscaleCluster}
    (hname : c'.metadata.name = c.metadata.name)
    (hspec : c'.spec = { c.spec with controlPlaneEndpoint := c'.spec.controlPlaneEndpoint })
    (hids : recordedIDs c'.status = recordedIDs c.status) : ClusterOK slot R clean A ex c' w := by
  simp only [recordedIDs, Prod.mk.injEq] at hids
  obtain ⟨hnetworks, hrouters, hlb, hpool, hlistener, hmonitor, hfip⟩ := hids
  refine ⟨h.fits, ?_, hnetworks ▸ h.networks, hrouters ▸ h.routers, hlb ▸ h.loadBalancer,
    hpool ▸ h.pool, hlistener ▸ h.listener, hmonitor ▸ h.healthMonitor, hfip ▸ h.floatingIP, ?_⟩
  · rw [hname, hspec]
    exact ⟨h.covers.name, h.covers.networks, h.covers.routers, h.covers.floatingIP⟩
  · intro hc k hk i hi hcr
    have hnoted := h.recorded hc k hk i hi hcr
    rw [InStatusOf] at hnoted ⊢
    rw [hspec, hnetworks, hrouters, hlb, hfip]
    exact hnoted

theorem setConditions (h : ClusterOK slot R clean A ex c w) (conds : List Condition) :
    ClusterOK slot R clean A ex
      { c with status := { c.status with conditions := conds } } w := h.edit rfl rfl rfl

theorem setCondition (h : ClusterOK slot R clean A ex c w) (t : ConditionType)
    (status : ConditionStatus) (reason : Reason) (message : String) :
    ClusterOK slot R clean A ex (setCondition t status reason message c) w :=
  h.setConditions _

theorem setMemberIDs (h : ClusterOK slot R clean A ex c w) (ids : List String) :
    ClusterOK slot R clean A ex
      { c with status := { c.status with loadBalancerMemberIDs := ids } } w := h.edit rfl rfl rfl

/-- The kinds other than an edited one are recorded as before. -/
theorem setNetworks (h : ClusterOK slot R clean A (some .network) c w)
    {entries : List NetworkStatus} (hown : NetworksOwned w R.owner A.networks entries)
    (hrec : clean → ∀ i ∈ w.cloud .network, (R.owner, .network, i.uuid) ∈ w.created →
      ∃ e ∈ entries, e.managed = true ∧ e.networkID = i.uuid) :
    ClusterOK slot R clean A none
      { c with status := { c.status with networks := entries } } w := by
  refine ⟨h.fits, h.covers, hown, h.routers, h.loadBalancer, h.pool, h.listener, h.healthMonitor,
    h.floatingIP, fun hc k _ => ?_⟩
  cases k with
  | network => exact hrec hc
  | _ => exact h.recorded hc _ (by simp)

theorem setRouters (h : ClusterOK slot R clean A (some .router) c w)
    {entries : List RouterStatus} (hown : RoutersOwned w R.owner A.routers entries)
    (hrec : clean → ∀ i ∈ w.cloud .router, (R.owner, .router, i.uuid) ∈ w.created →
      ∃ e ∈ entries, e.managed = true ∧ e.routerID = i.uuid) :
    ClusterOK slot R clean A none
      { c with status := { c.status with routers := entries } } w := by
  refine ⟨h.fits, h.covers, h.networks, hown, h.loadBalancer, h.pool, h.listener, h.healthMonitor,
    h.floatingIP, fun hc k _ => ?_⟩
  cases k with
  | router => exact hrec hc
  | _ => exact h.recorded hc _ (by simp)

theorem setLoadBalancerID (h : ClusterOK slot R clean A (some .loadBalancer) c w)
    {id : String} (hown : Own w R.owner .loadBalancer id)
    (hrec : clean → ∀ i ∈ w.cloud .loadBalancer, (R.owner, .loadBalancer, i.uuid) ∈ w.created →
      c.spec.controlPlaneLoadBalancer.isEnabled = true ∧ id = i.uuid) :
    ClusterOK slot R clean A none
      { c with status := { c.status with loadBalancerID := id } } w := by
  refine ⟨h.fits, h.covers, h.networks, h.routers, hown, h.pool, h.listener, h.healthMonitor,
    h.floatingIP, fun hc k _ => ?_⟩
  cases k with
  | loadBalancer => exact hrec hc
  | _ => exact h.recorded hc _ (by simp)

theorem setFloatingIP (h : ClusterOK slot R clean A (some .floatingIP) c w) {ip : String}
    (hown : ManagedFIP A.floatingIP → Own w R.owner .floatingIP ip)
    (hrec : clean → ∀ i ∈ w.cloud .floatingIP, (R.owner, .floatingIP, i.uuid) ∈ w.created →
      ManagedFIP c.spec.floatingIP ∧ ip = i.uuid) :
    ClusterOK slot R clean A none (setFloatingIP ip c) w := by
  refine ⟨h.fits, h.covers, h.networks, h.routers, h.loadBalancer, h.pool, h.listener,
    h.healthMonitor, hown, fun hc k _ => ?_⟩
  cases k with
  | floatingIP => exact hrec hc
  | _ => exact h.recorded hc _ (by simp)

end ClusterOK

/-! ## Resolving a resource -/

section

variable {slot : Slots ι} {R : Role ι} {clean : Prop} {A : Admitted}
  {c : CloudscaleCluster} {w w' : World ι} {k : Kind} {currentID : String}

/-- What holds once the resource of a spec entry is known but not yet recorded:
everything of the kind is that resource, or is recorded under another ID than the
entry had. -/
structure Resolved (R : Role ι) (clean : Prop) (k : Kind) (c : CloudscaleCluster)
    (currentID id : String) (w : World ι) : Prop where
  own : (R.owner, k, id) ∈ w.created
  others : clean → ∀ i ∈ w.cloud k, (R.owner, k, i.uuid) ∈ w.created →
    i.uuid = id ∨ (i.uuid ≠ currentID ∧ InStatusOf k c i.uuid)

/-- A replaced resource is none that exists. -/
theorem Replaced.ne (hrep : Replaced clean k currentID w) (hinv : Inv slot w) (hc : clean)
    {i : Ident} (hi : i ∈ w.cloud k) : i.uuid ≠ currentID := by
  rcases hrep hc with he | hg
  · exact fun hid => (hinv.issued _ i hi).1 (hid.trans he)
  · exact hg i hi

theorem Resolved.found {id : String} (h : ClusterOK slot R clean A none c w)
    (hinv : Inv slot w) (hown : (R.owner, k, id) ∈ w.created)
    (hr : id = currentID ∨ Replaced clean k currentID w) : Resolved R clean k c currentID id w := by
  refine ⟨hown, fun hc i hi hcr => ?_⟩
  by_cases hid : i.uuid = currentID
  · rcases hr with hr | hr
    · exact .inl (hid.trans hr.symm)
    · exact absurd hid (hr.ne hinv hc hi)
  · exact .inr ⟨hid, h.recorded hc _ (by simp) i hi hcr⟩

theorem Resolved.created {i : Ident} (h : ClusterOK slot R clean A none c w)
    (hinv : Inv slot w) (hrep : Replaced clean k currentID w)
    (hown : (R.owner, k, i.uuid) ∈ w'.created)
    (hw : clean → w.Fresh k i.uuid ∧ w' = w.create R.owner k i) :
    Resolved R clean k c currentID i.uuid w' := by
  refine ⟨hown, fun hc j hj hcr => ?_⟩
  obtain ⟨hfresh, rfl⟩ := hw hc
  rcases mem_cloud_create hj with hj | ⟨-, rfl⟩
  · -- an older one, which is recorded and is not the one that was replaced
    have hcr' : (R.owner, k, j.uuid) ∈ w.created := by
      rcases List.mem_cons.mp hcr with he | hcr
      · have hid : j.uuid = i.uuid := by simpa using he
        exact absurd (hid ▸ (hinv.issued _ j hj).2) hfresh.2
      · exact hcr
    exact .inr ⟨hrep.ne hinv hc hj, h.recorded hc _ (by simp) j hj hcr'⟩
  · exact .inl rfl

/-- Creating a resource of another kind changes nothing here. -/
theorem Resolved.createOther {k' : Kind} {id : String} {i : Ident} (hk : k' ≠ k)
    (h : Resolved R clean k c currentID id w) (hg : Remembers R.owner w w')
    (hw : clean → w' = w.create R.owner k' i) : Resolved R clean k c currentID id w' := by
  refine ⟨hg _ _ h.own, fun hc j hj hcr => ?_⟩
  rw [hw hc, cloud_create, if_neg hk.symm] at hj
  rw [hw hc, created_create, List.mem_cons] at hcr
  refine h.others hc j hj (hcr.resolve_left fun he => hk ?_)
  exact (Prod.mk.inj (Prod.mk.inj he).2).1.symm

theorem Resolved.later {id : String} (h : Resolved R clean k c currentID id w)
    (hl : Later R clean w w') : Resolved R clean k c currentID id w' :=
  ⟨hl.grows _ _ h.own, fun hc => (hl.2 hc) ▸ h.others hc⟩

end

end Capcs.Ownership
