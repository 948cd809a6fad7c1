import Capcs.Lineage.Normal
import Capcs.Ownership.LoadBalancer

/-!
# Capcs.Lineage.Pass — a pass up to the load balancer, and past it

`Stands` is where a pass stands that has done some of its steps: the network step, and as many
kinds of the load balancer step as it has got to. `untilLoadBalancer` is the part of a normal
pass that ends with the load balancer step.
-/

namespace Capcs.Lineage

open Cloudscale Controller
open Ownership (ownershipTags clusterOwnershipTags_eq loadBalancerRequest_tags)
open Retention (DistinctNames)
open Interaction (Proc Frame)
open Interaction.Contract

variable {ι α : Type} {o : ι} {cluster : Cluster} {c₀ c c' : CloudscaleCluster} {w w' : World ι}
  {ks : List Kind}

/-! ## Done so far -/

/-- The networks are done, and these kinds of the load balancer. -/
structure Stands (cluster : Cluster) (c₀ : CloudscaleCluster) (ks : List Kind)
    (c : CloudscaleCluster) (w : World ι) : Prop where
  known : Known cluster c₀ c w
  nets : ∀ n ∈ c₀.spec.networks, n.uuid = "" → NetPlaced cluster n c w
  owned : ∀ k ∈ ks, k ∈ ownedKinds ∧ Placed w k (ownershipTags c₀.metadata.name)
    (ownedID c.status k)

theorem Stands.grown (h : Stands cluster c₀ ks c w) (hg : Grown w w') :
    Stands cluster c₀ ks c w' where
  known := h.known.grown hg
  nets n hn hu := (h.nets n hn hu).grown hg
  owned k hk := by
    obtain ⟨hmem, hp⟩ := h.owned k hk
    exact ⟨hmem, hp.grown (tag_owned cluster "" hmem).inFamily hg⟩

/-- What counts of a cluster here. -/
structure SameLineage (c c' : CloudscaleCluster) : Prop where
  name : c'.metadata.name = c.metadata.name
  networks : c'.spec.networks = c.spec.networks
  loadBalancer : c'.spec.controlPlaneLoadBalancer = c.spec.controlPlaneLoadBalancer
  entries : c'.status.networks = c.status.networks
  ids : ∀ k ∈ ownedKinds, ownedID c'.status k = ownedID c.status k

/-- Two clusters that are the same up to something that does not count. -/
theorem SameLineage.of_blank {f : CloudscaleCluster → CloudscaleCluster}
    (hf : ∀ c, SameLineage c (f c)) (hsame : f c' = f c) : SameLineage c c' where
  name := (hf c').name.symm.trans (hsame ▸ (hf c).name)
  networks := (hf c').networks.symm.trans (hsame ▸ (hf c).networks)
  loadBalancer := (hf c').loadBalancer.symm.trans (hsame ▸ (hf c).loadBalancer)
  entries := (hf c').entries.symm.trans (hsame ▸ (hf c).entries)
  ids k hk := ((hf c').ids k hk).symm.trans (hsame ▸ (hf c).ids k hk)

theorem Stands.congr (h : Stands cluster c₀ ks c w) (hs : SameLineage c c') :
    Stands cluster c₀ ks c' w where
  known := h.known.congr hs.name hs.networks hs.loadBalancer hs.entries hs.ids
  nets n hn hu := by
    obtain ⟨ns, hns, hp⟩ := h.nets n hn hu
    refine ⟨ns, ?_, hp⟩
    rw [CloudscaleClusterStatus.getNetworkStatus, hs.entries]
    exact hns
  owned k hk := by
    obtain ⟨hmem, hp⟩ := h.owned k hk
    exact ⟨hmem, by rw [hs.ids k hmem]; exact hp⟩

/-- A call that neither creates nor deletes in the families. -/
def Harmless : Op → Prop
  | .create k _ => inFamily k = false
  | .delete k _ => inFamily k = false
  | _ => True

theorem Harmless.guard {name : String} {op : Op} (h : Harmless op) :
    FamilyGuard cluster name w op := by
  cases op with
  | create k req =>
      intro t ht
      exact absurd (ht.inFamily.symm.trans h) (by simp)
  | _ => trivial

theorem Harmless.noDelete {op : Op} (h : Harmless op) : deletesFamily op = false := by
  cases op with
  | delete => exact h
  | _ => rfl

theorem stands_of_frame {f : CloudscaleCluster → CloudscaleCluster} {P : Op → Prop} {m : ClusterM α}
    (hm : Frame f P m) (hf : ∀ c, SameLineage c (f c)) (hP : ∀ op, P op → Harmless op) :
    (familyCalls cluster c₀.metadata.name o).Preserves (Stands cluster c₀ ks) m := by
  refine hm.preserves ?_ ?_ ?_
  · exact fun c c' w hsame h => h.congr (.of_blank hf hsame)
  · rintro c w _ h rfl -
    exact h
  · intro c w op hop h hinv
    refine ⟨(hP op hop).guard, fun r w' hans _ => ?_⟩
    exact h.grown ((hinv.answers (hP op hop).guard hans).2 (hP op hop).noDelete)

theorem harmless_of_part {op : Op} (hnet : partOf op ≠ .network) (hlb : partOf op ≠ .loadBalancer) :
    Harmless op := by
  cases op with
  | create k _ | delete k _ =>
      cases k <;> first | rfl | exact absurd rfl hnet | exact absurd rfl hlb
  | _ => trivial

/-! ## The network and router steps -/

theorem reconcileNetwork_stands (h : Known cluster c₀ c w) (hd : DistinctNames c₀.spec)
    (hinv : Family cluster c₀.metadata.name w) :
    (familyCalls cluster c₀.metadata.name o).wpc (EndsIn (·.isZero = true) (Known cluster c₀)
      (Stands cluster c₀ [])) (reconcileNetwork cluster) c w := by
  rw [reconcileNetwork, wpc_deferred, wpc_read_bind, wpc_ite]
  have hready : ∀ out (c : CloudscaleCluster), SameLineage c (setNetworkReady out c) := by
    intro out c
    cases out <;> exact ⟨rfl, rfl, rfl, rfl, fun _ _ => rfl⟩
  split
  · exact ⟨h.congr rfl rfl rfl rfl fun _ _ => rfl, by simp⟩
  · have hstart : NetsDone cluster c₀ [] c w := ⟨h, by simp⟩
    have hloop := reconcileNetworks_done (o := o) hd c.spec.networks hstart hinv (by simp)
      fun n hn => h.networks ▸ hn
    refine wpc_imp hloop ?_
    rintro out c₁ w₁ ⟨hk, hdone⟩
    have hs := hready out c₁
    refine ⟨hk.congr hs.name hs.networks hs.loadBalancer hs.entries hs.ids, ?_⟩
    intro result hout hz
    obtain ⟨-, hplaced⟩ := hdone result hout hz
    refine Stands.congr (c := c₁) ⟨hk, fun n hn hu => hplaced n ?_ hu, by simp⟩ hs
    rw [h.networks]
    simpa using hn

theorem reconcileRouters_stands (cluster' : Cluster) :
    (familyCalls cluster c₀.metadata.name o).Preserves (Stands cluster c₀ ks)
      (reconcileRouters cluster') := by
  refine stands_of_frame (reconcileRouters_frame cluster')
    (fun _ => ⟨rfl, rfl, rfl, rfl, fun _ _ => rfl⟩) ?_
  rintro op (hop | hop) <;> exact harmless_of_part (by simp [hop]) (by simp [hop])

/-! ## The load balancer step -/

/-- One of the owned resources: what is recorded at the end exists. -/
theorem reconcileOwned_placed {k : Kind} {what : String} {id : CloudscaleClusterStatus → String}
    {setID : String → CloudscaleClusterStatus → CloudscaleClusterStatus}
    {request : CloudscaleCluster → Except GoError k.Request} (hk : k ∈ ownedKinds)
    (hinv : Family cluster c₀.metadata.name w) (hname : c.metadata.name = c₀.metadata.name)
    (hcur : Slotted w k (ownershipTags c₀.metadata.name) (id c.status))
    (heta : setID (id c.status) c.status = c.status)
    (hset : ∀ x y s, setID y (setID x s) = setID y s)
    (hreq : ∀ req, request { c with status := setID "" c.status } = .ok req →
      requestTags req = ownershipTags c₀.metadata.name ∧ ∀ pk, k.parent? = some pk →
        Placed w pk (ownershipTags c₀.metadata.name) (requestIdent req "").parent) :
    (familyCalls cluster c₀.metadata.name o).wpc (fun out c' w' => Grown w w' ∧
      ∃ x, c' = { c with status := setID x c.status } ∧
        Slotted w' k (ownershipTags c₀.metadata.name) x ∧ ∀ result, out = .ok result →
          result.isZero = true → Placed w' k (ownershipTags c₀.metadata.name) x)
      (reconcileOwned k what id setID request) c w := by
  have htag := tag_owned cluster c₀.metadata.name hk
  have hfail : c = { c with status := setID (id c.status) c.status } := by rw [heta]
  rw [reconcileOwned, wpc_read_bind, clusterOwnershipTags_eq, hname]
  refine wpc_seq_inv hinv (ensureResource_placed hcur) ?_
  rintro out c w hinv ⟨rfl, rfl, hens⟩
  rcases out with err | ⟨r, found⟩
  · exact ⟨.refl _, id c.status, hfail, hcur, by simp⟩
  · simp only [after_ok]
    rw [wpc_update_bind]
    simp only [wpc_ite]
    -- nothing is found: the ID is cleared and the resource created
    rcases hens r found rfl with ⟨rfl, hempty⟩ | ⟨hne, hp⟩
    · rw [if_neg (by simp), wpc_read_bind]
      cases hrq : request { c with status := setID "" c.status } with
      | error err => exact ⟨.refl _, "", rfl, .inl rfl, by simp⟩
      | ok req =>
          obtain ⟨htags, hparent⟩ := hreq req hrq
          refine wpc_seq_inv hinv (createResource_placed htag htags hempty hparent) ?_
          rintro out _ w₁ hinv₁ ⟨rfl, hg, hcr⟩
          rcases out with err | result | resource
          · exact ⟨hg, "", rfl, .inl rfl, by simp⟩
          -- a create that timed out asks to come back
          · refine ⟨hg, "", rfl, .inl rfl, ?_⟩
            rintro _ ⟨⟩ hz
            rw [hcr.requeue result rfl] at hz
            cases hz
          · have hp := hcr.placed resource rfl
            refine ⟨hg, uuidOf resource, ?_, hp.slotted hinv₁, fun _ _ _ => hp⟩
            simp only [hset]
    · rw [if_pos hne]
      exact ⟨.refl _, found, rfl, hp.slotted hinv, fun _ _ _ => hp⟩

/-- A status field for the ID of one kind. -/
structure OwnedIDField (k : Kind) (id : CloudscaleClusterStatus → String)
    (setID : String → CloudscaleClusterStatus → CloudscaleClusterStatus) : Prop where
  kind : k ∈ ownedKinds
  id_eq : ∀ s, ownedID s k = id s
  self : ∀ x s, ownedID (setID x s) k = x
  other : ∀ x s k', k' ≠ k → ownedID (setID x s) k' = ownedID s k'
  networks : ∀ x s, (setID x s).networks = s.networks
  eta : ∀ s, setID (id s) s = s
  twice : ∀ x y s, setID y (setID x s) = setID y s

theorem loadBalancerField : OwnedIDField .loadBalancer (·.loadBalancerID)
    (fun id s => { s with loadBalancerID := id }) where
  kind := by decide
  id_eq _ := rfl
  self _ _ := rfl
  other _ _ k' hne := by cases k' <;> first | rfl | exact absurd rfl hne
  networks _ _ := rfl
  eta _ := rfl
  twice _ _ _ := rfl

theorem poolField : OwnedIDField .pool (·.loadBalancerPoolID)
    (fun id s => { s with loadBalancerPoolID := id }) where
  kind := by decide
  id_eq _ := rfl
  self _ _ := rfl
  other _ _ k' hne := by cases k' <;> first | rfl | exact absurd rfl hne
  networks _ _ := rfl
  eta _ := rfl
  twice _ _ _ := rfl

theorem listenerField : OwnedIDField .listener (·.loadBalancerListenerID)
    (fun id s => { s with loadBalancerListenerID := id }) where
  kind := by decide
  id_eq _ := rfl
  self _ _ := rfl
  other _ _ k' hne := by cases k' <;> first | rfl | exact absurd rfl hne
  networks _ _ := rfl
  eta _ := rfl
  twice _ _ _ := rfl

theorem healthMonitorField : OwnedIDField .healthMonitor (·.loadBalancerHealthMonitorID)
    (fun id s => { s with loadBalancerHealthMonitorID := id }) where
  kind := by decide
  id_eq _ := rfl
  self _ _ := rfl
  other _ _ k' hne := by cases k' <;> first | rfl | exact absurd rfl hne
  networks _ _ := rfl
  eta _ := rfl
  twice _ _ _ := rfl

section Owned

variable {k : Kind} {what : String} {id : CloudscaleClusterStatus → String}
  {setID : String → CloudscaleClusterStatus → CloudscaleClusterStatus}
  {request : CloudscaleCluster → Except GoError k.Request}

theorem Stands.setOwned (h : Stands cluster c₀ ks c w) (hf : OwnedIDField k id setID)
    (hon : c₀.spec.controlPlaneLoadBalancer.isEnabled = true) (hk : k ∉ ks) {x : String}
    (hx : Slotted w k (ownershipTags c₀.metadata.name) x) :
    Stands cluster c₀ ks { c with status := setID x c.status } w := by
  refine ⟨⟨h.known.name, h.known.networks, h.known.loadBalancer, ?_, ?_, ?_⟩, ?_, ?_⟩
  · rw [show (setID x c.status).networks = c.status.networks from hf.networks x c.status]
    exact h.known.status.networks
  · intro k' hk'
    by_cases heq : k' = k
    · subst heq
      show Slotted w k' _ (ownedID (setID x c.status) k')
      rw [hf.self]
      exact hx
    · show Slotted w k' _ (ownedID (setID x c.status) k')
      rw [hf.other x _ k' heq]
      exact h.known.status.owned k' hk'
  · intro hoff
    rw [hon] at hoff
    cases hoff
  · intro n hn hu
    obtain ⟨ns, hns, hp⟩ := h.nets n hn hu
    refine ⟨ns, ?_, hp⟩
    rw [CloudscaleClusterStatus.getNetworkStatus, hf.networks]
    exact hns
  · intro k' hk'
    obtain ⟨hmem, hp⟩ := h.owned k' hk'
    refine ⟨hmem, ?_⟩
    show Placed w k' _ (ownedID (setID x c.status) k')
    rw [hf.other x _ k' (fun heq => hk (heq ▸ hk'))]
    exact hp

/-- One of the owned resources is done. -/
theorem owned_stands (h : Stands cluster c₀ ks c w) (hf : OwnedIDField k id setID)
    (hon : c₀.spec.controlPlaneLoadBalancer.isEnabled = true) (hk : k ∉ ks)
    (hinv : Family cluster c₀.metadata.name w)
    (hreq : ∀ req, request { c with status := setID "" c.status } = .ok req →
      requestTags req = ownershipTags c₀.metadata.name ∧ ∀ pk, k.parent? = some pk →
        pk ∈ ks ∧ (requestIdent req "").parent = ownedID c.status pk) :
    (familyCalls cluster c₀.metadata.name o).wpc (EndsIn (·.isZero = true) (Known cluster c₀)
      (Stands cluster c₀ (k :: ks))) (reconcileOwned k what id setID request) c w := by
  refine wpc_imp (reconcileOwned_placed hf.kind hinv h.known.name
    (hf.id_eq c.status ▸ h.known.status.owned k hf.kind) (hf.eta _) hf.twice ?_) ?_
  · intro req hrq
    obtain ⟨htags, hparent⟩ := hreq req hrq
    refine ⟨htags, fun pk hpk => ?_⟩
    obtain ⟨hmem, hpar⟩ := hparent pk hpk
    rw [hpar]
    exact (h.owned pk hmem).2
  · rintro out _ w₁ ⟨hg, x, rfl, hx, hplaced⟩
    have hs := (h.grown hg).setOwned hf hon hk hx
    refine ⟨hs.known, fun result hout hz => ⟨hs.known, hs.nets, ?_⟩⟩
    intro k' hk'
    -- the resource of this step is placed now, and the others still are
    rcases List.mem_cons.mp hk' with rfl | hk'
    · refine ⟨hf.kind, ?_⟩
      show Placed w₁ k' _ (ownedID (setID x c.status) k')
      rw [hf.self]
      exact hplaced result hout hz
    · exact hs.owned k' hk'

end Owned

/-- The kinds of the load balancer step. -/
abbrev allKinds : List Kind := [.healthMonitor, .listener, .pool, .loadBalancer]

/-- The pool, the listener, the health monitor and the members. -/
theorem reconcileLBChildren_stands (hon : c₀.spec.controlPlaneLoadBalancer.isEnabled = true)
    (cluster' : Cluster) (c : CloudscaleCluster) (w : World ι)
    (hinv : Family cluster c₀.metadata.name w) (h : Stands cluster c₀ [.loadBalancer] c w) :
    (familyCalls cluster c₀.metadata.name o).wpc (EndsIn (·.isZero = true) (Known cluster c₀)
      (Stands cluster c₀ allKinds)) (reconcileLBChildren cluster') c w := by
  have htags {c : CloudscaleCluster} (hc : c.metadata.name = c₀.metadata.name) :
      clusterOwnershipTags c = ownershipTags c₀.metadata.name := by rw [clusterOwnershipTags_eq, hc]
  refine reconcileLBChildren_endsIn (Stands cluster c₀ [.pool, .loadBalancer])
    (Stands cluster c₀ [.listener, .pool, .loadBalancer]) (Stands cluster c₀ allKinds)
    (fun c w hinv h => ?_) (fun c w hinv h => ?_) (fun c w hinv h => ?_)
      (fun c w hinv h => ?_) c w hinv h
  · refine owned_stands h poolField hon (by decide) hinv ?_
    rintro req ⟨⟩
    refine ⟨htags h.known.name, ?_⟩
    rintro pk ⟨⟩
    exact ⟨by simp, rfl⟩
  · refine owned_stands h listenerField hon (by decide) hinv ?_
    rintro req ⟨⟩
    refine ⟨htags h.known.name, ?_⟩
    rintro pk ⟨⟩
    exact ⟨by simp, rfl⟩
  · refine owned_stands h healthMonitorField hon (by decide) hinv ?_
    rintro req ⟨⟩
    refine ⟨htags h.known.name, ?_⟩
    rintro pk ⟨⟩
    exact ⟨by simp, rfl⟩
  · refine wpc_imp (stands_of_frame (reconcileLBMembers_frame cluster')
      (fun _ => ⟨rfl, rfl, rfl, rfl, fun _ _ => rfl⟩) (fun op hop => ?_) c w hinv h)
      fun _ _ _ hs => ⟨hs.known, fun _ _ _ => hs⟩
    cases op <;> trivial

theorem loadBalancerBody_stands (h : Stands cluster c₀ [] c w)
    (hon : c₀.spec.controlPlaneLoadBalancer.isEnabled = true)
    (hinv : Family cluster c₀.metadata.name w) (cluster' : Cluster) :
    (familyCalls cluster c₀.metadata.name o).wpc (EndsIn (·.result.isZero = true) (Known cluster c₀)
      (Stands cluster c₀ allKinds)) (loadBalancerBody cluster') c w := by
  refine loadBalancerBody_endsIn hinv (owned_stands h loadBalancerField hon (by simp) hinv ?_)
    (fun id => ?_) (fun lb => ?_) (fun _ _ hs => hs.known) (reconcileLBChildren_stands hon cluster')
  · intro req hreq
    refine ⟨?_, by rintro pk ⟨⟩⟩
    rw [show requestTags (k := .loadBalancer) req = req.tags from rfl,
      loadBalancerRequest_tags hreq, clusterOwnershipTags_eq]
    exact congrArg ownershipTags h.known.name
  · exact stands_of_frame (P := Harmless) (f := fun c => c) (.perform trivial)
      (fun _ => ⟨rfl, rfl, rfl, rfl, fun _ _ => rfl⟩) fun _ hop => hop
  · refine stands_of_frame (degradedMessage_frame (f := fun c => c) lb)
      (fun _ => ⟨rfl, rfl, rfl, rfl, fun _ _ => rfl⟩) fun op hop => ?_
    cases op <;> trivial

/-! ## Past the load balancer step -/

/-- A normal pass up to its load balancer step: a result that ends it there, or the status of
the load balancer. -/
def untilLoadBalancer (cluster : Cluster) : ClusterM (Except Result LbStatus) := do
  let result ← (reconcileNetwork cluster).wrapErr (.wrap "reconciling network: ")
  if !result.isZero then pure (.error result)
  else
    let result ← (reconcileRouters cluster).wrapErr (.wrap "reconciling routers: ")
    if !result.isZero then pure (.error result)
    else
      let (lb, result) ← (reconcileLoadBalancer cluster).wrapErr
        (.wrap "reconciling load balancer: ")
      if !result.isZero then pure (.error result) else pure (.ok lb)

/-- The rest of it. -/
def afterLoadBalancer (cluster : Cluster) (lb : LbStatus) : ClusterM Result := do
  let result ← (reconcileFloatingIP cluster).wrapErr (.wrap "reconciling floating IP: ")
  if !result.isZero then pure result
  else finishNormal cluster lb

/-- A normal pass is the one and then, if it gets there, the other. -/
theorem reconcileNormal_split (cluster : Cluster) : reconcileNormal cluster = Proc.deferred (do
    match ← untilLoadBalancer cluster with
    | .error result => pure result
    | .ok lb => afterLoadBalancer cluster lb) fun _ => setReadyCondition := by
  unfold reconcileNormal untilLoadBalancer afterLoadBalancer
  congr 1
  simp only [bind_assoc]
  congr 1
  funext result
  split
  · simp
  simp only [bind_assoc]
  congr 1
  funext result
  split
  · simp
  simp only [bind_assoc]
  congr 1
  funext out
  split
  · simp
  · simp

/-- The kinds that are done after the load balancer step. -/
def pastKinds (spec : CloudscaleClusterSpec) : List Kind :=
  if spec.controlPlaneLoadBalancer.isEnabled then allKinds else []

/-- With a zero result the load balancer and its children are placed. -/
theorem reconcileLoadBalancer_stands (h : Stands cluster c₀ [] c w)
    (hinv : Family cluster c₀.metadata.name w) (cluster' : Cluster) :
    (familyCalls cluster c₀.metadata.name o).wpc (EndsIn (·.2.isZero = true) (Known cluster c₀)
      (Stands cluster c₀ (pastKinds c₀.spec))) (reconcileLoadBalancer cluster') c w := by
  have hlb := h.known.loadBalancer
  rw [reconcileLoadBalancer, wpc_read_bind, pastKinds]
  simp only [wpc_ite]
  split
  · next hoff =>
    have hoff : c₀.spec.controlPlaneLoadBalancer.isEnabled = false := by
      rw [← hlb]
      simpa using hoff
    rw [if_neg (by simp [hoff]), wpc_update_bind]
    have hs : Stands cluster c₀ [] (setCondition .loadBalancerReady .isTrue .loadBalancerDisabled
      "" c) w := h.congr ⟨rfl, rfl, rfl, rfl, fun _ _ => rfl⟩
    exact ⟨hs.known, fun _ _ _ => hs⟩
  · next hon =>
    have hon : c₀.spec.controlPlaneLoadBalancer.isEnabled = true := by
      rw [← hlb]
      simpa using hon
    -- the deferred condition is no part of the lineage
    have hready : ∀ out (c : CloudscaleCluster), SameLineage c (setLoadBalancerReady out c) := by
      intro out c
      unfold setLoadBalancerReady
      split <;> exact ⟨rfl, rfl, rfl, rfl, fun _ _ => rfl⟩
    rw [if_pos hon, wpc_bind, wpc_deferred]
    refine wpc_imp (loadBalancerBody_stands h hon hinv cluster') ?_
    rintro out c₁ w₁ ⟨hk, hdone⟩
    have hs := hready out c₁
    have hk' := hk.congr hs.name hs.networks hs.loadBalancer hs.entries hs.ids
    cases out with
    | error err => exact ⟨hk', by simp⟩
    | ok x =>
        refine ⟨hk', ?_⟩
        rintro _ ⟨⟩ hz
        exact (hdone x rfl hz).congr hs

/-- The pass gets past these steps only with everything placed. -/
theorem untilLoadBalancer_stands (h : Known cluster c₀ c w) (hd : DistinctNames c₀.spec)
    (hinv : Family cluster c₀.metadata.name w) :
    (familyCalls cluster c₀.metadata.name o).wpc
      (EndsIn (fun x => ∃ lb, x = .ok lb) (Known cluster c₀)
      (Stands cluster c₀ (pastKinds c₀.spec))) (untilLoadBalancer cluster) c w := by
  refine endsIn_seq hinv (endsIn_wrapErr (reconcileNetwork_stands h hd hinv)) (by simp)
    fun c₁ w₁ hinv₁ _ h₁ => ?_
  have hrouters : (familyCalls cluster c₀.metadata.name o).wpc
      (EndsIn (·.isZero = true) (Known cluster c₀) (Stands cluster c₀ []))
      (reconcileRouters cluster) c₁ w₁ :=
    wpc_imp (reconcileRouters_stands cluster c₁ w₁ hinv₁ h₁)
      fun _ _ _ hs => ⟨hs.known, fun _ _ _ => hs⟩
  refine endsIn_seq hinv₁ (endsIn_wrapErr hrouters) (by simp) fun c₂ w₂ hinv₂ _ h₂ => ?_
  refine wpc_seq_inv hinv₂ (endsIn_wrapErr (reconcileLoadBalancer_stands h₂ hinv₂ cluster)) ?_
  rintro out c₃ w₃ hinv₃ ⟨hk, hdone⟩
  rcases out with err | ⟨lb, result⟩
  · exact ⟨hk, by simp⟩
  · simp only [after_ok, wpc_ite]
    split
    · exact ⟨hk, by simp⟩
    next hz => exact ⟨hk, fun _ _ _ => hdone _ rfl (by simpa using hz)⟩

theorem afterLoadBalancer_stands (cluster' : Cluster) (lb : LbStatus) :
    (familyCalls cluster c₀.metadata.name o).Preserves (Stands cluster c₀ ks)
      (afterLoadBalancer cluster' lb) := by
  refine .bind (.wrapErr (stands_of_frame (reconcileFloatingIP_frame cluster')
    (fun _ => ⟨rfl, rfl, rfl, rfl, fun _ _ => rfl⟩) ?_)) fun _ =>
      .ite (fun _ => .pure _) fun _ => ?_
  · rintro op (hop | hop) <;> exact harmless_of_part (by simp [hop]) (by simp [hop])
  · exact stands_of_frame (finishNormal_frame cluster' lb)
      (fun _ => ⟨rfl, rfl, rfl, rfl, fun _ _ => rfl⟩) fun _ hop => hop.elim

/-- The subnet of each managed network lies in that network, the pool in the load balancer, and
listener and health monitor in the pool. -/
structure Together (c : CloudscaleCluster) (w : World ι) : Prop where
  subnet : ∀ n ∈ c.spec.networks, n.uuid = "" → ∃ ns, c.status.getNetworkStatus n.name = some ns ∧
    LiesIn w .subnet ns.networkID ns.subnetID
  pool : c.status.loadBalancerPoolID ≠ "" →
    LiesIn w .pool c.status.loadBalancerID c.status.loadBalancerPoolID
  listener : c.status.loadBalancerListenerID ≠ "" →
    LiesIn w .listener c.status.loadBalancerPoolID c.status.loadBalancerListenerID
  healthMonitor : c.status.loadBalancerHealthMonitorID ≠ "" →
    LiesIn w .healthMonitor c.status.loadBalancerPoolID c.status.loadBalancerHealthMonitorID

theorem Stands.together (h : Stands cluster c₀ (pastKinds c₀.spec) c w)
    (hinv : Family cluster c₀.metadata.name w) : Together c w := by
  have hchild {k pk : Kind} (hpk : k.parent? = some pk) (hk : k ∈ ownedKinds) (hp : pk ∈ ownedKinds)
      (hne : ownedID c.status k ≠ "") : LiesIn w k (ownedID c.status pk) (ownedID c.status k) := by
    cases hon : c₀.spec.controlPlaneLoadBalancer.isEnabled with
    | false => exact absurd (h.known.status.disabled hon k hk) hne
    | true =>
        have hall : ∀ k ∈ ownedKinds, k ∈ pastKinds c₀.spec := by
          intro k hk
          rw [pastKinds, if_pos hon]
          revert k
          decide
        exact hinv.liesIn hpk (tag_owned cluster _ hk) (tag_owned cluster _ hp)
          (h.owned pk (hall pk hp)).2 (h.owned k (hall k hk)).2
  refine ⟨?_, hchild (k := .pool) rfl (by decide) (by decide),
    hchild (k := .listener) rfl (by decide) (by decide),
    hchild (k := .healthMonitor) rfl (by decide) (by decide)⟩
  intro n hn hu
  obtain ⟨ns, hns, hnet, hsub⟩ := h.nets n (h.known.networks ▸ hn) hu
  have htag (k : Kind) (hk : k = .network ∨ k = .subnet) :
      Tag cluster c₀.metadata.name k (networkTags cluster n.name) := by
    rcases hk with rfl | rfl <;> exact ⟨n.name, rfl⟩
  exact ⟨ns, hns, hinv.liesIn rfl (htag _ (.inr rfl)) (htag _ (.inl rfl)) hnet hsub⟩

end Capcs.Lineage
