import Capcs.Ownership.Networks

/-!
# Capcs.Ownership.LoadBalancer — the load balancer and its members

The four resources of the load balancer are recorded in fields of their own, and
so is the floating IP; `Field` says what such a field has to satisfy for the
ensure, clear and create steps to keep the status in order. Members are created
only under names the pool did not have when it was listed, and every name is
wanted at most once.
-/

namespace Capcs.Ownership

open Cloudscale Controller
open Interaction (Contract Proc Frame)
open Interaction.Contract

variable {ι : Type} {slot : Slots ι} {R : Role ι} {clean : Prop} {A : Admitted}
  {c₀ c : CloudscaleCluster} {w w' : World ι}

/-! ## Fields -/

/-- A status field that records the one resource of kind `k`, for specs that meet
`cond`. -/
structure Field (slot : Slots ι) (R : Role ι) (clean : Prop) (A : Admitted) (k : Kind)
    (cond : CloudscaleClusterSpec → Prop) (id : CloudscaleClusterStatus → String)
    (setID : String → CloudscaleClusterStatus → CloudscaleClusterStatus) : Prop where
  kind : k ∈ clusterKinds
  get_own : ∀ {c w ex}, cond c.spec → ClusterOK slot R clean A ex c w →
    Own w R.owner k (id c.status)
  get_set : ∀ u s, id (setID u s) = u
  set_ok : ∀ {c w u}, cond c.spec → ClusterOK slot R clean A (some k) c w →
    Own w R.owner k u →
    (clean → ∀ i ∈ w.cloud k, (R.owner, k, i.uuid) ∈ w.created →
      i.uuid = u ∨ (i.uuid ≠ id c.status ∧ InStatusOf k c i.uuid)) →
    ClusterOK slot R clean A none { c with status := setID u c.status } w

namespace Field

variable {k : Kind} {cond : CloudscaleClusterSpec → Prop} {id : CloudscaleClusterStatus → String}
  {setID : String → CloudscaleClusterStatus → CloudscaleClusterStatus}

theorem mine (F : Field slot R clean A k cond id setID)
    (h : ClusterOK slot R clean A none c w) :
    Mine slot R k (clusterOwnershipTags c) := by
  rw [clusterOwnershipTags_eq, h.covers.name]
  exact h.fits.owned k F.kind

theorem ne_serverGroup (F : Field slot R clean A k cond id setID) : k ≠ .serverGroup := by
  rintro rfl
  exact absurd F.kind (by decide)

theorem ne_subnet (F : Field slot R clean A k cond id setID) : k ≠ .subnet := by
  rintro rfl
  exact absurd F.kind (by decide)

/-- Recording what was found. -/
theorem found (F : Field slot R clean A k cond id setID) (hcond : cond c.spec)
    (h : ClusterOK slot R clean A none c w) (hinv : Inv slot w) {u : String}
    (hown : (R.owner, k, u) ∈ w.created) (hr : u = id c.status ∨ Replaced clean k (id c.status) w) :
    ClusterOK slot R clean A none { c with status := setID u c.status } w :=
  F.set_ok hcond (h.weaken _) (.inr hown) (Resolved.found h hinv hown hr).others

/-- Clearing the field once the recorded resource is out of the way. -/
theorem cleared (F : Field slot R clean A k cond id setID) (hcond : cond c.spec)
    (h : ClusterOK slot R clean A none c w) (hinv : Inv slot w)
    (hrep : Replaced clean k (id c.status) w) :
    ClusterOK slot R clean A none { c with status := setID "" c.status } w :=
  F.set_ok hcond (h.weaken _) (.inl rfl) fun hc i hi hcr =>
    .inr ⟨hrep.ne hinv hc hi, h.recorded hc _ (by simp) i hi hcr⟩

/-- Recording what was created while the field was empty. -/
theorem created (F : Field slot R clean A k cond id setID) (hcond : cond c.spec)
    (h : ClusterOK slot R clean A none c w) (hinv : Inv slot w) (hid : id c.status = "")
    {i : Ident} (hg : Remembers R.owner w w') (hown : (R.owner, k, i.uuid) ∈ w'.created)
    (hw : clean → w.Fresh k i.uuid ∧ w' = w.create R.owner k i) :
    ClusterOK slot R clean A none { c with status := setID i.uuid c.status } w' := by
  have hrep : Replaced clean k (id c.status) w := fun _ => .inl hid
  exact F.set_ok hcond (h.create hg fun hc => (hw hc).2) (.inr hown)
    (Resolved.created h hinv hrep hown hw).others

end Field

/-- The load balancer is part of the cluster. -/
def LBEnabled (spec : CloudscaleClusterSpec) : Prop :=
  spec.controlPlaneLoadBalancer.isEnabled = true

theorem loadBalancerField : Field slot R clean A .loadBalancer LBEnabled
    (·.loadBalancerID) (fun id s => { s with loadBalancerID := id }) where
  kind := by decide
  get_own _ h := h.loadBalancer
  get_set _ _ := rfl
  set_ok {c w u} hen h hown hall := by
    refine h.setLoadBalancerID hown fun hc i hi hcr => ⟨hen, ?_⟩
    rcases hall hc i hi hcr with heq | ⟨hne, -, hid⟩
    · exact heq.symm
    · exact absurd hid.symm hne

theorem poolField : Field slot R clean A .pool LBEnabled
    (·.loadBalancerPoolID) (fun id s => { s with loadBalancerPoolID := id }) where
  kind := by decide
  get_own _ h := h.pool
  get_set _ _ := rfl
  set_ok _ h hown _ :=
    have h' := h.settle fun _ _ _ _ => trivial
    ⟨h'.fits, h'.covers, h'.networks, h'.routers, h'.loadBalancer, hown, h'.listener,
      h'.healthMonitor, h'.floatingIP, h'.recorded⟩

theorem listenerField : Field slot R clean A .listener LBEnabled
    (·.loadBalancerListenerID) (fun id s => { s with loadBalancerListenerID := id }) where
  kind := by decide
  get_own _ h := h.listener
  get_set _ _ := rfl
  set_ok _ h hown _ :=
    have h' := h.settle fun _ _ _ _ => trivial
    ⟨h'.fits, h'.covers, h'.networks, h'.routers, h'.loadBalancer, h'.pool, hown, h'.healthMonitor,
      h'.floatingIP, h'.recorded⟩

theorem healthMonitorField : Field slot R clean A .healthMonitor LBEnabled
    (·.loadBalancerHealthMonitorID) (fun id s => { s with loadBalancerHealthMonitorID := id }) where
  kind := by decide
  get_own _ h := h.healthMonitor
  get_set _ _ := rfl
  set_ok _ h hown _ :=
    have h' := h.settle fun _ _ _ _ => trivial
    ⟨h'.fits, h'.covers, h'.networks, h'.routers, h'.loadBalancer, h'.pool, h'.listener, hown,
      h'.floatingIP, h'.recorded⟩

/-! ## The owned resources -/

theorem reconcileOwned_keeps {k : Kind} {what : String} {cond : CloudscaleClusterSpec → Prop}
    {id : CloudscaleClusterStatus → String}
    {setID : String → CloudscaleClusterStatus → CloudscaleClusterStatus}
    {request : CloudscaleCluster → Except GoError k.Request}
    (F : Field slot R clean A k cond id setID)
    (htags : ∀ c req, request c = .ok req → requestTags req = clusterOwnershipTags c)
    (hcond : ∀ c, SameSpec c₀ c → cond c.spec) :
    KeepsOrder slot R clean A c₀ (reconcileOwned k what id setID request) := by
  refine .read fun c w hinv h => ?_
  have hc := hcond c h.same
  rw [wpc_bind]
  refine wpc_mono hinv
    (ensureResource_spec (F.mine h.ok).isSlot F.ne_serverGroup (F.get_own hc h.ok)) ?_
  rintro out c' w' hinv' ⟨rfl, hl, hens⟩
  have h' := h.later hl
  cases hens with
  | error _ => exact h'
  | @found r _ hex hown hr =>
      have hne : uuidOf r ≠ "" := by
        rw [← identOf_uuid]
        exact (hinv'.issued _ _ hex).1
      simp only [after_ok, wpc_bind, wpc_update, ne_eq, hne, not_false_eq_true, if_true]
      exact ⟨h'.same.status _, F.found hc h'.ok hinv' hown hr⟩
  | none hempty hrep =>
      -- the ID is cleared first, and stays so if the create fails
      simp only [after_ok, wpc_bind, wpc_update, wpc_read, ne_eq, not_true_eq_false, if_false]
      have hclear := F.cleared hc h'.ok hinv' hrep
      split
      · exact ⟨h'.same.status _, hclear⟩
      · next req hreq =>
          rw [wpc_bind]
          refine wpc_mono hinv' (createResource_spec fun w'' hl' _ =>
            (F.mine hclear).guard (htags _ _ hreq) hempty (absurd · F.ne_subnet) hl') ?_
          rintro out c'' w'' - ⟨rfl, hcr⟩
          cases hcr with
          | @ok r _ hg hown hw =>
              refine ⟨h'.same.status _, ?_⟩
              have hset := F.created (c := { c' with status := setID "" c'.status })
                (i := identOf r) hc hclear hinv' (F.get_set _ _) hg
              simp only [identOf_uuid] at hset
              exact hset hown hw
          | failed hg hno hw =>
              have hok := hclear.failed hg fun hc => (hw hc).1
              rcases out with e | result | r
              · exact ⟨h'.same.status _, hok⟩
              · exact ⟨h'.same.status _, hok⟩
              · exact absurd rfl (hno r)

theorem loadBalancerRequest_tags {c : CloudscaleCluster} {req : LoadBalancerRequest}
    (h : loadBalancerRequest c = .ok req) : req.tags = clusterOwnershipTags c := by
  simp only [loadBalancerRequest] at h
  split at h
  · cases hs : safeUseSubnet c c.spec.controlPlaneLoadBalancer.network with
    | error e =>
        rw [hs] at h
        cases h
    | ok id =>
        rw [hs] at h
        cases h
        rfl
  · cases h
    rfl

section Enabled

variable (hen : LBEnabled c₀.spec)

include hen

theorem enabled_same (c : CloudscaleCluster) (h : SameSpec c₀ c) : LBEnabled c.spec := by
  rw [LBEnabled, h.loadBalancer]
  exact hen

theorem reconcileLB_keeps : KeepsOrder slot R clean A c₀ reconcileLB :=
  reconcileOwned_keeps loadBalancerField (fun _ _ h => loadBalancerRequest_tags h)
    (enabled_same hen)

theorem reconcileLBPool_keeps : KeepsOrder slot R clean A c₀ reconcileLBPool :=
  reconcileOwned_keeps poolField (fun _ _ h => by cases h; rfl) (enabled_same hen)

theorem reconcileLBListener_keeps : KeepsOrder slot R clean A c₀ reconcileLBListener :=
  reconcileOwned_keeps listenerField (fun _ _ h => by cases h; rfl) (enabled_same hen)

theorem reconcileLBHealthMonitor_keeps : KeepsOrder slot R clean A c₀ reconcileLBHealthMonitor :=
  reconcileOwned_keeps healthMonitorField (fun _ _ h => by cases h; rfl) (enabled_same hen)

end Enabled

/-! ## Members -/

/-- A name no member of the pool has stays free. -/
theorem membersNamed_later {p name : String} (hinv : Inv slot w') (hown : Own w R.owner .pool p)
    (hm : R.managesMembers) (hl : Later R clean w w') (h : w.membersNamed p name = []) :
    w'.membersNamed p name = [] := by
  rcases hown with rfl | hp
  · -- no member is in a pool without an ID
    rw [World.membersNamed, List.filter_eq_nil_iff]
    intro m hmem hpool
    exact (hinv.member_issued m hmem).1 (by simpa using hpool : _ ∧ _).1
  · have hsub := hl.1.members hm p hp name
    rw [h] at hsub
    exact List.sublist_nil.mp hsub

/-- What holds after a try to create a member: no name but the asked one is taken
that was free before. -/
structure MemberTried (slot : Slots ι) (R : Role ι) (clean : Prop) (A : Admitted)
    (c₀ c : CloudscaleCluster) (w : World ι) (name : String) (c' : CloudscaleCluster)
    (w' : World ι) : Prop where
  inOrder : InOrder slot R clean A c₀ c' w'
  pool : c'.status.loadBalancerPoolID = c.status.loadBalancerPoolID
  free : ∀ other, other ≠ name → w.membersNamed c.status.loadBalancerPoolID other = [] →
    w'.membersNamed c.status.loadBalancerPoolID other = []

theorem createLoadBalancerMember_spec {d : LoadBalancerPoolMemberRequest}
    (h : InOrder slot R clean A c₀ c w)
    (hnone : w.membersNamed c.status.loadBalancerPoolID d.name = []) :
    (api slot R clean).wpc (fun _ => MemberTried slot R clean A c₀ c w d.name)
      (createLoadBalancerMember d) c w := by
  rw [createLoadBalancerMember, wpc_read_bind, wpc_bind]
  refine wpc_perform.mpr fun w₁ hl hinv₁ => ⟨?_, fun reply w₂ hans _ => ?_⟩
  · exact ⟨h.ok.fits.members, h.ok.pool.grows hl.grows,
      membersNamed_later hinv₁ h.ok.pool h.ok.fits.members hl hnone⟩
  have hfree : ∀ name, w.membersNamed c.status.loadBalancerPoolID name = [] →
      w₁.membersNamed c.status.loadBalancerPoolID name = [] := fun name =>
    membersNamed_later hinv₁ h.ok.pool h.ok.fits.members hl
  -- without effect, and with a member of the asked name added
  have hsame : MemberTried slot R clean A c₀ c w d.name c w₁ :=
    ⟨h.later hl, rfl, fun name _ => hfree name⟩
  have hadded : ∀ u, MemberTried slot R clean A c₀ c w d.name c
      (w₁.createMember ⟨u, c.status.loadBalancerPoolID, d.name⟩) := by
    refine fun u => ⟨⟨h.same, (h.later hl).ok.sameCloud rfl rfl⟩, rfl, fun name hne hn => ?_⟩
    rw [membersNamed_createMember, hfree name hn, if_neg fun e => hne e.2.symm, List.append_nil]
  have hfail : ∀ e : ApiError, ∀ w₂ : World ι, MemberTried slot R clean A c₀ c w d.name c w₂ →
      (api slot R clean).wpc (fun _ => MemberTried slot R clean A c₀ c w d.name)
        (if isTimeoutError e then (pure { requeueAfter := 5 } : ClusterM Result)
          else Proc.fail (wrapApi "creating load balancer member: " e)) c w₂ := by
    intro e w₂ h₂
    split <;> exact h₂
  cases hans.1 with
  | createMember_ok _ =>
      obtain ⟨⟨hs, hok⟩, hpool, hn⟩ := hadded _
      exact ⟨⟨hs.status _, hok.setMemberIDs _⟩, hpool, hn⟩
  | createMember_err => exact hfail _ _ hsame
  | createMember_lost _ => exact hfail _ _ (hadded _)

theorem updateMoved_free (m : LoadBalancerPoolMember) (d : LoadBalancerPoolMemberRequest) :
    Frame (fun c => c) FreeCall (updateMoved m d) := by
  refine .ite (fun _ => .wrapErr (.read fun c => .bind (.perform trivial) fun r => ?_))
    fun _ => .pure _
  cases r with
  | error e => exact .fail _
  | ok _ => exact .pure _

/-- The first loop: whatever is still to be created has no member yet. -/
theorem addMembers_keeps (current : List LoadBalancerPoolMember)
    (ds : List LoadBalancerPoolMemberRequest) (hnodup : (ds.map (·.name)).Nodup) :
    ∀ c w, Inv slot w → InOrder slot R clean A c₀ c w →
      (∀ d ∈ ds, currentByName current d.name = none →
        w.membersNamed c.status.loadBalancerPoolID d.name = []) →
      (api slot R clean).wpc (fun _ => InOrder slot R clean A c₀)
        (addMembers current ds) c w := by
  -- a name missing in the list is free in the pool, also after the creates before it
  induction ds with
  | nil => exact fun _ _ _ h _ => h
  | cons d rest ih =>
      intro c w hinv h hnone
      obtain ⟨hd, hrest⟩ := List.nodup_cons.mp hnodup
      rw [addMembers]
      cases hcur : currentByName current d.name with
      | none =>
          simp only [wpc_bind, wpc_wrapErr]
          refine wpc_mono hinv
            (createLoadBalancerMember_spec h (hnone d List.mem_cons_self hcur)) ?_
          rintro out c' w' hinv' ⟨h', hpool, hfree⟩
          cases out with
          | error e => exact h'
          | ok result =>
              simp only [Except.mapError, after_ok, wpc_ite]
              split
              · refine ih hrest c' w' hinv' h' fun d' hd' hnone' => ?_
                rw [hpool]
                refine hfree d'.name (fun e => hd ?_) (hnone d' (List.mem_cons_of_mem _ hd') hnone')
                exact List.mem_map.mpr ⟨d', hd', e⟩
              · exact h'
      | some m =>
          simp only [wpc_bind]
          refine wpc_mono hinv (later_of_frame (updateMoved_free m d) (fun _ hop => hop) hinv) ?_
          rintro out c' w' hinv' ⟨rfl, hl⟩
          cases out with
          | error e => exact h.later hl
          | ok _ =>
              refine ih hrest c' w' hinv' (h.later hl) fun d' hd' hnone' => ?_
              exact membersNamed_later hinv' h.ok.pool h.ok.fits.members hl
                (hnone d' (List.mem_cons_of_mem _ hd') hnone')

theorem deleteLoadBalancerMember_keeps (m : LoadBalancerPoolMember) :
    KeepsOrder slot R clean A c₀ (deleteLoadBalancerMember m) := by
  refine .read_any fun c => .bind (KeepsOrder.perform (fun _ => trivial) ?_) fun reply => ?_
  · intro w' r w'' h
    cases h <;> exact ⟨rfl, rfl⟩
  · cases reply with
    | error e => exact .fail _
    | ok _ => exact .update fun c w h => ⟨h.same.status _, h.ok.setMemberIDs _⟩

/-- The wanted members carry the names of the machines. -/
theorem desiredMembers_names (c : CloudscaleCluster) (subnetID : String) (net : Net.Prefix)
    (machines : List CloudscaleMachine) :
    ((desiredMembers c subnetID net machines).map (·.name)).Sublist
      (machines.map (·.metadata.name)) := by
  induction machines with
  | nil => exact .slnil
  | cons m rest ih =>
      cases hm : memberAddress net m with
      | none => simpa [desiredMembers, hm] using ih.cons m.metadata.name
      | some a => simpa [desiredMembers, hm] using ih.cons_cons m.metadata.name

theorem getDesiredLoadBalancerMembers_spec :
    (api slot R clean).wpc (fun out c' w' => c' = c ∧ Later R clean w w' ∧
        ∀ ds, out = .ok ds → (ds.map (·.name)).Nodup)
      (getDesiredLoadBalancerMembers A.cluster) c w := by
  refine getDesiredLoadBalancerMembers_wpc
    (perform_spec (fun _ _ => trivial) (fun _ _ _ h => by cases h; rfl) ?_)
  intro w' r hl _ hans
  refine ⟨fun _ => ⟨rfl, hl, by simp⟩, fun machines id cidr net hr _ _ _ => ⟨rfl, hl, ?_⟩⟩
  cases hr
  rintro ds ⟨⟩
  cases hans with
  | listMachines names => exact (desiredMembers_names _ _ _ machines).nodup (names machines rfl)

/-- A name missing from the listed members is missing from the pool. -/
theorem membersNamed_of_listed {p name : String} {ms : List LoadBalancerPoolMember}
    (hms : ms.map (fun m => Member.mk m.uuid p m.name) = w.members.filter fun m => m.pool = p)
    (hnone : currentByName ms name = none) : w.membersNamed p name = [] := by
  have hfilter : ms.filter (fun m => m.name = name) = [] := by
    simpa [currentByName] using hnone
  rw [World.membersNamed, List.filter_eq_nil_iff]
  intro m hm hmatch
  have hmatch' : m.pool = p ∧ m.name = name := by simpa using hmatch
  have hmem : m ∈ ms.map (fun m => Member.mk m.uuid p m.name) := by
    rw [hms]
    exact List.mem_filter.mpr ⟨hm, by simpa using hmatch'.1⟩
  obtain ⟨m', hm', heq⟩ := List.mem_map.mp hmem
  have hname : m'.name = name := by rw [← hmatch'.2, ← heq]
  exact absurd hname (by simpa using List.filter_eq_nil_iff.mp hfilter m' hm')

theorem reconcileLBMembers_keeps :
    KeepsOrder slot R clean A c₀ (reconcileLBMembers A.cluster) := by
  refine .read fun c w hinv h => ?_
  rw [wpc_bind]
  refine perform_spec (fun _ _ => trivial) (fun _ _ _ h => by cases h <;> rfl) ?_
  intro w' r hl hinv' hans
  have h' := h.later hl
  cases hans with
  | listMembers_err => exact h'
  | @listMembers_ok _ ms hms =>
      simp only [after_ok, wpc_bind, wpc_wrapErr]
      refine wpc_mono hinv' getDesiredLoadBalancerMembers_spec ?_
      rintro out c' w'' hinv'' ⟨rfl, hl', hnodup⟩
      cases out with
      | error e => exact h'.later hl'
      | ok ds =>
          simp only [Except.mapError, after_ok, wpc_bind]
          refine wpc_mono hinv'' (addMembers_keeps ms ds (hnodup ds rfl) c' w'' hinv''
            (h'.later hl') fun d _ hnone => ?_) ?_
          -- a name that was not listed is still free in the pool
          · exact membersNamed_later hinv'' h'.ok.pool h'.ok.fits.members hl'
              (membersNamed_of_listed hms hnone)
          · intro out c'' w₃ hinv₃ h₃
            cases out with
            | error e => exact h₃
            | ok result =>
                exact Contract.Preserves.ite (fun _ => .bind (removeMembers_preserves
                  fun m _ => deleteLoadBalancerMember_keeps m) fun _ => .pure _)
                  (fun _ => .pure _) c'' w₃ hinv₃ h₃

/-! ## The whole load balancer -/

theorem reconcileLBChildren_keeps (hen : LBEnabled c₀.spec) :
    KeepsOrder slot R clean A c₀ (reconcileLBChildren A.cluster) :=
  reconcileLBChildren_preserves (reconcileLBPool_keeps hen) (reconcileLBListener_keeps hen)
    (reconcileLBHealthMonitor_keeps hen) reconcileLBMembers_keeps

theorem finishLoadBalancer_keeps (hen : LBEnabled c₀.spec) (lb : LoadBalancer)
    (pending : Option String) :
    KeepsOrder slot R clean A c₀ (finishLoadBalancer A.cluster lb pending) :=
  .bind (reconcileLBChildren_keeps hen) fun _ => .ite (fun _ => .pure _) fun _ => .pure _

theorem degradedMessage_keeps (lb : LoadBalancer) :
    KeepsOrder slot R clean A c₀ (degradedMessage lb) :=
  keepsOrder_of_frame (degradedMessage_frame lb) fun op hop => by cases op <;> trivial

theorem loadBalancerBody_keeps (hen : LBEnabled c₀.spec) :
    KeepsOrder slot R clean A c₀ (loadBalancerBody A.cluster) := by
  refine .bind (.wrapErr (reconcileLB_keeps hen)) fun _ => .ite (fun _ => .pure _) fun _ => ?_
  refine .read fun c w hinv h => ?_
  rw [wpc_ite]
  split
  · exact h
  rw [wpc_bind]
  refine get_spec (fun _ => .inl h.ok.loadBalancer) ?_ fun w' _ hl _ _ => h.later hl
  intro w' lb hl hinv' _ _
  refine Contract.Preserves.ite (fun _ => finishLoadBalancer_keeps hen _ _)
    (fun _ => ?_) c w' hinv' (h.later hl)
  exact .ite (fun _ => .pure _) fun _ => .bind (degradedMessage_keeps _) fun _ =>
    finishLoadBalancer_keeps hen _ _

theorem reconcileLoadBalancer_keeps :
    KeepsOrder slot R clean A c₀ (reconcileLoadBalancer A.cluster) := by
  refine .read fun c w hinv h => ?_
  refine Contract.Preserves.ite (fun _ => ?_) (fun hen => ?_) c w hinv h
  · exact .bind (.update fun _ _ h => h.setCondition _ _ _ _) fun _ => .pure _
  · have hen' : LBEnabled c₀.spec := by
      rw [LBEnabled, ← h.same.loadBalancer]
      simpa using hen
    refine .bind (.deferred (loadBalancerBody_keeps hen') fun out c w h => ?_) fun _ => .pure _
    unfold setLoadBalancerReady
    split <;> exact h.setCondition _ _ _ _

end Capcs.Ownership
