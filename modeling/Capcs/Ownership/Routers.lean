import Capcs.Ownership.Networks

/-!
# Capcs.Ownership.Routers — reconciling routers keeps the status in order

A router is recorded as soon as it is known, so there is no gap as with networks.
Interface entries do not matter to ownership: an edit that keeps the name, the ID
and the flag of every router entry keeps the status in order.
-/

namespace Capcs.Ownership

open Cloudscale Controller
open Interaction (Contract Proc)
open Interaction.Contract

variable {ι : Type} {slot : Slots ι} {R : Role ι} {clean : Prop} {A : Admitted}
  {c₀ c : CloudscaleCluster} {w : World ι} {r : RouterSpec} {entries : List RouterStatus}

/-! ## Interfaces -/

/-- What ownership reads of a router entry. -/
def routerKey (e : RouterStatus) : String × String × Bool := (e.name, e.routerID, e.managed)

/-- Ownership of the entries carries over to entries that look the same. -/
theorem routersOwned_view {o : ι} {specs : List RouterSpec} {entries' : List RouterStatus}
    (h : RoutersOwned w o specs entries)
    (hview : ∀ e' ∈ entries', ∃ e ∈ entries, routerKey e = routerKey e') :
    RoutersOwned w o specs entries' := by
  intro e' he'
  obtain ⟨e, he, heq⟩ := hview e' he'
  simp only [routerKey, Prod.mk.injEq] at heq
  obtain ⟨hname, hid, hman⟩ := heq
  exact hname ▸ hid ▸ hman ▸ h e he

theorem ClusterOK.setInterfaces (h : ClusterOK slot R clean A none c w)
    (hkey : entries.map routerKey = c.status.routers.map routerKey) :
    ClusterOK slot R clean A none
      { c with status := { c.status with routers := entries } } w := by
  refine (h.weaken _).setRouters (routersOwned_view h.routers fun e' he' => ?_) ?_
  · have hmem : routerKey e' ∈ c.status.routers.map routerKey := hkey ▸ List.mem_map_of_mem he'
    exact List.mem_map.mp hmem
  · intro hc i hi hcr
    obtain ⟨e, he, hm, hid⟩ := h.recorded hc .router (by simp) i hi hcr
    have hmem : routerKey e ∈ entries.map routerKey := hkey ▸ List.mem_map_of_mem he
    obtain ⟨e', he', heq⟩ := List.mem_map.mp hmem
    simp only [routerKey, Prod.mk.injEq] at heq
    exact ⟨e', he', heq.2.2.trans hm, heq.2.1.trans hid⟩

theorem setRouterInterfaceStatus_keeps (routerName networkName interfaceID : String)
    (managed : Bool) : KeepsOrder slot R clean A c₀
      (Proc.update (setRouterInterfaceStatus routerName networkName interfaceID managed)) :=
  .update fun _ _ h => ⟨h.same.status _, h.ok.setInterfaces (Keyed.map_updateFirst
    (g := routerKey) (f := upsertInterface networkName interfaceID managed) fun _ _ => rfl)⟩

theorem adoptRouterInterface_keeps (r : RouterSpec) (iface : RouterInterfaceSpec)
    (ns : NetworkStatus) (router : Router) :
    KeepsOrder slot R clean A c₀ (adoptRouterInterface r iface ns router) := by
  rw [adoptRouterInterface]
  split
  · exact .fail _
  · exact .ite (fun _ => .fail _) fun _ => setRouterInterfaceStatus_keeps _ _ _ _

theorem claimRouterInterface_keeps (r : RouterSpec) (iface : RouterInterfaceSpec)
    (ns : NetworkStatus) (live : RouterInterface) :
    KeepsOrder slot R clean A c₀ (claimRouterInterface r iface ns live) :=
  .read_any fun _ => .ite (fun _ => .fail _) fun _ => setRouterInterfaceStatus_keeps _ _ _ _

theorem createRouterInterface_keeps (r : RouterSpec) (router : Router)
    (iface : RouterInterfaceSpec) (ns : NetworkStatus) :
    KeepsOrder slot R clean A c₀ (createRouterInterface r router iface ns) := by
  refine .bind (setRouterInterfaceStatus_keeps _ _ _ _) fun _ => ?_
  refine .bind (KeepsOrder.perform (fun _ => trivial) fun _ _ _ h => by cases h; exact ⟨rfl, rfl⟩)
    fun reply => ?_
  cases reply with
  | error err => exact .ite (fun _ => .pure _) fun _ => .fail _
  | ok created => exact .bind (setRouterInterfaceStatus_keeps _ _ _ _) fun _ => .pure _

theorem reconcileInterfaces_keeps (r : RouterSpec) (router : Router)
    (ifaces : List RouterInterfaceSpec) :
    KeepsOrder slot R clean A c₀ (reconcileInterfaces r router ifaces) := by
  induction ifaces with
  | nil => exact .pure _
  | cons iface rest ih =>
      refine .read_any fun c => ?_
      split
      · exact .fail _
      · refine .ite (fun _ => ?_) fun _ => ?_
        · exact .bind (adoptRouterInterface_keeps _ _ _ _) fun _ => ih
        · split
          · exact .bind (claimRouterInterface_keeps _ _ _ _) fun _ => ih
          · exact .bind (createRouterInterface_keeps _ _ _ _) fun _ =>
              .ite (fun _ => ih) fun _ => .pure _

theorem reconcileRouterInterfaces_keeps (r : RouterSpec) (router : Router) :
    KeepsOrder slot R clean A c₀ (reconcileRouterInterfaces r router) := by
  refine .read_any fun c => ?_
  split
  · exact .fail _
  · exact reconcileInterfaces_keeps _ _ _

/-! ## Recording a router -/

/-- The entry of a router that equals one of the spec by name. -/
theorem ClusterOK.routerEntry {ex : Option Kind} (h : ClusterOK slot R clean A ex c w)
    (hr : r ∈ A.routers) {e : RouterStatus} (he : e ∈ c.status.routers) (hname : e.name = r.name) :
    (e.managed = true ↔ r.uuid = "") ∧ (r.uuid = "" → Own w R.owner .router e.routerID) := by
  obtain ⟨r', hr', hname', hm, hown, -⟩ := h.routers e he
  have hiff := h.fits.routerNames r' hr' r hr (hname'.trans hname)
  exact ⟨hm.trans hiff, fun hu => hown (hiff.mpr hu)⟩

theorem routersOwned_set {specs : List RouterSpec} (h : RoutersOwned w R.owner specs entries)
    (hr : r ∈ specs) {id : String} (hown : r.uuid = "" → Own w R.owner .router id)
    (hid : r.uuid ≠ "" → id = r.uuid) :
    RoutersOwned w R.owner specs (Keyed.upsertFirst (fun rs => rs.name = r.name)
      (fun rs => { rs with routerID := id, managed := r.uuid = "" })
      { name := r.name, routerID := id, managed := r.uuid = "" } entries) := by
  intro e he
  rcases Keyed.mem_upsertFirst he with he | rfl | ⟨a, _, hname, rfl⟩
  · exact h e he
  · exact ⟨r, hr, rfl, by simp, hown, fun hu => .inr (hid hu)⟩
  · exact ⟨r, hr, (by simpa using hname : a.name = r.name).symm, by simp, hown,
      fun hu => .inr (hid hu)⟩

theorem ClusterOK.adoptedRouter (h : ClusterOK slot R clean A none c w) (hr : r ∈ A.routers)
    (hu : r.uuid ≠ "") {id : String} (hid : id = r.uuid) :
    ClusterOK slot R clean A none (setRouterStatus r id c) w := by
  refine (h.weaken _).setRouters (routersOwned_set h.routers hr (absurd · hu) fun _ => hid) ?_
  -- a managed entry is not the one of a router with a UUID
  intro hc i hi hcr
  obtain ⟨e, he, hm, hid⟩ := h.recorded hc .router (by simp) i hi hcr
  refine ⟨e, ?_, hm, hid⟩
  rcases Keyed.mem_upsertFirst_or he with he' | hf
  · exact he'
  · have hname : e.name = r.name := by simpa using List.find?_some hf
    exact absurd ((h.routerEntry hr he hname).1.mp hm) hu

theorem ClusterOK.managedRouter {id : String} (h : ClusterOK slot R clean A (some .router) c w)
    (hr : r ∈ A.routers) (hu : r.uuid = "")
    (hres : Resolved R clean .router c ((c.status.getRouterStatus r.name).elim "" (·.routerID)) id
      w) :
    ClusterOK slot R clean A none (setRouterStatus r id c) w := by
  refine h.setRouters (routersOwned_set h.routers hr (fun _ => .inr hres.own) (absurd hu)) ?_
  intro hc i hi hcr
  rcases hres.others hc i hi hcr with heq | ⟨hne, e, he, hm, hid⟩
  · refine ⟨_, Keyed.mem_upsertFirst_self _ _ _ _, ?_⟩
    cases c.status.routers.find? fun rs => rs.name = r.name <;> exact ⟨by simp [hu], heq.symm⟩
  · rcases Keyed.mem_upsertFirst_or he with he' | hf
    · exact ⟨e, he', hm, hid⟩
    · refine absurd ?_ hne
      rw [← hid, CloudscaleClusterStatus.getRouterStatus, hf]
      rfl

/-! ## Reconciling routers -/

theorem ensureManagedRouter_spec (hinv : Inv slot w) (h : ClusterOK slot R clean A none c w)
    (hr : r ∈ A.routers) (hu : r.uuid = "") :
    (api slot R clean).wpc (fun out c' w' => c' = c ∧
        (∀ router, out = .ok (.ok router) →
          ClusterOK slot R clean A (some .router) c w' ∧ Resolved R clean .router c
            ((c.status.getRouterStatus r.name).elim "" (·.routerID)) router.uuid w') ∧
        ((∀ router, out ≠ .ok (.ok router)) → ClusterOK slot R clean A none c w'))
      (ensureManagedRouter A.cluster r) c w := by
  have hmine := h.fits.router r hr hu
  -- what the entry of that name records is the cluster's own
  have hown : Own w R.owner .router
      ((c.status.getRouterStatus r.name).elim "" (·.routerID)) := by
    cases hf : c.status.getRouterStatus r.name with
    | none => exact .inl rfl
    | some e =>
        have hname : e.name = r.name := by simpa using List.find?_some hf
        exact (h.routerEntry hr (List.mem_of_find?_eq_some hf) hname).2 hu
  rw [ensureManagedRouter, wpc_read_bind, wpc_bind, wpc_wrapErr]
  refine wpc_mono hinv (ensureResource_spec hmine.isSlot (by simp) hown) ?_
  rintro out c' w' hinv' ⟨rfl, hl, hens⟩
  have h' := h.later hl
  cases hens with
  | error _ => exact ⟨rfl, by simp, fun _ => h'⟩
  | @found router _ hex hc hfound =>
      have hne : router.uuid ≠ "" := (hinv'.issued _ _ hex).1
      simp only [Except.mapError, after_ok, uuidOf, ne_eq, hne, not_false_eq_true, if_true]
      refine ⟨rfl, ?_, by simp⟩
      rintro router' ⟨⟩
      exact ⟨h'.weaken _, .found h' hinv' hc hfound⟩
  | none hempty hrep =>
      simp only [Except.mapError, after_ok, ensureManagedRouter.createRouter]
      refine wpc_mono hinv' (createResource_spec (k := .router) fun w'' hl' _ =>
        hmine.guard rfl hempty (by simp) hl') ?_
      rintro (out : Except GoError (Except Result (Kind.Resource .router))) c'' w'' - ⟨rfl, hcr⟩
      cases hcr with
      | @ok router _ hg hc hw =>
          refine ⟨rfl, ?_, by simp⟩
          rintro router' ⟨⟩
          exact ⟨h'.create hg fun hc => (hw hc).2,
            .created (i := identOf (k := .router) router) h' hinv' hrep hc hw⟩
      | failed hg hno hw =>
          exact ⟨rfl, fun r hr => absurd hr (hno r), fun _ => h'.failed hg fun hc => (hw hc).1⟩

theorem recordRouter_keeps {router : Router} {c : CloudscaleCluster} {w : World ι}
    (hinv : Inv slot w) (h : InOrder slot R clean A c₀ (setRouterStatus r router.uuid c) w) :
    (api slot R clean).wpc (fun _ => InOrder slot R clean A c₀) (recordRouter r router) c w := by
  rw [recordRouter, wpc_update_bind]
  exact Contract.Preserves.ite (fun _ => .pure _)
    (fun _ => reconcileRouterInterfaces_keeps _ _) _ w hinv h

theorem adoptRouter_spec (h : InOrder slot R clean A c₀ c w) (hr : r ∈ A.routers)
    (hu : r.uuid ≠ "") :
    (api slot R clean).wpc (fun out c' w' => c' = c ∧ InOrder slot R clean A c₀ c w' ∧
      ∀ router, out = .ok router → router.uuid = r.uuid) (adoptRouter r) c w := by
  rw [adoptRouter, wpc_read_bind, wpc_bind]
  refine get_spec (fun _ => .inr (h.ok.fits.routerIDs r hr hu)) ?_ ?_
  · intro w' router hl _ _ hid
    simp only [after_ok, wpc_ite]
    split
    · exact ⟨rfl, h.later hl, by simp⟩
    · refine ⟨rfl, h.later hl, ?_⟩
      rintro _ ⟨⟩
      exact hid
  · intro w' e hl _ _
    exact ⟨rfl, h.later hl, by simp⟩

theorem reconcileRouter_keeps (hr : r ∈ A.routers) :
    KeepsOrder slot R clean A c₀ (reconcileRouter A.cluster r) := by
  refine .ite (fun hu => ?_) fun hu => ?_
  · intro c w hinv h
    rw [wpc_bind]
    refine wpc_mono hinv (adoptRouter_spec h hr hu) ?_
    rintro out c' w' hinv' ⟨rfl, h', hid⟩
    cases out with
    | error e => exact h'
    | ok router =>
        exact recordRouter_keeps hinv' ⟨h.same.status _, h'.ok.adoptedRouter hr hu (hid router rfl)⟩
  · intro c w hinv h
    rw [wpc_bind]
    refine wpc_mono hinv (ensureManagedRouter_spec hinv h.ok hr (not_not.mp hu)) ?_
    rintro out c' w' hinv' ⟨rfl, hok, hfail⟩
    rcases out with e | result | router
    · exact ⟨h.same, hfail (by simp)⟩
    · exact ⟨h.same, hfail (by simp)⟩
    · obtain ⟨h', hres⟩ := hok router rfl
      exact recordRouter_keeps hinv'
        ⟨h.same.status _, h'.managedRouter hr (not_not.mp hu) hres⟩

theorem reconcileEachRouter_keeps (rs : List RouterSpec) (hrs : ∀ r ∈ rs, r ∈ A.routers)
    (result : Result) :
    KeepsOrder slot R clean A c₀ (reconcileEachRouter A.cluster result rs) := by
  induction rs generalizing result with
  | nil => exact .pure _
  | cons r rest ih =>
      refine .bind (.wrapErr (reconcileRouter_keeps (hrs r List.mem_cons_self))) fun res => ?_
      exact ih (fun r' hr' => hrs r' (List.mem_cons_of_mem _ hr')) _

theorem reconcileRouters_keeps : KeepsOrder slot R clean A c₀ (reconcileRouters A.cluster) := by
  refine .deferred (.read fun c w hinv h => ?_) fun out c w h => ?_
  · exact reconcileEachRouter_keeps _ h.ok.covers.routers _ c w hinv h
  · unfold setRouterReady
    split
    · exact h.setCondition _ _ _ _
    · split
      · exact h.setCondition _ _ _ _
      · split <;> exact h.setCondition _ _ _ _

end Capcs.Ownership
