import Capcs.Readiness.Calls

/-!
# Capcs.Readiness.Routers — the router step

What `reconcileRouters` leaves in status. The entry of an interface has an empty ID
while its attach is under way, but then the step ends with an error or a requeue: if
it ends with neither, every router of the spec is recorded with its interfaces
(`routerProvisioned`), and so is every router that was before.

Timeouts of router calls keep `RouterReady` false, so all events here are plain.
-/

namespace Capcs.Readiness

open Cloudscale Controller
open Interaction (Program Proc New history history_perform)
open Interaction.Contract

variable {c c' c'' : CloudscaleCluster} {h : Trace}

/-! ## Entries -/

/-- The interface on a network is recorded with its ID. -/
def interfaceRecorded (rs : RouterStatus) (network : String) : Bool :=
  (rs.getInterfaceStatus network).any fun iface => iface.interfaceID ≠ ""

theorem interfaceRecorded_upsert (network id : String) (managed : Bool) (rs : RouterStatus)
    (other : String) : interfaceRecorded (upsertInterface network id managed rs) other =
      if other = network then decide (id ≠ "") else interfaceRecorded rs other := by
  by_cases hother : other = network
  · subst hother
    have hfind := Keyed.find?_upsertFirst_self
      (p := fun i : RouterInterfaceStatus => decide (i.network = other))
      (f := fun i => { i with interfaceID := id, managed })
      (e := { network := other, interfaceID := id, managed }) (fun _ hp => hp) (by simp)
      rs.interfaces
    rw [if_pos rfl, interfaceRecorded, RouterStatus.getInterfaceStatus, upsertInterface, hfind]
    cases rs.interfaces.find? _ <;> rfl
  · rw [if_neg hother, interfaceRecorded, RouterStatus.getInterfaceStatus, upsertInterface,
      Keyed.find?_upsertFirst_of_disjoint ?_ (by simpa using Ne.symm hother)]
    · rfl
    · intro i hi
      have hi : i.network = network := by simpa using hi
      simp [hi, Ne.symm hother]

/-- The router of a name is recorded, with interfaces on the given networks. -/
def RouterRecorded (c : CloudscaleCluster) (name : String) (networks : List String) : Prop :=
  ∃ rs, c.status.getRouterStatus name = some rs ∧ rs.routerID ≠ "" ∧
    ∀ n ∈ networks, interfaceRecorded rs n = true

theorem routerProvisioned_iff (c : CloudscaleCluster) (spec : RouterSpec) :
    routerProvisioned c spec = true ↔
      RouterRecorded c spec.name (spec.interfaces.map (·.network)) := by
  unfold routerProvisioned RouterRecorded
  cases c.status.getRouterStatus spec.name with
  | none => simp
  | some rs => simp [interfaceRecorded]

/-- What the router step may do to the object: it touches the entries of routers only. -/
def RoutersOnly (c c' : CloudscaleCluster) : Prop :=
  c' = { c with status := { c.status with routers := c'.status.routers } }

theorem RoutersOnly.refl (c : CloudscaleCluster) : RoutersOnly c c := rfl

theorem RoutersOnly.trans (h₁ : RoutersOnly c c') (h₂ : RoutersOnly c' c'') :
    RoutersOnly c c'' := by
  unfold RoutersOnly at *
  rw [h₂, h₁]

/-- No record of a router is lost. -/
def RoutersKept (c c' : CloudscaleCluster) : Prop :=
  ∀ name networks, RouterRecorded c name networks → RouterRecorded c' name networks

/-! ## Writing entries -/

theorem getRouterStatus_setInterface (name network id : String) (managed : Bool)
    (c : CloudscaleCluster) (other : String) :
    (setRouterInterfaceStatus name network id managed c).status.getRouterStatus other =
      if other = name then
        (c.status.getRouterStatus other).map (upsertInterface network id managed)
      else c.status.getRouterStatus other := by
  by_cases hother : other = name
  · subst hother
    rw [if_pos rfl]
    refine Keyed.find?_updateFirst_self (f := upsertInterface network id managed) ?_
      c.status.routers
    intro rs hrs
    exact hrs
  · rw [if_neg hother]
    refine Keyed.find?_updateFirst_of_disjoint ?_ c.status.routers
    intro rs hrs
    have hname : rs.name = name := by simpa using hrs
    simp [upsertInterface, hname, Ne.symm hother]

/-- An interface that is recorded with an ID adds to the record of its router. -/
theorem RouterRecorded.setInterface {name network id : String} (hid : id ≠ "") (managed : Bool)
    {networks : List String} (hrec : RouterRecorded c name networks) :
    RouterRecorded (setRouterInterfaceStatus name network id managed c) name
      (network :: networks) := by
  obtain ⟨rs, hrs, hrid, hifaces⟩ := hrec
  refine ⟨upsertInterface network id managed rs, ?_, hrid, ?_⟩
  · rw [getRouterStatus_setInterface, if_pos rfl, hrs]
    rfl
  · intro n hn
    rw [interfaceRecorded_upsert]
    by_cases hnet : n = network
    · simp [hnet, hid]
    · rw [if_neg hnet]
      exact hifaces n ((List.mem_cons.mp hn).resolve_left hnet)

theorem routersKept_setInterface {name network id : String} (hid : id ≠ "") (managed : Bool)
    (c : CloudscaleCluster) :
    RoutersKept c (setRouterInterfaceStatus name network id managed c) := by
  intro other networks hrec
  by_cases hother : other = name
  · subst hother
    obtain ⟨rs, hrs, hrid, hifaces⟩ :
        RouterRecorded (setRouterInterfaceStatus other network id managed c) other
          (network :: networks) :=
      hrec.setInterface hid managed
    exact ⟨rs, hrs, hrid, fun n hn => hifaces n (List.mem_cons_of_mem _ hn)⟩
  · obtain ⟨rs, hrs, hrest⟩ := hrec
    refine ⟨rs, ?_, hrest⟩
    rw [getRouterStatus_setInterface, if_neg hother, hrs]

/-- The first of two writes of an interface does not show. -/
theorem setInterface_twice (name network id : String) (managed : Bool) (c : CloudscaleCluster)
    {networks : List String} {other : String} :
    RouterRecorded (setRouterInterfaceStatus name network id managed c) other networks →
    RouterRecorded (setRouterInterfaceStatus name network id managed
      (setRouterInterfaceStatus name network "" true c)) other networks := by
  rintro ⟨rs, hrs, hrid, hifaces⟩
  rw [getRouterStatus_setInterface] at hrs
  by_cases hother : other = name
  · rw [if_pos hother] at hrs
    obtain ⟨rs₀, hrs₀, rfl⟩ := Option.map_eq_some_iff.mp hrs
    refine ⟨upsertInterface network id managed (upsertInterface network "" true rs₀), ?_, hrid, ?_⟩
    · rw [getRouterStatus_setInterface, if_pos hother, getRouterStatus_setInterface, if_pos hother,
        hrs₀]
      rfl
    · intro n hn
      have hn := hifaces n hn
      rw [interfaceRecorded_upsert] at hn ⊢
      -- on the same network the second write wins
      by_cases hnet : n = network
      · rwa [if_pos hnet] at hn ⊢
      · rw [if_neg hnet] at hn ⊢
        rw [interfaceRecorded_upsert, if_neg hnet]
        exact hn
  · rw [if_neg hother] at hrs
    refine ⟨rs, ?_, hrid, hifaces⟩
    rw [getRouterStatus_setInterface, if_neg hother, getRouterStatus_setInterface,
      if_neg hother, hrs]

theorem getRouterStatus_setRouter (spec : RouterSpec) (id : String) (c : CloudscaleCluster)
    (other : String) : (setRouterStatus spec id c).status.getRouterStatus other =
      if other = spec.name then
        some ((c.status.getRouterStatus other).elim
          { name := spec.name, routerID := id, managed := spec.uuid = "" }
          fun rs => { rs with routerID := id, managed := spec.uuid = "" })
      else c.status.getRouterStatus other := by
  by_cases hother : other = spec.name
  · subst hother
    rw [if_pos rfl]
    refine Keyed.find?_upsertFirst_self (f := fun rs : RouterStatus =>
      { rs with routerID := id, managed := spec.uuid = "" })
      (e := { name := spec.name, routerID := id, managed := spec.uuid = "" }) ?_ (by simp)
      c.status.routers
    intro rs hrs
    exact hrs
  · rw [if_neg hother]
    refine Keyed.find?_upsertFirst_of_disjoint ?_ (by simpa using Ne.symm hother) c.status.routers
    intro rs hrs
    have hname : rs.name = spec.name := by simpa using hrs
    simp [hname, Ne.symm hother]

theorem routersKept_setRouter (spec : RouterSpec) {id : String} (hid : id ≠ "")
    (c : CloudscaleCluster) : RoutersKept c (setRouterStatus spec id c) := by
  rintro other networks ⟨rs, hrs, hrid, hifaces⟩
  by_cases hother : other = spec.name
  · refine ⟨{ rs with routerID := id, managed := spec.uuid = "" }, ?_, hid, hifaces⟩
    rw [getRouterStatus_setRouter, if_pos hother, hrs]
    rfl
  · exact ⟨rs, by rw [getRouterStatus_setRouter, if_neg hother, hrs], hrid, hifaces⟩

theorem routerRecorded_setRouter (spec : RouterSpec) {id : String} (hid : id ≠ "")
    (c : CloudscaleCluster) : RouterRecorded (setRouterStatus spec id c) spec.name [] := by
  refine ⟨_, by rw [getRouterStatus_setRouter, if_pos rfl], ?_, by simp⟩
  cases c.status.getRouterStatus spec.name <;> exact hid

/-! ## Interfaces -/

/-- How a part of the router step ends: if it ends well, no record is lost and `P` is
recorded. -/
def RoutersEnd {α : Type} (well : α → Bool) (P : CloudscaleCluster → Prop) (c : CloudscaleCluster)
    (h : Trace) (out : Except GoError α) (c' : CloudscaleCluster) (h' : Trace) : Prop :=
  RoutersOnly c c' ∧ Quiet h h' ∧ ∀ a, out = .ok a → well a = true → RoutersKept c c' ∧ P c'

/-- The router step goes on after a part that returns nothing. -/
abbrev InterfaceEnd := RoutersEnd fun _ : Unit => true

section

variable {α : Type} {well : α → Bool} {P P' : CloudscaleCluster → Prop} {h₁ h' : Trace}

theorem RoutersEnd.failed {err : GoError} (honly : RoutersOnly c c') (hq : Quiet h h') :
    RoutersEnd well P c h (.error err) c' h' :=
  ⟨honly, hq, by simp⟩

theorem RoutersEnd.waits {a : α} (hwait : well a = false) (honly : RoutersOnly c c')
    (hq : Quiet h h') : RoutersEnd well P c h (.ok a) c' h' := by
  refine ⟨honly, hq, ?_⟩
  rintro a' ⟨⟩ hwell
  simp [hwait] at hwell

/-- Two parts one after the other. -/
theorem RoutersEnd.after {out : Except GoError α} (honly : RoutersOnly c c')
    (hkept : RoutersKept c c') (hq : Quiet h h₁) (hP : P' c'' → P c'')
    (hend : RoutersEnd well P' c' h₁ out c'' h') : RoutersEnd well P c h out c'' h' := by
  obtain ⟨honly', hq', hwell⟩ := hend
  refine ⟨honly.trans honly', hq.trans hq', ?_⟩
  intro a hout ha
  obtain ⟨hkept', hP'⟩ := hwell a hout ha
  exact ⟨fun name networks hrec => hkept' _ _ (hkept _ _ hrec), hP hP'⟩

end

theorem mem_of_liveByUUID {ifaces : List RouterInterface} {uuid : String} {live : RouterInterface}
    (hlive : liveByUUID ifaces uuid = some live) : live ∈ ifaces :=
  (List.mem_filter.mp (List.mem_of_getLast? hlive)).1

theorem mem_of_liveByNetwork {ifaces : List RouterInterface} {network : String}
    {live : RouterInterface} (hlive : liveByNetwork ifaces network = some live) : live ∈ ifaces :=
  (List.mem_filter.mp (List.mem_of_getLast? hlive)).1

/-- Recording an interface under its ID. -/
theorem interfaceEnd_set {name network id : String} (hid : id ≠ "") (managed : Bool)
    {networks : List String} (hrec : RouterRecorded c name networks) {h' : Trace}
    (hq : Quiet h h') :
    InterfaceEnd (fun c' => RouterRecorded c' name (network :: networks)) c h (.ok ())
      (setRouterInterfaceStatus name network id managed c) h' :=
  ⟨rfl, hq, fun _ _ _ => ⟨routersKept_setInterface hid managed c, hrec.setInterface hid managed⟩⟩

variable {routerSpec : RouterSpec} {router : Router} {ifaceSpec : RouterInterfaceSpec}
  {ns : NetworkStatus} {networks : List String}

theorem adoptRouterInterface_spec (hifaces : ∀ i ∈ router.interfaces, i.uuid ≠ "")
    (hrec : RouterRecorded c routerSpec.name networks) :
    calls.wpc (InterfaceEnd (fun c' => RouterRecorded c' routerSpec.name (ns.name :: networks)) c h)
      (adoptRouterInterface routerSpec ifaceSpec ns router) c h := by
  unfold adoptRouterInterface
  split
  · exact (wpc_fail _).mpr (.failed (.refl c) (.refl _ h))
  · next live hlive =>
    rw [wpc_ite]
    split
    · exact (wpc_fail _).mpr (.failed (.refl c) (.refl _ h))
    · exact interfaceEnd_set (hifaces live (mem_of_liveByUUID hlive)) false hrec (.refl _ h)

theorem claimRouterInterface_spec {live : RouterInterface} (hid : live.uuid ≠ "")
    (hrec : RouterRecorded c routerSpec.name networks) :
    calls.wpc (InterfaceEnd (fun c' => RouterRecorded c' routerSpec.name (ns.name :: networks)) c h)
      (claimRouterInterface routerSpec ifaceSpec ns live) c h := by
  rw [claimRouterInterface, wpc_read_bind, wpc_ite]
  split
  · exact (wpc_fail _).mpr (.failed (.refl c) (.refl _ h))
  · exact interfaceEnd_set hid true hrec (.refl _ h)

theorem createRouterInterface_spec (hrec : RouterRecorded c routerSpec.name networks) :
    calls.wpc (RoutersEnd Result.isZero
      (fun c' => RouterRecorded c' routerSpec.name (ns.name :: networks)) c h)
      (createRouterInterface routerSpec router ifaceSpec ns) c h := by
  rw [createRouterInterface, wpc_update_bind, wpc_bind]
  refine quiet_perform trivial fun r h' hr hq => ?_
  cases r with
  | error err =>
      simp only [after_ok]
      split
      · exact (wpc_pure _).mpr (.waits rfl rfl hq)
      · exact (wpc_fail _).mpr (.failed rfl hq)
  | ok iface =>
      have hid : iface.uuid ≠ "" := by simpa [identified] using hr
      refine ⟨rfl, hq, fun _ _ _ => ⟨?_, ?_⟩⟩
      · intro name nets hrec'
        exact setInterface_twice _ _ _ _ _ (routersKept_setInterface hid true c name nets hrec')
      · exact setInterface_twice _ _ _ _ _ (hrec.setInterface hid true)

theorem reconcileInterfaces_spec (hifaces : ∀ i ∈ router.interfaces, i.uuid ≠ "")
    (ifaces : List RouterInterfaceSpec) : ∀ c h networks,
    RouterRecorded c routerSpec.name networks →
    calls.wpc (RoutersEnd Result.isZero (fun c' => RouterRecorded c' routerSpec.name
      (ifaces.map (·.network) ++ networks)) c h)
        (reconcileInterfaces routerSpec router ifaces) c h := by
  induction ifaces with
  | nil =>
      intro c h networks hrec
      exact ⟨.refl c, .refl _ h, fun _ _ _ => ⟨fun _ _ => id, hrec⟩⟩
  | cons iface rest ih =>
      intro c h networks hrec
      -- what is left to do once the interface is recorded
      have hrest : ∀ c₁ h₁, InterfaceEnd
          (fun c' => RouterRecorded c' routerSpec.name (iface.network :: networks)) c h
            (.ok ()) c₁ h₁ →
          calls.wpc (RoutersEnd Result.isZero (fun c' => RouterRecorded c' routerSpec.name
            ((iface :: rest).map (·.network) ++ networks)) c h)
            (reconcileInterfaces routerSpec router rest) c₁ h₁ := by
        rintro c₁ h₁ ⟨honly, hq, hzero⟩
        obtain ⟨hkept, hrec₁⟩ := hzero () rfl rfl
        refine wpc_imp (ih c₁ h₁ _ hrec₁) fun out c₂ h₂ hend => ?_
        refine .after honly hkept hq ?_ hend
        rintro ⟨rs, hrs, hrid, hall⟩
        refine ⟨rs, hrs, hrid, fun n hn => hall n ?_⟩
        simp only [List.map_cons, List.cons_append, List.mem_cons, List.mem_append] at hn ⊢
        tauto
      rw [reconcileInterfaces, wpc_read_bind]
      cases hns : c.status.getNetworkStatus iface.network with
      | none => exact (wpc_fail _).mpr (.failed (.refl c) (.refl _ h))
      | some ns =>
          have hname : ns.name = iface.network := by simpa using List.find?_some hns
          simp only [wpc_ite]
          split
          · refine wpc_seq (adoptRouterInterface_spec hifaces hrec) ?_
            intro out c₁ h₁ hend
            cases out with
            | error err => exact after_error.mpr (.failed hend.1 hend.2.1)
            | ok _ => exact hrest c₁ h₁ (hname ▸ hend)
          · cases hlive : liveByNetwork router.interfaces ns.networkID with
            | some live =>
                refine wpc_seq (claimRouterInterface_spec
                  (hifaces live (mem_of_liveByNetwork hlive)) hrec) ?_
                intro out c₁ h₁ hend
                cases out with
                | error err => exact after_error.mpr (.failed hend.1 hend.2.1)
                | ok _ => exact hrest c₁ h₁ (hname ▸ hend)
            | none =>
                refine wpc_seq (createRouterInterface_spec hrec) ?_
                intro out c₁ h₁ hend
                cases out with
                | error err => exact after_error.mpr (.failed hend.1 hend.2.1)
                | ok result =>
                    simp only [after_ok]
                    split
                    · next hzero =>
                      refine hrest c₁ h₁ ⟨hend.1, hend.2.1, fun _ _ _ => ?_⟩
                      exact hname ▸ hend.2.2 result rfl hzero
                    · next hzero =>
                        exact (wpc_pure _).mpr (.waits (by simpa using hzero) hend.1 hend.2.1)

/-! ## Routers -/

theorem recordRouter_spec (hid : identifiedResource (k := .router) router = true) :
    calls.wpc (RoutersEnd Result.isZero (fun c' => routerProvisioned c' routerSpec = true) c h)
      (recordRouter routerSpec router) c h := by
  have hid : router.uuid ≠ "" ∧ ∀ i ∈ router.interfaces, i.uuid ≠ "" := by
    simpa [identifiedResource] using hid
  have hset := routersKept_setRouter routerSpec hid.1 c
  have hrec := routerRecorded_setRouter routerSpec hid.1 c
  rw [recordRouter, wpc_update_bind, wpc_ite]
  split
  · exact (wpc_pure _).mpr (.waits rfl rfl (.refl _ h))
  · rw [reconcileRouterInterfaces, wpc_read_bind]
    split
    · exact (wpc_fail _).mpr (.failed rfl (.refl _ h))
    · refine wpc_imp (reconcileInterfaces_spec hid.2 _ _ h [] hrec) fun out c₁ h₁ hend => ?_
      have honly : RoutersOnly c (setRouterStatus routerSpec router.uuid c) := rfl
      refine .after honly hset (.refl _ h) (fun hrec => ?_) hend
      rw [routerProvisioned_iff]
      simpa using hrec

theorem adoptRouter_spec (routerSpec : RouterSpec) :
    calls.wpc (fun out c' h' => c' = c ∧ Quiet h h' ∧
        ∀ router, out = .ok router → identifiedResource (k := .router) router = true)
      (adoptRouter routerSpec) c h := by
  rw [adoptRouter, wpc_read_bind, wpc_bind]
  refine quiet_perform (by simp [PlainOp]) fun r h' hr hq => ?_
  cases r with
  | error err => exact ⟨rfl, hq, by simp⟩
  | ok router =>
      simp only [after_ok, wpc_ite]
      split
      · exact ⟨rfl, hq, by simp⟩
      · refine ⟨rfl, hq, ?_⟩
        rintro router' ⟨⟩
        simpa [identified] using hr

/-- How `ensureManagedRouter` ends: with a router, or waiting for one. -/
def RouterResolved (c : CloudscaleCluster) (h : Trace) (out : Except GoError (Except Result Router))
    (c' : CloudscaleCluster) (h' : Trace) : Prop :=
  c' = c ∧ Quiet h h' ∧ match out with
    | .ok (.ok router) => identifiedResource (k := .router) router = true
    | .ok (.error result) => result.isZero = false
    | .error _ => True

theorem createRouter_spec {h₁ : Trace} (routerSpec : RouterSpec) (tags : TagMap)
    (hq : Quiet h h₁) : calls.wpc (RouterResolved c h)
      (ensureManagedRouter.createRouter routerSpec c tags) c h₁ := by
  rw [ensureManagedRouter.createRouter]
  refine wpc_imp (createResource_spec (k := .router)) ?_
  rintro out c' h' ⟨rfl, hcr⟩
  rcases out with err | result | router
  · exact ⟨rfl, hq.trans hcr, trivial⟩
  · obtain ⟨rfl, hq'⟩ := hcr
    exact ⟨rfl, hq.trans hq', rfl⟩
  · exact ⟨rfl, hq.trans hcr.2, hcr.1⟩

theorem ensureManagedRouter_spec (cluster : Cluster) (routerSpec : RouterSpec) :
    calls.wpc (RouterResolved c h) (ensureManagedRouter cluster routerSpec) c h := by
  rw [ensureManagedRouter, wpc_read_bind]
  refine wpc_seq (wpc_wrapped ensureResource_spec fun _ _ _ => id) ?_
  rintro out c₁ h₁ ⟨rfl, hens⟩
  rcases out with err | ⟨_ | router, id⟩
  · exact ⟨rfl, hens.2 (by simp), trivial⟩
  · exact createRouter_spec routerSpec _ hens.2
  · obtain ⟨hident, hid, -, hq⟩ := hens
    simp only [after_ok, if_pos hid]
    exact ⟨rfl, hq (by simp), hident⟩

theorem reconcileRouter_spec (cluster : Cluster) (routerSpec : RouterSpec) :
    calls.wpc (RoutersEnd Result.isZero (fun c' => routerProvisioned c' routerSpec = true) c h)
      (reconcileRouter cluster routerSpec) c h := by
  rw [reconcileRouter, wpc_ite]
  split
  · refine wpc_seq (adoptRouter_spec routerSpec) ?_
    rintro out c₁ h₁ ⟨rfl, hq, hident⟩
    cases out with
    | error err => exact after_error.mpr (.failed (.refl _) hq)
    | ok router =>
        refine wpc_imp (recordRouter_spec (hident router rfl)) fun out c₂ h₂ hend => ?_
        exact .after (.refl _) (fun _ _ => id) hq id hend
  · refine wpc_seq (ensureManagedRouter_spec cluster routerSpec) ?_
    rintro out c₁ h₁ ⟨rfl, hq, hout⟩
    rcases out with err | result | router
    · exact after_error.mpr (.failed (.refl _) hq)
    · exact (wpc_pure _).mpr (.waits hout (.refl _) hq)
    · refine wpc_imp (recordRouter_spec hout) fun out c₂ h₂ hend => ?_
      exact .after (.refl _) (fun _ _ => id) hq id hend

theorem lowerResult_isZero (result res : Result) :
    (lowerResult result res).isZero = true ↔ result.isZero = true ∧ res.isZero = true := by
  unfold lowerResult
  cases hres : res.isZero <;> cases hr : result.isZero <;> simp [hres, hr]
  split <;> simp [hres, hr]

theorem reconcileEachRouter_spec (cluster : Cluster) (routers : List RouterSpec) : ∀ result c h,
    calls.wpc (fun out c' h' => RoutersOnly c c' ∧ Quiet h h' ∧ ∀ res, out = .ok res →
        res.isZero = true → result.isZero = true ∧ RoutersKept c c' ∧
          ∀ r ∈ routers, routerProvisioned c' r = true)
      (reconcileEachRouter cluster result routers) c h := by
  induction routers with
  | nil =>
      intro result c h
      refine ⟨.refl c, .refl _ h, ?_⟩
      rintro res ⟨⟩ hzero
      exact ⟨hzero, fun _ _ => id, by simp⟩
  | cons routerSpec rest ih =>
      intro result c h
      rw [reconcileEachRouter]
      refine wpc_seq (wpc_wrapped (reconcileRouter_spec cluster routerSpec)
        fun _ _ _ hend => .failed hend.1 hend.2.1) ?_
      intro out c₁ h₁ hend
      cases out with
      | error err => exact ⟨hend.1, hend.2.1, by simp⟩
      | ok res₁ =>
          rw [after_ok]
          refine wpc_imp (ih _ c₁ h₁) ?_
          rintro out c₂ h₂ ⟨honly, hq, hzero⟩
          refine ⟨hend.1.trans honly, hend.2.1.trans hq, ?_⟩
          intro res hout hz
          -- the lowest result is zero only if that of every router is
          obtain ⟨hlow, hkept, hall⟩ := hzero res hout hz
          obtain ⟨hresult, hres₁⟩ := (lowerResult_isZero _ _).mp hlow
          obtain ⟨hkept₁, hprov⟩ := hend.2.2 res₁ rfl hres₁
          refine ⟨hresult, fun name nets hrec => hkept _ _ (hkept₁ _ _ hrec), ?_⟩
          intro r hr
          rcases List.mem_cons.mp hr with rfl | hr
          · rw [routerProvisioned_iff] at hprov ⊢
            exact hkept _ _ hprov
          · exact hall r hr

/-- The router step, with the condition it writes. -/
theorem reconcileRouters_spec (cluster : Cluster) :
    calls.wpc (fun out c' h' => ∃ c₁, c' = setRouterReady out c₁ ∧
        RoutersEnd Result.isZero (fun c' => ∀ r ∈ c.spec.routers, routerProvisioned c' r = true)
          c h out c₁ h')
      (reconcileRouters cluster) c h := by
  rw [reconcileRouters, wpc_deferred, wpc_read_bind]
  refine wpc_imp (reconcileEachRouter_spec cluster c.spec.routers {} c h) ?_
  rintro out c₁ h₁ ⟨honly, hq, hzero⟩
  exact ⟨c₁, rfl, honly, hq, fun res hout hz => (hzero res hout hz).2⟩

end Capcs.Readiness
