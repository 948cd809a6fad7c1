import Capcs.Interfaces.Recognition
import Capcs.Records.Made

/-!
# Capcs.Records.Routers — the router step accounts for what it makes

A router is recorded as soon as it is there, and the entry of an interface is written before the
attach and completed after it. Later routers and later interfaces have other names, so nothing is
overwritten: this is where the keys of the spec have to be unique.
-/

namespace Capcs.Records

open Cloudscale Controller Interfaces
open Readiness (Trace CallEvent)
open Interaction (Proc Frame New history history_perform Noted Logs Retains)
open Interaction.Contract

variable {known : Made → Prop} {c c' : CloudscaleCluster} {h : Trace} {r : RouterSpec}

/-! ## References in the entry of a router -/

/-- An interface that the entry of a router refers to. -/
def InterfaceRef (name network : String) (c : CloudscaleCluster) (x : Made) : Prop :=
  ∃ i, ifaceEntry c name network = some i ∧ x = .interface i.interfaceID

/-- A router that the entry of a name refers to. -/
def RouterIDRef (name : String) (c : CloudscaleCluster) (x : Made) : Prop :=
  ∃ rs, c.status.getRouterStatus name = some rs ∧ x = .resource .router rs.routerID

/-- What the entry of a router refers to. -/
def RouterRef (name : String) (c : CloudscaleCluster) (x : Made) : Prop :=
  RouterIDRef name c x ∨ ∃ network, InterfaceRef name network c x

theorem RouterRef.referenced {name : String} {x : Made} (hx : RouterRef name c x) :
    Referenced c x := by
  rcases hx with ⟨rs, hrs, rfl⟩ | ⟨network, i, hi, rfl⟩
  · exact ⟨rs, List.mem_of_find?_eq_some hrs, rfl⟩
  · obtain ⟨rs, hrs, hi⟩ := Option.bind_eq_some_iff.mp hi
    exact ⟨rs, List.mem_of_find?_eq_some hrs, i, List.mem_of_find?_eq_some hi, rfl⟩

/-- Another interface of the router. -/
theorem ifaceEntry_set_of_ne {network other : String} (hne : other ≠ network) (id : String)
    (managed : Bool) (c : CloudscaleCluster) :
    ifaceEntry (setRouterInterfaceStatus r.name network id managed c) r.name other =
      ifaceEntry c r.name other := by
  rw [ifaceEntry, Readiness.getRouterStatus_setInterface, if_pos rfl, ifaceEntry]
  cases c.status.getRouterStatus r.name with
  | none => rfl
  | some rs => exact (getInterfaceStatus_upsert network id managed rs other).trans (if_neg hne)

/-- The interface itself, if the router has an entry. -/
theorem ifaceEntry_set_self (hr : (c.status.getRouterStatus r.name).isSome) (network id : String)
    (managed : Bool) :
    ifaceEntry (setRouterInterfaceStatus r.name network id managed c) r.name network =
      some { network, interfaceID := id, managed } := by
  obtain ⟨rs, hrs⟩ := Option.isSome_iff_exists.mp hr
  rw [ifaceEntry, Readiness.getRouterStatus_setInterface, if_pos rfl, hrs]
  exact (getInterfaceStatus_upsert network id managed rs network).trans (if_pos rfl)

/-- A write to an interface leaves the rest of the router's entry. -/
theorem routerID_setInterface (network id : String) (managed : Bool) (c : CloudscaleCluster) :
    ((setRouterInterfaceStatus r.name network id managed c).status.getRouterStatus r.name).map
      (·.routerID) = (c.status.getRouterStatus r.name).map (·.routerID) := by
  rw [Readiness.getRouterStatus_setInterface, if_pos rfl, Option.map_map]
  rfl

/-! ## Interfaces -/

theorem createRouterInterface_records {router : Router} {iface : RouterInterfaceSpec}
    {ns : NetworkStatus} (hr : (c.status.getRouterStatus r.name).isSome) :
    (history fun _ _ => True).wpc
      (fun _ c' h' => New (Noted madeBy (InterfaceRef r.name ns.name c')) h h')
      (createRouterInterface r router iface ns) c h := by
  rw [createRouterInterface, wpc_update_bind, wpc_bind]
  refine history_perform fun reply _ => ?_
  cases reply with
  | error err =>
      simp only [after_ok, wpc_ite]
      split <;> exact .snoc (fun _ hx => by cases hx) h
  | ok created =>
      refine .snoc ?_ h
      rintro x hx
      cases hx
      refine ⟨_, ifaceEntry_set_self ?_ _ _ _, rfl⟩
      rw [Readiness.getRouterStatus_setInterface, if_pos rfl, Option.isSome_map]
      exact hr

/-- The entry of a router stays while its interfaces are worked on. -/
theorem isSome_of_routerID {name : String}
    (hsame : (c'.status.getRouterStatus name).map (·.routerID) =
      (c.status.getRouterStatus name).map (·.routerID))
    (hr : (c.status.getRouterStatus name).isSome) : (c'.status.getRouterStatus name).isSome := by
  rw [← Option.isSome_map (f := (·.routerID)), hsame, Option.isSome_map]
  exact hr

/-- By induction on the interfaces: what is attached for the first one is in the entry of its
network, which the rest of the loop is not about. -/
theorem reconcileInterfaces_records (router : Router) (ifaces : List RouterInterfaceSpec)
    (hkeys : (ifaces.map (·.network)).Nodup) :
    ∀ c h, (c.status.getRouterStatus r.name).isSome → (history fun _ _ => True).wpc
      (fun _ c' h' => New (Noted madeBy fun x => ∃ network, InterfaceRef r.name network c' x) h h')
      (reconcileInterfaces r router ifaces) c h := by
  induction ifaces with
  | nil => exact fun c h _ => .refl _ h
  | cons iface rest ih =>
      intro c h hr
      obtain ⟨hnew, hrest⟩ := List.nodup_cons.mp hkeys
      have hnext (c₁ : CloudscaleCluster) (h₁ : Trace)
          (hsame : (c₁.status.getRouterStatus r.name).map (·.routerID) =
            (c.status.getRouterStatus r.name).map (·.routerID)) :=
        ih hrest c₁ h₁ (isSome_of_routerID hsame hr)
      -- adopting and claiming take no call
      have hquiet {m : ClusterM Unit}
          (hm : Frame (fun c => (c.status.getRouterStatus r.name).map (·.routerID))
            (fun _ => False) m) :
          (history fun _ _ => True).wpc (fun _ c' h' =>
              New (Noted madeBy fun x => ∃ network, InterfaceRef r.name network c' x) h h')
            (m >>= fun _ => reconcileInterfaces r router rest) c h := by
        refine wpc_seq (hm.wpc_new c h) ?_
        rintro (err | _) c₁ h₁ ⟨hsame, hnone⟩
        · exact hnone.mono fun _ => False.elim
        · rw [after_ok]
          refine wpc_imp (hnext c₁ h₁ hsame) ?_
          exact fun _ _ _ hlog => (hnone.mono fun _ => False.elim).trans hlog
      rw [reconcileInterfaces, wpc_read_bind]
      cases hns : c.status.getNetworkStatus iface.network with
      | none => exact .refl _ h
      | some ns =>
          have hname : ns.name = iface.network := name_of_getNetworkStatus hns
          rw [wpc_ite]
          split
          · exact hquiet (adoptRouterInterface_frame (routerID_setInterface _) _ _)
          cases liveByNetwork router.interfaces ns.networkID with
          | some live => exact hquiet (claimRouterInterface_frame (routerID_setInterface _) _ _)
          | none =>
              refine wpc_seq (wpc_and (createRouterInterface_records hr)
                ((createRouterInterface_frame
                  (f := fun c => (c.status.getRouterStatus r.name).map (·.routerID))
                  (routerID_setInterface _) router iface).wpc c h)) ?_
              rintro out c₁ h₁ ⟨hlog, hsame⟩
              have hown :
                  New (Noted madeBy fun x => ∃ network, InterfaceRef r.name network c₁ x) h h₁ :=
                hlog.mono (Noted.mono fun x hx => ⟨ns.name, hx⟩)
              cases out with
              | error err => exact hown
              | ok result =>
                  rw [after_ok, wpc_ite]
                  split
                  · have hothers : Frame (fun c => ifaceEntry c r.name ns.name) (About .router)
                        (reconcileInterfaces r router rest) := by
                      refine reconcileInterfaces_frame router rest fun i hi id managed c => ?_
                      refine ifaceEntry_set_of_ne (fun heq => hnew ?_) id managed c
                      exact List.mem_map.mpr ⟨i, hi, heq.symm.trans hname⟩
                    refine wpc_imp (wpc_and (hnext c₁ h₁ hsame) (hothers.wpc c₁ h₁)) ?_
                    rintro _ c' h' ⟨hlater, hentry⟩
                    refine New.trans (hlog.mono (Noted.mono ?_)) hlater
                    rintro x ⟨i, hi, hx⟩
                    exact ⟨ns.name, i, hentry.trans hi, hx⟩
                  · exact hown

/-! ## Routers -/

/-- What a router that was found or created is recorded as. -/
theorem recordRouter_records (hkeys : (r.interfaces.map (·.network)).Nodup) (router : Router) :
    (history fun _ _ => True).wpc (fun _ c' h' =>
        RouterIDRef r.name c' (.resource .router router.uuid) ∧
          New (Noted madeBy (RouterRef r.name c')) h h')
      (recordRouter r router) c h := by
  rw [recordRouter, wpc_update_bind, wpc_ite]
  have hset := Readiness.getRouterStatus_setRouter r router.uuid c r.name
  rw [if_pos rfl] at hset
  have hid : RouterIDRef r.name (setRouterStatus r router.uuid c)
      (.resource .router router.uuid) := by
    refine ⟨_, hset, ?_⟩
    cases c.status.getRouterStatus r.name <;> rfl
  split
  · exact ⟨hid, .refl _ h⟩
  · rw [reconcileRouterInterfaces, wpc_read_bind, hset]
    have hkeep := reconcileInterfaces_frame
      (f := fun c => (c.status.getRouterStatus r.name).map (·.routerID))
      router r.interfaces fun i _ => routerID_setInterface i.network
    refine wpc_imp
      (wpc_and (reconcileInterfaces_records router r.interfaces hkeys _ h (by rw [hset]; rfl))
      (hkeep.wpc _ h)) ?_
    rintro _ c' h' ⟨hlog, hsame⟩
    refine ⟨?_, hlog.mono (Noted.mono fun x hx => .inr hx)⟩
    obtain ⟨rs, hrs, hx⟩ := hid
    have hrs' := (congrArg (Option.map (·.routerID)) hrs :)
    rw [← hsame] at hrs'
    obtain ⟨rs', hrs', heq⟩ := Option.map_eq_some_iff.mp hrs'
    exact ⟨rs', hrs', hx.trans (congrArg _ heq.symm)⟩

/-- What has been made on the way to a router is that router. -/
def RouterMade : Except GoError (Except Result Router) → Made → Prop
  | .ok (.ok router), x => x = .resource .router router.uuid
  | _, _ => False

theorem ensureManagedRouter_makes (cluster : Cluster) :
    (history fun _ _ => True).wpc (fun out _ h' => New (Noted madeBy (RouterMade out)) h h')
      (ensureManagedRouter cluster r) c h := by
  rw [ensureManagedRouter, wpc_read_bind]
  refine wpc_seq (wpc_wrapped ((ensureResource_lookups (f := id) (k := .router) _ _ _).wpc_new c h)
    fun _ _ _ => id) ?_
  rintro out c₁ h₁ ⟨-, hlookups⟩
  have hcreate : (history fun _ _ => True).wpc
    (fun out _ h' => New (Noted madeBy (RouterMade out)) h h')
      (ensureManagedRouter.createRouter r c (routerTags cluster r.name)) c₁ h₁ := by
    rw [ensureManagedRouter.createRouter]
    refine wpc_imp (createResource_ends (k := .router)) ?_
    rintro out _ _ ⟨rfl, reply, -, rfl, hends⟩
    refine (noted_of_lookups hlookups _).trans (.snoc ?_ h₁)
    rintro x hx
    cases reply with
    | error err => cases hx
    | ok router =>
        obtain rfl := hends
        cases hx
        rfl
  rcases out with err | ⟨_ | router, id⟩
  · exact noted_of_lookups hlookups _
  · exact hcreate
  · simp only [after_ok, wpc_ite]
    split
    · exact noted_of_lookups hlookups _
    · exact hcreate

theorem reconcileRouter_records (cluster : Cluster) (hkeys : (r.interfaces.map (·.network)).Nodup) :
    (history fun _ _ => True).wpc (fun _ c' h' => New (Noted madeBy (RouterRef r.name c')) h h')
      (reconcileRouter cluster r) c h := by
  -- what comes before is nothing, or the router that is recorded
  have hrecord {router : Router} {c₁ : CloudscaleCluster} {h₁ : Trace}
      (hmade : New (Noted madeBy (· = .resource .router router.uuid)) h h₁) :
      (history fun _ _ => True).wpc (fun _ c' h' => New (Noted madeBy (RouterRef r.name c')) h h')
        (recordRouter r router) c₁ h₁ := by
    refine wpc_imp (recordRouter_records hkeys router) ?_
    rintro _ c' h' ⟨hid, hlog⟩
    refine New.trans (hmade.mono (Noted.mono ?_)) hlog
    rintro x rfl
    exact .inl hid
  rw [reconcileRouter, wpc_ite]
  split
  · refine wpc_seq
      ((adoptRouter_within (f := id) (P := IsLookup) r fun _ => trivial).wpc_new c h) ?_
    rintro (err | router) c₁ h₁ ⟨-, hlookups⟩
    · exact noted_of_lookups hlookups _
    · exact hrecord (noted_of_lookups hlookups _)
  · refine wpc_seq (ensureManagedRouter_makes cluster) ?_
    rintro (err | result | router) c₁ h₁ hmade
    · exact hmade.mono (Noted.mono fun _ => False.elim)
    · exact hmade.mono (Noted.mono fun _ => False.elim)
    · exact hrecord hmade

/-- By induction on the routers: the entry of the first one is not touched by the rest. -/
theorem reconcileEachRouter_records (cluster : Cluster) (rs : List RouterSpec)
    (hnames : (rs.map (·.name)).Nodup) (hkeys : ∀ r ∈ rs, (r.interfaces.map (·.network)).Nodup) :
    ∀ result c h, (history fun _ _ => True).wpc
      (fun _ c' h' => New (Noted madeBy fun x => ∃ name, RouterRef name c' x) h h')
      (reconcileEachRouter cluster result rs) c h := by
  induction rs with
  | nil => exact fun _ c h => .refl _ h
  | cons r rest ih =>
      intro result c h
      obtain ⟨hnew, hrest⟩ := List.nodup_cons.mp hnames
      rw [reconcileEachRouter]
      refine wpc_seq (wpc_wrapped (reconcileRouter_records cluster (hkeys r List.mem_cons_self))
        fun _ _ _ => id) ?_
      rintro (err | res) c₁ h₁ hlog
      · exact hlog.mono (Noted.mono fun x hx => ⟨r.name, hx⟩)
      -- the rest of the loop leaves the entry of `r` as it is
      · have hothers : Frame (fun c => c.status.getRouterStatus r.name) (About .router)
            (reconcileEachRouter cluster (lowerResult result res) rest) := by
          refine reconcileEachRouter_frame cluster rest (fun r' hr' => ?_) _
          have hne : r.name ≠ r'.name := fun heq => hnew (List.mem_map.mpr ⟨r', hr', heq.symm⟩)
          refine ⟨fun id c => ?_, fun network id managed c => ?_⟩
          · exact (Readiness.getRouterStatus_setRouter r' id c r.name).trans (if_neg hne)
          · exact (Readiness.getRouterStatus_setInterface r'.name network id managed c r.name).trans
              (if_neg hne)
        rw [after_ok]
        refine wpc_imp
          (wpc_and (ih hrest (fun r' hr' => hkeys r' (List.mem_cons_of_mem _ hr')) _ c₁ h₁)
          (hothers.wpc c₁ h₁)) ?_
        rintro _ c' h' ⟨hlater, hentry⟩
        refine New.trans (hlog.mono (Noted.mono fun x hx => ⟨r.name, ?_⟩)) hlater
        rcases hx with ⟨rs, hrs, hx⟩ | ⟨network, i, hi, hx⟩
        · exact .inl ⟨rs, hentry.trans hrs, hx⟩
        · exact .inr ⟨network, i, by rw [ifaceEntry, hentry]; exact hi, hx⟩

/-- The router step of a cluster whose keys are unique. -/
theorem reconcileRouters_records (cluster : Cluster) (hkeys : Webhook.UniqueKeys c.spec) :
    (history fun _ _ => True).wpc (fun _ c' h' => New (Noted madeBy (Referenced c')) h h')
      (reconcileRouters cluster) c h := by
  rw [reconcileRouters, wpc_deferred, wpc_read_bind]
  refine wpc_imp (reconcileEachRouter_records cluster c.spec.routers hkeys.1 hkeys.2 _ c h) ?_
  intro out c' h' hlog
  refine hlog.mono (Noted.mono ?_)
  rintro x ⟨name, hx⟩
  have hx := hx.referenced
  cases out with
  | error err => exact hx.setCondition _ _ _ _
  | ok result =>
      rw [setRouterReady]
      split_ifs <;> exact hx.setCondition _ _ _ _

end Capcs.Records
