import Capcs.Cloudscale.Simulator
import Capcs.Interfaces.Claims
import Capcs.Webhook.Admission

/-!
# Capcs.Interfaces.Recognition — own interfaces on a router of the user

A normal pass gets to a router that the user has brought along, with the interfaces it asks for
already attached. The loop over the interfaces then makes no call at all: it adopts those with a
`uuid`, and claims the others if the router's entry knows their networks. So what decides is the
status the pass has started with (`recognised_iff`), and once that is lost the controller refuses
its own interfaces as somebody else's (`attachment_refused`).
-/

namespace Capcs.Interfaces

open Cloudscale Controller Webhook
open Readiness (CallEvent Trace)
open Interaction (Proc Program Frame)

variable {c c₀ c' : CloudscaleCluster} {r : RouterSpec} {router : Router}

/-! ## Entries of interfaces -/

/-- The entry for a network in the entry of a router. -/
def ifaceEntry (c : CloudscaleCluster) (routerName network : String) :
    Option RouterInterfaceStatus :=
  (c.status.getRouterStatus routerName).bind (·.getInterfaceStatus network)

theorem getInterfaceStatus_upsert (network id : String) (managed : Bool) (rs : RouterStatus)
    (other : String) : (upsertInterface network id managed rs).getInterfaceStatus other =
      if other = network then some { network, interfaceID := id, managed }
      else rs.getInterfaceStatus other := by
  by_cases hother : other = network
  · subst hother
    have hfind := Keyed.find?_upsertFirst_self
      (p := fun i : RouterInterfaceStatus => decide (i.network = other))
      (f := fun i => { i with interfaceID := id, managed })
      (e := { network := other, interfaceID := id, managed }) (fun _ hp => hp)
        (by simp) rs.interfaces
    rw [if_pos rfl]
    refine hfind.trans ?_
    cases hold : rs.interfaces.find? fun i => decide (i.network = other) with
    | none => rfl
    | some i =>
        have hnet : i.network = other := by simpa using List.find?_some hold
        simp [hnet]
  · rw [if_neg hother]
    refine Keyed.find?_upsertFirst_of_disjoint ?_ (by simpa using Ne.symm hother) rs.interfaces
    intro i hi
    have hnet : i.network = network := by simpa using hi
    simp [hnet, Ne.symm hother]

/-- The router has an entry, and it is not the controller's. -/
def Adopted (r : RouterSpec) (c : CloudscaleCluster) : Prop :=
  ∃ rs, c.status.getRouterStatus r.name = some rs ∧ rs.managed = false

theorem Adopted.set (hc : Adopted r c) (network id : String) (managed : Bool) :
    Adopted r (setRouterInterfaceStatus r.name network id managed c) := by
  obtain ⟨rs, hrs, hm⟩ := hc
  refine ⟨upsertInterface network id managed rs, ?_, hm⟩
  rw [Readiness.getRouterStatus_setInterface, if_pos rfl, hrs]
  rfl

theorem ifaceEntry_set (hc : Adopted r c) (network id : String) (managed : Bool) (other : String) :
    ifaceEntry (setRouterInterfaceStatus r.name network id managed c) r.name other =
      if other = network then some { network, interfaceID := id, managed }
      else ifaceEntry c r.name other := by
  obtain ⟨rs, hrs, -⟩ := hc
  rw [ifaceEntry, Readiness.getRouterStatus_setInterface, if_pos rfl, ifaceEntry, hrs]
  exact getInterfaceStatus_upsert network id managed rs other

/-! ## The loop over the interfaces -/

/-- The live interface that an interface of the spec stands for. -/
def liveFor (router : Router) (c : CloudscaleCluster) (i : RouterInterfaceSpec) :
    Option RouterInterface :=
  (c.status.getNetworkStatus i.network).bind fun ns =>
    if i.uuid = "" then liveByNetwork router.interfaces ns.networkID
    else (liveByUUID router.interfaces i.uuid).filter (·.network = ns.networkID)

/-- The entry of an interface that is adopted or claimed. -/
def entryFor (i : RouterInterfaceSpec) (live : RouterInterface) : RouterInterfaceStatus :=
  { network := i.network, interfaceID := live.uuid, managed := i.uuid = "" }

/-- An interface that is to be adopted, or is known. -/
theorem reconcileInterfaces_known {i : RouterInterfaceSpec} {live : RouterInterface}
    (hc : Adopted r c) (hlive : liveFor router c i = some live)
    (hknown : i.uuid = "" → (ifaceEntry c r.name i.network).isSome)
    (rest : List RouterInterfaceSpec) :
    (reconcileInterfaces r router (i :: rest)).exec c = (reconcileInterfaces r router rest).exec
      (setRouterInterfaceStatus r.name i.network live.uuid (i.uuid = "") c) := by
  obtain ⟨ns, hns, hlive⟩ := Option.bind_eq_some_iff.mp hlive
  have hname := name_of_getNetworkStatus hns
  rw [reconcileInterfaces, Proc.exec_read_bind, hns]
  by_cases hu : i.uuid = ""
  · -- an interface of the controller's own
    rw [if_pos hu] at hlive
    obtain ⟨rs, hrs, hm⟩ := hc
    obtain ⟨e, he⟩ := Option.isSome_iff_exists.mp (hknown hu)
    have he : rs.getInterfaceStatus ns.name = some e := by
      rw [hname, ← he, ifaceEntry, hrs]
      rfl
    simp only [hu, ne_eq, not_true, if_false, hlive, claimRouterInterface, bind_assoc]
    rw [Proc.exec_read_bind, if_neg (by simp [hrs, he]), Proc.exec_update_bind, hname]
    rfl
  · rw [if_neg hu] at hlive
    obtain ⟨hfound, hnet⟩ := Option.filter_eq_some_iff.mp hlive
    have hnet : live.network = ns.networkID := by simpa using hnet
    simp only [ne_eq, hu, not_false_eq_true, if_true, adoptRouterInterface, hfound, hnet, not_true,
      if_false]
    rw [Proc.exec_update_bind, hname]
    rfl

/-- An interface of the controller's own that is not known. -/
theorem reconcileInterfaces_refused {i : RouterInterfaceSpec} {live : RouterInterface}
    (hc : Adopted r c) (hlive : liveFor router c i = some live) (hu : i.uuid = "")
    (hunknown : ifaceEntry c r.name i.network = none) (rest : List RouterInterfaceSpec) :
    ∃ err, (reconcileInterfaces r router (i :: rest)).exec c = .ret (.error err, c) := by
  obtain ⟨ns, hns, hlive⟩ := Option.bind_eq_some_iff.mp hlive
  have hname := name_of_getNetworkStatus hns
  rw [if_pos hu] at hlive
  obtain ⟨rs, hrs, hm⟩ := hc
  have hnone : rs.getInterfaceStatus ns.name = none := by
    rw [ifaceEntry, hrs] at hunknown
    rw [hname]
    exact hunknown
  rw [reconcileInterfaces, Proc.exec_read_bind, hns]
  simp only [hu, ne_eq, not_true, if_false, hlive, claimRouterInterface, bind_assoc]
  rw [Proc.exec_read_bind, if_pos (by simp [hrs, hnone, hm]), Proc.exec_fail_bind]
  exact ⟨_, rfl⟩

/-- All of them are adopted or known. -/
theorem reconcileInterfaces_all (ifaces : List RouterInterfaceSpec)
    (hnodup : (ifaces.map (·.network)).Nodup) : ∀ c, Adopted r c →
    (∀ i ∈ ifaces, (liveFor router c i).isSome) →
    (∀ i ∈ ifaces, i.uuid = "" → (ifaceEntry c r.name i.network).isSome) →
    ∃ c', (reconcileInterfaces r router ifaces).exec c = .ret (.ok {}, c') ∧
      (∀ i ∈ ifaces, ∀ live, liveFor router c i = some live →
        ifaceEntry c' r.name i.network = some (entryFor i live)) ∧
      ∀ network, network ∉ ifaces.map (·.network) →
        ifaceEntry c' r.name network = ifaceEntry c r.name network := by
  induction ifaces with
  | nil => exact fun c _ _ _ => ⟨c, rfl, by simp, fun _ _ => rfl⟩
  | cons i rest ih =>
      intro c hc hlive hknown
      obtain ⟨hnew, hnodup⟩ := List.nodup_cons.mp hnodup
      obtain ⟨live, hi⟩ := Option.isSome_iff_exists.mp (hlive i (by simp))
      have hother (j : RouterInterfaceSpec) (hj : j ∈ rest) : j.network ≠ i.network :=
        fun heq => hnew (List.mem_map.mpr ⟨j, hj, heq⟩)
      obtain ⟨c', hrun, hall, hrest⟩ := ih hnodup
        (setRouterInterfaceStatus r.name i.network live.uuid (i.uuid = "") c) (hc.set _ _ _)
        (fun j hj => hlive j (by simp [hj])) fun j hj hu => by
          rw [ifaceEntry_set hc, if_neg (hother j hj)]
          exact hknown j (by simp [hj]) hu
      refine ⟨c', ?_, ?_, ?_⟩
      · rw [reconcileInterfaces_known hc hi (hknown i (by simp)), hrun]
      · intro j hj lj hlj
        rcases List.mem_cons.mp hj with rfl | hj
        · -- the later ones write entries of other networks
          rw [hrest _ hnew, ifaceEntry_set hc, if_pos rfl]
          rw [hi] at hlj
          cases hlj
          rfl
        · exact hall j hj lj hlj
      · intro network hnetwork
        simp only [List.map_cons, List.mem_cons, not_or] at hnetwork
        rw [hrest network hnetwork.2, ifaceEntry_set hc, if_neg hnetwork.1]

/-- One of them is neither. -/
theorem reconcileInterfaces_one (ifaces : List RouterInterfaceSpec)
    (hnodup : (ifaces.map (·.network)).Nodup) : ∀ c, Adopted r c →
    (∀ i ∈ ifaces, (liveFor router c i).isSome) →
    (∃ i ∈ ifaces, i.uuid = "" ∧ ifaceEntry c r.name i.network = none) →
    ∃ err c', (reconcileInterfaces r router ifaces).exec c = .ret (.error err, c') := by
  induction ifaces with
  | nil => rintro c _ _ ⟨i, hi, -⟩; cases hi
  | cons i rest ih =>
      rintro c hc hlive ⟨j, hj, hu, hnone⟩
      obtain ⟨hnew, hnodup⟩ := List.nodup_cons.mp hnodup
      obtain ⟨live, hi⟩ := Option.isSome_iff_exists.mp (hlive i (by simp))
      by_cases hfirst : i.uuid = "" ∧ ifaceEntry c r.name i.network = none
      · obtain ⟨err, hrun⟩ := reconcileInterfaces_refused hc hi hfirst.1 hfirst.2 rest
        exact ⟨err, c, hrun⟩
      · -- the first is fine, so it is a later one
        have hj : j ∈ rest := by
          rcases List.mem_cons.mp hj with rfl | hj
          · exact absurd ⟨hu, hnone⟩ hfirst
          · exact hj
        have hne : j.network ≠ i.network := fun heq => hnew (List.mem_map.mpr ⟨j, hj, heq⟩)
        have hknown (hu : i.uuid = "") : (ifaceEntry c r.name i.network).isSome :=
          Option.isSome_iff_ne_none.mpr fun hnone => hfirst ⟨hu, hnone⟩
        rw [reconcileInterfaces_known hc hi hknown]
        refine ih hnodup _ (hc.set _ _ _) (fun j hj => hlive j (by simp [hj])) ⟨j, hj, hu, ?_⟩
        rw [ifaceEntry_set hc, if_neg hne]
        exact hnone

/-! ## A router in a pass -/

/-- A pass that starts from `c₀` gets to a router of the spec in state `c`: the network step is
through, and so are the routers before. -/
def Reaches (cluster : Cluster) (c₀ : CloudscaleCluster) (r : RouterSpec) (c : CloudscaleCluster) :
    Prop :=
  ∃ tr₁ result c₁ before later tr₂ sofar,
    ((reconcileNetwork cluster).exec c₀).Runs tr₁ (.ok result, c₁) ∧ result.isZero = true ∧
    c₀.spec.routers = before ++ r :: later ∧
    ((reconcileEachRouter cluster {} before).exec c₁).Runs tr₂ (.ok sofar, c)

theorem blind_other {r' : RouterSpec} (hne : r'.name ≠ r.name) :
    Blind r' fun c : CloudscaleCluster => c.status.getRouterStatus r.name := by
  constructor
  · intro id c
    rw [Readiness.getRouterStatus_setRouter, if_neg hne.symm]
  · intro network id managed c
    rw [Readiness.getRouterStatus_setInterface, if_neg hne.symm]

/-- Up to there, the entry of the router is as it was. -/
theorem Reaches.entry {cluster : Cluster} (hkeys : UniqueKeys c₀.spec)
    (h : Reaches cluster c₀ r c) :
    c.status.getRouterStatus r.name = c₀.status.getRouterStatus r.name := by
  obtain ⟨tr₁, result, c₁, before, later, tr₂, sofar, hnet, -, hsplit, hrouters⟩ := h
  have hfirst : c₁.status.routers = c₀.status.routers :=
    congrArg (·.status.routers) ((reconcileNetwork_frame cluster).runs hnet).1
  have hne (r' : RouterSpec) (hr' : r' ∈ before) : r'.name ≠ r.name := by
    have hnodup := hkeys.1
    rw [hsplit, List.map_append, List.map_cons] at hnodup
    exact (List.nodup_append.mp hnodup).2.2 _ (List.mem_map_of_mem hr') _ (by simp)
  have hsame := ((reconcileEachRouter_frame cluster before (fun r' hr' => blind_other (hne r' hr'))
    {}).runs hrouters).1
  exact hsame.trans (by rw [CloudscaleClusterStatus.getRouterStatus, hfirst]; rfl)

theorem Reaches.mem {cluster : Cluster} (h : Reaches cluster c₀ r c) : r ∈ c₀.spec.routers := by
  obtain ⟨_, _, _, before, later, _, _, -, -, hsplit, -⟩ := h
  rw [hsplit]
  simp

/-- The router as the API shows it: it is up, and has an interface for each that is asked for. -/
structure AllAttached (r : RouterSpec) (router : Router) (c : CloudscaleCluster) : Prop where
  zone : router.zone = c.spec.zone
  active : router.status = routerActive
  live : ∀ i ∈ r.interfaces, (liveFor router c i).isSome

/-- The work on a router recognises the controller's own interfaces: it succeeds, attaches nothing,
and records them with their UUIDs as managed. -/
structure Recognises (r : RouterSpec) (router : Router) (c : CloudscaleCluster) (tr : Trace)
    (out : Except GoError Result) (c' : CloudscaleCluster) : Prop where
  ok : ∃ result, out = .ok result
  quiet : ∀ e ∈ tr, ∀ id req, e.op ≠ .createInterface id req
  recorded : ∀ i ∈ r.interfaces, i.uuid = "" → ∀ live, liveFor router c i = some live →
    ifaceEntry c' r.name i.network = some
      { network := i.network, interfaceID := live.uuid, managed := true }

theorem recordRouter_active (hactive : router.status = routerActive) :
    (recordRouter r router).exec c =
      (reconcileInterfaces r router r.interfaces).exec (setRouterStatus r router.uuid c) := by
  obtain ⟨rs, hthere⟩ : ∃ rs, (setRouterStatus r router.uuid c).status.getRouterStatus r.name =
      some rs := ⟨_, by rw [Readiness.getRouterStatus_setRouter, if_pos rfl]⟩
  rw [recordRouter, Proc.exec_update_bind, if_neg (by simp [hactive]), reconcileRouterInterfaces,
    Proc.exec_read_bind, hthere]

/-- What the work on a router comes down to, once the API has shown it. -/
theorem runs_reconcileRouter {cluster : Cluster} {tr : Trace} {out : Except GoError Result}
    (hu : r.uuid ≠ "") (hatt : AllAttached r router c) :
    ((reconcileRouter cluster r).exec c).Runs (⟨.get .router r.uuid, .ok router⟩ :: tr) (out, c') ↔
      ((reconcileInterfaces r router r.interfaces).exec (setRouterStatus r router.uuid c)).Runs tr
        (out, c') := by
  have hshown : ((if router.zone ≠ c.spec.zone then
      Proc.fail (errorf ("pre-existing router " ++ r.uuid ++ " is in zone " ++ quote router.zone ++
        ", expected zone " ++ quote c.spec.zone))
    else pure router : ClusterM Router) >>= recordRouter r).exec
      c = (recordRouter r router).exec c := by
    rw [if_neg (by simp [hatt.zone])]
    rfl
  rw [reconcileRouter, if_pos hu, adoptRouter, ← recordRouter_active hatt.active, ← hshown]
  constructor
  · intro hrun
    cases hrun with
    | call hrun => exact hrun
  · exact fun hrun => .call hrun

theorem adopted_setRouter (hu : r.uuid ≠ "") (id : String) (c : CloudscaleCluster) :
    Adopted r (setRouterStatus r id c) := by
  refine ⟨_, by rw [Readiness.getRouterStatus_setRouter, if_pos rfl], ?_⟩
  cases c.status.getRouterStatus r.name <;> simp [hu]

theorem ifaceEntry_setRouter (id : String) (c : CloudscaleCluster) (network : String) :
    ifaceEntry (setRouterStatus r id c) r.name network = ifaceEntry c r.name network := by
  rw [ifaceEntry, Readiness.getRouterStatus_setRouter, if_pos rfl, ifaceEntry]
  cases c.status.getRouterStatus r.name <;> rfl

/-- A pass over a cluster that gets to one of the user's routers and finds all interfaces that it
asks for attached: it recognises the controller's own exactly if the status it has started from
has an entry for each of them. -/
theorem recognised_iff {cluster : Cluster} {tr : Trace} {out : Except GoError Result}
    (hkeys : UniqueKeys c₀.spec) (hu : r.uuid ≠ "") (hreach : Reaches cluster c₀ r c)
    (hatt : AllAttached r router c)
    (hrun : ((reconcileRouter cluster r).exec c).Runs
      (⟨.get .router r.uuid, .ok router⟩ :: tr) (out, c')) :
    Recognises r router c (⟨.get .router r.uuid, .ok router⟩ :: tr) out c' ↔
      ∀ i ∈ r.interfaces, i.uuid = "" → (ifaceEntry c₀ r.name i.network).isSome := by
  have hsame (network : String) : ifaceEntry (setRouterStatus r router.uuid c) r.name network =
      ifaceEntry c₀ r.name network := by
    rw [ifaceEntry_setRouter, ifaceEntry, hreach.entry hkeys, ifaceEntry]
  have hnodup := hkeys.2 r hreach.mem
  have hadopted := adopted_setRouter hu router.uuid c
  have hrun := (runs_reconcileRouter hu hatt).mp hrun
  constructor
  · intro hrec i hi hown
    by_contra hunknown
    -- then the loop stops there
    have hnone : ifaceEntry (setRouterStatus r router.uuid c) r.name i.network = none := by
      rw [hsame]
      exact Option.not_isSome_iff_eq_none.mp hunknown
    obtain ⟨err, c'', hexec⟩ := reconcileInterfaces_one r.interfaces hnodup _ hadopted hatt.live
      ⟨i, hi, hown, hnone⟩
    rw [hexec] at hrun
    cases hrun
    obtain ⟨result, hok⟩ := hrec.ok
    cases hok
  · intro hknown
    obtain ⟨c'', hexec, hall, -⟩ := reconcileInterfaces_all r.interfaces hnodup _ hadopted hatt.live
      fun i hi hown => hsame i.network ▸ hknown i hi hown
    rw [hexec] at hrun
    cases hrun
    refine ⟨⟨{}, rfl⟩, ?_, fun i hi hown live hlive => ?_⟩
    · intro e he id req hop
      rw [List.mem_singleton.mp he] at hop
      cases hop
    · rw [hall i hi live hlive, entryFor, decide_eq_true hown]

/-! ## A lost status -/

/-- The interfaces of a router of the user that is to be attached to one network. -/
def broughtRouter : RouterSpec :=
  { name := "r", uuid := "r", interfaces := [{ network := "net", address := "10.0.0.1" }] }

/-- A cluster with that router, an existing network, and no load balancer. -/
def broughtCluster : CloudscaleCluster :=
  clusterDefault oneRegion
    { metadata := { name := "c", ns := "default" }
      spec := { region := "rma", networks := [{ name := "net", uuid := "n" }], routers :=
        [broughtRouter]
                controlPlaneLoadBalancer := { enabled := some false }
                controlPlaneEndpoint := { host := "10.0.0.9", port := 6443 } } }

/-- The interface that an attach leads to. -/
def ownIface : RouterInterface := { uuid := "i", network := "n" }

/-- The router, with some interfaces. -/
def shownRouter (ifaces : List RouterInterface) : Router :=
  { uuid := "r", zone := "rma1", status := routerActive, interfaces := ifaces }

/-- A project with the network and the router, where attaching works. -/
def broughtReply (ifaces : List RouterInterface) : (op : Op) → op.Reply
  | .get .network id =>
      .ok { uuid := id, zone := "rma1", subnets := [{ uuid := "s", cidr := "10.0.0.0/24" }] }
  | .get .router _ => .ok (shownRouter ifaces)
  | .createInterface _ _ => .ok ownIface
  | op => emptyReply op

/-- A pass over the cluster in that project. -/
def broughtPass (c : CloudscaleCluster) (ifaces : List RouterInterface) :
    Trace × Except GoError Result × CloudscaleCluster :=
  (reconcileNormal { name := "c", ns := "default" }).record (broughtReply ifaces) c

/-- Whether a call is an attach. -/
def isAttach (e : CallEvent) : Bool :=
  match e.op with
  | .createInterface _ _ => true
  | _ => false

/-- The cluster with the status of the attaching pass. -/
def remembered : CloudscaleCluster :=
  { broughtCluster with status := (broughtPass broughtCluster []).2.2.status }

theorem reaches_first {cluster : Cluster} {later : List RouterSpec} {reply : (op : Op) → op.Reply}
    (hsplit : c₀.spec.routers = r :: later)
    (hout : ((reconcileNetwork cluster).record reply c₀).2.1 = .ok {}) :
    Reaches cluster c₀ r ((reconcileNetwork cluster).record reply c₀).2.2 := by
  have hrun := Proc.runs_record reply (reconcileNetwork cluster) c₀
  rw [hout] at hrun
  exact ⟨_, {}, _, [], later, [], {}, hrun, rfl, hsplit, .ret _⟩

/-- The state in which a pass with that status gets to the router. -/
def atRouter : CloudscaleCluster :=
  ((reconcileNetwork { name := "c", ns := "default" }).record
    (broughtReply [ownIface]) remembered).2.2

/-- With its status the controller knows the interface as its own. -/
theorem recognised_iff_remembered : ∃ tr out c', Recognises broughtRouter (shownRouter [ownIface])
    atRouter tr out c' ∧
      ifaceEntry c' "r" "net" = some { network := "net", interfaceID := "i", managed := true } := by
  have hreach : Reaches { name := "c", ns := "default" } remembered broughtRouter atRouter :=
    reaches_first rfl (by decide +kernel)
  have hatt : AllAttached broughtRouter (shownRouter [ownIface]) atRouter :=
    ⟨by decide +kernel, rfl, by decide +kernel⟩
  have hkeys : UniqueKeys remembered.spec := by decide
  have hknown : ∀ i ∈ broughtRouter.interfaces, i.uuid = "" →
      (ifaceEntry remembered broughtRouter.name i.network).isSome := by decide +kernel
  obtain ⟨c', hexec, -⟩ := reconcileInterfaces_all broughtRouter.interfaces (by decide)
    (setRouterStatus broughtRouter "r" atRouter) (adopted_setRouter (by decide) _ _) hatt.live
    (by decide +kernel)
  have hrun : ((reconcileRouter { name := "c", ns := "default" } broughtRouter).exec atRouter).Runs
      [⟨.get .router "r", .ok (shownRouter [ownIface])⟩] (.ok {}, c') := by
    refine (runs_reconcileRouter (by decide) hatt).mpr ?_
    exact hexec ▸ .ret _
  have hrec := (recognised_iff hkeys (by decide) hreach hatt hrun).mpr hknown
  refine ⟨_, _, c', hrec, ?_⟩
  exact hrec.recorded _ (List.mem_singleton.mpr rfl) rfl ownIface (by decide +kernel)

/-- A pass attaches its interface and runs to its end. Its status is lost, and the next pass, over
the same object and the router with that interface, fails. -/
theorem attachment_refused :
    UniqueKeys broughtCluster.spec ∧ (clusterValidateCreate oneRegion broughtCluster).Accepted ∧
    broughtCluster.status = {} ∧
    (broughtPass broughtCluster []).2.1.isOk = true ∧
    (broughtPass broughtCluster []).1.any isAttach = true ∧
    (broughtPass broughtCluster [ownIface]).2.1.isOk = false := by
  refine ⟨by decide, by decide, rfl, by decide +kernel, by decide +kernel, by decide +kernel⟩

end Capcs.Interfaces
