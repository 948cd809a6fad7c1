import Capcs.Steady.Networks
import Capcs.Interfaces.Recognition

/-!
# Capcs.Steady.Routers — routers that are settled

`RouterSettled c P r`: the router `r` of the spec is in the project, and each of its interfaces is
recorded under the UUID of the live interface that the next pass would pick for it. The router
step settles every router of the spec if it ends well (`reconcileRouters_settles`), and over a
project in which they are settled it only looks (`reconcileRouters_looks`).

The loop over the interfaces works with the router as it was read before the loop, while the
router itself gets longer with every attach. `RouterAt` relates the two.
-/

namespace Capcs.Steady

open Cloudscale Controller
open Readiness (getRouterStatus_setInterface getRouterStatus_setRouter mem_of_liveByUUID
  mem_of_liveByNetwork lowerResult_isZero)
open Interfaces (getInterfaceStatus_upsert)
open Interaction (Proc)
open Interaction.Contract

variable {machines : List CloudscaleMachine} {P P' : Project} {c c' c'' : CloudscaleCluster}
  {cluster : Cluster} {r : RouterSpec} {rs : RouterStatus} {x router : Router}

/-! ## Live interfaces -/

/-- Interfaces that are attached later do not hide those that are there. -/
theorem getLast?_filter_append {α : Type} {p : α → Bool} {l more : List α}
    (h : ∀ a ∈ more, p a = false) : ((l ++ more).filter p).getLast? = (l.filter p).getLast? := by
  have hnone : more.filter p = [] := List.filter_eq_nil_iff.mpr fun a ha => by simp [h a ha]
  rw [List.filter_append, hnone, List.append_nil]

/-- The live interface that the pass picks for an interface of the spec. -/
def Picks (x : Router) (i : RouterInterfaceSpec) (ns : NetworkStatus) (live : RouterInterface) :
    Prop :=
  if i.uuid ≠ "" then liveByUUID x.interfaces i.uuid = some live ∧ live.network = ns.networkID
  else liveByNetwork x.interfaces ns.networkID = some live

theorem Picks.extends {i : RouterInterfaceSpec} {ns : NetworkStatus} {live : RouterInterface}
    (h : Picks router i ns live) (hext : GrowsInto (k := .router) router x) :
    Picks x i ns live := by
  obtain ⟨more, status, rfl, hnew⟩ := hext
  unfold Picks at h ⊢
  split at h
  case isTrue huuid =>
      rw [if_pos huuid]
      have huuid' : live.uuid = i.uuid := by
        simpa using (List.mem_filter.mp (List.mem_of_getLast? h.1)).2
      refine ⟨?_, h.2⟩
      rw [liveByUUID, getLast?_filter_append fun j hj => ?_]
      · exact h.1
      · have hne := (hnew j hj live (mem_of_liveByUUID h.1)).2
        simpa [← huuid'] using hne
  case isFalse huuid =>
      rw [if_neg huuid]
      have hnet : live.network = ns.networkID := by
        simpa using (List.mem_filter.mp (List.mem_of_getLast? h)).2
      rw [liveByNetwork, getLast?_filter_append fun j hj => ?_]
      · exact h
      · have hne := (hnew j hj live (mem_of_liveByNetwork h)).1
        simpa [← hnet] using hne

/-- An interface that has just been attached is the one that is picked. -/
theorem picks_attached {i : RouterInterfaceSpec} {ns : NetworkStatus} {live : RouterInterface}
    (huuid : i.uuid = "") (hnet : live.network = ns.networkID) :
    Picks { x with interfaces := x.interfaces ++ [live] } i ns live := by
  rw [Picks, if_neg (not_not.mpr huuid), liveByNetwork, List.filter_append]
  simp [hnet]

/-! ## Settled routers -/

/-- An interface of the spec is recorded as the live one that is picked for it. -/
structure IfaceSettled (c : CloudscaleCluster) (rs : RouterStatus) (x : Router)
    (i : RouterInterfaceSpec) (ns : NetworkStatus) (live : RouterInterface) : Prop where
  network : c.status.getNetworkStatus i.network = some ns
  picks : Picks x i ns live
  entry : rs.getInterfaceStatus i.network =
    some { network := i.network, interfaceID := live.uuid, managed := decide (i.uuid = "") }

/-- The status records the router and its interfaces as they are. -/
def RouterSettled (c : CloudscaleCluster) (P : Project) (r : RouterSpec) : Prop :=
  ∃ rs x, c.status.getRouterStatus r.name = some rs ∧ P.found .router rs.routerID = some x ∧
    rs.managed = decide (r.uuid = "") ∧
      (r.uuid ≠ "" → rs.routerID = r.uuid ∧ x.zone = c.spec.zone) ∧
    ∀ i ∈ r.interfaces, ∃ ns live, IfaceSettled c rs x i ns live

/-- What the router step leaves alone while it is about the routers `names`. -/
structure Within (names : List String) (c c' : CloudscaleCluster) : Prop where
  spec : c'.spec = c.spec
  networks : c'.status.networks = c.status.networks
  others : ∀ name, name ∉ names → c'.status.getRouterStatus name = c.status.getRouterStatus name

theorem Within.refl (names : List String) (c : CloudscaleCluster) : Within names c c :=
  ⟨rfl, rfl, fun _ _ => rfl⟩

theorem Within.trans {names : List String} (h : Within names c c') (h' : Within names c' c'') :
    Within names c c'' where
  spec := h'.spec.trans h.spec
  networks := h'.networks.trans h.networks
  others name hne := (h'.others name hne).trans (h.others name hne)

theorem Within.mono {names names' : List String} (h : Within names c c') (hsub : names ⊆ names') :
    Within names' c c' where
  spec := h.spec
  networks := h.networks
  others name hne := h.others name fun hmem => hne (hsub hmem)

theorem within_setInterface (network id : String) (managed : Bool) :
    Within [r.name] c (setRouterInterfaceStatus r.name network id managed c) where
  spec := rfl
  networks := rfl
  others name hne := by rw [getRouterStatus_setInterface, if_neg (by simpa using hne)]

theorem within_setRouter (id : String) : Within [r.name] c (setRouterStatus r id c) where
  spec := rfl
  networks := rfl
  others name hne := by rw [getRouterStatus_setRouter, if_neg (by simpa using hne)]

/-- A settled interface stays so as long as its entry and the networks stay. -/
theorem IfaceSettled.congr {rs' : RouterStatus} {i : RouterInterfaceSpec} {ns : NetworkStatus}
    {live : RouterInterface} (h : IfaceSettled c rs router i ns live)
    (hnets : c'.status.networks = c.status.networks)
    (hentry : rs'.getInterfaceStatus i.network = rs.getInterfaceStatus i.network)
    (hext : GrowsInto (k := .router) router x) : IfaceSettled c' rs' x i ns live where
  network := by
    rw [CloudscaleClusterStatus.getNetworkStatus, hnets]
    exact h.network
  picks := h.picks.extends hext
  entry := hentry.trans h.entry

/-- A settled router stays so as long as its entry and the networks stay. -/
theorem RouterSettled.congr (h : RouterSettled c P r)
    (hentry : c'.status.getRouterStatus r.name = c.status.getRouterStatus r.name)
    (hspec : c'.spec = c.spec) (hnets : c'.status.networks = c.status.networks)
    (hgrows : Grows P P') : RouterSettled c' P' r := by
  obtain ⟨rs, x, hrs, hx, hman, hadopted, hifaces⟩ := h
  obtain ⟨x', hx', hext⟩ := hgrows _ _ _ hx
  refine ⟨rs, x', hentry.trans hrs, hx', hman, fun huuid => ?_, fun i hi => ?_⟩
  · obtain ⟨more, status, rfl, -⟩ := hext
    rw [hspec]
    exact hadopted huuid
  · obtain ⟨ns, live, hsettled⟩ := hifaces i hi
    exact ⟨ns, live, hsettled.congr hnets rfl hext⟩

/-- The networks do not depend on the routers. -/
theorem NetworkSettled.routers {n : NetworkSpec} (h : NetworkSettled c P n)
    (hspec : c'.spec = c.spec) (hnets : c'.status.networks = c.status.networks)
    (hgrows : Grows P P') : NetworkSettled c' P' n := by
  refine NetworkSettled.congr (h.grows hgrows) ?_ hspec
  rw [CloudscaleClusterStatus.getNetworkStatus, hnets]
  rfl

/-! ## Interfaces, one after the other -/

/-- In the loop over the interfaces of `r`. `router` is what was read before the loop and `x` what
it is now. -/
structure RouterAt (c : CloudscaleCluster) (P : Project) (r : RouterSpec) (router : Router)
    (rs : RouterStatus) (x : Router) : Prop where
  entry : c.status.getRouterStatus r.name = some rs
  routerID : rs.routerID = router.uuid
  managed : rs.managed = decide (r.uuid = "")
  there : P.found .router router.uuid = some x
  longer : GrowsInto (k := .router) router x

theorem RouterAt.upsert (h : RouterAt c P r router rs x) (network id : String) (managed : Bool)
    {x' : Router} (hthere : P'.found .router router.uuid = some x')
    (hext : GrowsInto (k := .router) x x') :
    RouterAt (setRouterInterfaceStatus r.name network id managed c) P' r router
      (upsertInterface network id managed rs) x' := by
  refine ⟨?_, h.routerID, h.managed, hthere, h.longer.trans hext⟩
  rw [getRouterStatus_setInterface, if_pos rfl, h.entry]
  rfl

/-- The interfaces `is` have been settled, from `c` and `P` to `c'` and `P'`. -/
structure IfacesDone (r : RouterSpec) (router : Router) (is : List RouterInterfaceSpec)
    (c : CloudscaleCluster) (P : Project) (rs : RouterStatus) (x : Router)
    (c' : CloudscaleCluster) (P' : Project) (rs' : RouterStatus) (x' : Router) : Prop where
  here : RouterAt c' P' r router rs' x'
  within : Within [r.name] c c'
  builds : Builds P P'
  entries : ∀ network ∉ is.map (·.network),
    rs'.getInterfaceStatus network = rs.getInterfaceStatus network
  longer : GrowsInto (k := .router) x x'
  settled : ∀ i ∈ is, ∃ ns live, IfaceSettled c' rs' x' i ns live

theorem IfacesDone.cons {i : RouterInterfaceSpec} {rest : List RouterInterfaceSpec} {P'' : Project}
    {rs' rs'' : RouterStatus} {x' x'' : Router}
    (h : IfacesDone r router [i] c P rs x c' P' rs' x')
    (h' : IfacesDone r router rest c' P' rs' x' c'' P'' rs'' x'')
    (hnew : i.network ∉ rest.map (·.network)) :
    IfacesDone r router (i :: rest) c P rs x c'' P'' rs'' x'' where
  here := h'.here
  within := h.within.trans h'.within
  builds := h.builds.trans h'.builds
  entries network hne := by
    rw [List.map_cons, List.mem_cons, not_or] at hne
    exact (h'.entries network hne.2).trans (h.entries network (by simpa using hne.1))
  longer := h.longer.trans h'.longer
  settled := by
    obtain ⟨ns, live, hi⟩ := h.settled i List.mem_cons_self
    exact List.forall_mem_cons.mpr
      ⟨⟨ns, live, hi.congr h'.within.networks (h'.entries _ hnew) h'.longer⟩, h'.settled⟩

section Interfaces

variable {i : RouterInterfaceSpec} {ns : NetworkStatus} {live : RouterInterface} {x' : Router}

/-- The entry of an interface is written. -/
theorem RouterAt.record (h : RouterAt c P r router rs x)
    (hns : c.status.getNetworkStatus i.network = some ns) (hbuilds : Builds P P')
    (hthere : P'.found .router router.uuid = some x') (hext : GrowsInto (k := .router) x x')
    (hpicks : Picks x' i ns live) :
    IfacesDone r router [i] c P rs x
      (setRouterInterfaceStatus r.name ns.name live.uuid (decide (i.uuid = "")) c) P'
      (upsertInterface ns.name live.uuid (decide (i.uuid = "")) rs) x' := by
  have hname : ns.name = i.network := by simpa using List.find?_some hns
  refine ⟨h.upsert _ _ _ hthere hext, within_setInterface _ _ _, hbuilds,
    fun network hne => ?_, hext, ?_⟩
  · rw [getInterfaceStatus_upsert, hname, if_neg (by simpa using hne)]
  · refine List.forall_mem_singleton.mpr ⟨ns, live, hns, hpicks, ?_⟩
    rw [getInterfaceStatus_upsert, hname, if_pos rfl]

/-- What is done after the entry was written without a UUID. -/
theorem IfacesDone.unset {rs' : RouterStatus}
    (h : IfacesDone r router [i] (setRouterInterfaceStatus r.name i.network "" true c) P
      (upsertInterface i.network "" true rs) x c' P' rs' x') :
    IfacesDone r router [i] c P rs x c' P' rs' x' where
  here := h.here
  within := (within_setInterface _ _ _).trans h.within
  builds := h.builds
  entries network hne := by
    rw [h.entries network hne, getInterfaceStatus_upsert, if_neg (by simpa using hne)]
  longer := h.longer
  settled := h.settled

theorem adoptRouterInterface_settles (h : RouterAt c P r router rs x)
    (hns : c.status.getNetworkStatus i.network = some ns) (huuid : i.uuid ≠ "") :
    (works machines).returns
      (fun _ c' P' => ∃ rs' x', IfacesDone r router [i] c P rs x c' P' rs' x')
      (adoptRouterInterface r i ns router) c P := by
  unfold adoptRouterInterface
  cases hlive : liveByUUID router.interfaces i.uuid with
  | none => exact returns_fail _
  | some live =>
      refine returns_ite (fun _ => returns_fail _) fun hnet => returns_update.mpr ?_
      have hpicks : Picks router i ns live := by
        rw [Picks, if_pos huuid]
        exact ⟨hlive, not_not.mp hnet⟩
      have hrec := h.record hns (.refl P) h.there (GrowsInto.refl (k := .router) x)
        (hpicks.extends h.longer)
      rw [decide_eq_false huuid] at hrec
      exact ⟨_, _, hrec⟩

theorem claimRouterInterface_settles (h : RouterAt c P r router rs x)
    (hns : c.status.getNetworkStatus i.network = some ns) (huuid : i.uuid = "")
    (hlive : liveByNetwork router.interfaces ns.networkID = some live) :
    (works machines).returns
      (fun _ c' P' => ∃ rs' x', IfacesDone r router [i] c P rs x c' P' rs' x')
      (claimRouterInterface r i ns live) c P := by
  rw [claimRouterInterface, returns_read]
  refine returns_ite (fun _ => returns_fail _) fun _ => returns_update.mpr ?_
  have hpicks : Picks router i ns live := by
    rw [Picks, if_neg (not_not.mpr huuid)]
    exact hlive
  have hrec := h.record hns (.refl P) h.there (GrowsInto.refl (k := .router) x)
    (hpicks.extends h.longer)
  rw [decide_eq_true huuid] at hrec
  exact ⟨_, _, hrec⟩

/-- An attach that goes through is the interface the next pass picks: the API has only one on a
network. -/
theorem createRouterInterface_settles (h : RouterAt c P r router rs x)
    (hns : c.status.getNetworkStatus i.network = some ns) (huuid : i.uuid = "") :
    (works machines).returns
      (Ends fun c' P' => ∃ rs' x', IfacesDone r router [i] c P rs x c' P' rs' x')
      (createRouterInterface r router i ns) c P := by
  have hname : ns.name = i.network := by simpa using List.find?_some hns
  rw [createRouterInterface, returns_bind, returns_update, hname]
  refine works_call fun reply P' hans _ => ?_
  cases reply with
  | error e => exact returns_ite (fun _ => ends_late rfl) fun _ => returns_fail _
  | ok live =>
      have hattached : Attached P router.uuid _ live P' := hans
      dsimp only
      rw [returns_bind, returns_update, returns_pure]
      intro _
      obtain ⟨y, hy, hfree, hy'⟩ := hattached.there
      obtain rfl : y = x := Option.some.inj (hy.symm.trans h.there)
      have hunset := h.upsert i.network "" true h.there (GrowsInto.refl (k := .router) y)
      have hrec := hunset.record (i := i) hns hattached.builds hy' (extends_attach hfree)
        (picks_attached huuid hattached.network)
      rw [decide_eq_true huuid, hname] at hrec
      exact ⟨_, _, hrec.unset⟩

/-- The loop settles the interfaces, one after the other. -/
theorem reconcileInterfaces_settles (todo : List RouterInterfaceSpec)
    (h : RouterAt c P r router rs x) (hnets : (todo.map (·.network)).Nodup) :
    (works machines).returns
      (Ends fun c' P' => ∃ rs' x', IfacesDone r router todo c P rs x c' P' rs' x')
      (reconcileInterfaces r router todo) c P := by
  induction todo generalizing c P rs x with
  | nil =>
      exact (returns_pure _).mpr fun _ => ⟨rs, x, h, .refl _ c, .refl P, fun _ _ => rfl,
        GrowsInto.refl (k := .router) x, by simp⟩
  | cons i rest ih =>
      obtain ⟨hnew, hnets⟩ := List.nodup_cons.mp hnets
      -- what is left to do once `i` is settled
      have hgo {c₁ P₁} (hi : ∃ rs₁ x₁, IfacesDone r router [i] c P rs x c₁ P₁ rs₁ x₁) :
          (works machines).returns (Ends fun c' P' => ∃ rs' x',
            IfacesDone r router (i :: rest) c P rs x c' P' rs' x')
            (reconcileInterfaces r router rest) c₁ P₁ := by
        obtain ⟨rs₁, x₁, hi⟩ := hi
        refine returns_imp (ih hi.here hnets) fun result c' P' hend hzero => ?_
        obtain ⟨rs', x', hrest⟩ := hend hzero
        exact ⟨rs', x', hi.cons hrest hnew⟩
      rw [reconcileInterfaces, returns_read]
      cases hns : c.status.getNetworkStatus i.network with
      | none => exact returns_fail _
      | some ns =>
          refine returns_ite (fun huuid => ?_) fun huuid => ?_
          · exact returns_seq (adoptRouterInterface_settles h hns huuid) fun _ _ _ => hgo
          · cases hlive : liveByNetwork router.interfaces ns.networkID with
            | some live =>
                exact returns_seq (claimRouterInterface_settles h hns (not_not.mp huuid) hlive)
                  fun _ _ _ => hgo
            | none =>
                refine returns_seq (createRouterInterface_settles h hns (not_not.mp huuid)) ?_
                intro result _ _ hi
                exact returns_ite (fun hzero => hgo (hi hzero))
                  fun hzero => (returns_pure _).mpr fun hz => absurd hz hzero

end Interfaces

/-! ## A step that works -/

theorem recordRouter_settles (hthere : P.found .router router.uuid = some router)
    (hadopted : r.uuid ≠ "" → router.uuid = r.uuid ∧ router.zone = c.spec.zone)
    (hnets : (r.interfaces.map (·.network)).Nodup) :
    (works machines).returns (Ends fun c' P' => Within [r.name] c c' ∧ Builds P P' ∧
      RouterSettled c' P' r) (recordRouter r router) c P := by
  rw [recordRouter, returns_bind, returns_update]
  refine returns_ite (fun _ => ends_late rfl) fun _ => ?_
  -- the entry just written is the one the loop reads
  obtain ⟨rs, hrs, hid, hman⟩ : ∃ rs, (setRouterStatus r router.uuid c).status.getRouterStatus
      r.name = some rs ∧ rs.routerID = router.uuid ∧ rs.managed = decide (r.uuid = "") := by
    rw [getRouterStatus_setRouter, if_pos rfl]
    cases c.status.getRouterStatus r.name with
    | none => exact ⟨_, rfl, rfl, rfl⟩
    | some rs => exact ⟨_, rfl, rfl, rfl⟩
  rw [reconcileRouterInterfaces, returns_read, hrs]
  have hstart : RouterAt (setRouterStatus r router.uuid c) P r router rs router :=
    ⟨hrs, hid, hman, hthere, GrowsInto.refl (k := .router) router⟩
  refine returns_imp (reconcileInterfaces_settles r.interfaces hstart hnets) ?_
  intro result c' P' hend hzero
  obtain ⟨rs', x', h'⟩ := hend hzero
  refine ⟨(within_setRouter _).trans h'.within, h'.builds, rs', x', h'.here.entry,
    h'.here.routerID ▸ h'.here.there, h'.here.managed, fun huuid => ?_, h'.settled⟩
  obtain ⟨hid', hzone⟩ := hadopted huuid
  obtain ⟨more, status, rfl, -⟩ := h'.here.longer
  refine ⟨h'.here.routerID.trans hid', ?_⟩
  rw [h'.within.spec]
  exact hzone

theorem reconcileRouter_settles (hnets : (r.interfaces.map (·.network)).Nodup) :
    (works machines).returns (Ends fun c' P' => Within [r.name] c c' ∧ Builds P P' ∧
      RouterSettled c' P' r) (reconcileRouter cluster r) c P := by
  refine returns_ite (fun huuid => ?_) fun huuid => ?_
  · rw [adoptRouter, bind_assoc, returns_read, bind_assoc]
    refine works_read trivial fun reply hans _ => ?_
    cases reply with
    | error e => exact returns_fail _
    | ok router =>
        have hid : router.uuid = r.uuid := P.keyed .router _ _ hans.2
        dsimp only
        split
        case isTrue => exact returns_fail _
        case isFalse hzone =>
            exact recordRouter_settles (hid ▸ hans.2) (fun _ => ⟨hid, not_not.mp hzone⟩) hnets
  · have hown {router : Router} : r.uuid ≠ "" → router.uuid = r.uuid ∧ router.zone = c.spec.zone :=
      fun h => absurd h huuid
    rw [ensureManagedRouter, bind_assoc, returns_read, bind_assoc, returns_bind, returns_wrapErr,
      ← returns_bind]
    refine works_ensure (fun router hrouter hne => ?_) ?_
    · dsimp only
      rw [if_pos hne]
      exact recordRouter_settles hrouter hown hnets
    · -- a router that nobody has found is created
      refine works_create (fun router P' hmade => ?_) fun P' => ends_late rfl
      refine returns_imp (recordRouter_settles hmade.there hown hnets)
        fun result c' P'' hend hzero => ?_
      obtain ⟨hwithin, hbuilds, hsettled⟩ := hend hzero
      exact ⟨hwithin, hmade.builds.trans hbuilds, hsettled⟩

/-- The loop settles the routers; one that asks for a requeue is not forgotten. -/
theorem reconcileEachRouter_settles (todo : List RouterSpec) {result : Result}
    (hnames : (todo.map (·.name)).Nodup)
    (hifaces : ∀ r ∈ todo, (r.interfaces.map (·.network)).Nodup) :
    (works machines).returns (Ends fun c' P' => result.isZero = true ∧
      Within (todo.map (·.name)) c c' ∧ Builds P P' ∧ ∀ r ∈ todo, RouterSettled c' P' r)
      (reconcileEachRouter cluster result todo) c P := by
  induction todo generalizing c P result with
  | nil => exact (returns_pure _).mpr fun hzero => ⟨hzero, .refl _ c, .refl P, by simp⟩
  | cons r rest ih =>
      obtain ⟨hnew, hnames⟩ := List.nodup_cons.mp hnames
      obtain ⟨hiface, hifaces⟩ := List.forall_mem_cons.mp hifaces
      refine returns_seq (returns_wrapErr.mpr (reconcileRouter_settles hiface)) ?_
      intro res c₁ P₁ hr
      refine returns_imp (ih hnames hifaces) fun result' c' P' hend hzero => ?_
      obtain ⟨hlower, hwithin', hbuilds', hall⟩ := hend hzero
      obtain ⟨hresult, hres⟩ := (lowerResult_isZero result res).mp hlower
      obtain ⟨hwithin, hbuilds, hsettled⟩ := hr hres
      refine ⟨hresult, (hwithin.mono (by simp)).trans (hwithin'.mono (by simp)),
        hbuilds.trans hbuilds', List.forall_mem_cons.mpr ⟨?_, hall⟩⟩
      exact hsettled.congr (hwithin'.others _ hnew) hwithin'.spec hwithin'.networks hbuilds'.grows

theorem setRouterReady_still (out : Except GoError Result) (c : CloudscaleCluster) :
    Still c (setRouterReady out c) := by
  unfold setRouterReady
  split
  · exact ⟨_, rfl⟩
  · split
    · exact ⟨_, rfl⟩
    · split <;> exact ⟨_, rfl⟩

/-- A router step that ends well has settled all routers of the spec. -/
theorem reconcileRouters_settles (hnames : (c.spec.routers.map (·.name)).Nodup)
    (hifaces : ∀ r ∈ c.spec.routers, (r.interfaces.map (·.network)).Nodup) :
    (works machines).returns (Ends fun c' P' => c'.spec = c.spec ∧
      c'.status.networks = c.status.networks ∧ Builds P P' ∧
      ∀ r ∈ c.spec.routers, RouterSettled c' P' r) (reconcileRouters cluster) c P := by
  refine returns_deferred (returns_read.mpr ?_)
  refine returns_imp (reconcileEachRouter_settles _ hnames hifaces)
    fun result c' P' hend hzero => ?_
  obtain ⟨-, hwithin, hbuilds, hall⟩ := hend hzero
  obtain ⟨conditions, hready⟩ := setRouterReady_still (.ok result) c'
  rw [hready]
  refine ⟨hwithin.spec, hwithin.networks, hbuilds, fun r hr => ?_⟩
  exact (hall r hr).congr rfl rfl rfl (.refl P')

/-! ## A step that looks -/

theorem setRouterInterfaceStatus_same {name network id : String} {managed : Bool}
    (hrs : c.status.getRouterStatus name = some rs)
    (hentry : rs.getInterfaceStatus network = some { network, interfaceID := id, managed }) :
    setRouterInterfaceStatus name network id managed c = c := by
  have hsame : upsertInterface network id managed rs = rs := by
    unfold upsertInterface
    rw [Keyed.upsertFirst_of_find hentry, Keyed.updateFirst_same hentry rfl]
  unfold setRouterInterfaceStatus
  rw [Keyed.updateFirst_same hrs hsame]

theorem setRouterStatus_same (hrs : c.status.getRouterStatus r.name = some rs)
    (hman : rs.managed = decide (r.uuid = "")) : setRouterStatus r rs.routerID c = c := by
  unfold setRouterStatus
  dsimp only
  rw [Keyed.upsertFirst_of_find hrs, Keyed.updateFirst_same hrs (by rw [← hman])]

theorem reconcileInterfaces_looks (hrs : c.status.getRouterStatus r.name = some rs)
    (todo : List RouterInterfaceSpec)
    (h : ∀ i ∈ todo, ∃ ns live, IfaceSettled c rs x i ns live) :
    (looks machines).Preserves (Rests c P) (reconcileInterfaces r x todo) := by
  induction todo with
  | nil => exact .pure _
  | cons i rest ih =>
      have hrest := ih fun i' hi' => h i' (List.mem_cons_of_mem _ hi')
      obtain ⟨ns, live, hi⟩ := h i List.mem_cons_self
      have hname : ns.name = i.network := by simpa using List.find?_some hi.network
      have hpicks := hi.picks
      have hsame : (looks machines).Preserves (Rests c P) (Proc.update
          (setRouterInterfaceStatus r.name ns.name live.uuid (decide (i.uuid = ""))) :
            ClusterM Unit) :=
        looks_same fun _ => setRouterInterfaceStatus_same hrs (hname ▸ hi.entry)
      refine looks_read fun conditions => ?_
      have hns : CloudscaleClusterStatus.getNetworkStatus { c.status with conditions } i.network =
        some ns := hi.network
      rw [hns]
      unfold Picks at hpicks
      split at hpicks
      case isTrue huuid =>
          dsimp only
          rw [if_pos huuid]
          refine .bind ?_ fun _ => hrest
          unfold adoptRouterInterface
          rw [hpicks.1]
          dsimp only
          rw [if_neg (not_not.mpr hpicks.2)]
          rw [decide_eq_false huuid] at hsame
          exact hsame
      case isFalse huuid =>
          dsimp only
          rw [if_neg huuid, hpicks]
          refine .bind (looks_read fun conditions' => ?_) fun _ => hrest
          -- there is an entry, so the interface is not somebody else's
          have hforeign : (CloudscaleClusterStatus.getRouterStatus
              { c.status with conditions := conditions' } r.name).any (fun rs =>
                (rs.getInterfaceStatus ns.name).isNone ∧ ¬ rs.managed) = false := by
            have hrs' : CloudscaleClusterStatus.getRouterStatus
              { c.status with conditions := conditions' } r.name = some rs := hrs
            simp [hrs', hname, hi.entry]
          rw [hforeign]
          rw [decide_eq_true (not_not.mp huuid)] at hsame
          exact hsame

theorem recordRouter_looks (hrs : c.status.getRouterStatus r.name = some rs)
    (hid : rs.routerID = x.uuid) (hman : rs.managed = decide (r.uuid = ""))
    (h : ∀ i ∈ r.interfaces, ∃ ns live, IfaceSettled c rs x i ns live) :
    (looks machines).Preserves (Rests c P) (recordRouter r x) := by
  refine .bind (looks_same fun _ => ?_) fun _ => .ite (fun _ => .pure _) fun _ => ?_
  · rw [← hid]
    exact setRouterStatus_same hrs hman
  · refine looks_read fun conditions => ?_
    have hrs' : CloudscaleClusterStatus.getRouterStatus { c.status with conditions } r.name =
      some rs := hrs
    rw [hrs']
    exact reconcileInterfaces_looks hrs r.interfaces h

theorem reconcileRouter_looks (h : RouterSettled c P r) :
    (looks machines).Preserves (Rests c P) (reconcileRouter cluster r) := by
  obtain ⟨rs, x, hrs, hx, hman, hadopted, hifaces⟩ := h
  have hid : rs.routerID = x.uuid := (P.keyed .router _ _ hx).symm
  have hrecord : (looks machines).Preserves (Rests c P) (recordRouter r x) :=
    recordRouter_looks hrs hid hman hifaces
  refine .ite (fun huuid => ?_) fun huuid => ?_
  · obtain ⟨hruuid, hzone⟩ := hadopted huuid
    rw [adoptRouter, bind_assoc]
    refine looks_read fun conditions => ?_
    rw [bind_assoc]
    refine looks_call trivial fun reply hans => ?_
    cases reply with
    | error e => exact .fail _
    | ok y =>
        obtain rfl : y = x := Option.some.inj (hans.2.symm.trans (hruuid ▸ hx))
        dsimp only
        rw [if_neg (not_not.mpr hzone)]
        exact hrecord
  · rw [ensureManagedRouter, bind_assoc]
    refine looks_read fun conditions => ?_
    have hrs' : CloudscaleClusterStatus.getRouterStatus { c.status with conditions } r.name =
      some rs := hrs
    rw [bind_assoc, hrs', Option.elim_some]
    refine .wrapErr_bind (looks_ensure hx ?_)
    dsimp only
    rw [if_pos (P.ne_empty hx)]
    exact hrecord

/-- Over settled routers the router step only looks. -/
theorem reconcileRouters_looks (h : ∀ r ∈ c.spec.routers, RouterSettled c P r) :
    (looks machines).Preserves (Rests c P) (reconcileRouters cluster) := by
  have hloop : ∀ (todo : List RouterSpec) (result : Result), (∀ r ∈ todo, RouterSettled c P r) →
      (looks machines).Preserves (Rests c P) (reconcileEachRouter cluster result todo) := by
    intro todo
    induction todo with
    | nil => exact fun result _ => .pure _
    | cons r rest ih =>
        intro result htodo
        refine .bind (.wrapErr (reconcileRouter_looks (htodo r List.mem_cons_self))) fun res => ?_
        exact ih _ fun m hm => htodo m (List.mem_cons_of_mem _ hm)
  refine .deferred (looks_read fun conditions => hloop _ _ h) ?_
  rintro out c' P' ⟨hstill, rfl⟩
  exact ⟨hstill.trans (setRouterReady_still out c'), rfl⟩

end Capcs.Steady
