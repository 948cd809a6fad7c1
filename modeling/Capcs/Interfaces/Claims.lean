import Capcs.Controller.Frames
import Capcs.Readiness.Routers
import Capcs.Retention.Normal

/-!
# Capcs.Interfaces.Claims — which interfaces a pass takes for its own

Interfaces of a router carry no tags: what makes one of them the controller's is an entry in
status. On a router the user has brought along (one with a `uuid`) an entry is marked managed
when an attach is tried, and when a live interface is claimed; the latter needs an entry
beforehand. `Claims` follows these entries through a normal pass: each was there before, or
an attach of this pass has led to it. Here no attach may fail for good, since the entry it
leaves behind has nothing to stand for.
-/

namespace Capcs.Interfaces

open Cloudscale Controller
open Readiness (CallEvent Trace)
open Retention (echoes DistinctNames)
open Interaction (Proc Frame history)
open Interaction.Contract

/-! ## Attaches -/

/-- The reply to an attach that has, or may have, taken effect. -/
def mayHaveLanded : Except ApiError RouterInterface → Bool
  | .ok _ => true
  | .error err => isTimeoutError err

/-- No attach fails for good. -/
def attachLands : (op : Op) → op.Reply → Prop
  | .createInterface _ _, r => mayHaveLanded r = true
  | _, _ => True

/-- The contract of a pass. -/
abbrev attachCalls : Interaction.Contract Trace Op Op.Reply :=
  history fun op r => echoes op r ∧ attachLands op r

/-- An attach to a router, for the network that goes by this name, may have landed. -/
def Tried (status : CloudscaleClusterStatus) (h : Trace) (routerID network : String) : Prop :=
  ∃ req r, (⟨.createInterface routerID req, r⟩ : CallEvent) ∈ h ∧ mayHaveLanded r = true ∧
    ∃ ns, status.getNetworkStatus network = some ns ∧ req.network = ns.networkID

/-- The router had a managed entry for that network. -/
def Was (c₀ : CloudscaleCluster) (routerName network : String) : Prop :=
  ∃ e ∈ c₀.status.routers, e.name = routerName ∧
    ∃ i ∈ e.interfaces, i.managed = true ∧ i.network = network

/-- What an entry for a network, managed or not, goes back to. -/
def BackedBy (c₀ : CloudscaleCluster) (status : CloudscaleClusterStatus) (h : Trace)
    (r : RouterSpec) (network : String) : Bool → Prop
  | true => Was c₀ r.name network ∨ Tried status h r.uuid network
  | false => ∃ i ∈ r.interfaces, i.network = network ∧ i.uuid ≠ ""

/-- The entry of a router the user has brought along has its UUID. -/
def SpecIDs (spec : CloudscaleClusterSpec) (routers : List RouterStatus) : Prop :=
  ∀ r ∈ spec.routers, r.uuid ≠ "" → ∀ e ∈ routers, e.name = r.name → e.routerID = r.uuid

/-- Where a pass that started from `c₀` stands. -/
structure Claims (c₀ c : CloudscaleCluster) (h : Trace) : Prop where
  spec : c.spec.routers = c₀.spec.routers
  ids : SpecIDs c₀.spec c.status.routers
  entries : ∀ r ∈ c₀.spec.routers, r.uuid ≠ "" → ∀ e ∈ c.status.routers, e.name = r.name →
    ∀ i ∈ e.interfaces, BackedBy c₀ c.status h r i.network i.managed

variable {c₀ c c' : CloudscaleCluster} {h h' : Trace} {r : RouterSpec}

theorem BackedBy.later {status : CloudscaleClusterStatus} {network : String} {managed : Bool}
    (hb : BackedBy c₀ status h r network managed) (hle : h ⊆ h') :
    BackedBy c₀ status h' r network managed := by
  cases managed with
  | false => exact hb
  | true =>
      rcases hb with hwas | ⟨req, rep, hmem, hlanded⟩
      · exact .inl hwas
      · exact .inr ⟨req, rep, hle hmem, hlanded⟩

theorem Claims.later (hc : Claims c₀ c h) (hle : h ⊆ h') : Claims c₀ c h' :=
  ⟨hc.spec, hc.ids, fun r hr hu e he hname i hi => (hc.entries r hr hu e he hname i hi).later hle⟩

/-- Only spec, networks and routers count. -/
theorem Claims.congr (hc : Claims c₀ c h) (hspec : c'.spec.routers = c.spec.routers)
    (hnet : c'.status.networks = c.status.networks)
    (hrouters : c'.status.routers = c.status.routers) : Claims c₀ c' h := by
  refine ⟨hspec.trans hc.spec, hrouters ▸ hc.ids, ?_⟩
  rw [hrouters]
  intro r hr hu e he hname i hi
  have hb := hc.entries r hr hu e he hname i hi
  cases hm : i.managed with
  | false =>
      rw [hm] at hb
      exact hb
  | true =>
      rw [hm] at hb
      rcases hb with hwas | ⟨req, rep, hmem, hlanded, ns, hns, hreq⟩
      · exact .inl hwas
      · refine .inr ⟨req, rep, hmem, hlanded, ns, ?_, hreq⟩
        rw [CloudscaleClusterStatus.getNetworkStatus, hnet]
        exact hns

/-- A step of a pass keeps what is claimed in order. -/
abbrev Honest {α : Type} (c₀ : CloudscaleCluster) (m : ClusterM α) : Prop :=
  attachCalls.Preserves (Claims c₀) m

/-- A step that has nothing to do with networks and routers. -/
theorem honest_of_frame {α β : Type} {f : CloudscaleCluster → β} {P : Op → Prop} {m : ClusterM α}
    (hm : Frame f P m)
    (hf : ∀ c c', f c' = f c → c'.spec.routers = c.spec.routers ∧
      c'.status.networks = c.status.networks ∧ c'.status.routers = c.status.routers) :
    Honest c₀ m := by
  refine hm.preserves ?_ ?_ ?_
  · intro c c' h hsame hc
    obtain ⟨hspec, hnet, hrouters⟩ := hf c c' hsame
    exact hc.congr hspec hnet hrouters
  · rintro c h _ hc rfl -
    exact hc
  · rintro c h op - hc -
    refine ⟨trivial, ?_⟩
    rintro rep _ rfl -
    exact hc.later (List.subset_append_left _ _)

/-! ## One interface -/

/-- Writing the entry of an interface that has something to go back to. -/
theorem Claims.setInterface (hc : Claims c₀ c h) (hd : DistinctNames c₀.spec)
    (hr : r ∈ c₀.spec.routers) {network id : String} {managed : Bool}
    (hb : r.uuid ≠ "" → BackedBy c₀ c.status h r network managed) :
    Claims c₀ (setRouterInterfaceStatus r.name network id managed c) h := by
  refine ⟨hc.spec, ?_, ?_⟩ <;> intro r' hr' hu e he hname
  · rcases Keyed.mem_updateFirst he with he | ⟨a, ha, hp, rfl⟩
    · exact hc.ids r' hr' hu e he hname
    · exact hc.ids r' hr' hu a ha hname
  intro i hi
  rcases Keyed.mem_updateFirst he with he | ⟨a, ha, hp, rfl⟩
  · exact hc.entries r' hr' hu e he hname i hi
  · have ha' : a.name = r.name := by simpa using hp
    obtain rfl : r = r' := List.inj_on_of_nodup_map hd.routers hr hr' (ha'.symm.trans hname)
    rcases Keyed.mem_upsertFirst hi with hi | rfl | ⟨i₀, _, hi₀, rfl⟩
    · exact hc.entries r hr hu a ha hname i hi
    · exact hb hu
    · have hnet : i₀.network = network := by simpa using hi₀
      have hb := hb hu
      rwa [← hnet] at hb

/-- The router has an entry, which says whether it is the user's. -/
def Flagged (r : RouterSpec) (c : CloudscaleCluster) : Prop :=
  ∃ rs, c.status.getRouterStatus r.name = some rs ∧ rs.managed = decide (r.uuid = "")

theorem Flagged.setInterface (hf : Flagged r c) (network id : String) (managed : Bool) :
    Flagged r (setRouterInterfaceStatus r.name network id managed c) := by
  obtain ⟨rs, hrs, hm⟩ := hf
  refine ⟨upsertInterface network id managed rs, ?_, hm⟩
  rw [Readiness.getRouterStatus_setInterface, if_pos rfl, hrs]
  rfl

theorem name_of_getNetworkStatus {status : CloudscaleClusterStatus} {n : String}
    {ns : NetworkStatus} (hns : status.getNetworkStatus n = some ns) : ns.name = n := by
  simpa using List.find?_some hns

/-- An interface that is there is claimed only if it has an entry already, which then is
a managed one: entries of adopted interfaces are for networks that have one in the spec. -/
theorem backed_of_known (hc : Claims c₀ c h) (hr : r ∈ c₀.spec.routers)
    (hnodup : (r.interfaces.map (·.network)).Nodup) {ifaceSpec : RouterInterfaceSpec}
    (hi : ifaceSpec ∈ r.interfaces) (hown : ifaceSpec.uuid = "") (hu : r.uuid ≠ "")
    {rs : RouterStatus} (hrs : c.status.getRouterStatus r.name = some rs)
    (hknown : rs.getInterfaceStatus ifaceSpec.network ≠ none) :
    BackedBy c₀ c.status h r ifaceSpec.network true := by
  obtain ⟨i, hfind⟩ := Option.ne_none_iff_exists'.mp hknown
  have hnet : i.network = ifaceSpec.network := by simpa using List.find?_some hfind
  have hname : rs.name = r.name := by simpa using List.find?_some hrs
  have hb := hc.entries r hr hu rs (List.mem_of_find?_eq_some hrs) hname i
    (List.mem_of_find?_eq_some hfind)
  rw [hnet] at hb
  cases hm : i.managed with
  | true => rwa [hm] at hb
  | false =>
      rw [hm] at hb
      obtain ⟨i', hi', hnet', huuid⟩ := hb
      have hsame : i' = ifaceSpec := List.inj_on_of_nodup_map hnodup hi' hi hnet'
      exact absurd (hsame ▸ hown) huuid

/-- In the loop over the interfaces of a router. -/
def InLoop (c₀ : CloudscaleCluster) (r : RouterSpec) (c : CloudscaleCluster) (h : Trace) : Prop :=
  Claims c₀ c h ∧ Flagged r c

theorem InLoop.setInterface (hl : InLoop c₀ r c h) (hd : DistinctNames c₀.spec)
    (hr : r ∈ c₀.spec.routers) {network id : String} {managed : Bool}
    (hb : r.uuid ≠ "" → BackedBy c₀ c.status h r network managed) :
    InLoop c₀ r (setRouterInterfaceStatus r.name network id managed c) h :=
  ⟨hl.1.setInterface hd hr hb, hl.2.setInterface _ _ _⟩

/-- The attach: the entry is written first, and then has the call to go back to. -/
theorem createRouterInterface_inLoop {router : Router} {ifaceSpec : RouterInterfaceSpec}
    {ns : NetworkStatus} (hl : InLoop c₀ r c h) (hd : DistinctNames c₀.spec)
    (hr : r ∈ c₀.spec.routers) (hrouter : r.uuid ≠ "" → router.uuid = r.uuid)
    (hns : c.status.getNetworkStatus ns.name = some ns) :
    attachCalls.wpc (fun _ => InLoop c₀ r) (createRouterInterface r router ifaceSpec ns) c h := by
  rw [createRouterInterface, wpc_update_bind, wpc_bind]
  refine Interaction.history_perform fun rep hrep => ?_
  have hl₁ : InLoop c₀ r c
      (h ++ [⟨.createInterface router.uuid { network := ns.networkID, addresses :=
      [{ subnet := ns.subnetID, address := ifaceSpec.address }] }, rep⟩]) :=
    ⟨hl.1.later (List.subset_append_left _ _), hl.2⟩
  -- the entry is written as managed before the call, whatever comes back
  have htried (hu : r.uuid ≠ "") : BackedBy c₀ c.status (h ++ [⟨.createInterface router.uuid
      { network := ns.networkID, addresses :=
        [{ subnet := ns.subnetID, address := ifaceSpec.address }] }, rep⟩]) r ns.name true := by
    rw [hrouter hu] at hrep ⊢
    exact .inr ⟨_, rep, List.mem_append_right _ (List.mem_singleton.mpr rfl), hrep.2, ns, hns, rfl⟩
  have hl₂ : InLoop c₀ r (setRouterInterfaceStatus r.name ns.name "" true c) _ :=
    hl₁.setInterface hd hr htried
  cases rep with
  | error err =>
      simp only [after_ok, wpc_ite]
      split
      · exact hl₂
      · exact hl₂
  | ok created => exact hl₂.setInterface hd hr htried

theorem reconcileInterfaces_inLoop (hd : DistinctNames c₀.spec) (hr : r ∈ c₀.spec.routers)
    (hnodup : (r.interfaces.map (·.network)).Nodup) {router : Router}
    (hrouter : r.uuid ≠ "" → router.uuid = r.uuid) (ifaces : List RouterInterfaceSpec)
    (hifaces : ∀ i ∈ ifaces, i ∈ r.interfaces) :
    attachCalls.Preserves (InLoop c₀ r) (reconcileInterfaces r router ifaces) := by
  induction ifaces with
  | nil => exact .pure _
  | cons ifaceSpec rest ih =>
      have hi := hifaces ifaceSpec (by simp)
      have ih := ih fun i hmem => hifaces i (by simp [hmem])
      refine .read fun c h hinv hl => ?_
      cases hns : c.status.getNetworkStatus ifaceSpec.network with
      | none => exact hl
      | some ns =>
          have hname := name_of_getNetworkStatus hns
          simp only [wpc_ite]
          split
          · -- an interface to adopt
            next hu =>
            refine wpc_seq_inv hinv (P := fun _ => InLoop c₀ r) ?_ ?_
            · rw [adoptRouterInterface]
              split
              · exact hl
              · rw [wpc_ite]
                split
                · exact hl
                · exact hl.setInterface hd hr fun _ => ⟨ifaceSpec, hi, hname.symm, hu⟩
            · intro out c₁ h₁ hinv₁ hl₁
              cases out with
              | error err => exact hl₁
              | ok _ => exact ih c₁ h₁ hinv₁ hl₁
          · next hown =>
            have hown : ifaceSpec.uuid = "" := by simpa using hown
            split
            · -- an interface on the network already
              next live _ =>
              refine wpc_seq_inv hinv (P := fun _ => InLoop c₀ r) ?_ ?_
              · rw [claimRouterInterface, wpc_read_bind, wpc_ite]
                split
                · exact hl
                · next hforeign =>
                  refine hl.setInterface hd hr fun hu => ?_
                  obtain ⟨rs, hrs, hflag⟩ := hl.2
                  rw [hname]
                  refine backed_of_known hl.1 hr hnodup hi hown hu hrs ?_
                  simpa [hrs, hflag, hu, hname] using hforeign
              · intro out c₁ h₁ hinv₁ hl₁
                cases out with
                | error err => exact hl₁
                | ok _ => exact ih c₁ h₁ hinv₁ hl₁
            · refine wpc_seq_inv hinv
                (createRouterInterface_inLoop hl hd hr hrouter (hname ▸ hns)) ?_
              intro out c₁ h₁ hinv₁ hl₁
              cases out with
              | error err => exact hl₁
              | ok result =>
                  rw [after_ok, wpc_ite]
                  split
                  · exact ih c₁ h₁ hinv₁ hl₁
                  · exact hl₁

/-! ## Routers -/

/-- Writing the entry of a router leaves its interfaces. -/
theorem Claims.setRouter (hc : Claims c₀ c h) (hd : DistinctNames c₀.spec)
    (hr : r ∈ c₀.spec.routers) {routerID : String} (hid : r.uuid ≠ "" → routerID = r.uuid) :
    InLoop c₀ r (setRouterStatus r routerID c) h := by
  have hsame {r' : RouterSpec} (hr' : r' ∈ c₀.spec.routers) (hname : r.name = r'.name)
      (hu : r'.uuid ≠ "") : routerID = r'.uuid := by
    obtain rfl : r = r' := List.inj_on_of_nodup_map hd.routers hr hr' hname
    exact hid hu
  refine ⟨⟨hc.spec, ?_, ?_⟩, ?_⟩
  · intro r' hr' hu e he hname
    rcases Keyed.mem_upsertFirst he with he | rfl | ⟨a, ha, hp, rfl⟩
    · exact hc.ids r' hr' hu e he hname
    · exact hsame hr' hname hu
    · have ha' : a.name = r.name := by simpa using hp
      exact hsame hr' (ha'.symm.trans hname) hu
  · intro r' hr' hu e he hname i hi
    rcases Keyed.mem_upsertFirst he with he | rfl | ⟨a, ha, _, rfl⟩
    · exact hc.entries r' hr' hu e he hname i hi
    · cases hi
    · exact hc.entries r' hr' hu a ha hname i hi
  · rw [Flagged, Readiness.getRouterStatus_setRouter, if_pos rfl]
    refine ⟨_, rfl, ?_⟩
    cases c.status.getRouterStatus r.name <;> rfl

theorem recordRouter_claims (hd : DistinctNames c₀.spec) (hr : r ∈ c₀.spec.routers)
    (hnodup : (r.interfaces.map (·.network)).Nodup) {router : Router}
    (hrouter : r.uuid ≠ "" → router.uuid = r.uuid) : Honest c₀ (recordRouter r router) := by
  intro c h hinv hc
  rw [recordRouter, wpc_update_bind]
  refine wpc_imp (Q := fun _ => InLoop c₀ r) ?_ fun _ _ _ hl => hl.1
  refine Preserves.ite (fun _ => .pure _) (fun _ => .read_any fun c => ?_) _ h hinv
    (hc.setRouter hd hr hrouter)
  split
  · exact .fail _
  · exact reconcileInterfaces_inLoop hd hr hnodup hrouter r.interfaces fun _ hi => hi

/-- The router that is adopted is the one asked for. -/
theorem adoptRouter_claims (hc : Claims c₀ c h) :
    attachCalls.wpc (fun out c' h' => Claims c₀ c' h' ∧
    ∀ router, out = .ok router → router.uuid = r.uuid) (adoptRouter r) c h := by
  rw [adoptRouter, wpc_read_bind, wpc_bind]
  refine Interaction.history_perform fun rep hrep => ?_
  have hc₁ := hc.later (List.subset_append_left h [⟨.get .router r.uuid, rep⟩])
  cases rep with
  | error err => exact ⟨hc₁, by simp⟩
  | ok router =>
      simp only [after_ok, wpc_ite]
      split
      · exact ⟨hc₁, by simp⟩
      · refine ⟨hc₁, ?_⟩
        rintro _ ⟨⟩
        exact hrep.1

theorem reconcileRouter_honest (cluster : Cluster) (hd : DistinctNames c₀.spec)
    (hr : r ∈ c₀.spec.routers) (hnodup : (r.interfaces.map (·.network)).Nodup) :
    Honest c₀ (reconcileRouter cluster r) := by
  refine .ite (fun _ c h hinv hc => ?_) fun hu => ?_
  · refine wpc_seq_inv hinv (adoptRouter_claims hc) ?_
    rintro out c₁ h₁ hinv₁ ⟨hc₁, hrouter⟩
    cases out with
    | error err => exact hc₁
    | ok router =>
        exact recordRouter_claims hd hr hnodup (fun _ => hrouter router rfl) c₁ h₁ hinv₁ hc₁
  · refine .bind (honest_of_frame (ensureManagedRouter_frame (f := id) cluster r) ?_) fun out => ?_
    · rintro c _ rfl
      exact ⟨rfl, rfl, rfl⟩
    · split
      · exact .pure _
      · exact recordRouter_claims hd hr hnodup fun hne => absurd hne hu

theorem reconcileEachRouter_honest (cluster : Cluster) (hd : DistinctNames c₀.spec)
    (hnodup : ∀ r ∈ c₀.spec.routers, (r.interfaces.map (·.network)).Nodup)
    (routers : List RouterSpec) (hmem : ∀ r ∈ routers, r ∈ c₀.spec.routers) :
    ∀ result, Honest c₀ (reconcileEachRouter cluster result routers) := by
  induction routers with
  | nil => exact fun result => .pure _
  | cons r rest ih =>
      intro result
      have hr := hmem r (by simp)
      refine .bind (.wrapErr (reconcileRouter_honest cluster hd hr (hnodup r hr))) fun res => ?_
      exact ih (fun r' hr' => hmem r' (by simp [hr'])) _

theorem reconcileRouters_honest (cluster : Cluster) (hd : DistinctNames c₀.spec)
    (hnodup : ∀ r ∈ c₀.spec.routers, (r.interfaces.map (·.network)).Nodup) :
    Honest c₀ (reconcileRouters cluster) := by
  refine .deferred (.read fun c h hinv hc => ?_) ?_
  · exact reconcileEachRouter_honest cluster hd hnodup _ (fun r hr => hc.spec ▸ hr) _ c h hinv hc
  · intro out c h hc
    refine hc.congr ?_ ?_ ?_ <;>
    · unfold setRouterReady
      split
      · rfl
      · split_ifs <;> rfl

/-! ## The pass -/

/-- Entries that are not managed are for networks whose interface the spec names. -/
def AdoptedNamed (spec : CloudscaleClusterSpec) (routers : List RouterStatus) : Prop :=
  ∀ r ∈ spec.routers, r.uuid ≠ "" → ∀ e ∈ routers, e.name = r.name → ∀ i ∈ e.interfaces,
    i.managed = false → ∃ i' ∈ r.interfaces, i'.network = i.network ∧ i'.uuid ≠ ""

/-- Before the router step, all entries are old. -/
theorem Claims.start (hids : SpecIDs c₀.spec c₀.status.routers)
    (hnamed : AdoptedNamed c₀.spec c₀.status.routers)
    (hspec : c.spec.routers = c₀.spec.routers) (hrouters : c.status.routers = c₀.status.routers) :
    Claims c₀ c h := by
  refine ⟨hspec, hrouters ▸ hids, ?_⟩
  rw [hrouters]
  intro r hr hu e he hname i hi
  cases hm : i.managed with
  | true => exact .inl ⟨e, he, hname, i, hi, hm, rfl⟩
  | false => exact hnamed r hr hu e he hname i hi hm

theorem reconcileNetwork_before (cluster : Cluster) : attachCalls.Preserves (fun c _ =>
    c.spec.routers = c₀.spec.routers ∧ c.status.routers = c₀.status.routers)
    (reconcileNetwork cluster) := by
  refine (reconcileNetwork_frame cluster).preserves ?_ ?_ ?_
  · intro c c' h hsame hc
    have hspec : c'.spec = c.spec := congrArg (·.spec) hsame
    have hrouters : c'.status.routers = c.status.routers := congrArg (·.status.routers) hsame
    exact ⟨hspec ▸ hc.1, hrouters.trans hc.2⟩
  · exact fun _ _ _ hc _ _ => hc
  · exact fun _ _ _ _ hc _ => ⟨trivial, fun _ _ _ _ => hc⟩

/-- A normal pass ends with entries that are all accounted for. -/
theorem reconcileNormal_claims (cluster : Cluster) (hd : DistinctNames c₀.spec)
    (hnodup : ∀ r ∈ c₀.spec.routers, (r.interfaces.map (·.network)).Nodup)
    (hids : SpecIDs c₀.spec c₀.status.routers)
    (hnamed : AdoptedNamed c₀.spec c₀.status.routers) (hinv : attachCalls.inv h)
    (hspec : c.spec.routers = c₀.spec.routers) (hrouters : c.status.routers = c₀.status.routers) :
    attachCalls.wpc (fun _ => Claims c₀) (reconcileNormal cluster) c h := by
  refine reconcileNormal_wpc hinv ?_
    (afterNetwork_preserves (reconcileRouters_honest cluster hd hnodup)
    (honest_of_frame (reconcileLoadBalancer_frame cluster) ?_)
    (honest_of_frame (reconcileFloatingIP_frame cluster) ?_)
    fun _ => honest_of_frame (finishNormal_frame cluster _) ?_) fun _ _ hc => hc.congr rfl rfl rfl
  · refine wpc_imp (reconcileNetwork_before cluster c h hinv ⟨hspec, hrouters⟩) ?_
    rintro out c₁ h₁ ⟨hspec₁, hrouters₁⟩
    exact .start hids hnamed hspec₁ hrouters₁
  all_goals exact fun c c' hsame => ⟨congrArg (·.spec.routers) hsame,
    congrArg (·.status.networks) hsame, congrArg (·.status.routers) hsame⟩

end Capcs.Interfaces
