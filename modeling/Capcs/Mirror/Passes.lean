import Capcs.Mirror.Networks
import Capcs.Retention.Normal
import Capcs.Teardown.Networks

/-!
# Capcs.Mirror.Passes — the status follows the spec

`MirrorsSpec spec status`: every entry of `status.networks` and `status.routers`, and every
interface entry below a router, is about an entry of the spec, is marked managed exactly when that
has no UUID, and no key occurs twice. A normal pass and a teardown keep this at every point,
whatever the API answers, provided that `Get` returns what was asked for.
-/

namespace Capcs.Mirror

open Cloudscale Controller
open Readiness (Trace)
open Retention (echoes echoCalls DistinctNames)
open Teardown (IfaceFate Pruned RouterFate NetFate)
open Interaction (Proc Frame Sweep history_perform)
open Interaction.Contract

/-! ## Entries -/

structure MirrorsNetwork (n : NetworkSpec) (e : NetworkStatus) : Prop where
  name : e.name = n.name
  managed : e.managed = true ↔ n.uuid = ""
  carries : e.managed = false → e.networkID = n.uuid

structure MirrorsInterface (i : RouterInterfaceSpec) (e : RouterInterfaceStatus) : Prop where
  network : e.network = i.network
  managed : e.managed = true ↔ i.uuid = ""

structure MirrorsRouter (r : RouterSpec) (e : RouterStatus) : Prop where
  name : e.name = r.name
  managed : e.managed = true ↔ r.uuid = ""
  carries : e.managed = false → e.routerID = r.uuid
  interfaces : Keyed.Mirrors (·.network) MirrorsInterface r.interfaces e.interfaces

structure MirrorsSpec (spec : CloudscaleClusterSpec) (status : CloudscaleClusterStatus) : Prop where
  networks : Keyed.Mirrors (·.name) MirrorsNetwork spec.networks status.networks
  routers : Keyed.Mirrors (·.name) MirrorsRouter spec.routers status.routers

/-- The object in memory, with the networks and routers of the spec and a status that follows. -/
structure InLine (spec : CloudscaleClusterSpec) (c : CloudscaleCluster) : Prop where
  networks : c.spec.networks = spec.networks
  routers : c.spec.routers = spec.routers
  mirrors : MirrorsSpec spec c.status

variable {spec : CloudscaleClusterSpec} {c c' : CloudscaleCluster} {h : Trace} (cluster : Cluster)

/-- Only networks and routers count. -/
theorem InLine.congr (hc : InLine spec c) (hn : c'.spec.networks = c.spec.networks)
    (hr : c'.spec.routers = c.spec.routers) (hsn : c'.status.networks = c.status.networks)
    (hsr : c'.status.routers = c.status.routers) : InLine spec c' :=
  ⟨hn.trans hc.networks, hr.trans hc.routers, hsn ▸ hc.mirrors.networks, hsr ▸ hc.mirrors.routers⟩

/-- A step keeps the status in line. -/
abbrev Follows {α : Type} (spec : CloudscaleClusterSpec) (m : ClusterM α) : Prop :=
  echoCalls.Preserves (fun c _ => InLine spec c) m

/-- What leaves networks and routers alone. -/
theorem follows_of_frame {α β : Type} {f : CloudscaleCluster → β} {P : Op → Prop} {m : ClusterM α}
    (hm : Frame f P m) (hf : ∀ c c', f c' = f c → c'.spec.networks = c.spec.networks ∧
      c'.spec.routers = c.spec.routers ∧ c'.status.networks = c.status.networks ∧
      c'.status.routers = c.status.routers) : Follows spec m := by
  refine hm.preserves ?_ ?_ ?_
  · intro c c' h hsame hc
    obtain ⟨hn, hr, hsn, hsr⟩ := hf c c' hsame
    exact hc.congr hn hr hsn hsr
  · exact fun _ _ _ hc _ _ => hc
  · exact fun _ _ _ _ hc _ => ⟨trivial, fun _ _ _ _ => hc⟩

theorem follows_of_reads {α : Type} {P : Op → Prop} {m : ClusterM α} (hm : Frame id P m) :
    Follows spec m := by
  refine follows_of_frame hm ?_
  rintro c _ rfl
  exact ⟨rfl, rfl, rfl, rfl⟩

theorem follows_perform (op : Op) : Follows spec (Proc.perform op) :=
  follows_of_reads (.perform (P := fun _ => True) trivial)

/-! ## Networks -/

theorem writes_mirrors (specs : List NetworkSpec) : Writes echoes specs MirrorsNetwork where
  preExisting _ _ hu _ hecho _ _ _ hname := ⟨hname, by simp [hu], fun _ => hecho⟩
  managed _ _ hu _ _ _ _ hname _ := ⟨hname, by simp [hu], by simp⟩

/-- The network step leaves the routers alone. -/
theorem reconcileNetwork_follows : Follows spec (reconcileNetwork cluster) := by
  intro c h hinv hc
  have hnetworks := reconcileNetwork_keeps cluster (writes_mirrors spec.networks) c h hinv
    ⟨hc.networks, hc.mirrors.networks⟩
  refine wpc_imp (wpc_and hnetworks ((reconcileNetwork_frame cluster).wpc c h)) ?_
  rintro out c' h' ⟨hn, hsame⟩
  exact ⟨hn.networks, (congrArg (·.spec.routers) hsame).trans hc.routers, hn.mirrors,
    congrArg (·.status.routers) hsame ▸ hc.mirrors.routers⟩

/-! ## Routers -/

/-- The entry of a router is about the router of its name. -/
theorem InLine.router (hc : InLine spec c) (hd : DistinctNames spec) {r : RouterSpec}
    {e : RouterStatus} (hr : r ∈ spec.routers) (he : e ∈ c.status.routers)
    (hname : e.name = r.name) :
    MirrorsRouter r e :=
  hc.mirrors.routers.unique (fun _ _ hre => hre.name) hd.routers hr he hname

theorem InLine.setRouter (hc : InLine spec c) (hd : DistinctNames spec) {r : RouterSpec}
    (hr : r ∈ spec.routers) {routerID : String} (hcarry : r.uuid ≠ "" → routerID = r.uuid) :
    InLine spec (setRouterStatus r routerID c) := by
  have hmanaged : (decide (r.uuid = "") = true ↔ r.uuid = "") := by simp
  have hcarry' : decide (r.uuid = "") = false → routerID = r.uuid := fun hu =>
    hcarry (by simpa using hu)
  refine ⟨hc.networks, hc.routers, hc.mirrors.networks, ?_⟩
  refine hc.mirrors.routers.upsert (fun _ => rfl) rfl ?_ ?_
  · intro e he hname
    exact ⟨r, hr, hname, hmanaged, hcarry', (hc.router hd hr he hname).interfaces⟩
  · exact ⟨r, hr, rfl, hmanaged, hcarry', .nil⟩

theorem InLine.setInterface (hc : InLine spec c) (hd : DistinctNames spec) {r : RouterSpec}
    (hr : r ∈ spec.routers) {i : RouterInterfaceSpec} (hi : i ∈ r.interfaces)
    {interfaceID : String} {managed : Bool} (hm : managed = true ↔ i.uuid = "") :
    InLine spec (setRouterInterfaceStatus r.name i.network interfaceID managed c) := by
  refine ⟨hc.networks, hc.routers, hc.mirrors.networks, ?_⟩
  refine hc.mirrors.routers.update (fun _ => rfl) ?_
  intro e he hname
  have hre := hc.router hd hr he hname
  refine ⟨r, hr, hre.name, hre.managed, hre.carries, ?_⟩
  refine hre.interfaces.upsert (fun _ => rfl) rfl ?_ ?_
  · exact fun e _ hnet => ⟨i, hi, hnet, hm⟩
  · exact ⟨i, hi, rfl, hm⟩

theorem getNetworkStatus_name {name : String} {ns : NetworkStatus}
    (hns : c.status.getNetworkStatus name = some ns) : ns.name = name := by
  simpa using List.find?_some hns

theorem reconcileInterfaces_follows (hd : DistinctNames spec) {r : RouterSpec}
    (hr : r ∈ spec.routers) (router : Router) (ifaces : List RouterInterfaceSpec)
    (hall : ∀ i ∈ ifaces, i ∈ r.interfaces) :
    Follows spec (reconcileInterfaces r router ifaces) := by
  induction ifaces with
  | nil => exact .pure _
  | cons i rest ih =>
      have hi := hall i (by simp)
      have ih := ih fun i' hi' => hall i' (by simp [hi'])
      refine .read_any fun c => ?_
      cases hns : c.status.getNetworkStatus i.network with
      | none => exact .fail _
      | some ns =>
          -- entries are written under the name of the network entry, which is that of the interface
          have hname := getNetworkStatus_name hns
          have hset (id : String) {managed : Bool}
            (hm : managed = true ↔ i.uuid = "") : Follows spec
              (Proc.update (setRouterInterfaceStatus r.name ns.name id managed) :
                ClusterM Unit) := by
            rw [hname]
            exact .update fun c h hc => hc.setInterface hd hr hi hm
          refine .ite (fun hu => .bind ?_ fun _ => ih) fun hu => ?_
          · rw [adoptRouterInterface]
            split
            · exact .fail _
            · exact .ite (fun _ => .fail _) fun _ => hset _ (by simp [hu])
          have hu : i.uuid = "" := by simpa using hu
          split
          · refine .bind (.read_any fun c => ?_) fun _ => ih
            exact .ite (fun _ => .fail _) fun _ => hset _ (by simp [hu])
          · refine .bind ?_ fun result => .ite (fun _ => ih) fun _ => .pure _
            refine .bind (hset _ (by simp [hu])) fun _ => .bind (follows_perform _) fun reply => ?_
            split
            · exact .ite (fun _ => .pure _) fun _ => .fail _
            · exact .bind (hset _ (by simp [hu])) fun _ => .pure _

theorem recordRouter_follows (hd : DistinctNames spec) {r : RouterSpec} (hr : r ∈ spec.routers)
    {router : Router} (hcarry : r.uuid ≠ "" → router.uuid = r.uuid) :
    Follows spec (recordRouter r router) := by
  refine .bind (.update fun c h hc => hc.setRouter hd hr hcarry) fun _ => ?_
  refine .ite (fun _ => .pure _) fun _ => .read_any fun c => ?_
  split
  · exact .fail _
  · exact reconcileInterfaces_follows hd hr router _ fun _ hi => hi

/-- The router that is adopted is the one the spec names. -/
theorem adoptRouter_echo (r : RouterSpec) : echoCalls.wpc (fun out c' _ => c' = c ∧
    ∀ router, out = .ok router → router.uuid = r.uuid) (adoptRouter r) c h := by
  rw [adoptRouter, wpc_read_bind, wpc_bind]
  refine history_perform fun reply hr => ?_
  cases reply with
  | error err => exact ⟨rfl, by simp⟩
  | ok router =>
      simp only [after_ok, wpc_ite]
      split
      · exact ⟨rfl, by simp⟩
      · refine ⟨rfl, ?_⟩
        rintro _ ⟨⟩
        exact hr

theorem reconcileRouter_follows (hd : DistinctNames spec) {r : RouterSpec} (hr : r ∈ spec.routers) :
    Follows spec (reconcileRouter cluster r) := by
  refine .ite (fun hu c h hinv hc => ?_) fun hu => ?_
  · refine wpc_seq_inv hinv (adoptRouter_echo r) ?_
    rintro out _ h₁ hinv₁ ⟨rfl, hid⟩
    cases out with
    | error err => exact hc
    | ok router => exact recordRouter_follows hd hr (fun _ => hid router rfl) _ _ hinv₁ hc
  · refine .bind (follows_of_reads (ensureManagedRouter_frame cluster r)) fun out => ?_
    split
    · exact .pure _
    · exact recordRouter_follows hd hr fun hne => absurd hne hu

theorem reconcileEachRouter_follows (hd : DistinctNames spec) (routers : List RouterSpec)
    (hmem : ∀ r ∈ routers, r ∈ spec.routers) :
    ∀ result, Follows spec (reconcileEachRouter cluster result routers) := by
  induction routers with
  | nil => exact fun result => .pure _
  | cons r rest ih =>
      intro result
      refine .bind (.wrapErr (reconcileRouter_follows cluster hd (hmem r (by simp)))) fun res => ?_
      exact ih (fun r' hr' => hmem r' (by simp [hr'])) _

theorem reconcileRouters_follows (hd : DistinctNames spec) :
    Follows spec (reconcileRouters cluster) := by
  refine .deferred (.read fun c h hinv hc => ?_) ?_
  · exact reconcileEachRouter_follows cluster hd _ (fun r hr => hc.routers ▸ hr) _ c h hinv hc
  · intro out c h hc
    refine hc.congr ?_ ?_ ?_ ?_ <;>
    · unfold setRouterReady
      split
      · rfl
      · split_ifs <;> rfl

/-! ## The normal pass -/

theorem reconcileNormal_follows (hd : DistinctNames spec) :
    Follows spec (reconcileNormal cluster) := by
  refine reconcileNormal_preserves (reconcileNetwork_follows cluster)
    (reconcileRouters_follows cluster hd)
    ?_ ?_ (fun lb => ?_) fun c _ hc => hc.congr rfl rfl rfl rfl
  · exact follows_of_frame (reconcileLoadBalancer_frame cluster) fun c c' hsame =>
      ⟨congrArg (·.spec.networks) hsame, congrArg (·.spec.routers) hsame,
        congrArg (·.status.networks) hsame, congrArg (·.status.routers) hsame⟩
  · exact follows_of_frame (reconcileFloatingIP_frame cluster) fun c c' hsame =>
      ⟨congrArg (·.spec.networks) hsame, congrArg (·.spec.routers) hsame,
        congrArg (·.status.networks) hsame, congrArg (·.status.routers) hsame⟩
  · exact follows_of_frame (finishNormal_frame cluster lb) fun c c' hsame =>
      ⟨congrArg (·.spec.networks) hsame, congrArg (·.spec.routers) hsame,
        congrArg (·.status.networks) hsame, congrArg (·.status.routers) hsame⟩

/-! ## Teardown -/

theorem Pruned.mirrors {r : RouterSpec} {rs rs' : RouterStatus} {t : Trace} {errs : List GoError}
    (hp : Pruned c rs t rs' errs) (hr : MirrorsRouter r rs) : MirrorsRouter r rs' := by
  obtain ⟨hname, hid, hmanaged⟩ := hp.same
  refine ⟨hname.trans hr.name, hmanaged ▸ hr.managed, fun hm => ?_, ?_⟩
  · rw [hid]
    exact hr.carries (hmanaged ▸ hm)
  cases hp with
  | untouched => exact hr.interfaces
  | unreachable => exact hr.interfaces
  | routerGone => exact .nil
  | swept _ hs =>
      refine hr.interfaces.shrink (hs.keys_sublist fun _ _ _ _ hf => (IfaceFate.same hf).1) ?_
      intro x hx
      obtain ⟨i, hi, t', errs', hf⟩ := hs.of_mem_left hx
      obtain ⟨hnet, hm⟩ := IfaceFate.same hf
      exact ⟨i, hi, fun a _ ha => ⟨hnet.trans ha.network, hm ▸ ha.managed⟩⟩

theorem deleteRouters_follows : Follows spec deleteRouters := by
  intro c h hinv hc
  refine wpc_imp (wpc_and Teardown.deleteRouters_sweep (deleteRouters_frame.wpc c h)) ?_
  rintro out c' h' ⟨⟨hnet, t, errs, -, -, hs⟩, hsame⟩
  refine ⟨(congrArg (·.spec.networks) hsame).trans hc.networks,
    (congrArg (·.spec.routers) hsame).trans hc.routers, hnet ▸ hc.mirrors.networks, ?_⟩
  have hpruned {a : RouterStatus} {t : Trace} {x : RouterStatus} {es : List GoError}
      (hf : RouterFate c a t (some x) es) : ∃ t' es', Pruned c a t' x es' := RouterFate.pruned hf
  refine hc.mirrors.routers.shrink (hs.keys_sublist fun _ _ _ _ hf => ?_) ?_
  · obtain ⟨_, _, hp⟩ := hpruned hf
    exact hp.same.1
  · intro x hx
    obtain ⟨a, ha, _, _, hf⟩ := hs.of_mem_left hx
    obtain ⟨_, _, hp⟩ := hpruned hf
    exact ⟨a, ha, fun r _ hr => Pruned.mirrors hp hr⟩

theorem deleteNetwork_follows : Follows spec deleteNetwork := by
  intro c h hinv hc
  refine wpc_imp (wpc_and Teardown.deleteNetwork_spec (deleteNetwork_frame.wpc c h)) ?_
  rintro out c' h' ⟨⟨t, -, hend⟩, hsame⟩
  refine ⟨(congrArg (·.spec.networks) hsame).trans hc.networks,
    (congrArg (·.spec.routers) hsame).trans hc.routers, ?_,
    congrArg (·.status.routers) hsame ▸ hc.mirrors.routers⟩
  rcases hend with ⟨errs, -, hs⟩ | ⟨-, hstop, -⟩
  · refine hc.mirrors.networks.shrink (hs.keys_sublist fun _ _ _ _ hf => by rw [NetFate.same hf]) ?_
    intro x hx
    obtain ⟨a, ha, _, _, hf⟩ := hs.of_mem_left hx
    exact ⟨a, ha, fun _ _ hn => NetFate.same hf ▸ hn⟩
  · -- nothing was written
    exact hstop ▸ hc.mirrors.networks

theorem reconcileDelete_follows : Follows spec (reconcileDelete cluster) := by
  refine reconcileDelete_preserves (fun _ _ _ _ _ _ _ hc => hc.congr rfl rfl rfl rfl) ?_ ?_
    (follows_of_reads (deleteServerGroups_frame cluster)) deleteRouters_follows
      deleteNetwork_follows
    fun _ _ _ hc => hc.congr rfl rfl rfl rfl
  · exact follows_of_frame deleteFloatingIP_frame fun c c' hsame =>
      ⟨congrArg (·.spec.networks) hsame, congrArg (·.spec.routers) hsame,
        congrArg (·.status.networks) hsame, congrArg (·.status.routers) hsame⟩
  · exact follows_of_frame deleteLoadBalancer_frame fun c c' hsame =>
      ⟨congrArg (·.spec.networks) hsame, congrArg (·.spec.routers) hsame,
        congrArg (·.status.networks) hsame, congrArg (·.status.routers) hsame⟩

end Capcs.Mirror
