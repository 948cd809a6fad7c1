import Capcs.Interfaces.Claims
import Capcs.Interfaces.Detach
import Capcs.System.Versions

/-!
# Capcs.System.ForeignInterfaces — interfaces of other users

A router with a `uuid` in the spec has other users, who attach and detach as they like. The
controller knows its own interfaces by their managed entries in status. As long as no attach
fails for good, there was an attach of the controller for each of them (`own_attached`), and
teardowns detach nothing else.

An attach that is refused leaves its entry behind, and the interface that someone else puts
in its place is then taken over (`foreign_taken`).
-/

namespace Capcs.System

open Cloudscale Controller Webhook Interfaces
open Readiness (CallEvent Trace)
open Retention (Accounted echoes)
open Teardown (StandsFor)

/-! ## Attached by the controller -/

/-- No attach of a pass fails for good. -/
def AttachesLand (tr : Trace) : Prop := ∀ e ∈ tr, attachLands e.op e.reply

/-- Some pass has attached a network to a router, as far as it knows. -/
def AttachedIn (past : List PassRecord) (routerID network : String) : Prop :=
  ∃ p ∈ past, Tried p.after.status p.trace routerID network

/-- What holds of the entries of routers that the user has brought along. -/
structure Vouched (past : List PassRecord) (spec : CloudscaleClusterSpec)
    (routers : List RouterStatus) : Prop where
  ids : SpecIDs spec routers
  named : AdoptedNamed spec routers
  attached : ∀ r ∈ spec.routers, r.uuid ≠ "" → ∀ e ∈ routers, e.name = r.name →
    ∀ i ∈ e.interfaces, i.managed = true → AttachedIn past r.uuid i.network

variable {past past' : List PassRecord} {spec spec' : CloudscaleClusterSpec}
  {routers routers' : List RouterStatus} {c before after new : CloudscaleCluster} {tr : Trace}

theorem Vouched.empty (past : List PassRecord) (spec : CloudscaleClusterSpec) :
    Vouched past spec [] :=
  ⟨fun _ _ _ _ he => absurd he (by simp), fun _ _ _ _ he => absurd he (by simp),
    fun _ _ _ _ he => absurd he (by simp)⟩

theorem Vouched.later (hv : Vouched past spec routers) (hle : past ⊆ past') :
    Vouched past' spec routers := by
  refine ⟨hv.ids, hv.named, ?_⟩
  intro r hr hu e he hname i hi hm
  obtain ⟨p, hp, htried⟩ := hv.attached r hr hu e he hname i hi hm
  exact ⟨p, hle hp, htried⟩

/-- The spec router that an entry is for, in a later spec and in the one it was written
for. -/
theorem same_router (ha : ∀ e ∈ routers, ∃ r ∈ spec.routers, r.name = e.name)
    (hext : Extends spec spec') (hd : (spec'.routers.map (·.name)).Nodup) {r' : RouterSpec}
    (hr' : r' ∈ spec'.routers) {e : RouterStatus} (he : e ∈ routers) (hname : e.name = r'.name) :
    ∃ r ∈ spec.routers, e.name = r.name ∧ RouterExtends r r' := by
  obtain ⟨r, hr, hrname⟩ := ha e he
  obtain ⟨r₁, hr₁, hsame⟩ := hext.routers r hr
  have heq : r₁ = r' :=
    List.inj_on_of_nodup_map hd hr₁ hr' (hsame.name.trans (hrname.trans hname))
  exact ⟨r, hr, hrname.symm, heq ▸ hsame⟩

theorem accounted_names {status : CloudscaleClusterStatus} (ha : Accounted spec status) :
    ∀ e ∈ status.routers, ∃ r ∈ spec.routers, r.name = e.name := by
  intro e he
  obtain ⟨r, hr, hname, -⟩ := ha.routers e he
  exact ⟨r, hr, hname⟩

theorem Vouched.still (hv : Vouched past spec routers)
    (ha : ∀ e ∈ routers, ∃ r ∈ spec.routers, r.name = e.name)
    (hext : Extends spec spec') (hd : (spec'.routers.map (·.name)).Nodup) :
    Vouched past spec' routers := by
  constructor <;> intro r' hr' hu e he hname <;>
    obtain ⟨r, hr, hname, hsame⟩ := same_router ha hext hd hr' he hname
  · rw [hsame.uuid] at hu ⊢
    exact hv.ids r hr hu e he hname
  · intro i hi hm
    rw [hsame.uuid] at hu
    obtain ⟨i₁, hi₁, hnet, huuid⟩ := hv.named r hr hu e he hname i hi hm
    obtain ⟨i₂, hi₂, hnet₂, -, huuid₂⟩ := hsame.interfaces i₁ hi₁
    exact ⟨i₂, hi₂, hnet₂.trans hnet, huuid₂ ▸ huuid⟩
  · intro i hi hm
    rw [hsame.uuid] at hu ⊢
    exact hv.attached r hr hu e he hname i hi hm

/-! ## Passes -/

/-- What a teardown leaves of the entries. -/
theorem Vouched.left (hv : Vouched past spec routers) (hleft : EntriesLeft routers routers') :
    Vouched past spec routers' := by
  constructor <;> intro r hr hu e' he' hname <;> obtain ⟨e, he, hl⟩ := hleft e' he' <;>
    have hname : e.name = r.name := hl.name.symm.trans hname
  · exact hl.routerID.trans (hv.ids r hr hu e he hname)
  · intro i' hi' hm
    obtain ⟨i, hi, hil⟩ := hl.interfaces i' hi'
    rw [hil.network]
    exact hv.named r hr hu e he hname i hi (hil.managed.symm.trans hm)
  · intro i' hi' hm
    obtain ⟨i, hi, hil⟩ := hl.interfaces i' hi'
    rw [hil.network]
    exact hv.attached r hr hu e he hname i hi (hil.managed.symm.trans hm)

/-- The entries after a normal pass: each had its attach before, or in this pass. -/
theorem Vouched.claims (hv : Vouched past c.spec c.status.routers) (hc : Claims c after tr) :
    Vouched (⟨tr, after⟩ :: past) c.spec after.status.routers := by
  refine ⟨hc.ids, ?_, ?_⟩
  · intro r hr hu e he hname i hi hm
    have hb := hc.entries r hr hu e he hname i hi
    rwa [hm] at hb
  · intro r hr hu e he hname i hi hm
    have hb := hc.entries r hr hu e he hname i hi
    rw [hm] at hb
    rcases hb with ⟨e₀, he₀, hname₀, i₀, hi₀, hm₀, hnet⟩ | htried
    · obtain ⟨p, hp, htried⟩ := hv.attached r hr hu e₀ he₀ hname₀ i₀ hi₀ hm₀
      exact ⟨p, List.mem_cons_of_mem _ hp, hnet ▸ htried⟩
    · exact ⟨_, List.mem_cons_self, htried⟩

theorem PassOver.detached (hdel : c.metadata.deletionTimestamp = true)
    (hpass : PassOver c tr after) : Detached c after tr := by
  obtain ⟨cluster, out, hrun, -⟩ := hpass
  rw [clusterWork_delete hdel] at hrun
  exact (reconcileDelete_detached hrun).before (t := []) rfl rfl (by simp)

theorem PassOver.claims (hpass : PassOver c tr after) (hproper : Proper c.spec)
    (hv : Vouched past c.spec c.status.routers) (halive : c.metadata.deletionTimestamp = false)
    (hland : AttachesLand tr) : Claims c after tr := by
  obtain ⟨cluster, out, hrun, hgood⟩ := hpass
  rw [clusterWork_normal halive] at hrun
  refine Interaction.runs_of_wpc (h := []) (reconcileNormal_claims cluster hproper.distinct
    hproper.keys.2 hv.ids hv.named ?_ ?_ ?_) hrun ?_
  · exact fun e he => absurd he (by simp)
  · rfl
  · rfl
  · exact fun e he => ⟨hgood e (by simpa using he), hland e (by simpa using he)⟩

/-- Any pass leaves entries that attaches stand behind. -/
theorem Vouched.pass (hv : Vouched past c.spec c.status.routers) (hproper : Proper c.spec)
    (hpass : PassOver c tr after) (hland : AttachesLand tr) :
    Vouched (⟨tr, after⟩ :: past) c.spec after.status.routers := by
  cases hdel : c.metadata.deletionTimestamp with
  | false => exact hv.claims (hpass.claims hproper hv hdel hland)
  | true => exact (hv.left (hpass.detached hdel).left).later (List.subset_cons_self _ _)

/-- Normal passes detach nothing. -/
theorem PassOver.no_detach (halive : c.metadata.deletionTimestamp = false)
    (hpass : PassOver c tr after) : ∀ e ∈ tr, partOf e.op ≠ .detach := by
  obtain ⟨cluster, out, hrun, -⟩ := hpass
  rw [clusterWork_normal halive] at hrun
  exact ((reconcileNormal_frame cluster).runs hrun).2

/-! ## Every version -/

theorem Versions.vouched {vs : List CloudscaleCluster} (h : Versions AttachesLand vs past) :
    ∀ v ∈ vs, Vouched past v.spec v.status.routers := by
  suffices hall : ∀ v ∈ vs, Accounted v.spec v.status ∧ Vouched past v.spec v.status.routers from
    fun v hv => (hall v hv).2
  refine h.all (P := fun past spec status => Accounted spec status ∧
    Vouched past spec status.routers) {
    create := fun _ _ _ => ⟨accounted_empty _, .empty _ _⟩
    lost := fun _ => ⟨accounted_empty _, .empty _ _⟩
    extend := fun hproper hext hv => ⟨accounted_extends hv.1 hext,
      hv.2.still (accounted_names hv.1) hext hproper.distinct.routers⟩
    pass := ?_
    patch := fun hp hs ha => ⟨accounted_patched hp hs.1 ha.1,
      (routers_patched hp).elim (· ▸ hs.2) (· ▸ ha.2)⟩
    env := fun henv _ => henv.elim }
  rintro past before after _ - hproper - ⟨tr, hpass, hland, rfl⟩ ⟨hacc, hv⟩
  refine ⟨⟨hpass.accounted hproper.distinct hacc, hv.pass hproper hpass hland⟩, fun hv => ?_⟩
  exact ⟨hv.1, hv.2.later (List.subset_cons_self _ _)⟩

/-! ## The result -/

/-- A pass detaches an interface from a router it has read: the one that a managed entry stands
for, attached to that router. For a router of the user the entry has an attach behind it. -/
def DetachesOwn (past : List PassRecord) (c : CloudscaleCluster) (tr : Trace)
    (routerID iface : String) : Prop :=
  ∃ e ∈ c.status.routers, e.routerID = routerID ∧ ∃ router,
    ⟨.get .router routerID, .ok router⟩ ∈ tr ∧
    ∃ i ∈ e.interfaces, i.managed = true ∧ StandsFor c router i iface ∧
      ∀ r ∈ c.spec.routers, r.uuid ≠ "" → e.name = r.name →
        routerID = r.uuid ∧ AttachedIn past r.uuid i.network

/-- If no attach fails for good: behind each managed entry of a user's router, in any version
ever stored, there is an attach of the controller to that router and network; and teardowns
of any version detach only the interfaces that such entries stand for: the one of the recorded
UUID, or else one on the network recorded under the name in the entry. -/
theorem own_attached :
    ∀ vs past, Versions AttachesLand vs past → ∀ c ∈ vs,
      (∀ r ∈ c.spec.routers, r.uuid ≠ "" → ∀ e ∈ c.status.routers, e.name = r.name →
        ∀ i ∈ e.interfaces, i.managed = true → AttachedIn past r.uuid i.network) ∧
      ∀ tr after, PassOver c tr after → ∀ ev ∈ tr, ∀ routerID iface,
        ev.op = .deleteInterface routerID iface → DetachesOwn past c tr routerID iface := by
  intro vs past hvs c hc
  have hv := hvs.vouched c hc
  refine ⟨hv.attached, ?_⟩
  intro tr after hpass ev hev routerID iface hop
  cases hdel : c.metadata.deletionTimestamp with
  | false => exact absurd (congrArg partOf hop) (hpass.no_detach hdel ev hev)
  | true =>
      obtain ⟨op, reply⟩ := ev
      obtain rfl : op = .deleteInterface routerID iface := hop
      obtain ⟨e, he, hid, router, hget, i, hi, hm, hiface⟩ :=
        (hpass.detached hdel).detaches routerID iface reply hev
      refine ⟨e, he, hid, router, hget, i, hi, hm, hiface, fun r hr hu hname => ⟨?_, ?_⟩⟩
      · exact hid.symm.trans (hv.ids r hr hu e he hname)
      · exact hv.attached r hr hu e he hname i hi hm

/-! ## A refused attach -/

/-- A cluster with a router of the user, to be attached to its network. -/
def sharedRouter : CloudscaleCluster :=
  clusterDefault oneRegion { smallCluster with
    spec := { smallCluster.spec with
      routers := [{ name := "r", uuid := "r", interfaces :=
        [{ network := "net", address := "10.0.0.1" }] }] } }

/-- A project where the network exists, and the router with some interfaces; an attach is
answered as given. -/
def routerReply (ifaces : List RouterInterface) (attach : Except ApiError RouterInterface) :
    (op : Op) → op.Reply
  | .create .network _ => .ok { uuid := "n", zone := "rma1" }
  | .create .subnet _ => .ok { uuid := "s", network := "n" }
  | .get .network id => .ok { uuid := id, zone := "rma1" }
  | .get .subnet id => .ok { uuid := id, network := "n" }
  | .get .router id =>
      .ok { uuid := id, zone := "rma1", status := routerActive, interfaces := ifaces }
  | .createInterface _ _ => attach
  | op => emptyReply op

theorem routerReply_echoes (ifaces : List RouterInterface)
    (attach : Except ApiError RouterInterface) (op : Op) :
    echoes op (routerReply ifaces attach op) := by
  cases op with
  | get k _ => cases k <;> first | rfl | trivial
  | create k _ => cases k <;> trivial
  | _ => trivial

/-- A recorded pass in such a project. -/
def routerPass (c : CloudscaleCluster) (ifaces : List RouterInterface)
    (attach : Except ApiError RouterInterface) :
    Trace × Except GoError Result × CloudscaleCluster :=
  (clusterWork { name := "c", ns := "default" } (unpausedCluster c)).record
    (routerReply ifaces attach)

/-- The cluster with the status of such a pass. -/
def afterRouterPass (c : CloudscaleCluster) (ifaces : List RouterInterface)
    (attach : Except ApiError RouterInterface) : CloudscaleCluster :=
  { c with
    status := patchedStatus (unpausedCluster c).status (routerPass c ifaces attach).2.2.status
      c.status }

theorem afterRouterPass_version {ok : Trace → Prop} {vs : List CloudscaleCluster}
    {ifaces : List RouterInterface} {attach : Except ApiError RouterInterface}
    (hvs : Versions ok (c :: vs) past) (hok : ok (routerPass c ifaces attach).1) :
    Versions ok (afterRouterPass c ifaces attach :: c :: vs)
      (⟨(routerPass c ifaces attach).1, (routerPass c ifaces attach).2.2⟩ :: past) :=
  hvs.pass List.mem_cons_self
    ⟨_, passOver_record c _ (routerReply_echoes ifaces attach), hok, rfl⟩
    ⟨rfl, .inl rfl, .inr rfl⟩ trivial

/-- Another user's interface on the network. -/
def foreignIface : RouterInterface := { uuid := "x", network := "n" }

/-- The cluster after an attach that was answered as given, and a pass that then finds an
interface on the network. -/
def collided (attach : Except ApiError RouterInterface) : CloudscaleCluster :=
  afterRouterPass (afterRouterPass sharedRouter [] attach) [foreignIface] attach

/-- The two passes. -/
def collisions (attach : Except ApiError RouterInterface) : List PassRecord :=
  [⟨(routerPass (afterRouterPass sharedRouter [] attach) [foreignIface] attach).1,
    (routerPass (afterRouterPass sharedRouter [] attach) [foreignIface] attach).2.2⟩,
   ⟨(routerPass sharedRouter [] attach).1, (routerPass sharedRouter [] attach).2.2⟩]

theorem collided_version {ok : Trace → Prop} (attach : Except ApiError RouterInterface)
    (hok : ∀ c ifaces, ok (routerPass c ifaces attach).1) :
    Versions ok [collided attach, afterRouterPass sharedRouter [] attach, sharedRouter]
      (collisions attach) := by
  have hcreated : Versions ok [sharedRouter] [] := .create (by decide) (by decide) rfl rfl trivial
  exact afterRouterPass_version (afterRouterPass_version hcreated (hok _ _)) (hok _ _)

/-- The entries for interfaces in a status. -/
def ifaceEntries (c : CloudscaleCluster) : List (String × RouterInterfaceStatus) :=
  c.status.routers.flatMap fun e => e.interfaces.map fun i => (e.name, i)

/-- After a timeout the interface may be the controller's own, and is claimed. -/
theorem own_attached_timeout :
    ifaceEntries (collided (.error (.timeout ""))) =
        [("r", { network := "net", interfaceID := "x", managed := true })] ∧
      AttachedIn (collisions (.error (.timeout ""))) "r" "net" := by
  have hentries : ifaceEntries (collided (.error (.timeout ""))) =
      [("r", { network := "net", interfaceID := "x", managed := true })] := by decide +kernel
  refine ⟨hentries, ?_⟩
  have hlands : ∀ c ifaces, AttachesLand (routerPass c ifaces (.error (.timeout ""))).1 := by
    intro c ifaces e he
    rw [Interaction.Program.reply_of_mem_record he]
    cases e.op <;> first | rfl | trivial
  have hrun := collided_version _ hlands
  have hmem : ("r", { network := "net", interfaceID := "x", managed := true }) ∈
      ifaceEntries (collided (.error (.timeout ""))) := hentries ▸ List.mem_singleton.mpr rfl
  obtain ⟨e, he, hi⟩ := List.mem_flatMap.mp hmem
  obtain ⟨i, hi, heq⟩ := List.mem_map.mp hi
  obtain ⟨hname, rfl⟩ := Prod.mk.inj heq
  exact (own_attached _ _ hrun _ List.mem_cons_self).1 (sharedRouter.spec.routers.head (by decide))
    (List.head_mem _) (by decide) e he hname _ hi rfl

/-- Whether a call was an attach that may have landed. -/
def landed (e : CallEvent) : Bool :=
  match e with
  | ⟨.createInterface _ _, r⟩ => mayHaveLanded r
  | _ => false

/-- Whether a call was a given detach. -/
def detachOf (routerID iface : String) (e : CallEvent) : Bool :=
  match e.op with
  | .deleteInterface r i => r = routerID && i = iface
  | _ => false

theorem detachOf_iff {routerID iface : String} {e : CallEvent} :
    detachOf routerID iface e = true ↔ e.op = .deleteInterface routerID iface := by
  rw [detachOf]
  split
  · next hop => simp [hop]
  · next hne =>
    simp only [Bool.false_eq_true, false_iff]
    exact hne _ _

/-- The attach is refused. -/
def refusedAttach : Except ApiError RouterInterface := .error (.response 400 "")

/-- The cluster is then deleted. -/
def collidedDeleted : CloudscaleCluster :=
  { collided refusedAttach with
    metadata := { (collided refusedAttach).metadata with deletionTimestamp := true } }

/-- The attach is refused, so the interface is another user's. It is claimed all the same,
and a teardown detaches it. -/
theorem foreign_taken :
    Versions (fun _ => True)
      [collided refusedAttach, afterRouterPass sharedRouter [] refusedAttach, sharedRouter]
        (collisions refusedAttach) ∧
    (∀ p ∈ collisions refusedAttach, ∀ e ∈ p.trace, landed e = false) ∧
    ifaceEntries (collided refusedAttach) =
      [("r", { network := "net", interfaceID := "x", managed := true })] ∧
    ∃ e ∈ (routerPass collidedDeleted [foreignIface] refusedAttach).1,
      e.op = .deleteInterface "r" "x" := by
  refine ⟨collided_version _ fun _ _ => trivial, ?_, by decide +kernel, ?_⟩
  · have hall : (collisions refusedAttach).all fun p => p.trace.all fun e => landed e = false := by
      decide +kernel
    simpa using hall
  · have hany : (routerPass collidedDeleted [foreignIface] refusedAttach).1.any
        (detachOf "r" "x") = true := by decide +kernel
    obtain ⟨e, he, hdetach⟩ := List.any_eq_true.mp hany
    exact ⟨e, he, detachOf_iff.mp hdetach⟩

end Capcs.System
